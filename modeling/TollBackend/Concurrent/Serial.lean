import TollBackend.Concurrent.Pool

/-!
# Tasks that nothing interferes with

The contract of a task that runs alone: the state between two of its operations is the one
that the first has left. What such a task guarantees speaks of the runs of its program.

## Main definitions

* `Task.InProgress`: a task has performed an operation and has more to perform.
* `Admits`: a condition on runs that only restricts which requests are admitted.
* `Contract.serial`: the contract of a task that nothing interferes with.

## Main results

* `Contract.serial_run`: a task that keeps such a contract keeps it when it runs alone.
-/

namespace Concurrent

variable {Op : Type} {Res : Op → Type} {C S R : Type}

/-- The task has performed an operation and has more to perform. -/
def Task.InProgress (task : Task Op Res C S R) : Prop :=
  task.trace ≠ [] ∧ task.busy

instance (task : Task Op Res C S R) : Decidable task.InProgress :=
  match found : task.trace with
  | [] => isFalse fun busy => busy.1 found
  | _ :: _ => decidable_of_iff (task.busy = true)
      ⟨fun busy => ⟨by simp [found], busy⟩, fun busy => busy.2⟩

/-- A condition on runs that only restricts which requests are admitted. -/
def Admits (admits : R → Prop) (_ : Pool Op Res C S R) : Label C R → Prop
  | .start req => admits req
  | .act _ _ => True

instance {admits : R → Prop} [DecidablePred admits] (pool : Pool Op Res C S R) (l : Label C R) :
    Decidable (Admits admits pool l) := by
  induction l using Label.casesOn <;> (unfold Admits; infer_instance)

/-- The contract of a task that nothing interferes with. -/
def Contract.serial (sys : System Op Res C S R) (inv : S → Prop)
    (may : R → List (Event Op C S) → Op → C → S → Prop) : Contract sys where
  inv := inv
  rely _ _ s s' := s = s'
  may := may
  must _ _ _ _ _ := True
  rely_refl _ _ _ := rfl
  rely_trans _ _ _ _ _ first second := first.trans second

variable {sys : System Op Res C S R} {inv : S → Prop}
variable {may : R → List (Event Op C S) → Op → C → S → Prop}
variable {req : R} {trace : List (Event Op C S)} {s : S} {α : Type}

/-- One operation of a task that nothing interferes with, and what follows it. -/
theorem Contract.serial_perform_bind {o : Op} {next : Res o → Prog Op Res α}
    {post : α → List (Event Op C S) → S → Prop}
    (own : ∀ c, may req trace o c s → inv (sys.exec o c s).2 ∧
      (Contract.serial sys inv may).Safe req (next (sys.exec o c s).1) post
        (trace ++ [⟨o, c, s⟩]) (sys.exec o c s).2) :
    (Contract.serial sys inv may).Safe req (Prog.perform o >>= next) post trace s := by
  rintro s' rfl - c allowed
  exact ⟨trivial, own c allowed⟩

/-- A task that nothing interferes with and that may assume nothing runs alone. -/
theorem Contract.serial_run {p : Prog Op Res α} {post : α → List (Event Op C S) → S → Prop}
    (safe : (Contract.serial sys (fun _ => True) fun _ _ _ _ _ => True).Safe req p post trace s)
    (choices : Nat → C) :
    post (p.run sys.exec choices s).1 (trace ++ p.past sys.exec choices s)
      (p.run sys.exec choices s).2 := by
  induction p generalizing trace s choices with
  | pure a =>
    rw [Prog.past, List.append_nil]
    exact safe
  | op o next ih =>
    obtain ⟨-, -, rest⟩ := safe s rfl trivial (choices 0) trivial
    have outcome := ih _ rest fun n => choices (n + 1)
    rw [List.append_assoc, List.singleton_append] at outcome
    exact outcome

end Concurrent

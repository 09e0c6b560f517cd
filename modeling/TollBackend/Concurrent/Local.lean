import TollBackend.Concurrent.Pool

/-!
# What a task does on its own

A contract that relies on nothing says what a task does whatever the others do, as long as
its own operations meet what the contract assumes of them. It speaks of one task in any run,
so it needs no condition on the steps of the others.

## Main definitions

* `Contract.standalone`: a contract that relies on nothing but an invariant.

## Main results

* `Contract.along_of_reaches`: a task whose past meets what its contract assumes has kept
  what it guarantees.
-/

namespace Concurrent

variable {Op : Type} {Res : Op → Type} {C S R : Type}

namespace Contract

/-- A program that keeps a contract keeps it when it runs alone, as far as what it performs is
what the contract lets it assume. -/
theorem Safe.run {sys : System Op Res C S R} {K : Contract sys} {α : Type} {req : R}
    {p : Prog Op Res α} {post : α → List (Event Op C S) → S → Prop}
    {trace : List (Event Op C S)} {s : S} (safe : K.Safe req p post trace s) (inv : K.inv s)
    (choices : Nat → C)
    (allowed : ∀ ev ∈ p.past sys.exec choices s, ∀ tr, K.may req tr ev.op ev.choice ev.pre) :
    post (p.run sys.exec choices s).1 (trace ++ p.past sys.exec choices s)
      (p.run sys.exec choices s).2 := by
  induction p generalizing trace s choices with
  | pure a =>
    rw [Prog.past, List.append_nil]
    exact safe
  | op o next ih =>
    obtain ⟨-, inv', rest⟩ := safe s (K.rely_refl _ _ _) inv (choices 0)
      (allowed _ List.mem_cons_self _)
    have outcome := ih _ rest inv' (fun n => choices (n + 1))
      fun ev mem => allowed ev (List.mem_cons_of_mem _ mem)
    rw [List.append_assoc, List.singleton_append] at outcome
    exact outcome

/-- The contract of a task that relies on nothing but an invariant. -/
def standalone (sys : System Op Res C S R) (inv : S → Prop)
    (may must : R → List (Event Op C S) → Op → C → S → Prop) : Contract sys where
  inv := inv
  rely _ _ _ _ := True
  may := may
  must := must
  rely_refl _ _ _ := trivial
  rely_trans _ _ _ _ _ _ _ := trivial

variable {sys : System Op Res C S R} {inv : S → Prop}
variable {may must : R → List (Event Op C S) → Op → C → S → Prop}
variable {req : R} {trace : List (Event Op C S)} {s : S} {α : Type}

/-- One operation of such a task. -/
theorem standalone_safe_op (kept : ∀ o c s, inv s → inv (sys.exec o c s).2) {o : Op}
    {next : Res o → Prog Op Res α} {post : α → List (Event Op C S) → S → Prop}
    (own : ∀ c s, inv s → may req trace o c s → must req trace o c s ∧
      (standalone sys inv may must).Safe req (next (sys.exec o c s).1) post
        (trace ++ [⟨o, c, s⟩]) (sys.exec o c s).2) :
    (standalone sys inv may must).Safe req (.op o next) post trace s := by
  intro s' _ holds c allowed
  obtain ⟨guaranteed, rest⟩ := own c s' holds allowed
  exact ⟨guaranteed, kept o c s' holds, rest⟩

/-- A task whose past meets what the contract assumes has kept what it guarantees, in any
run. -/
theorem along_of_reaches (kept : ∀ o c s, inv s → inv (sys.exec o c s).2)
    (start : ∀ s, (standalone sys inv may must).Safe req (sys.prog req) (fun _ _ _ => True) [] s)
    {cond : Pool Op Res C S R → Label C R → Prop} {pool : Pool Op Res C S R} (initial : inv s)
    (reaches : sys.Reaches cond (Pool.init s) pool) {i : Nat} {rest : Prog Op Res Unit}
    (found : pool.tasks[i]? = some ⟨req, trace, rest⟩) (assumed : Along (may req) trace) :
    Along (must req) trace := by
  -- the rest of a task is safe from any state, since the contract relies on nothing
  have holds := reaches.induct (P := fun pool => inv pool.state ∧
    ∀ (i : Nat) (trace : List (Event Op C S)) (rest : Prog Op Res Unit),
      pool.tasks[i]? = some ⟨req, trace, rest⟩ → Along (may req) trace → Along (must req) trace ∧
        (standalone sys inv may must).Safe req rest (fun _ _ _ => True) trace pool.state)
    ⟨initial, fun i trace rest found => by simp [Pool.init] at found⟩ ?_
  · exact (holds.2 i trace rest found assumed).1
  · rintro pool l pool' ⟨invariant, tasks⟩ _ next
    have invariant' : inv pool'.state := by
      obtain ⟨_, rfl, rfl⟩ | ⟨_, c, _, _, o, _, rfl, -, rfl⟩ := System.step_cases next
      · exact invariant
      · exact kept o c _ invariant
    refine ⟨invariant', fun j trace rest at_j assumed => ?_⟩
    obtain ⟨old, -⟩ | ⟨_, rfl, eq⟩ | ⟨c, _, trace', o, k, rfl, old, eq⟩ :=
      System.task_cases next at_j
    · obtain ⟨musts, safe⟩ := tasks j trace rest old assumed
      exact ⟨musts, safe.of_rely trivial⟩
    · cases eq
      exact ⟨fun k bound => absurd bound (Nat.not_lt_zero k), start _⟩
    · cases eq
      obtain ⟨before, now⟩ := along_append_singleton.mp assumed
      obtain ⟨musts, safe⟩ := tasks j trace' _ old before
      obtain ⟨must, -, rest⟩ := safe pool.state trivial invariant c now
      exact ⟨along_append_singleton.mpr ⟨musts, must⟩, rest.of_rely trivial⟩

end Contract

end Concurrent

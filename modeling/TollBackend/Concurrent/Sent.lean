import TollBackend.Concurrent.Pool

/-!
# What programs send

Some operations send something out. What a program has sent when it ends is bounded by
recursion on the program, with a rule for composition. In a pool, where tasks are interleaved,
what has left the system is what its tasks have sent, in some order.

## Main definitions

* `Prog.Sends`: whatever a program learns, what it has sent where it ends satisfies a
  predicate.
* `Task.sent`: what a task has sent so far.

## Main results

* `Prog.sends_bind`: the rule of composition.
* `System.exists_more_of_reaches`: in a run, what a task has sent is a beginning of what its
  program sends.
* `System.perm_sent_of_reaches`: a log of what is sent lists what the tasks have sent.
-/

namespace Concurrent

variable {Op : Type} {Res : Op → Type} {C S R E α β : Type}

/-! ### Programs -/

namespace Prog

/-- Whatever states its operations are performed in and however they are resolved, where the
program ends `post` holds of its value and of all that is sent by then: `sent` before the
program, and what each operation of it sends. -/
def Sends (exec : (o : Op) → C → S → Res o × S) (emit : Op → C → S → List E) (p : Prog Op Res α)
    (sent : List E) (post : α → List E → Prop) : Prop :=
  match p with
  | .pure a => post a sent
  | .op o next => ∀ c s, (next (exec o c s).1).Sends exec emit (sent ++ emit o c s) post

variable {exec : (o : Op) → C → S → Res o × S} {emit : Op → C → S → List E} {sent : List E}

@[simp] theorem sends_pure {a : α} {post : α → List E → Prop} :
    Sends exec emit (Pure.pure a : Prog Op Res α) sent post ↔ post a sent := Iff.rfl

/-- An operation that sends nothing, whose result does not matter. -/
theorem sends_op_of_silent {o : Op} {next : Res o → Prog Op Res α} {post : α → List E → Prop}
    (silent : ∀ c s, emit o c s = []) (rest : ∀ r, Sends exec emit (next r) sent post) :
    Sends exec emit (.op o next) sent post := by
  intro c s
  rw [silent, List.append_nil]
  exact rest _

/-- The rule of composition. -/
theorem sends_bind {p : Prog Op Res α} {f : α → Prog Op Res β} {post : β → List E → Prop} :
    Sends exec emit (p >>= f) sent post ↔
      Sends exec emit p sent fun a sent' => Sends exec emit (f a) sent' post := by
  induction p generalizing sent with
  | pure a => exact Iff.rfl
  | op o next ih => exact forall₂_congr fun c s => ih _

theorem Sends.mono {p : Prog Op Res α} {post post' : α → List E → Prop}
    (sends : Sends exec emit p sent post) (imp : ∀ a sent', post a sent' → post' a sent') :
    Sends exec emit p sent post' := by
  induction p generalizing sent with
  | pure a => exact imp _ _ sends
  | op o next ih => exact fun c s => ih _ (sends c s)

/-- A program whose operations send nothing. -/
theorem Only.sends {p : Prog Op Res α} (only : p.Only fun o => ∀ c s, emit o c s = []) :
    Sends exec emit p sent fun _ sent' => sent' = sent := by
  induction p generalizing sent with
  | pure a => rfl
  | op o next ih => exact sends_op_of_silent only.1 fun r => ih r (only.2 r)

/-- Where every operation of a program sends only what satisfies `Q`, so does the program. -/
theorem Only.sends_forall {Q : E → Prop} {p : Prog Op Res α}
    (only : p.Only fun o => ∀ c s, ∀ e ∈ emit o c s, Q e) (before : ∀ e ∈ sent, Q e) :
    Sends exec emit p sent fun _ sent' => ∀ e ∈ sent', Q e := by
  induction p generalizing sent with
  | pure a => exact before
  | op o next ih =>
    intro c s
    refine ih _ (only.2 _) fun e mem => ?_
    exact (List.mem_append.mp mem).elim (before e) (only.1 c s e)

/-- The first part of a composed program sends nothing, and its value does not matter. -/
theorem Only.sends_bind {p : Prog Op Res α} {f : α → Prog Op Res β} {post : β → List E → Prop}
    (only : p.Only fun o => ∀ c s, emit o c s = []) (rest : ∀ a, Sends exec emit (f a) sent post) :
    Sends exec emit (p >>= f) sent post := by
  rw [Prog.sends_bind]
  refine only.sends.mono fun a sent' same => ?_
  rw [same]
  exact rest a

/-- A program that can be run has an end, where something more may have been sent. -/
theorem Sends.exists_more [Inhabited C] (s : S) {p : Prog Op Res α} {post : α → List E → Prop}
    (sends : Sends exec emit p sent post) : ∃ a more, post a (sent ++ more) := by
  induction p generalizing sent s with
  | pure a => exact ⟨a, [], by rw [List.append_nil]; exact sends⟩
  | op o next ih =>
    -- the operation can be performed, which gives the program a result to go on with
    obtain ⟨a, more, ends⟩ := ih _ (exec o default s).2 (sends default s)
    exact ⟨a, emit o default s ++ more, by rw [← List.append_assoc]; exact ends⟩

end Prog

/-! ### Tasks -/

/-- What the task has sent. -/
def Task.sent (emit : Op → C → S → List E) (task : Task Op Res C S R) : List E :=
  task.trace.flatMap fun ev => emit ev.op ev.choice ev.pre

@[simp] theorem Task.sent_nil (emit : Op → C → S → List E) (req : R) (rest : Prog Op Res Unit) :
    (Task.mk req [] rest : Task Op Res C S R).sent emit = [] := rfl

@[simp] theorem Task.sent_append (emit : Op → C → S → List E) (req : R) (trace : List (Event Op C S))
    (ev : Event Op C S) (rest rest' : Prog Op Res Unit) :
    (Task.mk req (trace ++ [ev]) rest : Task Op Res C S R).sent emit =
      (Task.mk req trace rest' : Task Op Res C S R).sent emit ++
        emit ev.op ev.choice ev.pre := by
  simp [Task.sent]

theorem Task.sent_filterMap {F : Type} (emit : Op → C → S → List E) (f : E → Option F)
    (task : Task Op Res C S R) :
    task.sent (fun o c s => (emit o c s).filterMap f) = (task.sent emit).filterMap f := by
  unfold Task.sent
  induction task.trace with
  | nil => rfl
  | cons ev trace ih => rw [List.flatMap_cons, List.flatMap_cons, List.filterMap_append, ih]

namespace System

variable {sys : System Op Res C S R} {emit : Op → C → S → List E}

/-- In a run, what a task has sent so far is followed by what is left of its program. -/
theorem sends_of_reaches {cond : Pool Op Res C S R → Label C R → Prop} {s : S}
    {pool : Pool Op Res C S R} {post : R → List E → Prop}
    (sends : ∀ req, (sys.prog req).Sends sys.exec emit [] fun _ sent => post req sent)
    (reaches : sys.Reaches cond (Pool.init s) pool) {i : Nat} {task : Task Op Res C S R}
    (found : pool.tasks[i]? = some task) :
    task.rest.Sends sys.exec emit (task.sent emit) fun _ sent => post task.req sent := by
  refine reaches.induct (P := fun pool => ∀ (i : Nat) (task : Task Op Res C S R),
    pool.tasks[i]? = some task → task.rest.Sends sys.exec emit (task.sent emit)
      fun _ sent => post task.req sent) (fun i task found => by simp [Pool.init] at found) ?_ i task found
  intro pool l pool' holds _ next j task at_j
  obtain ⟨old, -⟩ | ⟨req, rfl, rfl⟩ | ⟨c, req, trace, o, k, rfl, old, rfl⟩ := task_cases next at_j
  · exact holds j task old
  · exact sends req
  · have before := holds j _ old
    rw [Task.sent_append emit req trace _ _ (.op o k)]
    exact before c pool.state

/-- In a run, what a task has sent is a beginning of what its program sends, and all of it once
the program has ended. -/
theorem exists_more_of_reaches [Inhabited C] {cond : Pool Op Res C S R → Label C R → Prop}
    {s : S} {pool : Pool Op Res C S R} {post : R → List E → Prop}
    (sends : ∀ req, (sys.prog req).Sends sys.exec emit [] fun _ sent => post req sent)
    (reaches : sys.Reaches cond (Pool.init s) pool) {i : Nat} {task : Task Op Res C S R}
    (found : pool.tasks[i]? = some task) :
    ∃ more, post task.req (task.sent emit ++ more) ∧ (task.busy = false → more = []) := by
  have rest := sends_of_reaches sends reaches found
  obtain ⟨req, trace, rest'⟩ := task
  cases rest' with
  | pure a => exact ⟨[], by rw [List.append_nil]; exact rest, fun _ => rfl⟩
  | op o next =>
    obtain ⟨_, more, ends⟩ := rest.exists_more s
    exact ⟨more, ends, fun idle => by cases idle⟩

/-- What a task is replaced by has sent more. -/
theorem perm_flatMap_set {T F : Type} (f : T → List F) {l : List T} {i : Nat} {old new : T}
    {more : List F} (found : l[i]? = some old) (sent : f new = f old ++ more) :
    ((l.set i new).flatMap f).Perm (l.flatMap f ++ more) := by
  induction l generalizing i with
  | nil => simp at found
  | cons first rest ih =>
    cases i with
    | zero =>
      cases found
      rw [List.set_cons_zero, List.flatMap_cons, List.flatMap_cons, sent, List.append_assoc,
        List.append_assoc]
      exact List.perm_append_comm.append_left _
    | succ i =>
      rw [List.set_cons_succ, List.flatMap_cons, List.flatMap_cons, List.append_assoc]
      exact (ih found).append_left _

/-- A log of what is sent lists, after what it held at the start, what the tasks have sent. -/
theorem perm_sent_of_reaches {cond : Pool Op Res C S R → Label C R → Prop} {s : S}
    {pool : Pool Op Res C S R} {log : S → List E}
    (logs : ∀ o c s, log (sys.exec o c s).2 = log s ++ emit o c s)
    (reaches : sys.Reaches cond (Pool.init s) pool) :
    (log pool.state).Perm (log s ++ pool.tasks.flatMap (Task.sent emit)) := by
  induction reaches with
  | refl => rw [Pool.init, List.flatMap_nil, List.append_nil]
  | @step pool pool' l _ _ next ih =>
    obtain ⟨req, rfl, rfl⟩ | ⟨i, c, req, trace, o, k, rfl, found, rfl⟩ := step_cases next
    · rw [List.flatMap_append]
      simpa using ih
    · rw [logs]
      refine (ih.append_right (emit o c pool.state)).trans ?_
      rw [List.append_assoc]
      -- the step adds to the log what it adds to the task
      refine (List.Perm.append_left _ ?_).symm
      exact perm_flatMap_set (Task.sent emit) found
        (Task.sent_append emit req trace ⟨o, c, pool.state⟩ _ _)

end System

end Concurrent

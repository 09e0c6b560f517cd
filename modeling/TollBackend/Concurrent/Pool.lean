import TollBackend.Concurrent.Program

/-!
# Pools of programs

Any number of programs run together on one state. Each serves a request and remembers, for
the sake of reasoning, what it has performed so far. A step of the pool either admits a new
request or lets one task perform its next operation, so every interleaving of the programs
between operations is a run.

A `Contract` states what a task relies on between its own operations, what it may assume
when it performs one, and what it must guarantee then. `Contract.Safe` says that a program
keeps the contract from a state on; it is defined by recursion on the program, with a rule
for composition. If every request keeps the contract from its start and the contract covers
the interference of the other tasks, then no run breaks it.

## Main definitions

* `System`, `Task`, `Pool`: requests with their programs, and their joint execution.
* `System.step`, `System.runUnder`: one labelled step, and a run given by its labels.
* `System.Reaches`: the pools reached by steps that all satisfy a condition.
* `Contract`, `Contract.Safe`: the contract of a task, and that a program keeps it.

## Main results

* `Contract.safe_bind`: the rule of composition.
* `Contract.holds_of_reaches`, `Contract.must_of_reaches`: runs keep the contract.
-/

namespace Concurrent

/-- The interpretation of operations, and the program of each request. -/
structure System (Op : Type) (Res : Op → Type) (C S R : Type) where
  exec : (o : Op) → C → S → Res o × S
  prog : R → Prog Op Res Unit

/-- A request being served: its past, and what is left of its program. -/
structure Task (Op : Type) (Res : Op → Type) (C S R : Type) where
  req : R
  trace : List (Event Op C S)
  rest : Prog Op Res Unit

/-- The task has more to perform. -/
def Task.busy {Op : Type} {Res : Op → Type} {C S R : Type} (task : Task Op Res C S R) : Bool :=
  match task.rest with
  | .pure _ => false
  | .op _ _ => true

/-- The shared state and the tasks in the order they were admitted. -/
structure Pool (Op : Type) (Res : Op → Type) (C S R : Type) where
  state : S
  tasks : List (Task Op Res C S R)

/-- What a step of the pool does. -/
inductive Label (C R : Type) : Type
  | start (req : R)
  | act (task : Nat) (choice : C)

variable {Op : Type} {Res : Op → Type} {C S R α β : Type}

/-- The pool that has admitted no request. -/
def Pool.init (s : S) : Pool Op Res C S R :=
  ⟨s, []⟩

namespace System

variable (sys : System Op Res C S R)

/-- One step: admit a request, or let a task perform its next operation. -/
def step (pool : Pool Op Res C S R) : Label C R → Option (Pool Op Res C S R)
  | .start req => some ⟨pool.state, pool.tasks ++ [⟨req, [], sys.prog req⟩]⟩
  | .act i c =>
      match pool.tasks[i]? with
      | some ⟨req, trace, .op o next⟩ =>
          some ⟨(sys.exec o c pool.state).2,
            pool.tasks.set i
              ⟨req, trace ++ [⟨o, c, pool.state⟩], next (sys.exec o c pool.state).1⟩⟩
      | _ => none

/-- The run with the given labels, if each of them is possible and meets the condition. -/
def runUnder (cond : Pool Op Res C S R → Label C R → Prop) [∀ pool l, Decidable (cond pool l)]
    (pool : Pool Op Res C S R) (labels : List (Label C R)) : Option (Pool Op Res C S R) :=
  labels.foldlM (fun pool l => if cond pool l then sys.step pool l else none) pool

/-- The pools reached by steps that satisfy `cond` in the pool they start from. -/
inductive Reaches (cond : Pool Op Res C S R → Label C R → Prop) (start : Pool Op Res C S R) :
    Pool Op Res C S R → Prop
  | refl : Reaches cond start start
  | step {pool pool' : Pool Op Res C S R} {l : Label C R} (before : Reaches cond start pool)
      (meets : cond pool l) (next : sys.step pool l = some pool') : Reaches cond start pool'

variable {sys}

/-- What a step of the pool can be. -/
theorem step_cases {pool pool' : Pool Op Res C S R} {l : Label C R}
    (next : sys.step pool l = some pool') :
    (∃ req, l = .start req ∧
      pool' = ⟨pool.state, pool.tasks ++ [⟨req, [], sys.prog req⟩]⟩) ∨
    ∃ i c req trace o k, l = .act i c ∧ pool.tasks[i]? = some ⟨req, trace, .op o k⟩ ∧
      pool' = ⟨(sys.exec o c pool.state).2,
        pool.tasks.set i ⟨req, trace ++ [⟨o, c, pool.state⟩], k (sys.exec o c pool.state).1⟩⟩ := by
  cases l with
  | start req =>
    cases next
    exact .inl ⟨req, rfl, rfl⟩
  | act i c =>
    simp only [step] at next
    split at next
    · next req trace o k found =>
      cases next
      exact .inr ⟨i, c, req, trace, o, k, rfl, found, rfl⟩
    · simp at next

/-- What a task can have done in a step: nothing, or it was admitted, or it performed an
operation. -/
theorem task_cases {pool pool' : Pool Op Res C S R} {l : Label C R}
    (next : sys.step pool l = some pool') {j : Nat} {task : Task Op Res C S R}
    (found : pool'.tasks[j]? = some task) :
    (pool.tasks[j]? = some task ∧ ∀ c, l ≠ .act j c) ∨
    (∃ req, l = .start req ∧ task = ⟨req, [], sys.prog req⟩) ∨
    ∃ c req trace o k, l = .act j c ∧ pool.tasks[j]? = some ⟨req, trace, .op o k⟩ ∧
      task = ⟨req, trace ++ [⟨o, c, pool.state⟩], k (sys.exec o c pool.state).1⟩ := by
  obtain ⟨req, rfl, rfl⟩ | ⟨i, c, req, trace, o, k, rfl, here, rfl⟩ := step_cases next
  · rw [List.getElem?_append] at found
    split at found
    · exact .inl ⟨found, fun c eq => by cases eq⟩
    · rw [List.getElem?_singleton] at found
      split at found
      · exact .inr (.inl ⟨req, rfl, (Option.some.inj found).symm⟩)
      · simp at found
  · by_cases same : j = i
    · subst same
      rw [List.getElem?_set_self (List.getElem?_eq_some_iff.mp here).1] at found
      exact .inr (.inr ⟨c, req, trace, o, k, rfl, here, (Option.some.inj found).symm⟩)
    · rw [List.getElem?_set_ne (Ne.symm same)] at found
      exact .inl ⟨found, fun c eq => same (by cases eq; rfl)⟩

/-- A property of pools that holds at the start and is kept by the steps of a run holds in
every pool it reaches. -/
theorem Reaches.induct {cond : Pool Op Res C S R → Label C R → Prop}
    {start pool : Pool Op Res C S R} {P : Pool Op Res C S R → Prop}
    (reaches : sys.Reaches cond start pool) (initial : P start)
    (kept : ∀ pool l pool', P pool → cond pool l → sys.step pool l = some pool' → P pool') :
    P pool := by
  induction reaches with
  | refl => exact initial
  | step _ meets next ih => exact kept _ _ _ ih meets next

/-- A run whose steps meet a condition reaches its last pool under that condition. -/
theorem reaches_of_runUnder {cond : Pool Op Res C S R → Label C R → Prop}
    [∀ pool l, Decidable (cond pool l)] {start pool : Pool Op Res C S R}
    {labels : List (Label C R)} (run : sys.runUnder cond start labels = some pool) :
    sys.Reaches cond start pool := by
  induction labels using List.reverseRecOn generalizing pool with
  | nil =>
    cases run
    exact .refl
  | append_singleton ls l ih =>
    rw [runUnder, List.foldlM_append] at run
    obtain ⟨mid, before, last⟩ := Option.bind_eq_some_iff.mp run
    have stepped : (if cond mid l then sys.step mid l else none) = some pool := by
      simpa using last
    split at stepped
    · next meets => exact .step (ih before) meets stepped
    · cases stepped

variable (sys) in
/-- The last pool of a run, which passes a test. -/
theorem exists_reaches (cond : Pool Op Res C S R → Label C R → Prop)
    [∀ pool l, Decidable (cond pool l)] (start : Pool Op Res C S R) (labels : List (Label C R))
    (test : Pool Op Res C S R → Bool) (run : (sys.runUnder cond start labels).any test = true) :
    ∃ pool, sys.Reaches cond start pool ∧ test pool = true := by
  cases last : sys.runUnder cond start labels with
  | none => simp [last] at run
  | some pool =>
    rw [last] at run
    exact ⟨pool, reaches_of_runUnder last, run⟩

theorem Reaches.mono {cond cond' : Pool Op Res C S R → Label C R → Prop}
    {start pool : Pool Op Res C S R} (reaches : sys.Reaches cond start pool)
    (imp : ∀ pool l, cond pool l → cond' pool l) : sys.Reaches cond' start pool := by
  induction reaches with
  | refl => exact .refl
  | step _ meets next ih => exact .step ih (imp _ _ meets) next

/-- What holds in every pool of a run can be assumed of the pools its steps start from. -/
theorem Reaches.with_invariant {cond : Pool Op Res C S R → Label C R → Prop}
    {start pool : Pool Op Res C S R} {P : Pool Op Res C S R → Prop}
    (reaches : sys.Reaches cond start pool)
    (holds : ∀ pool, sys.Reaches cond start pool → P pool) :
    sys.Reaches (fun pool l => cond pool l ∧ P pool) start pool := by
  induction reaches with
  | refl => exact .refl
  | step before meets next ih => exact .step ih ⟨meets, holds _ before⟩ next

/-! ### Conditions on runs -/

/-- A condition on the operations of a run: `P` holds of the pool, of the task, and of what
it performs. -/
def EachStep (P : Pool Op Res C S R → Nat → R → List (Event Op C S) → Op → C → Prop)
    (pool : Pool Op Res C S R) : Label C R → Prop
  | .start _ => True
  | .act i c => ∀ req trace o next, pool.tasks[i]? = some ⟨req, trace, .op o next⟩ →
      P pool i req trace o c

instance {P : Pool Op Res C S R → Nat → R → List (Event Op C S) → Op → C → Prop}
    [∀ pool i req trace o c, Decidable (P pool i req trace o c)] (pool : Pool Op Res C S R)
    (l : Label C R) : Decidable (EachStep P pool l) :=
  match l with
  | .start _ => isTrue trivial
  | .act i c =>
      match found : pool.tasks[i]? with
      | none => isTrue fun _ _ _ _ eq => by simp [found] at eq
      | some ⟨_, _, .pure _⟩ => isTrue fun _ _ _ _ eq => by simp [found] at eq
      | some ⟨req, trace, .op o next⟩ =>
          decidable_of_iff (P pool i req trace o c)
            ⟨fun holds _ _ _ _ eq => by rw [found] at eq; cases eq; exact holds,
              fun all => all _ _ _ _ found⟩

/-- Each operation is performed only under `P`. -/
def EachAct (P : R → List (Event Op C S) → Op → C → S → Prop) :
    Pool Op Res C S R → Label C R → Prop :=
  EachStep fun pool _ req trace o c => P req trace o c pool.state

instance {P : R → List (Event Op C S) → Op → C → S → Prop}
    [∀ req trace o c s, Decidable (P req trace o c s)] (pool : Pool Op Res C S R)
    (l : Label C R) : Decidable (EachAct P pool l) := by
  unfold EachAct; infer_instance

/-- Each operation is performed only under `P`, for every other task that has more to
perform. -/
def EachOther (P : Op → S → R → List (Event Op C S) → Prop) :
    Pool Op Res C S R → Label C R → Prop :=
  EachStep fun pool i _ _ o _ => ∀ j < pool.tasks.length, j ≠ i →
    ∀ task ∈ pool.tasks[j]?, task.busy → P o pool.state task.req task.trace

instance {P : Op → S → R → List (Event Op C S) → Prop}
    [∀ o s req trace, Decidable (P o s req trace)] (pool : Pool Op Res C S R)
    (l : Label C R) : Decidable (EachOther P pool l) := by
  unfold EachOther; infer_instance

theorem EachOther.other {P : Op → S → R → List (Event Op C S) → Prop}
    {pool : Pool Op Res C S R} {i j : Nat} {c : C} {req req' : R}
    {trace trace' : List (Event Op C S)} {o o' : Op} {next : Res o → Prog Op Res Unit}
    {next' : Res o' → Prog Op Res Unit} (meets : EachOther P pool (.act i c))
    (here : pool.tasks[i]? = some ⟨req, trace, .op o next⟩) (ne : j ≠ i)
    (there : pool.tasks[j]? = some ⟨req', trace', .op o' next'⟩) :
    P o pool.state req' trace' :=
  meets req trace o next here j (List.getElem?_eq_some_iff.mp there).1 ne _ there rfl

/-- In a run, tasks have performed and will perform only what the programs of their requests
can. -/
theorem only_of_reaches {cond : Pool Op Res C S R → Label C R → Prop} {s : S}
    {pool : Pool Op Res C S R} {P : R → Op → Prop} (only : ∀ req, (sys.prog req).Only (P req))
    (reaches : sys.Reaches cond (Pool.init s) pool) {i : Nat} {task : Task Op Res C S R}
    (found : pool.tasks[i]? = some task) :
    (∀ ev ∈ task.trace, P task.req ev.op) ∧ task.rest.Only (P task.req) := by
  refine reaches.induct (P := fun pool => ∀ i task, pool.tasks[i]? = some task →
    (∀ ev ∈ task.trace, P task.req ev.op) ∧ task.rest.Only (P task.req))
    (fun i task found => by simp [Pool.init] at found) ?_ i task found
  intro pool l pool' holds _ next j task at_j
  obtain ⟨old, -⟩ | ⟨req, rfl, rfl⟩ | ⟨c, req, trace, o, k, rfl, old, rfl⟩ := task_cases next at_j
  · exact holds j task old
  · exact ⟨fun ev mem => absurd mem List.not_mem_nil, only req⟩
  · obtain ⟨past, here, rest⟩ := holds j _ old
    refine ⟨fun ev mem => ?_, rest _⟩
    rcases List.mem_append.mp mem with before | now
    · exact past ev before
    · rw [List.mem_singleton.mp now]
      exact here

end System

/-! ### The past of a task -/

/-- Each operation of the past satisfies `P`, given what came before it. -/
def Along (P : List (Event Op C S) → Op → C → S → Prop) (past : List (Event Op C S)) : Prop :=
  ∀ k < past.length, ∀ ev ∈ past[k]?, P (past.take k) ev.op ev.choice ev.pre

instance {P : List (Event Op C S) → Op → C → S → Prop}
    [∀ before o c s, Decidable (P before o c s)] : DecidablePred (Along P) := fun past => by
  unfold Along; infer_instance

section Along

variable {P : List (Event Op C S) → Op → C → S → Prop} {trace : List (Event Op C S)}

theorem along_append_singleton {ev : Event Op C S} :
    Along P (trace ++ [ev]) ↔ Along P trace ∧ P trace ev.op ev.choice ev.pre := by
  constructor
  · intro along
    refine ⟨fun k bound past found => ?_, ?_⟩
    · have := along k (by rw [List.length_append]; omega) past
        (by rw [List.getElem?_append_left bound]; exact found)
      rwa [List.take_append_of_le_length (Nat.le_of_lt bound)] at this
    · have := along trace.length (by simp) ev (by simp)
      rwa [List.take_left] at this
  · rintro ⟨along, last⟩ k bound past found
    rw [List.length_append, List.length_singleton] at bound
    rcases Nat.lt_succ_iff_lt_or_eq.mp bound with old | rfl
    · rw [List.take_append_of_le_length (Nat.le_of_lt old)]
      rw [List.getElem?_append_left old] at found
      exact along k old past found
    · rw [List.getElem?_concat_length, Option.mem_some_iff] at found
      subst found
      rwa [List.take_left]

theorem Along.of_mem (along : Along P trace) {ev : Event Op C S} (mem : ev ∈ trace) :
    ∃ before, P before ev.op ev.choice ev.pre := by
  obtain ⟨k, bound, rfl⟩ := List.mem_iff_getElem.mp mem
  exact ⟨trace.take k, along k bound _ (by simp [bound])⟩

end Along

/-! ### Contracts -/

/-- The contract of a task, in terms of its request and of its past.

* `inv` holds of the state between any two steps;
* `rely` is what the other tasks may do to the state between two operations of the task;
* `may` is what the task may assume when it performs an operation;
* `must` is what it guarantees then. -/
structure Contract (sys : System Op Res C S R) where
  inv : S → Prop
  rely : R → List (Event Op C S) → S → S → Prop
  may : R → List (Event Op C S) → Op → C → S → Prop
  must : R → List (Event Op C S) → Op → C → S → Prop
  rely_refl : ∀ req trace s, rely req trace s s
  rely_trans : ∀ req trace s s' s'', rely req trace s s' → rely req trace s' s'' →
    rely req trace s s''

namespace Contract

variable {sys : System Op Res C S R} (K : Contract sys)

/-- The program keeps the contract of `req` from the past `trace` and the state `s` on, and
where it ends, `post` holds. -/
def Safe (req : R) (p : Prog Op Res α) (post : α → List (Event Op C S) → S → Prop)
    (trace : List (Event Op C S)) (s : S) : Prop :=
  match p with
  | .pure a => post a trace s
  | .op o next => ∀ s', K.rely req trace s s' → K.inv s' → ∀ c, K.may req trace o c s' →
      K.must req trace o c s' ∧ K.inv (sys.exec o c s').2 ∧
        Safe req (next (sys.exec o c s').1) post (trace ++ [⟨o, c, s'⟩]) (sys.exec o c s').2

variable {K} {req : R} {trace : List (Event Op C S)} {s : S}

@[simp] theorem safe_pure {a : α} {post : α → List (Event Op C S) → S → Prop} :
    K.Safe req (Pure.pure a) post trace s ↔ post a trace s := Iff.rfl

/-- One operation, and what follows it. -/
theorem safe_perform_bind {o : Op} {next : Res o → Prog Op Res α}
    {post : α → List (Event Op C S) → S → Prop} :
    K.Safe req (Prog.perform o >>= next) post trace s ↔
      ∀ s', K.rely req trace s s' → K.inv s' → ∀ c, K.may req trace o c s' →
        K.must req trace o c s' ∧ K.inv (sys.exec o c s').2 ∧
          K.Safe req (next (sys.exec o c s').1) post (trace ++ [⟨o, c, s'⟩])
            (sys.exec o c s').2 := Iff.rfl

/-- The rule of composition. -/
theorem safe_bind {p : Prog Op Res α} {f : α → Prog Op Res β}
    {post : β → List (Event Op C S) → S → Prop} :
    K.Safe req (p >>= f) post trace s ↔
      K.Safe req p (fun a tr s' => K.Safe req (f a) post tr s') trace s := by
  induction p generalizing trace s with
  | pure a => exact Iff.rfl
  | op o next ih =>
    refine forall₄_congr fun s' _ _ c => forall_congr' fun _ => ?_
    exact and_congr_right fun _ => and_congr_right fun _ => ih _

theorem Safe.mono {p : Prog Op Res α} {post post' : α → List (Event Op C S) → S → Prop}
    (safe : K.Safe req p post trace s) (imp : ∀ a tr s', post a tr s' → post' a tr s') :
    K.Safe req p post' trace s := by
  induction p generalizing trace s with
  | pure a => exact imp _ _ _ safe
  | op o next ih =>
    intro s' relied inv c may
    obtain ⟨must, inv', rest⟩ := safe s' relied inv c may
    exact ⟨must, inv', ih _ rest⟩

/-- A safe task stays safe while the others do what it relies on. -/
theorem Safe.of_rely {p : Prog Op Res Unit} {s' : S}
    (safe : K.Safe req p (fun _ _ _ => True) trace s) (relied : K.rely req trace s s') :
    K.Safe req p (fun _ _ _ => True) trace s' := by
  cases p with
  | pure a => trivial
  | op o next => exact fun s'' relied' => safe s'' (K.rely_trans _ _ _ _ _ relied relied')

/-- A program whose operations all satisfy `P` keeps any property of the past and the state
that these operations and the other tasks keep. -/
theorem safe_of_only {P : Op → Prop} {J : List (Event Op C S) → S → Prop} {p : Prog Op Res α}
    (only : p.Only P) (holds : J trace s)
    (others : ∀ tr s s', J tr s → K.rely req tr s s' → K.inv s' → J tr s')
    (own : ∀ tr s o c, P o → J tr s → K.inv s → K.may req tr o c s →
      K.must req tr o c s ∧ K.inv (sys.exec o c s).2 ∧
        J (tr ++ [⟨o, c, s⟩]) (sys.exec o c s).2) :
    K.Safe req p (fun _ tr s' => J tr s') trace s := by
  induction p generalizing trace s with
  | pure a => exact holds
  | op o next ih =>
    intro s' relied inv c may
    obtain ⟨must, inv', kept⟩ := own _ _ _ _ only.1 (others _ _ _ holds relied inv) inv may
    exact ⟨must, inv', ih _ (only.2 _) kept⟩

variable (K)

/-- What is needed of a contract and of the condition on steps for runs to keep the
contract: requests keep it from their start, a step under the condition may be assumed, and
it does to the other tasks what they rely on. -/
structure Sound (cond : Pool Op Res C S R → Label C R → Prop) : Prop where
  start : ∀ pool req, K.inv pool.state → cond pool (.start req) →
    K.Safe req (sys.prog req) (fun _ _ _ => True) [] pool.state
  own : ∀ pool i c req trace o next, cond pool (.act i c) →
    pool.tasks[i]? = some ⟨req, trace, .op o next⟩ → K.may req trace o c pool.state
  others : ∀ pool i c req trace o next j req' trace' o' next', cond pool (.act i c) →
    pool.tasks[i]? = some ⟨req, trace, .op o next⟩ → K.inv pool.state →
    K.must req trace o c pool.state → j ≠ i →
    pool.tasks[j]? = some ⟨req', trace', .op o' next'⟩ →
    K.rely req' trace' pool.state (sys.exec o c pool.state).2

/-- The invariant of a pool: its state satisfies the contract's, and every task is safe. -/
def Holds (pool : Pool Op Res C S R) : Prop :=
  K.inv pool.state ∧ ∀ (i : Nat) (task : Task Op Res C S R), pool.tasks[i]? = some task →
    K.Safe task.req task.rest (fun _ _ _ => True) task.trace pool.state

variable {K}

theorem Sound.holds_step {cond : Pool Op Res C S R → Label C R → Prop} (sound : K.Sound cond)
    {pool pool' : Pool Op Res C S R} {l : Label C R} (holds : K.Holds pool)
    (meets : cond pool l) (next : sys.step pool l = some pool') : K.Holds pool' := by
  obtain ⟨inv, safe⟩ := holds
  obtain ⟨req, rfl, rfl⟩ | ⟨i, c, req, trace, o, k, rfl, found, rfl⟩ := System.step_cases next
  · refine ⟨inv, fun j task at_j => ?_⟩
    obtain ⟨old, -⟩ | ⟨_, eq, rfl⟩ | ⟨_, _, _, _, _, eq, -⟩ := System.task_cases next at_j
    · exact safe j task old
    · cases eq
      exact sound.start pool req inv meets
    · cases eq
  · have may := sound.own pool i c req trace o k meets found
    obtain ⟨must, inv', rest⟩ :=
      safe i _ found pool.state (K.rely_refl _ _ _) inv c may
    refine ⟨inv', fun j task at_j => ?_⟩
    obtain ⟨old, other⟩ | ⟨_, eq, -⟩ | ⟨_, _, _, _, _, eq, old, rfl⟩ :=
      System.task_cases next at_j
    · obtain ⟨req', trace', rest'⟩ := task
      cases rest' with
      | pure a => trivial
      | op o' next' =>
        refine (safe j _ old).of_rely (sound.others pool i c req trace o k j req' trace' o' next'
          meets found inv must ?_ old)
        rintro rfl
        exact other c rfl
    · cases eq
    · cases eq
      cases found.symm.trans old
      exact rest

/-- Runs keep the contract. -/
theorem Sound.holds_of_reaches {cond : Pool Op Res C S R → Label C R → Prop}
    (sound : K.Sound cond) {pool : Pool Op Res C S R} (initial : K.inv s)
    (reaches : sys.Reaches cond (Pool.init s) pool) : K.Holds pool :=
  reaches.induct ⟨initial, fun i task found => by simp [Pool.init] at found⟩
    fun _ _ _ holds meets next => sound.holds_step holds meets next

/-- Whenever a task performs an operation in a run, it guarantees what the contract says. -/
theorem Sound.must_of_reaches {cond : Pool Op Res C S R → Label C R → Prop}
    (sound : K.Sound cond) {pool : Pool Op Res C S R} (initial : K.inv s)
    (reaches : sys.Reaches cond (Pool.init s) pool) {i : Nat} {c : C} {o : Op}
    {next : Res o → Prog Op Res Unit} (meets : cond pool (.act i c))
    (found : pool.tasks[i]? = some ⟨req, trace, .op o next⟩) :
    K.must req trace o c pool.state := by
  obtain ⟨inv, safe⟩ := sound.holds_of_reaches initial reaches
  exact (safe i _ found pool.state (K.rely_refl _ _ _) inv c
    (sound.own pool i c req trace o next meets found)).1

/-- In a run, tasks have guaranteed what the contract says at each operation in their past. -/
theorem Sound.along_of_reaches {cond : Pool Op Res C S R → Label C R → Prop}
    (sound : K.Sound cond) {pool : Pool Op Res C S R} (initial : K.inv s)
    (reaches : sys.Reaches cond (Pool.init s) pool) {i : Nat} {task : Task Op Res C S R}
    (found : pool.tasks[i]? = some task) : Along (K.must task.req) task.trace := by
  have holds := reaches.induct (P := fun pool => K.Holds pool ∧
    ∀ (i : Nat) (task : Task Op Res C S R), pool.tasks[i]? = some task →
      Along (K.must task.req) task.trace)
    ⟨⟨initial, fun i task found => by simp [Pool.init] at found⟩,
      fun i task found => by simp [Pool.init] at found⟩ ?_
  · exact holds.2 i task found
  · rintro pool l pool' ⟨holds, past⟩ meets next
    refine ⟨sound.holds_step holds meets next, fun j task at_j => ?_⟩
    obtain ⟨old, -⟩ | ⟨req, rfl, rfl⟩ | ⟨c, req, trace, o, k, rfl, old, rfl⟩ :=
      System.task_cases next at_j
    · exact past j task old
    · exact fun k bound => absurd bound (Nat.not_lt_zero k)
    · have must := (holds.2 j _ old pool.state (K.rely_refl _ _ _) holds.1 c
        (sound.own pool j c req trace o k meets old)).1
      exact along_append_singleton.mpr ⟨past j _ old, must⟩

end Contract

end Concurrent

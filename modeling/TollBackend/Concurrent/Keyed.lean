import TollBackend.Concurrent.Pool

/-!
# Runs in which tasks take turns with each key

The state is split among keys: every operation uses some of them and leaves the part of any
other one as it is. When no operation uses a key that another task at work has used, a task
has the keys that it has used for itself. It finds the part of a key as the last task has left
it, and nobody changes that part until the task ends.

## Main definitions

* `Keyed`: which keys an operation uses, and when the part of a key is the same.
* `Keyed.Turns`: the steps of tasks that take turns with each key.
* `Keyed.contract`: the contract of a task that has the keys it has used for itself.
* `Keyed.UnderWay`: a task has begun to change the part of a key.
* `Keyed.Sound`: every request restores the parts of the keys that it uses.

## Main results

* `Keyed.Sound.must_of_reaches`: every operation of a run guarantees what the contract says.
-/

namespace Concurrent

variable {Op : Type} {Res : Op → Type} {C S R κ : Type}

/-- A state that is split among keys. -/
structure Keyed (sys : System Op Res C S R) (κ : Type) where
  uses : Op → C → S → List κ
  same : κ → S → S → Prop
  same_refl : ∀ k s, same k s s
  same_trans : ∀ k s s' s'', same k s s' → same k s' s'' → same k s s''
  frame : ∀ o c s k, k ∉ uses o c s → same k s (sys.exec o c s).2

namespace Keyed

variable {sys : System Op Res C S R} (K : Keyed sys κ)

/-- The keys that were used in the past of a task. -/
def usedIn (past : List (Event Op C S)) : List κ :=
  past.flatMap fun ev => K.uses ev.op ev.choice ev.pre

/-- The task does not have a key of the operation. -/
def Spared (o : Op) (c : C) (s : S) (task : Task Op Res C S R) : Prop :=
  task.busy → ∀ k ∈ K.uses o c s, k ∉ K.usedIn task.trace

instance [DecidableEq κ] (o : Op) (c : C) (s : S) (task : Task Op Res C S R) :
    Decidable (K.Spared o c s task) := by
  unfold Spared; infer_instance

/-- A condition on runs in which tasks take turns with each key: which requests are admitted,
and what each operation is performed under. -/
def Turns (admits : R → Prop) (P : R → List (Event Op C S) → Op → C → S → Prop)
    (pool : Pool Op Res C S R) : Label C R → Prop
  | .start req => admits req
  | .act i c => System.EachStep (fun pool i req trace o c =>
      (∀ j < pool.tasks.length, j ≠ i → ∀ task ∈ pool.tasks[j]?, K.Spared o c pool.state task) ∧
        P req trace o c pool.state) pool (.act i c)

instance [DecidableEq κ] {admits : R → Prop} {P : R → List (Event Op C S) → Op → C → S → Prop}
    [DecidablePred admits] [∀ req trace o c s, Decidable (P req trace o c s)]
    (pool : Pool Op Res C S R) (l : Label C R) : Decidable (K.Turns admits P pool l) := by
  induction l using Label.casesOn <;> (unfold Turns; infer_instance)

/-- The contract of a task that has the keys it has used for itself. It finds the part of a
new key idle. -/
def contract (inv : S → Prop) (idle : κ → S → Prop)
    (P must : R → List (Event Op C S) → Op → C → S → Prop) : Contract sys where
  inv := inv
  rely _ trace s s' := ∀ k ∈ K.usedIn trace, K.same k s s'
  may req trace o c s := P req trace o c s ∧ ∀ k ∈ K.uses o c s, k ∈ K.usedIn trace ∨ idle k s
  must := must
  rely_refl _ _ s k _ := K.same_refl k s
  rely_trans _ _ s s' s'' first second k used :=
    K.same_trans k s s' s'' (first k used) (second k used)

variable {K} {inv : S → Prop} {idle : κ → S → Prop} {admits : R → Prop}
variable {P must : R → List (Event Op C S) → Op → C → S → Prop}
variable {req : R} {trace : List (Event Op C S)} {s : S}

theorem mem_usedIn_append_singleton {ev : Event Op C S} {k : κ} :
    k ∈ K.usedIn (trace ++ [ev]) ↔ k ∈ K.usedIn trace ∨ k ∈ K.uses ev.op ev.choice ev.pre := by
  simp [usedIn]

/-! ### In the course of a task -/

/-- The parts of the keys that a task has used are idle. -/
def AllIdle (K : Keyed sys κ) (idle : κ → S → Prop) (trace : List (Event Op C S)) (s : S) : Prop :=
  ∀ k ∈ K.usedIn trace, idle k s

/-- The task has begun to change the part of a key, of which `M` is known, and has not restored
it yet. -/
structure UnderWay (K : Keyed sys κ) (idle : κ → S → Prop) (k : κ) (M : S → Prop)
    (trace : List (Event Op C S)) (s : S) : Prop where
  used : k ∈ K.usedIn trace
  others : ∀ j ∈ K.usedIn trace, j ≠ k → idle j s
  here : M s

/-- Operations that use no key and keep the rest of the contract. -/
def Aside (K : Keyed sys κ) (inv : S → Prop) (must : R → List (Event Op C S) → Op → C → S → Prop)
    (o : Op) : Prop :=
  ∀ req trace c s, K.uses o c s = [] ∧ must req trace o c s ∧ (inv s → inv (sys.exec o c s).2)

/-- What is known of the part of a key lasts while it is the same. -/
def LastsWith (K : Keyed sys κ) (k : κ) (M : S → Prop) : Prop :=
  ∀ s s', K.same k s s' → M s → M s'

section Course

variable {s' : S} {o : Op} {c : C} {k : κ} {M M' : S → Prop} {α : Type}
variable (kept : ∀ k s s', idle k s → K.same k s s' → idle k s')

/-- The keys that an operation may use are idle before it. -/
theorem idle_of_may (all : K.AllIdle idle trace s)
    (may : (K.contract inv idle P must).may req trace o c s)
    (mem : k ∈ K.usedIn (trace ++ [⟨o, c, s⟩])) : idle k s :=
  (mem_usedIn_append_singleton.mp mem).elim (all k) fun used => (may.2 k used).elim (all k) id

include kept

theorem AllIdle.of_rely (all : K.AllIdle idle trace s)
    (rely : (K.contract inv idle P must).rely req trace s s') : K.AllIdle idle trace s' :=
  fun k used => kept k s s' (all k used) (rely k used)

/-- An operation leaves the parts of the keys idle that it does not use. -/
theorem idle_of_unused (idles : idle k s) (unused : k ∉ K.uses o c s) :
    idle k (sys.exec o c s).2 :=
  kept k s _ idles (K.frame o c s k unused)

/-- Operations that use no key leave the parts of the keys idle. -/
theorem AllIdle.of_only {p : Prog Op Res α} (all : K.AllIdle idle trace s)
    (only : p.Only (K.Aside inv must)) :
    (K.contract inv idle P must).Safe req p (fun _ tr s' => K.AllIdle idle tr s') trace s := by
  refine Contract.safe_of_only (J := K.AllIdle idle) only all
    (fun _ _ _ all rely _ => all.of_rely kept rely) fun tr s₁ o c aside all inv' may => ?_
  obtain ⟨unused, guaranteed, keeps⟩ := aside req tr c s₁
  refine ⟨guaranteed, keeps inv', fun k mem => ?_⟩
  exact idle_of_unused kept (idle_of_may all may mem) (by rw [unused]; exact List.not_mem_nil)

/-- An operation on one key leaves the parts of the others idle. -/
theorem idle_others (others : ∀ j ∈ K.usedIn trace, j ≠ k → idle j s)
    (only : ∀ j ∈ K.uses o c s, j = k) :
    ∀ j ∈ K.usedIn (trace ++ [⟨o, c, s⟩]), j ≠ k → idle j (sys.exec o c s).2 := by
  intro j mem other
  have unused : j ∉ K.uses o c s := fun uses => other (only j uses)
  have used := (mem_usedIn_append_singleton.mp mem).resolve_right unused
  exact idle_of_unused kept (others j used other) unused

/-- An operation on one key, with which the task begins to change its part. -/
theorem AllIdle.begin (all : K.AllIdle idle trace s) (used : k ∈ K.usedIn trace)
    (only : ∀ j ∈ K.uses o c s, j = k) (here : M (sys.exec o c s).2) :
    K.UnderWay idle k M (trace ++ [⟨o, c, s⟩]) (sys.exec o c s).2 where
  used := mem_usedIn_append_singleton.mpr (.inl used)
  others := idle_others kept (fun j used _ => all j used) only
  here := here

namespace UnderWay

theorem of_rely (underWay : K.UnderWay idle k M trace s) (lasts : K.LastsWith k M)
    (rely : (K.contract inv idle P must).rely req trace s s') :
    K.UnderWay idle k M trace s' where
  used := underWay.used
  others j used other := kept j s s' (underWay.others j used other) (rely j used)
  here := lasts s s' (rely k underWay.used) underWay.here

omit kept in
/-- An operation meanwhile that leaves idle what is idle. -/
theorem step (underWay : K.UnderWay idle k M trace s)
    (may : (K.contract inv idle P must).may req trace o c s)
    (stays : ∀ j, j ≠ k → idle j s → idle j (sys.exec o c s).2) (here : M' (sys.exec o c s).2) :
    K.UnderWay idle k M' (trace ++ [⟨o, c, s⟩]) (sys.exec o c s).2 := by
  refine ⟨mem_usedIn_append_singleton.mpr (.inl underWay.used), fun j mem other => ?_, here⟩
  refine stays j other ?_
  rcases mem_usedIn_append_singleton.mp mem with used | uses
  · exact underWay.others j used other
  · exact (may.2 j uses).elim (fun used => underWay.others j used other) id

/-- An operation on the key meanwhile. -/
theorem next (underWay : K.UnderWay idle k M trace s) (only : ∀ j ∈ K.uses o c s, j = k)
    (here : M' (sys.exec o c s).2) :
    K.UnderWay idle k M' (trace ++ [⟨o, c, s⟩]) (sys.exec o c s).2 where
  used := mem_usedIn_append_singleton.mpr (.inl underWay.used)
  others := idle_others kept underWay.others only
  here := here

/-- An operation on the key with which the task restores its part. -/
theorem finish (underWay : K.UnderWay idle k M trace s) (only : ∀ j ∈ K.uses o c s, j = k)
    (own : idle k (sys.exec o c s).2) : K.AllIdle idle (trace ++ [⟨o, c, s⟩]) (sys.exec o c s).2 := by
  intro j mem
  by_cases here : j = k
  · rw [here]
    exact own
  · exact idle_others kept underWay.others only j mem here

/-- Operations that use no key meanwhile. -/
theorem of_only {p : Prog Op Res α} (underWay : K.UnderWay idle k M trace s)
    (lasts : K.LastsWith k M) (only : p.Only (K.Aside inv must)) :
    (K.contract inv idle P must).Safe req p (fun _ tr s' => K.UnderWay idle k M tr s') trace s := by
  refine Contract.safe_of_only (J := K.UnderWay idle k M) only underWay
    (fun _ _ _ underWay rely _ => underWay.of_rely kept lasts rely)
    fun tr s₁ o c aside underWay inv' may => ?_
  obtain ⟨unused, guaranteed, keeps⟩ := aside req tr c s₁
  have spared : ∀ j, j ∉ K.uses o c s₁ := fun j => by rw [unused]; exact List.not_mem_nil
  exact ⟨guaranteed, keeps inv', underWay.step may
    (fun j _ idles => idle_of_unused kept idles (spared j))
    (lasts s₁ _ (K.frame o c s₁ k (spared k)) underWay.here)⟩

/-- One operation meanwhile, and what follows it. -/
theorem bind {next : Res o → Prog Op Res α} {post : α → List (Event Op C S) → S → Prop}
    (underWay : K.UnderWay idle k M trace s) (lasts : K.LastsWith k M)
    (own : ∀ c s', K.UnderWay idle k M trace s' → inv s' →
      (K.contract inv idle P must).may req trace o c s' → must req trace o c s' ∧
        inv (sys.exec o c s').2 ∧ (K.contract inv idle P must).Safe req (next (sys.exec o c s').1)
          post (trace ++ [⟨o, c, s'⟩]) (sys.exec o c s').2) :
    (K.contract inv idle P must).Safe req (Prog.perform o >>= next) post trace s :=
  Contract.safe_perform_bind.mpr fun s' rely inv c may =>
    own c s' (underWay.of_rely kept lasts rely) inv may

end UnderWay

end Course

/-! ### Runs -/

/-- What is needed for runs to keep the contract: a request that is admitted keeps it, and
leaves the part of each key it has used idle. -/
structure Sound (K : Keyed sys κ) (inv : S → Prop) (idle : κ → S → Prop) (admits : R → Prop)
    (P must : R → List (Event Op C S) → Op → C → S → Prop) : Prop where
  kept : ∀ k s s', idle k s → K.same k s s' → idle k s'
  start : ∀ req s, admits req → inv s → (K.contract inv idle P must).Safe req (sys.prog req)
    (fun _ trace s' => ∀ k ∈ K.usedIn trace, idle k s') [] s

/-- The invariant of such runs: a task at work is safe, and the part of a key is idle when no
task at work has used it. -/
structure Holds (K : Keyed sys κ) (inv : S → Prop) (idle : κ → S → Prop)
    (P must : R → List (Event Op C S) → Op → C → S → Prop) (pool : Pool Op Res C S R) : Prop where
  invariant : inv pool.state
  safe : ∀ (i : Nat) (task : Task Op Res C S R), pool.tasks[i]? = some task → task.busy →
    (K.contract inv idle P must).Safe task.req task.rest
      (fun _ trace s => ∀ k ∈ K.usedIn trace, idle k s) task.trace pool.state
  quiet : ∀ k, (∀ (i : Nat) (task : Task Op Res C S R), pool.tasks[i]? = some task → task.busy →
    k ∉ K.usedIn task.trace) → idle k pool.state

namespace Sound

/-- An operation of a run may be assumed. -/
theorem may_of_turns {pool : Pool Op Res C S R} (holds : K.Holds inv idle P must pool) {i : Nat}
    {c : C} {o : Op} {next : Res o → Prog Op Res Unit} (meets : K.Turns admits P pool (.act i c))
    (found : pool.tasks[i]? = some ⟨req, trace, .op o next⟩) :
    (K.contract inv idle P must).may req trace o c pool.state := by
  obtain ⟨spared, performed⟩ := meets req trace o next found
  refine ⟨performed, fun k used => ?_⟩
  -- a key that is new to the task is idle, because no other task at work has it either
  by_cases own : k ∈ K.usedIn trace
  · exact .inl own
  · refine .inr (holds.quiet k fun j task at_j busy => ?_)
    by_cases here : j = i
    · subst here
      cases found.symm.trans at_j
      exact own
    · exact spared j (List.getElem?_eq_some_iff.mp at_j).1 here task at_j busy k used

theorem holds_step (sound : K.Sound inv idle admits P must) {pool pool' : Pool Op Res C S R}
    {l : Label C R} (holds : K.Holds inv idle P must pool) (meets : K.Turns admits P pool l)
    (next : sys.step pool l = some pool') : K.Holds inv idle P must pool' := by
  obtain ⟨req, rfl, rfl⟩ | ⟨i, c, req, trace, o, k, rfl, found, rfl⟩ := System.step_cases next
  · -- a new task has used no key, and nothing else has changed
    refine ⟨holds.invariant, fun j task at_j busy => ?_, fun key unused => ?_⟩
    · obtain ⟨old, -⟩ | ⟨_, eq, rfl⟩ | ⟨_, _, _, _, _, eq, -⟩ := System.task_cases next at_j
      · exact holds.safe j task old busy
      · cases eq
        exact sound.start req pool.state meets holds.invariant
      · cases eq
    · refine holds.quiet key fun j task at_j => unused j task ?_
      rw [List.getElem?_append_left (List.getElem?_eq_some_iff.mp at_j).1]
      exact at_j
  · -- one task moves: it was safe, so it keeps the invariant and what is left of it is safe
    obtain ⟨-, inv', rest⟩ := holds.safe i _ found rfl pool.state (fun k _ => K.same_refl k _)
      holds.invariant c (may_of_turns holds meets found)
    have bound : i < pool.tasks.length := (List.getElem?_eq_some_iff.mp found).1
    refine ⟨inv', fun j task at_j busy => ?_, fun key unused => ?_⟩
    · obtain ⟨old, other⟩ | ⟨_, eq, -⟩ | ⟨_, _, _, _, _, eq, old, rfl⟩ :=
        System.task_cases next at_j
      · -- another task has the keys it has used for itself, so it may take the step as its rely
        have elsewhere : j ≠ i := by
          rintro rfl
          exact other c rfl
        have spared := (meets req trace o k found).1 j (List.getElem?_eq_some_iff.mp old).1
          elsewhere task old busy
        obtain ⟨req', trace', rest'⟩ := task
        cases rest' with
        | pure a => cases busy
        | op o' next' =>
          intro s' relied
          refine holds.safe j _ old rfl s' ?_
          exact (K.contract inv idle P must).rely_trans req' trace' _ _ _ (fun key used =>
            K.frame o c pool.state key fun mine => spared key mine used) relied
      · cases eq
      · cases eq
        cases found.symm.trans old
        exact rest
    · -- the key is one of a task that has just ended, or the step has not used it
      by_cases mine : key ∈ K.usedIn (trace ++ [⟨o, c, pool.state⟩])
      · cases end_of : k (sys.exec o c pool.state).1 with
        -- the task has ended, and with it the part of its key is restored
        | pure u =>
          rw [end_of] at rest
          exact rest key mine
        | op o' k' =>
          refine absurd mine (unused i _ (List.getElem?_set_self bound) ?_)
          rw [end_of]
          rfl
      · rw [mem_usedIn_append_singleton, not_or] at mine
        refine sound.kept key _ _ (holds.quiet key fun j task at_j busy => ?_)
          (K.frame o c pool.state key mine.2)
        by_cases here : j = i
        · subst here
          cases found.symm.trans at_j
          exact mine.1
        · refine unused j task ?_ busy
          rw [List.getElem?_set_ne (Ne.symm here)]
          exact at_j

variable {pool : Pool Op Res C S R}

theorem holds_of_reaches (sound : K.Sound inv idle admits P must) (initial : inv s)
    (idles : ∀ k, idle k s) (reaches : sys.Reaches (K.Turns admits P) (Pool.init s) pool) :
    K.Holds inv idle P must pool := by
  refine reaches.induct ⟨initial, fun i task found => ?_, fun k _ => idles k⟩
    fun _ _ _ holds meets next => sound.holds_step holds meets next
  simp [Pool.init] at found

/-- Whenever a task performs an operation, it guarantees what the contract says. -/
theorem must_of_reaches (sound : K.Sound inv idle admits P must) (initial : inv s)
    (idles : ∀ k, idle k s) (reaches : sys.Reaches (K.Turns admits P) (Pool.init s) pool) {i : Nat}
    {c : C} {o : Op} {next : Res o → Prog Op Res Unit} (meets : K.Turns admits P pool (.act i c))
    (found : pool.tasks[i]? = some ⟨req, trace, .op o next⟩) : must req trace o c pool.state := by
  have holds := sound.holds_of_reaches initial idles reaches
  exact (holds.safe i _ found rfl pool.state (fun k _ => K.same_refl k _) holds.invariant c
    (may_of_turns holds meets found)).1

end Sound

end Keyed

end Concurrent

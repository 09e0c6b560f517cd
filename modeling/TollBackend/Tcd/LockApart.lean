import TollBackend.Tcd.Save

/-!
# Fee lines are saved once

Calls that save the fee lines of one transaction are kept apart by a lock in KeyDB. While
every call for the transaction takes it, and it does not expire before its holder is done, at
most one call works on the rows of the transaction at a time, and then the table has at most
one row for each pair of stations. A node without KeyDB takes no lock, and a lock that has
expired lets a second call in, which inserts a pair again.

## Main definitions

* `LockApart`: no call passes the lock while another call for its transaction is saving.

## Main results

* `Apart.of_reaches`: then at most one call for a transaction is under way.
* `savesOnce_of_reaches`: the table has at most one row for each pair of stations, and a call
  that succeeds alone leaves exactly the lines of its list.
-/

namespace TollBackend

open Concurrent

/-- The call saves lines of the transaction. -/
def TcdReq.Saves (id : Int) : TcdReq → Prop
  | .save call => call.transportTransId = id
  | .expire _ => False

instance (id : Int) : DecidablePred (TcdReq.Saves id) := fun req => by
  induction req using TcdReq.casesOn <;> (unfold TcdReq.Saves; infer_instance)

/-- The call passed the lock on a node with KeyDB, so it took it. -/
def TookLock (past : List (Event TcdOp TcdChoice TcdState)) : Bool :=
  past.head?.any fun ev => ev.choice.keydb

/-- Every other call for the transaction that is under way satisfies `P`, given its past. -/
def OtherSavers (pool : Pool TcdOp TcdRes TcdChoice TcdState TcdReq) (i : Nat) (id : Int)
    (P : List (Event TcdOp TcdChoice TcdState) → Prop) : Prop :=
  ∀ j < pool.tasks.length, j ≠ i → ∀ task ∈ pool.tasks[j]?, task.req.Saves id →
    task.InProgress → P task.trace

instance (pool : Pool TcdOp TcdRes TcdChoice TcdState TcdReq) (i : Nat) (id : Int)
    (P : List (Event TcdOp TcdChoice TcdState) → Prop) [DecidablePred P] :
    Decidable (OtherSavers pool i id P) := by
  unfold OtherSavers; infer_instance

/-- The lock keeps calls apart: a call without KeyDB overlaps no call for the same transaction,
and a lock does not expire while the call that took it is saving. Reads skip no row. -/
def LockApart : Pool TcdOp TcdRes TcdChoice TcdState TcdReq → Label TcdChoice TcdReq → Prop :=
  System.EachStep fun pool i _ _ o c =>
    match o with
    | .acquire id => OtherSavers pool i id fun past => c.keydb = true ∧ TookLock past = true
    | .expire id => OtherSavers pool i id fun past => TookLock past = false
    | o => ReadsAll o c pool.state

instance (o : TcdOp) (c : TcdChoice) (s : TcdState) : Decidable (ReadsAll o c s) := by
  induction o using TcdOp.casesOn <;> (unfold ReadsAll; infer_instance)

instance (o : TcdOp) (c : TcdChoice) : Decidable (Deletes o c) := by
  induction o using TcdOp.casesOn <;> (unfold Deletes; infer_instance)

instance (pool : Pool TcdOp TcdRes TcdChoice TcdState TcdReq) (l : Label TcdChoice TcdReq) :
    Decidable (LockApart pool l) := by
  refine @System.instDecidableEachStep _ _ _ _ _ _ (fun pool i _ _ o c => ?_) pool l
  induction o using TcdOp.casesOn <;> infer_instance

/-- What is left of a call that has passed the lock: operations on the table, and then the
release of the lock. -/
def Closes (id : Int) : TcdProg Unit → Prop
  | .pure _ => False
  | .op (.release id') next => id' = id ∧ ∀ r, ∃ u, next r = .pure u
  | .op (.acquire _) _ => False
  | .op (.expire _) _ => False
  | .op _ next => ∀ r, Closes id (next r)

/-- Operations on the table. -/
def TableOp : TcdOp → Prop
  | .acquire _ => False
  | .release _ => False
  | .expire _ => False
  | _ => True

theorem tableOp_locks {o : TcdOp} (table : TableOp o) (c : TcdChoice) (s : TcdState) :
    (tcdExec o c s).2.locks = s.locks := by
  cases o with
  | acquire | release | expire => cases table
  | find =>
    simp only [tcdExec]
    split <;> rfl
  | insert tcd =>
    rcases Decidable.em ((c.rowFor tcd).transportStageTcdId ∈
      s.table.map TransportTransStageTcd.transportStageTcdId) with taken | fresh
    · exact congrArg (fun r : DbResult Unit × TcdState => r.2.locks) (if_pos taken)
    · refine (congrArg (fun r : DbResult Unit × TcdState => r.2.locks) (if_neg fresh)).trans ?_
      simp only [TcdState.write]
      split <;> rfl
  | update | delete | deleteAll =>
    simp only [tcdExec, TcdState.write]
    split <;> rfl

theorem Closes.of_only {α : Type} {id : Int} {p : TcdProg α} {f : α → TcdProg Unit}
    (only : p.Only TableOp) (closes : ∀ a, Closes id (f a)) : Closes id (p >>= f) := by
  induction p with
  | pure a => exact closes a
  | op o next ih =>
    obtain ⟨table, rest⟩ := only
    cases o with
    | acquire | release | expire => cases table
    | _ => exact fun r => ih r (rest r)

/-- The next operation of a call that has passed the lock. -/
theorem Closes.next {id : Int} {o : TcdOp} {k : TcdRes o → TcdProg Unit}
    (closes : Closes id (.op o k)) :
    (o = .release id ∧ ∀ r, ∃ u, k r = .pure u) ∨ (TableOp o ∧ ∀ r, Closes id (k r)) := by
  cases o with
  | acquire | expire => cases closes
  | release id' =>
    obtain ⟨rfl, last⟩ := closes
    exact .inl ⟨rfl, last⟩
  | _ => exact .inr ⟨trivial, closes⟩

theorem updateOrInsertEach_only (existingByKey todo : List TransportTransStageTcd) :
    (updateOrInsertEach existingByKey todo).Only TableOp := by
  induction todo with
  | nil => trivial
  | cons tcd rest ih =>
    rw [updateOrInsertEach]
    split
    · refine ⟨trivial, fun r => ?_⟩
      cases r with
      | error message => trivial
      | ok u => exact ih
    · refine ⟨trivial, fun r => ?_⟩
      cases r with
      | error message => trivial
      | ok u => exact ih

theorem deleteEach_only (todo : List TransportTransStageTcd) :
    (deleteEach todo).Only TableOp := by
  induction todo with
  | nil => trivial
  | cons row rest ih => exact ⟨trivial, fun _ => ih⟩

theorem saveTcdList_only (call : SaveCall) : (saveTcdList call).Only TableOp := by
  unfold saveTcdList
  split
  · exact ⟨trivial, fun _ => trivial⟩
  · refine ⟨trivial, fun r => ?_⟩
    cases r with
    | error message => trivial
    | ok existing =>
      refine (updateOrInsertEach_only _ _).bind fun result => ?_
      cases result with
      | error message => trivial
      | ok u => exact (deleteEach_only _).bind fun _ => trivial

abbrev TcdTask : Type :=
  Task TcdOp TcdRes TcdChoice TcdState TcdReq

abbrev TcdPool : Type :=
  Pool TcdOp TcdRes TcdChoice TcdState TcdReq

/-- A task has not begun, or is done, or has passed the lock. -/
def Shape (task : TcdTask) : Prop :=
  (task.trace = [] ∧ task.rest = tcdSaves.prog task.req) ∨
  (task.trace ≠ [] ∧ ∃ u, task.rest = .pure u) ∨
  (task.trace ≠ [] ∧ ∃ call, task.req = .save call ∧ Closes call.transportTransId task.rest)

/-- The program of a call: the lock, the table, and the release of the lock. -/
theorem prog_save (call : SaveCall) :
    tcdSaves.prog (.save call) = .op (.acquire call.transportTransId) fun acquired : Bool =>
      if acquired = true then saveTcdList call >>= fun _ =>
        .op (.release call.transportTransId) fun _ => .pure ()
      else .pure () := by
  show Prog.op _ _ = Prog.op _ _
  congr 1
  funext acquired
  cases acquired with
  | false => rfl
  | true => exact Prog.bind_assoc' (saveTcdList call) _ _

/-- The locks other than that of one transaction are still held. -/
def KeepsLocks (id : Int) (s s' : TcdState) : Prop :=
  ∀ id' ∈ s.locks, id' ≠ id → id' ∈ s'.locks

/-- What a task can do next: try to take the lock, let it expire, or go on with a call that has
passed the lock. -/
theorem Shape.next {req : TcdReq} {trace : List (Event TcdOp TcdChoice TcdState)} {o : TcdOp}
    {k : TcdRes o → TcdProg Unit} (shape : Shape ⟨req, trace, .op o k⟩) (c : TcdChoice)
    (s : TcdState) :
    Shape ⟨req, trace ++ [⟨o, c, s⟩], k (tcdExec o c s).1⟩ ∧
    ((∃ call, trace = [] ∧ req = .save call ∧ o = .acquire call.transportTransId ∧
      (((tcdExec o c s).2.locks = s.locks ∧
          ((∃ u, k (tcdExec o c s).1 = .pure u) ∨ c.keydb = false)) ∨
        (c.keydb = true ∧ call.transportTransId ∉ s.locks ∧
          (tcdExec o c s).2.locks = call.transportTransId :: s.locks))) ∨
    (∃ id, req = .expire id ∧ o = .expire id ∧ KeepsLocks id s (tcdExec o c s).2) ∨
    (∃ call, trace ≠ [] ∧ req = .save call ∧
      KeepsLocks call.transportTransId s (tcdExec o c s).2 ∧
      ((∃ u, k (tcdExec o c s).1 = .pure u) ∨ (tcdExec o c s).2.locks = s.locks))) := by
  rcases shape with ⟨fresh, start⟩ | ⟨-, u, done⟩ | ⟨begun, call, eq, closes⟩
  · cases req with
    | save call =>
      obtain ⟨rfl, eq⟩ := Prog.op.inj (start.trans (prog_save call))
      obtain rfl := eq_of_heq eq
      have closes : Closes call.transportTransId (saveTcdList call >>= fun _ =>
          .op (.release call.transportTransId) fun _ => .pure ()) :=
        Closes.of_only (saveTcdList_only call) fun _ => ⟨rfl, fun _ => ⟨(), rfl⟩⟩
      obtain rfl : trace = [] := fresh
      rcases acquire_cases call.transportTransId c s with ⟨keydb, eq⟩ | ⟨keydb, free, eq⟩ | eq
      · rw [eq]
        exact ⟨.inr (.inr ⟨by simp, call, rfl, closes⟩),
          .inl ⟨call, rfl, rfl, rfl, .inl ⟨rfl, .inr keydb⟩⟩⟩
      · rw [eq]
        exact ⟨.inr (.inr ⟨by simp, call, rfl, closes⟩),
          .inl ⟨call, rfl, rfl, rfl, .inr ⟨keydb, free, rfl⟩⟩⟩
      · rw [eq]
        exact ⟨.inr (.inl ⟨by simp, (), rfl⟩),
          .inl ⟨call, rfl, rfl, rfl, .inl ⟨rfl, .inl ⟨(), rfl⟩⟩⟩⟩
    | expire id =>
      obtain ⟨rfl, eq⟩ := Prog.op.inj start
      obtain rfl := eq_of_heq eq
      refine ⟨.inr (.inl ⟨by simp, (), rfl⟩), .inr (.inl ⟨id, rfl, rfl, ?_⟩)⟩
      intro id' held other
      simpa [tcdExec] using ⟨held, other⟩
  · cases done
  · obtain rfl : req = .save call := eq
    rcases closes.next with ⟨rfl, last⟩ | ⟨table, rest⟩
    · refine ⟨.inr (.inl ⟨by simp, last _⟩), .inr (.inr ⟨call, begun, rfl, ?_, .inl (last _)⟩)⟩
      intro id' held other
      simp only [tcdExec]
      split_ifs
      · exact held
      · simpa using ⟨held, other⟩
    · have locks := tableOp_locks table c s
      refine ⟨.inr (.inr ⟨by simp, call, rfl, rest _⟩), .inr (.inr ⟨call, begun, rfl, ?_,
        .inr locks⟩)⟩
      intro id' held _
      rw [locks]
      exact held

/-- At most one call for each transaction is under way, and if it took the lock, the lock is
still there. -/
structure Apart (pool : TcdPool) : Prop where
  shape : ∀ (i : Nat) (task : TcdTask), pool.tasks[i]? = some task → Shape task
  one : ∀ (i j : Nat) (task task' : TcdTask) (id : Int), pool.tasks[i]? = some task →
    pool.tasks[j]? = some task' → i ≠ j → task.InProgress → task'.InProgress →
    task.req.Saves id → ¬ task'.req.Saves id
  held : ∀ (i : Nat) (task : TcdTask) (id : Int), pool.tasks[i]? = some task →
    task.InProgress → task.req.Saves id → TookLock task.trace = true → id ∈ pool.state.locks

theorem not_inProgress_of_pure {task : TcdTask} (done : ∃ u, task.rest = .pure u) :
    ¬ task.InProgress := by
  obtain ⟨u, eq⟩ := done
  rintro ⟨-, busy⟩
  rw [Task.busy, eq] at busy
  cases busy

theorem tookLock_append {past : List (Event TcdOp TcdChoice TcdState)}
    {ev : Event TcdOp TcdChoice TcdState} (begun : past ≠ []) :
    TookLock (past ++ [ev]) = TookLock past := by
  cases past with
  | nil => exact absurd rfl begun
  | cons first rest => rfl

section Step

variable {pool : TcdPool} {i j : Nat} {c : TcdChoice} {req : TcdReq} {task : TcdTask} {id : Int}
variable {trace : List (Event TcdOp TcdChoice TcdState)} {o : TcdOp}
variable {k : TcdRes o → TcdProg Unit}

/-- A call that comes to be, or stays, under way does so while no other call for its transaction
is. -/
theorem Apart.act_one (apart : Apart pool) (meets : LockApart pool (.act i c))
    (found : pool.tasks[i]? = some ⟨req, trace, .op o k⟩) (other : pool.tasks[j]? = some task)
    (ne : j ≠ i) (busy : task.InProgress) (saves : task.req.Saves id)
    (after : Task.InProgress (⟨req, trace ++ [⟨o, c, pool.state⟩],
      k (tcdExec o c pool.state).1⟩ : TcdTask)) : ¬ req.Saves id := by
  intro own
  have bound := (List.getElem?_eq_some_iff.mp other).1
  rcases ((apart.shape i _ found).next c pool.state).2 with
    ⟨call, rfl, rfl, rfl, passes⟩ | ⟨id', rfl, -⟩ | ⟨call, begun, rfl, -⟩
  · obtain rfl : call.transportTransId = id := own
    obtain ⟨keydb, took⟩ := meets _ _ _ _ found j bound ne task other saves busy
    rcases passes with ⟨-, done | without⟩ | ⟨-, free, -⟩
    · exact not_inProgress_of_pure done after
    · rw [keydb] at without
      cases without
    · exact free (apart.held j task _ other busy saves took)
  · exact own
  · exact apart.one i j _ task id found other ne.symm ⟨begun, rfl⟩ busy own saves

/-- The lock of a call under way outlives what the other tasks do. -/
theorem Apart.act_held (apart : Apart pool) (meets : LockApart pool (.act i c))
    (found : pool.tasks[i]? = some ⟨req, trace, .op o k⟩) (other : pool.tasks[j]? = some task)
    (ne : j ≠ i) (busy : task.InProgress) (saves : task.req.Saves id)
    (took : TookLock task.trace = true) : id ∈ (tcdExec o c pool.state).2.locks := by
  have bound := (List.getElem?_eq_some_iff.mp other).1
  have held := apart.held j task id other busy saves took
  rcases ((apart.shape i _ found).next c pool.state).2 with
    ⟨call, rfl, rfl, rfl, passes⟩ | ⟨id', rfl, rfl, keeps⟩ | ⟨call, begun, rfl, keeps, -⟩
  · rcases passes with ⟨same, -⟩ | ⟨-, -, added⟩
    · rw [same]
      exact held
    · rw [added]
      exact List.mem_cons_of_mem _ held
  · refine keeps id held fun eq => ?_
    subst eq
    have lost : TookLock task.trace = false :=
      meets _ _ _ _ found j bound ne task other saves busy
    rw [took] at lost
    cases lost
  · refine keeps id held fun eq => ?_
    subst eq
    exact apart.one i j _ task _ found other ne.symm ⟨begun, rfl⟩ busy rfl saves

/-- A call that took the lock has it while it is under way. -/
theorem Apart.act_own (apart : Apart pool)
    (found : pool.tasks[i]? = some ⟨req, trace, .op o k⟩)
    (after : Task.InProgress (⟨req, trace ++ [⟨o, c, pool.state⟩],
      k (tcdExec o c pool.state).1⟩ : TcdTask)) (saves : req.Saves id)
    (took : TookLock (trace ++ [⟨o, c, pool.state⟩]) = true) :
    id ∈ (tcdExec o c pool.state).2.locks := by
  rcases ((apart.shape i _ found).next c pool.state).2 with
    ⟨call, rfl, rfl, rfl, passes⟩ | ⟨id', rfl, -⟩ | ⟨call, begun, rfl, -, goes⟩
  · obtain rfl : call.transportTransId = id := saves
    rcases passes with ⟨-, done | without⟩ | ⟨-, -, added⟩
    · exact absurd after (not_inProgress_of_pure done)
    · rw [List.nil_append] at took
      exact absurd (took.symm.trans without) (by simp)
    · rw [added]
      exact List.mem_cons_self
  · cases saves
  · rcases goes with done | same
    · exact absurd after (not_inProgress_of_pure done)
    · rw [same]
      rw [tookLock_append begun] at took
      exact apart.held i _ id found ⟨begun, rfl⟩ saves took

end Step

theorem Apart.step {pool pool' : TcdPool} {l : Label TcdChoice TcdReq} (apart : Apart pool)
    (meets : LockApart pool l) (next : tcdSaves.step pool l = some pool') : Apart pool' := by
  obtain ⟨req, rfl, rfl⟩ | ⟨i, c, req, trace, o, k, rfl, found, rfl⟩ := System.step_cases next
  · -- a request that is admitted has not begun
    have old : ∀ (j : Nat) (task : TcdTask), (pool.tasks ++ [⟨req, [], tcdSaves.prog req⟩])[j]? =
        some task → pool.tasks[j]? = some task ∨ task = ⟨req, [], tcdSaves.prog req⟩ := by
      intro j task at_j
      obtain ⟨here, -⟩ | ⟨_, eq, rfl⟩ | ⟨_, _, _, _, _, eq, -⟩ := System.task_cases next at_j
      · exact .inl here
      · cases eq
        exact .inr rfl
      · cases eq
    refine ⟨fun j task at_j => ?_, fun i j task task' id at_i at_j ne busy busy' => ?_,
      fun j task id at_j busy => ?_⟩
    · rcases old j task at_j with here | rfl
      · exact apart.shape j task here
      · exact .inl ⟨rfl, rfl⟩
    · rcases old i task at_i with here | rfl
      · rcases old j task' at_j with here' | rfl
        · exact apart.one i j task task' id here here' ne busy busy'
        · exact absurd rfl busy'.1
      · exact absurd rfl busy.1
    · rcases old j task at_j with here | rfl
      · exact apart.held j task id here busy
      · exact absurd rfl busy.1
  · have old : ∀ (j : Nat) (task : TcdTask), (pool.tasks.set i ⟨req, trace ++ [⟨o, c, pool.state⟩],
        k (tcdSaves.exec o c pool.state).1⟩)[j]? = some task →
        (j ≠ i ∧ pool.tasks[j]? = some task) ∨ (j = i ∧ task =
          ⟨req, trace ++ [⟨o, c, pool.state⟩], k (tcdSaves.exec o c pool.state).1⟩) := by
      intro j task at_j
      obtain ⟨here, other⟩ | ⟨_, eq, -⟩ | ⟨_, _, _, _, _, eq, here, rfl⟩ :=
        System.task_cases next at_j
      · exact .inl ⟨fun eq => other c (by rw [eq]), here⟩
      · cases eq
      · cases eq
        cases found.symm.trans here
        exact .inr ⟨rfl, rfl⟩
    refine ⟨fun j task at_j => ?_, fun a b task task' id at_a at_b ne busy busy' saves saves' => ?_,
      fun j task id at_j busy saves took => ?_⟩
    · rcases old j task at_j with ⟨-, here⟩ | ⟨rfl, rfl⟩
      · exact apart.shape j task here
      · exact ((apart.shape j _ found).next c pool.state).1
    · rcases old a task at_a with ⟨ne_a, here⟩ | ⟨rfl, rfl⟩
      · rcases old b task' at_b with ⟨-, here'⟩ | ⟨rfl, rfl⟩
        · exact apart.one a b task task' id here here' ne busy busy' saves saves'
        · exact apart.act_one meets found here ne_a busy saves busy' saves'
      · rcases old b task' at_b with ⟨ne_b, here'⟩ | ⟨rfl, -⟩
        · exact apart.act_one meets found here' ne_b busy' saves' busy saves
        · exact ne rfl
    · rcases old j task at_j with ⟨ne, here⟩ | ⟨rfl, rfl⟩
      · exact apart.act_held meets found here ne busy saves took
      · exact apart.act_own found busy saves took

/-- Calls that meet only through the lock are kept apart by it. -/
theorem Apart.of_reaches {s : TcdState} {pool : TcdPool}
    (reaches : tcdSaves.Reaches LockApart (Pool.init s) pool) : Apart pool := by
  refine reaches.induct ⟨?_, ?_, ?_⟩ fun _ _ _ apart meets next => apart.step meets next
  · intro i task found
    simp [Pool.init] at found
  · intro i j task task' id found
    simp [Pool.init] at found
  · intro i task id found
    simp [Pool.init] at found

/-! ### Saved once -/

theorem expire_safe (id : Int) (s : TcdState) :
    saveContract.Safe (.expire id) (tcdSaves.prog (.expire id)) (fun _ _ _ => True) [] s :=
  fun _ _ sane _ _ => ⟨rfl, sane.of_table rfl, trivial⟩

/-- Calls that are kept apart keep their contract. -/
theorem saveContract_sound :
    saveContract.Sound fun pool l => LockApart pool l ∧ Apart pool where
  start pool req _ _ := by
    cases req with
    | save call =>
      refine Contract.safe_bind.mpr ((saveBectTcdListWithLock_safe call pool.state).mono ?_)
      exact fun _ _ _ _ => trivial
    | expire id => exact expire_safe id pool.state
  own pool i c req trace o next meets found := by
    have allowed := meets.1 req trace o next found
    cases o with
    | find id => exact allowed
    | _ => trivial
  others pool i c req trace o next j req' trace' o' next' meets found _ must ne there := by
    cases req' with
    | expire id => trivial
    | save call' =>
      intro begun'
      cases req with
      | expire id => exact .of_table must
      | save call =>
        by_cases same : call'.transportTransId = call.transportTransId
        · -- two calls for one transaction: this one can only be at the lock
          by_cases begun : trace = []
          · exact .of_table (must.1 begun)
          · exact absurd same (meets.2.one i j _ _ call.transportTransId found there ne.symm
              ⟨begun, rfl⟩ ⟨begun', rfl⟩ rfl)
        · exact must.2 _ same

/-- While calls for one transaction are kept apart by the lock, the table has at most one row for
each pair of stations, and a call that succeeds alone, with its reads and deletions, leaves
exactly the lines of its list. -/
theorem savesOnce_of_reaches {s : TcdState} {pool : TcdPool} (initial : s.Sane)
    (reaches : tcdSaves.Reaches LockApart (Pool.init s) pool) :
    OneRowEach pool.state.table ∧
    ∀ (call : SaveCall) (choices : Nat → TcdChoice),
      (∀ ev ∈ (saveBectTcdListWithLock call).past tcdExec choices pool.state,
        ReadsAll ev.op ev.choice ev.pre ∧ Deletes ev.op ev.choice) →
      ((saveBectTcdListWithLock call).run tcdExec choices pool.state).1 = .ok () →
      call.Saved ((saveBectTcdListWithLock call).run tcdExec choices pool.state).2.table := by
  have apart := reaches.with_invariant fun pool reaches => Apart.of_reaches reaches
  have sane := (saveContract_sound.holds_of_reaches initial apart).1
  refine ⟨sane.one, fun call choices allowed ok => ?_⟩
  have outcome := (saveBectTcdListWithLock_safe call pool.state).run sane choices
    fun ev mem _ => (allowed ev mem).1
  exact outcome ok fun ev mem => (allowed ev mem).2

/-- A call that saves one line of transaction `5`. -/
def oneLine (priceAmount : Int) : SaveCall where
  transportTransId := 5
  toSave := [{ transportTransId := 5, tollAId := some 1, tollBId := some 2
               priceAmount := some priceAmount }]
  own := by simp

/-- A call from `s` on its own, every operation of which succeeds. -/
def SaveCall.alone (call : SaveCall) (s : TcdState) : DbResult Unit × TcdState :=
  (saveBectTcdListWithLock call).run tcdExec (fun _ => {}) s

/-- Two calls of which the second comes when the first has released the lock, one that comes too
early, and a last one alone. -/
theorem savesOnce_oneLine :
    ∃ pool : TcdPool, tcdSaves.Reaches LockApart (Pool.init {}) pool ∧
      (rowsAt pool.state.table 5 (1, 2)).length = 1 ∧ OneRowEach pool.state.table ∧
      (oneLine 400).Saved ((oneLine 400).alone pool.state).2.table := by
  obtain ⟨pool, reaches, passed⟩ := tcdSaves.exists_reaches LockApart (Pool.init {})
    (.start (.save (oneLine 100)) :: .start (.save (oneLine 200)) :: .start (.save (oneLine 300)) ::
      .act 0 {} :: .act 1 {} :: .act 0 {} :: .act 0 {} :: .act 0 {} ::
      List.replicate 4 (.act 2 {}))
    (fun pool => decide ((rowsAt pool.state.table 5 (1, 2)).length = 1 ∧
      ((oneLine 400).alone pool.state).1 = .ok () ∧
      ∀ ev ∈ (saveBectTcdListWithLock (oneLine 400)).past tcdExec (fun _ => {}) pool.state,
        ReadsAll ev.op ev.choice ev.pre ∧ Deletes ev.op ev.choice)) (by decide +kernel)
  obtain ⟨rows, ok, allowed⟩ := of_decide_eq_true passed
  have sane : TcdState.Sane {} := ⟨List.nodup_nil, fun _ _ => Nat.zero_le 1⟩
  obtain ⟨one, saved⟩ := savesOnce_of_reaches sane reaches
  exact ⟨pool, reaches, rows, one, saved (oneLine 400) (fun _ => {}) allowed ok⟩

/-- A table with a line of transaction `5` for another pair of stations. -/
def staleLine : TcdState where
  table := [{ transportStageTcdId := 1, transportTransId := 5, tollAId := some 3
              tollBId := some 4 }]

/-- The lock of a call expires before it has inserted its line, and a second call inserts the
line too; and a call whose deletion of a stale line fails succeeds all the same. -/
theorem expired_lock_saves_twice :
    (¬ ∀ (s : TcdState) (pool : TcdPool), s.Sane →
      tcdSaves.Reaches (Admits fun _ => True) (Pool.init s) pool → OneRowEach pool.state.table) ∧
    ¬ ∀ (s : TcdState) (call : SaveCall) (choices : Nat → TcdChoice), s.Sane →
      ((saveBectTcdListWithLock call).run tcdExec choices s).1 = .ok () →
      call.Saved ((saveBectTcdListWithLock call).run tcdExec choices s).2.table := by
  constructor
  · intro claim
    obtain ⟨pool, reaches, twice⟩ := tcdSaves.exists_reaches (Admits fun _ => True)
      (Pool.init {})
      [.start (.save (oneLine 100)), .start (.save (oneLine 200)), .start (.expire 5),
        .act 0 {}, .act 0 {}, .act 2 {}, .act 1 {}, .act 1 {}, .act 1 {},
        .act 0 { sequenceValue := 2 }]
      (fun pool => decide ((rowsAt pool.state.table 5 (1, 2)).length = 2)) (by decide +kernel)
    have one := claim {} pool ⟨List.nodup_nil, fun _ _ => Nat.zero_le 1⟩ reaches 5 (1, 2)
    rw [of_decide_eq_true twice] at one
    omega
  · intro claim
    have sane : staleLine.Sane := by
      refine ⟨List.nodup_singleton _, fun id k => ?_⟩
      exact List.length_filter_le _ _
    -- the fourth operation of the call is the deletion
    have saved := claim staleLine (oneLine 100)
      (fun n => if n = 3 then { fault := some "ODBC error" } else { sequenceValue := 2 }) sane
      (by decide +kernel) (3, 4)
    exact absurd (congrArg List.length saved) (by decide +kernel)

end TollBackend

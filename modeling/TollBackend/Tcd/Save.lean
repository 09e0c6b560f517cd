import TollBackend.Concurrent.Local
import TollBackend.Concurrent.Serial
import TollBackend.System
import TollBackend.Tcd.Table

/-!
# Saving the fee lines of a transaction

`save_bect_tcd_list_with_lock` replaces the fee lines of a transaction by a list: it reads
the rows of the transaction, updates or inserts a row for each pair of stations of the list,
and deletes the rows of the other pairs. A lock in KeyDB keeps the calls for one transaction
apart. The lock is no lock on a node without KeyDB, and it can expire while its holder is
saving, so two calls can both find a pair missing and both insert it.

The rest of the backend sees only whether a call succeeded. Here calls run on the table
itself, from any number of nodes.

## Main definitions

* `saveTcdList`, `saveBectTcdListWithLock`: the calls.
* `tcdSaves`: calls and expiring locks, in any interleaving.
* `OneRowEach`, `SaveCall.Saved`: at most one row for each pair of stations, and exactly the
  rows of a list.
* `saveContract`: what a call relies on and guarantees.

## Main results

* `saveBectTcdListWithLock_safe`: while the others leave the rows of its transaction alone, a
  call that succeeds replaces them by the lines of its list.
-/

namespace TollBackend

open Concurrent

/-! ### The state and its operations -/

/-- The table, and the transactions whose lock key exists in KeyDB. -/
structure TcdState where
  table : List TransportTransStageTcd := []
  locks : List Int := []

/-- What resolves one operation: whether the node has KeyDB, the error a statement or command
fails with, the value of the sequence, and the rows whose columns cannot be read. -/
structure TcdChoice where
  keydb : Bool := true
  fault : Option String := none
  sequenceValue : Int := 1
  unreadable : Int → Bool := fun _ => false

instance : Inhabited TcdChoice :=
  ⟨{}⟩

/-- The operations of a call, and the expiry of a lock. -/
inductive TcdOp : Type
  | acquire (transportTransId : Int)
  | release (transportTransId : Int)
  | find (transportTransId : Int)
  | update (tcd : TransportTransStageTcd)
  | insert (tcd : TransportTransStageTcd)
  | delete (id : Int)
  | deleteAll (transportTransId : Int)
  | expire (transportTransId : Int)

/-- The result of an operation. -/
def TcdRes : TcdOp → Type
  | .acquire _ => Bool
  | .release _ => Unit
  | .find _ => DbResult (List TransportTransStageTcd)
  | .update _ => DbResult Unit
  | .insert _ => DbResult Unit
  | .delete _ => DbResult Unit
  | .deleteAll _ => DbResult Unit
  | .expire _ => Unit

/-- A statement that fails with the chosen error and changes nothing, or succeeds. -/
def TcdState.write (s : TcdState) (c : TcdChoice) (table : List TransportTransStageTcd) :
    DbResult Unit × TcdState :=
  match c.fault with
  | some message => (.error message, s)
  | none => (.ok (), { s with table })

/-- The rows of a transaction that can be read, in the order of their primary keys. -/
def TcdState.read (s : TcdState) (c : TcdChoice) (transportTransId : Int) :
    List TransportTransStageTcd :=
  ((s.table.filter (·.transportTransId = transportTransId)).insertionSort
      fun a b => a.transportStageTcdId ≤ b.transportStageTcdId).filter
    fun row => !c.unreadable row.transportStageTcdId

/-- The row that is inserted for a line: without a primary key it takes the next value of the
sequence. -/
def TcdChoice.rowFor (c : TcdChoice) (tcd : TransportTransStageTcd) : TransportTransStageTcd :=
  if tcd.transportStageTcdId = 0 then tcd.withId c.sequenceValue else tcd

theorem TcdChoice.rowFor_data (c : TcdChoice) (tcd : TransportTransStageTcd) :
    (c.rowFor tcd).data = tcd.data := by
  rw [TcdChoice.rowFor]
  split <;> rfl

/-- The lock is the existence of its key: without KeyDB it is always acquired, and it is
released by its key, whoever set it. -/
def tcdExec : (o : TcdOp) → TcdChoice → TcdState → TcdRes o × TcdState
  | .acquire id, c, s =>
      if c.keydb = false then (true, s)
      else if c.fault.isSome then (false, s)
      else if id ∈ s.locks then (false, s)
      else (true, { s with locks := id :: s.locks })
  | .release id, c, s =>
      ((), if c.keydb = false ∨ c.fault.isSome then s
        else { s with locks := s.locks.filter (· ≠ id) })
  | .find id, c, s =>
      match c.fault with
      | some message => (.error message, s)
      | none => (.ok (s.read c id), s)
  | .update tcd, c, s => s.write c (updateRow s.table tcd)
  | .insert tcd, c, s =>
      if (c.rowFor tcd).transportStageTcdId ∈
          s.table.map TransportTransStageTcd.transportStageTcdId then
        (.error "duplicate primary key", s)
      else s.write c (s.table ++ [c.rowFor tcd])
  | .delete id, c, s => s.write c (deleteRow s.table id)
  | .deleteAll id, c, s => s.write c (deleteRowsOf s.table id)
  | .expire id, _, s => ((), { s with locks := s.locks.filter (· ≠ id) })

/-! ### The calls -/

/-- Programs over the table and its locks. -/
abbrev TcdProg (α : Type) : Type :=
  Prog TcdOp TcdRes α

/-- `try_acquire_tcd_save_lock`. -/
def tryAcquireTcdSaveLock (transportTransId : Int) : TcdProg Bool :=
  Prog.perform (TcdOp.acquire transportTransId)

/-- `release_tcd_save_lock`. -/
def releaseTcdSaveLock (transportTransId : Int) : TcdProg Unit :=
  Prog.perform (TcdOp.release transportTransId)

/-- The rows of the transaction that can be read, in the order of their primary keys. -/
def findByTransportTransId (transportTransId : Int) :
    TcdProg (DbResult (List TransportTransStageTcd)) :=
  Prog.perform (TcdOp.find transportTransId)

/-- Set every column of the row with the primary key of the line, if there is one. -/
def updateTcd (tcd : TransportTransStageTcd) : TcdProg (DbResult Unit) :=
  Prog.perform (TcdOp.update tcd)

/-- Insert a row for the line. -/
def insertTcd (tcd : TransportTransStageTcd) : TcdProg (DbResult Unit) :=
  Prog.perform (TcdOp.insert tcd)

/-- Delete the row with a primary key, if there is one. -/
def deleteById (id : Int) : TcdProg (DbResult Unit) :=
  Prog.perform (TcdOp.delete id)

/-- Delete the rows of the transaction. -/
def deleteByTransportTransId (transportTransId : Int) : TcdProg (DbResult Unit) :=
  Prog.perform (TcdOp.deleteAll transportTransId)

/-- A call of `save_bect_tcd_list_with_lock`. Callers build the lines of the transaction they
save. The two ranks are the orders in which the maps of the call are iterated. -/
structure SaveCall where
  transportTransId : Int
  toSave : List TransportTransStageTcd
  saveRank : Int × Int → Nat := fun _ => 0
  deleteRank : Int × Int → Nat := fun _ => 0
  own : ∀ tcd ∈ toSave, tcd.transportTransId = transportTransId

/-- The lines of a map in the order of their ranks. -/
def iterate (rank : Int × Int → Nat) (lines : List TransportTransStageTcd) :
    List TransportTransStageTcd :=
  lines.insertionSort fun a b => rank a.key ≤ rank b.key

/-- The loop that updates or inserts the row of each line. -/
def updateOrInsertEach (existingByKey : List TransportTransStageTcd) :
    List TransportTransStageTcd → TcdProg (DbResult Unit)
  | [] => pure (.ok ())
  | tcd :: rest =>
      match existingByKey.find? (·.key = tcd.key) with
      | some existingEntity => do
          match ← updateTcd (tcd.withId existingEntity.transportStageTcdId) with
          | .error message => pure (.error message)
          | .ok () => updateOrInsertEach existingByKey rest
      | none => do
          match ← insertTcd tcd with
          | .error message => pure (.error message)
          | .ok () => updateOrInsertEach existingByKey rest

/-- The loop that deletes the rows that are not to be saved. A failure is only logged. -/
def deleteEach : List TransportTransStageTcd → TcdProg Unit
  | [] => pure ()
  | existingEntity :: rest => do
      let _ ← deleteById existingEntity.transportStageTcdId
      deleteEach rest

/-- `save_tcd_list` from the rows it has read: update or insert the row of each pair of
stations of the list, and then delete the rows of the other pairs. -/
def saveOver (call : SaveCall) (existing : List TransportTransStageTcd) :
    TcdProg (DbResult Unit) := do
  let deduped := iterate call.saveRank (byKey call.toSave)
  let existingByKey := iterate call.deleteRank (byKey existing)
  let keysToSave := deduped.map TransportTransStageTcd.key
  match ← updateOrInsertEach existingByKey deduped with
  | .error message => pure (.error message)
  | .ok () => do
      deleteEach (existingByKey.filter (·.key ∉ keysToSave))
      pure (.ok ())

/-- `save_tcd_list`. -/
def saveTcdList (call : SaveCall) : TcdProg (DbResult Unit) :=
  if call.toSave.isEmpty then deleteByTransportTransId call.transportTransId
  else do
    match ← findByTransportTransId call.transportTransId with
    | .error message => pure (.error message)
    | .ok existing => saveOver call existing

/-- `save_bect_tcd_list_with_lock`. -/
def saveBectTcdListWithLock (call : SaveCall) : TcdProg (DbResult Unit) := do
  if ← tryAcquireTcdSaveLock call.transportTransId then
    let result ← saveTcdList call
    releaseTcdSaveLock call.transportTransId
    pure result
  else
    pure (.error "TCD save lock not acquired (concurrent save), use pending retry")

/-- A call, or a lock whose time to live is over. -/
inductive TcdReq : Type
  | save (call : SaveCall)
  | expire (transportTransId : Int)

/-- Any number of calls on the table. -/
def tcdSaves : System TcdOp TcdRes TcdChoice TcdState TcdReq where
  exec := tcdExec
  prog
    | .save call => do
        let _ ← saveBectTcdListWithLock call
        pure ()
    | .expire id => (Prog.perform (TcdOp.expire id) : TcdProg Unit)

/-! ### What the table should hold -/

/-- At most one row for each pair of stations of each transaction. -/
def OneRowEach (table : List TransportTransStageTcd) : Prop :=
  ∀ id k, (rowsAt table id k).length ≤ 1

/-- The transaction of the call has exactly one row for each pair of stations of its list, with
the data of the last line of the list for the pair, and no other row. -/
def SaveCall.Saved (call : SaveCall) (table : List TransportTransStageTcd) : Prop :=
  ∀ k, (rowsAt table call.transportTransId k).map TransportTransStageTcd.data =
    ((lastAt call.toSave k).map TransportTransStageTcd.data).toList

/-- A read skips no row, and a deletion succeeds. -/
def ReadsAll (o : TcdOp) (c : TcdChoice) (s : TcdState) : Prop :=
  match o with
  | .find id => ∀ row ∈ s.table, row.transportTransId = id →
      c.unreadable row.transportStageTcdId = false
  | _ => True

/-- A deletion by primary key succeeds. -/
def Deletes (o : TcdOp) (c : TcdChoice) : Prop :=
  match o with
  | .delete _ => c.fault = none
  | _ => True

/-! ### What one statement does -/

/-- The table has unique primary keys and at most one row for each pair of stations. -/
structure TcdState.Sane (s : TcdState) : Prop where
  unique : UniqueIds s.table
  one : OneRowEach s.table

/-- From `s` to `s'` the rows of one pair of stations of one transaction become `rows`, and no
others change. -/
structure Sets (id : Int) (k : Int × Int) (rows : List TransportTransStageTcd)
    (s s' : TcdState) : Prop where
  unique : UniqueIds s'.table
  here : rowsAt s'.table id k = rows
  others : ∀ id' k', id' ≠ id ∨ k' ≠ k → rowsAt s'.table id' k' = rowsAt s.table id' k'

section Statements

variable {s s' : TcdState} {c : TcdChoice} {id : Int} {k : Int × Int}
variable {tcd row : TransportTransStageTcd} {rows : List TransportTransStageTcd}

theorem Sets.sane (sets : Sets id k rows s s') (sane : s.Sane) (short : rows.length ≤ 1) :
    s'.Sane := by
  refine ⟨sets.unique, fun id' k' => ?_⟩
  by_cases same : id' = id ∧ k' = k
  · rw [same.1, same.2, sets.here]
    exact short
  · rw [sets.others id' k' (by tauto)]
    exact sane.one id' k'

theorem TcdState.write_cases (s : TcdState) (c : TcdChoice)
    (table : List TransportTransStageTcd) :
    (c.fault = none ∧ s.write c table = (.ok (), { s with table })) ∨
      c.fault ≠ none ∧ ∃ message, s.write c table = (.error message, s) := by
  unfold TcdState.write
  cases c.fault with
  | none => exact .inl ⟨rfl, rfl⟩
  | some message => exact .inr ⟨by simp, message, rfl⟩

/-- An update of the only row of a pair. -/
theorem update_sets (sane : s.Sane) (here : rowsAt s.table id k = [row])
    (trans : tcd.transportTransId = id) (key : tcd.key = k) :
    (∃ s', tcdExec (.update (tcd.withId row.transportStageTcdId)) c s = (.ok (), s') ∧
      Sets id k [tcd.withId row.transportStageTcdId] s s') ∨
    ∃ message, tcdExec (.update (tcd.withId row.transportStageTcdId)) c s =
      (.error message, s) := by
  have found : row ∈ rowsAt s.table id k := by simp [here]
  obtain ⟨mem, row_trans, row_key⟩ := mem_rowsAt.mp found
  rcases s.write_cases c (updateRow s.table (tcd.withId row.transportStageTcdId)) with
    ⟨-, ok⟩ | ⟨-, failed⟩
  · refine .inl ⟨_, ok, sane.unique.update, ?_, fun id' k' other => ?_⟩
    · exact rowsAt_update_self sane.unique here rfl trans key
    · refine rowsAt_update_other sane.unique mem rfl ?_ ?_ ?_
      · exact trans.trans row_trans.symm
      · exact key.trans row_key.symm
      · rw [row_trans, row_key]
        exact other.imp Ne.symm Ne.symm
  · exact .inr failed

/-- An insertion for a pair without a row. -/
theorem insert_sets (sane : s.Sane) (here : rowsAt s.table id k = [])
    (trans : tcd.transportTransId = id) (key : tcd.key = k) :
    (∃ s', tcdExec (.insert tcd) c s = (.ok (), s') ∧ Sets id k [c.rowFor tcd] s s') ∨
      ∃ message, tcdExec (.insert tcd) c s = (.error message, s) := by
  have same_trans : (c.rowFor tcd).transportTransId = id := by
    rw [← trans, TcdChoice.rowFor]
    split <;> rfl
  have same_key : (c.rowFor tcd).key = k := by
    rw [← key, TcdChoice.rowFor]
    split <;> rfl
  by_cases fresh : (c.rowFor tcd).transportStageTcdId ∈
      s.table.map TransportTransStageTcd.transportStageTcdId
  · exact .inr ⟨_, if_pos fresh⟩
  · have written : tcdExec (.insert tcd) c s = s.write c (s.table ++ [c.rowFor tcd]) :=
      if_neg fresh
    rw [written]
    rcases s.write_cases c (s.table ++ [c.rowFor tcd]) with ⟨-, ok⟩ | ⟨-, failed⟩
    · refine .inl ⟨_, ok, sane.unique.insert fresh, ?_, fun id' k' other => ?_⟩
      · rw [rowsAt_insert, here, if_pos ⟨same_trans, same_key⟩, List.nil_append]
      · rw [rowsAt_insert, if_neg, List.append_nil]
        rintro ⟨eq, eq'⟩
        rw [← eq, ← eq', same_trans, same_key] at other
        exact other.elim (fun ne => ne rfl) fun ne => ne rfl
    · exact .inr failed

/-- A deletion of the only row of a pair. -/
theorem delete_sets (sane : s.Sane) (here : rowsAt s.table id k = [row]) :
    (c.fault = none ∧ Sets id k [] s (tcdExec (.delete row.transportStageTcdId) c s).2) ∨
      (c.fault ≠ none ∧ (tcdExec (.delete row.transportStageTcdId) c s).2 = s) := by
  have found : row ∈ rowsAt s.table id k := by simp [here]
  obtain ⟨mem, row_trans, row_key⟩ := mem_rowsAt.mp found
  simp only [tcdExec]
  rcases s.write_cases c (deleteRow s.table row.transportStageTcdId) with
    ⟨success, ok⟩ | ⟨failure, message, failed⟩
  · rw [ok]
    refine .inl ⟨success, sane.unique.filter _, ?_, fun id' k' other => ?_⟩
    · rw [rowsAt_delete, here]
      simp
    · apply rowsAt_delete_other sane.unique mem
      rw [row_trans, row_key]
      exact other.imp Ne.symm Ne.symm
  · rw [failed]
    exact .inr ⟨failure, rfl⟩

/-- A deletion of all rows of a transaction. -/
theorem deleteAll_rows (sane : s.Sane) :
    (∃ s', tcdExec (.deleteAll id) c s = (.ok (), s') ∧ s'.Sane ∧
      (∀ k, rowsAt s'.table id k = []) ∧
      ∀ id' k', id' ≠ id → rowsAt s'.table id' k' = rowsAt s.table id' k') ∨
    ∃ message, tcdExec (.deleteAll id) c s = (.error message, s) := by
  rcases s.write_cases c (deleteRowsOf s.table id) with ⟨-, ok⟩ | ⟨-, failed⟩
  · refine .inl ⟨_, ok, ⟨sane.unique.filter _, fun id' k' => ?_⟩, fun k => ?_, fun id' k' ne => ?_⟩
    · rw [rowsAt_deleteRowsOf]
      split
      · exact Nat.zero_le 1
      · exact sane.one id' k'
    · rw [rowsAt_deleteRowsOf, if_pos rfl]
    · rw [rowsAt_deleteRowsOf, if_neg ne]
  · exact .inr failed

theorem find_cases (s : TcdState) (c : TcdChoice) (id : Int) :
    tcdExec (.find id) c s = (.ok (s.read c id), s) ∨
      ∃ message, tcdExec (.find id) c s = (.error message, s) := by
  simp only [tcdExec]
  cases c.fault with
  | none => exact .inl rfl
  | some message => exact .inr ⟨message, rfl⟩

theorem read_perm (reads : ReadsAll (.find id) c s) :
    (s.read c id).Perm (s.table.filter (·.transportTransId = id)) := by
  have sorted := List.perm_insertionSort
    (fun a b : TransportTransStageTcd => a.transportStageTcdId ≤ b.transportStageTcdId)
    (s.table.filter (·.transportTransId = id))
  rw [TcdState.read, List.filter_eq_self.mpr]
  · exact sorted
  · intro row mem
    obtain ⟨in_table, trans⟩ := List.mem_filter.mp (sorted.subset mem)
    simp [reads row in_table (by simpa using trans)]

/-- A read that skips no row finds the row of each pair. -/
theorem read_rows (sane : s.Sane) (reads : ReadsAll (.find id) c s) (k : Int × Int) :
    rowsAt s.table id k = (lastAt (s.read c id) k).toList := by
  have perm : ((s.read c id).filter (·.key = k)).Perm (rowsAt s.table id k) := by
    refine ((read_perm reads).filter _).trans (List.Perm.of_eq ?_)
    rw [List.filter_filter, rowsAt]
    apply List.filter_congr
    intro row _
    simp [Bool.and_comm]
  have short := sane.one id k
  rw [lastAt]
  generalize rowsAt s.table id k = rows at perm short
  cases rows with
  | nil => rw [List.perm_nil.mp perm]; rfl
  | cons row rest =>
    cases rest with
    | nil => rw [List.perm_singleton.mp perm]; rfl
    | cons row' rest => simp at short

end Statements

/-! ### A call among others -/

/-- The rows of a transaction stay as they are. -/
def KeepsRows (id : Int) (s s' : TcdState) : Prop :=
  ∀ k, rowsAt s'.table id k = rowsAt s.table id k

theorem KeepsRows.of_table {id : Int} {s s' : TcdState} (same : s'.table = s.table) :
    KeepsRows id s s' := fun k => by rw [same]

theorem KeepsRows.trans {id : Int} {s s' s'' : TcdState} (first : KeepsRows id s s')
    (second : KeepsRows id s' s'') : KeepsRows id s s'' := fun k =>
  (second k).trans (first k)

theorem Sets.keepsRows {id id' : Int} {k : Int × Int} {rows : List TransportTransStageTcd}
    {s s' : TcdState} (sets : Sets id k rows s s') (other : id' ≠ id) : KeepsRows id' s s' :=
  fun k' => sets.others id' k' (.inl other)

/-- The contract of a call: once it has begun, the others leave the rows of its transaction
alone, and it leaves the rows of other transactions alone. -/
def saveContract : Contract tcdSaves where
  inv := TcdState.Sane
  rely
    | .save call, trace, s, s' => trace ≠ [] → KeepsRows call.transportTransId s s'
    | .expire _, _, _, _ => True
  may _ _ o c s := ReadsAll o c s
  must
    | .save call, trace, o, c, s => (trace = [] → (tcdExec o c s).2.table = s.table) ∧
        ∀ id ≠ call.transportTransId, KeepsRows id s (tcdExec o c s).2
    | .expire _, _, o, c, s => (tcdExec o c s).2.table = s.table
  rely_refl
    | .save _, _, _ => fun _ _ => rfl
    | .expire _, _, _ => trivial
  rely_trans
    | .save _, _, _, _, _ => fun first second begun => (first begun).trans (second begun)
    | .expire _, _, _, _, _ => fun _ _ => trivial

section Walk

variable {call : SaveCall} {s s' : TcdState} {trace : List (Event TcdOp TcdChoice TcdState)}
variable {existing deduped todo : List TransportTransStageTcd} {tcd : TransportTransStageTcd}
variable {α : Type}

/-- An operation of a call that has begun: on a sane table, with the rows of the transaction as
they were, it has to keep the table sane and the rows of other transactions. -/
theorem save_safe_op {o : TcdOp} {next : TcdRes o → TcdProg α}
    {post : α → List (Event TcdOp TcdChoice TcdState) → TcdState → Prop} (begun : trace ≠ [])
    (own : ∀ s' c, KeepsRows call.transportTransId s s' → s'.Sane → ReadsAll o c s' →
      (∀ id ≠ call.transportTransId, KeepsRows id s' (tcdExec o c s').2) ∧
      (tcdExec o c s').2.Sane ∧ saveContract.Safe (.save call) (next (tcdExec o c s').1) post
        (trace ++ [⟨o, c, s'⟩]) (tcdExec o c s').2) :
    saveContract.Safe (.save call) (.op o next) post trace s := by
  intro s' relied sane c reads
  obtain ⟨others, sane', rest⟩ := own s' c (relied begun) sane reads
  exact ⟨⟨fun fresh => absurd fresh begun, others⟩, sane', rest⟩

/-- The rows of the lines still to be saved, and of the pairs that are not to be saved, are the
ones that were read; the other lines have their row. -/
structure Saving (call : SaveCall) (existing deduped todo : List TransportTransStageTcd)
    (s : TcdState) : Prop where
  left : ∀ k, k ∉ deduped.map TransportTransStageTcd.key ∨
    k ∈ todo.map TransportTransStageTcd.key →
    rowsAt s.table call.transportTransId k = (lastAt existing k).toList
  done : ∀ tcd ∈ deduped, tcd.key ∉ todo.map TransportTransStageTcd.key →
    (rowsAt s.table call.transportTransId tcd.key).map TransportTransStageTcd.data = [tcd.data]

theorem Saving.of_keeps (saving : Saving call existing deduped todo s)
    (keeps : KeepsRows call.transportTransId s s') : Saving call existing deduped todo s' where
  left k waits := (keeps k).trans (saving.left k waits)
  done tcd mem saved := by
    rw [keeps]
    exact saving.done tcd mem saved

/-- The next line has got its row. -/
theorem Saving.next (saving : Saving call existing deduped (tcd :: todo) s)
    (distinct : (deduped.map TransportTransStageTcd.key).Nodup)
    (part : (tcd :: todo).Sublist deduped) {row : TransportTransStageTcd}
    (same : row.data = tcd.data) (sets : Sets call.transportTransId tcd.key [row] s s') :
    Saving call existing deduped todo s' := by
  have mem : tcd ∈ deduped := part.subset List.mem_cons_self
  have fresh : tcd.key ∉ todo.map TransportTransStageTcd.key :=
    (List.nodup_cons.mp (distinct.sublist (part.map _))).1
  constructor
  · intro k waits
    rw [sets.others]
    · exact saving.left k (waits.imp_right (List.mem_cons_of_mem _))
    · right
      rintro rfl
      exact waits.elim (fun out => out (List.mem_map_of_mem mem)) fresh
  · intro tcd' mem' saved
    by_cases eq : tcd'.key = tcd.key
    · rw [List.inj_on_of_nodup_map distinct mem' mem eq, sets.here, List.map_singleton, same]
    · rw [sets.others _ _ (.inr eq)]
      exact saving.done tcd' mem' (by simp [eq] at saved ⊢; exact saved)

theorem updateOrInsertEach_safe {existingByKey : List TransportTransStageTcd}
    (lookup : ∀ k, existingByKey.find? (·.key = k) = lastAt existing k)
    (own : ∀ tcd ∈ deduped, tcd.transportTransId = call.transportTransId)
    (distinct : (deduped.map TransportTransStageTcd.key).Nodup) (part : todo.Sublist deduped)
    (begun : trace ≠ []) (saving : Saving call existing deduped todo s) :
    saveContract.Safe (.save call) (updateOrInsertEach existingByKey todo)
      (fun result tr s' => tr ≠ [] ∧ (result = .ok () → Saving call existing deduped [] s'))
      trace s := by
  induction todo generalizing trace s with
  | nil => exact ⟨begun, fun _ => saving⟩
  | cons tcd rest ih =>
    have trans := own tcd (part.subset List.mem_cons_self)
    have part' := (List.sublist_cons_self tcd rest).trans part
    rw [updateOrInsertEach, lookup]
    cases last : lastAt existing tcd.key with
    | some row =>
      refine save_safe_op begun fun s' c keeps sane _ => ?_
      have here := (saving.of_keeps keeps).left tcd.key (.inr (by simp))
      rw [last] at here
      rcases update_sets (c := c) sane here trans rfl with ⟨s'', ok, sets⟩ | ⟨message, failed⟩
      · rw [ok]
        exact ⟨fun id ne => sets.keepsRows ne, sets.sane sane le_rfl,
          ih part' (by simp) ((saving.of_keeps keeps).next distinct part (tcd.withId_data _) sets)⟩
      · rw [failed]
        exact ⟨fun id _ => .of_table rfl, sane, by simp, fun ok => by cases ok⟩
    | none =>
      refine save_safe_op begun fun s' c keeps sane _ => ?_
      have here := (saving.of_keeps keeps).left tcd.key (.inr (by simp))
      rw [last] at here
      rcases insert_sets (c := c) sane here trans rfl with ⟨s'', ok, sets⟩ | ⟨message, failed⟩
      · rw [ok]
        exact ⟨fun id ne => sets.keepsRows ne, sets.sane sane le_rfl,
          ih part' (by simp) ((saving.of_keeps keeps).next distinct part (c.rowFor_data tcd) sets)⟩
      · rw [failed]
        exact ⟨fun id _ => .of_table rfl, sane, by simp, fun ok => by cases ok⟩

/-- Every deletion by primary key in the past of a call succeeded. -/
def AllDeleted (past : List (Event TcdOp TcdChoice TcdState)) : Prop :=
  ∀ ev ∈ past, Deletes ev.op ev.choice

/-- Each line has its row, the rows still to be deleted are there, and if deletions succeed then
there are no others. -/
structure Deleting (call : SaveCall) (deduped todo : List TransportTransStageTcd)
    (past : List (Event TcdOp TcdChoice TcdState)) (s : TcdState) : Prop where
  kept : ∀ tcd ∈ deduped,
    (rowsAt s.table call.transportTransId tcd.key).map TransportTransStageTcd.data = [tcd.data]
  left : ∀ row ∈ todo, rowsAt s.table call.transportTransId row.key = [row]
  gone : AllDeleted past → ∀ k, k ∉ deduped.map TransportTransStageTcd.key →
    k ∉ todo.map TransportTransStageTcd.key → rowsAt s.table call.transportTransId k = []

theorem Deleting.of_keeps (deleting : Deleting call deduped todo trace s)
    (keeps : KeepsRows call.transportTransId s s') : Deleting call deduped todo trace s' where
  kept tcd mem := by
    rw [keeps]
    exact deleting.kept tcd mem
  left row mem := (keeps row.key).trans (deleting.left row mem)
  gone succeeded k out deleted := (keeps k).trans (deleting.gone succeeded k out deleted)

theorem deleteEach_safe (distinct : (todo.map TransportTransStageTcd.key).Nodup)
    (apart : ∀ row ∈ todo, row.key ∉ deduped.map TransportTransStageTcd.key)
    (begun : trace ≠ []) (deleting : Deleting call deduped todo trace s) :
    saveContract.Safe (.save call) (deleteEach todo)
      (fun _ tr s' => tr ≠ [] ∧ Deleting call deduped [] tr s') trace s := by
  induction todo generalizing trace s with
  | nil => exact ⟨begun, deleting⟩
  | cons row rest ih =>
    obtain ⟨fresh, distinct'⟩ := List.nodup_cons.mp distinct
    have apart' : ∀ row ∈ rest, row.key ∉ deduped.map TransportTransStageTcd.key :=
      fun row mem => apart row (List.mem_cons_of_mem _ mem)
    refine save_safe_op begun fun s' c keeps sane _ => ?_
    have now := deleting.of_keeps keeps
    rcases delete_sets (c := c) sane (now.left row List.mem_cons_self) with
      ⟨success, sets⟩ | ⟨failure, same⟩
    · refine ⟨fun id ne => sets.keepsRows ne, sets.sane sane (Nat.zero_le 1),
        ih distinct' apart' (by simp) ⟨fun tcd mem => ?_, fun row' mem => ?_, ?_⟩⟩
      · rw [sets.others]
        · exact now.kept tcd mem
        · exact .inr fun eq => apart row List.mem_cons_self (eq ▸ List.mem_map_of_mem mem)
      · rw [sets.others]
        · exact now.left row' (List.mem_cons_of_mem _ mem)
        · exact .inr fun eq => fresh (eq ▸ List.mem_map_of_mem mem)
      · intro succeeded k out deleted
        by_cases here : k = row.key
        · rw [here, sets.here]
        · rw [sets.others _ _ (.inr here)]
          refine now.gone (fun ev mem => succeeded ev (List.mem_append_left _ mem)) k out ?_
          simp only [List.map_cons, List.mem_cons, not_or]
          exact ⟨here, deleted⟩
    · rw [same]
      refine ⟨fun id _ => .of_table rfl, sane,
        ih distinct' apart' (by simp) ⟨now.kept, fun row' mem => ?_, ?_⟩⟩
      · exact now.left row' (List.mem_cons_of_mem _ mem)
      · intro succeeded
        exact absurd (succeeded _ (List.mem_append_right _ List.mem_cons_self)) failure

theorem iterate_perm (rank : Int × Int → Nat) (lines : List TransportTransStageTcd) :
    (iterate rank lines).Perm lines :=
  List.perm_insertionSort _ _

theorem iterate_byKey_nodup (rank : Int × Int → Nat) (list : List TransportTransStageTcd) :
    ((iterate rank (byKey list)).map TransportTransStageTcd.key).Nodup :=
  ((iterate_perm rank _).map _).nodup_iff.mpr (byKey_nodup list)

/-- Look-up in a map, whatever its order. -/
theorem find_iterate_byKey (rank : Int × Int → Nat) (list : List TransportTransStageTcd)
    (k : Int × Int) : (iterate rank (byKey list)).find? (·.key = k) = lastAt list k := by
  have same := (iterate_perm rank (byKey list)).filter (·.key = k)
  rw [byKey_filter] at same
  rw [← List.head?_filter]
  cases last : lastAt list k with
  | none =>
    rw [last] at same
    rw [List.perm_nil.mp same]
    rfl
  | some tcd =>
    rw [last] at same
    rw [List.perm_singleton.mp same]
    rfl

theorem mem_iterate_byKey {rank : Int × Int → Nat} {list : List TransportTransStageTcd} :
    tcd ∈ iterate rank (byKey list) ↔ lastAt list tcd.key = some tcd := by
  rw [(iterate_perm rank _).mem_iff, mem_byKey]

/-- Once each line has its row, deleting the rest leaves exactly the lines of the call. -/
theorem deleteRest_safe (begun : trace ≠ [])
    (saving : Saving call existing (iterate call.saveRank (byKey call.toSave)) [] s) :
    saveContract.Safe (.save call)
      (deleteEach ((iterate call.deleteRank (byKey existing)).filter
        (·.key ∉ (iterate call.saveRank (byKey call.toSave)).map TransportTransStageTcd.key)))
      (fun _ tr s' => tr ≠ [] ∧ (AllDeleted tr → call.Saved s'.table)) trace s := by
  have deleting : Deleting call (iterate call.saveRank (byKey call.toSave))
      ((iterate call.deleteRank (byKey existing)).filter
        (·.key ∉ (iterate call.saveRank (byKey call.toSave)).map TransportTransStageTcd.key))
      trace s := by
    refine ⟨fun tcd mem => saving.done tcd mem (by simp), fun row mem => ?_, ?_⟩
    · obtain ⟨found, out⟩ := List.mem_filter.mp mem
      rw [saving.left row.key (.inl (by simpa using out)), mem_iterate_byKey.mp found]
      rfl
    · -- a pair that is in neither list had no row
      intro _ k out gone
      rw [saving.left k (.inl out)]
      cases last : lastAt existing k with
      | none => rfl
      | some row =>
        have key := key_of_lastAt last
        subst key
        refine absurd (List.mem_map_of_mem (List.mem_filter.mpr
          ⟨mem_iterate_byKey.mpr last, ?_⟩)) gone
        simpa using out
  refine (deleteEach_safe ?_ ?_ begun deleting).mono ?_
  · exact (iterate_byKey_nodup _ _).sublist (List.filter_sublist.map _)
  · exact fun row mem => by simpa using (List.mem_filter.mp mem).2
  · rintro _ tr s' ⟨begun', deleted⟩
    refine ⟨begun', fun succeeded k => ?_⟩
    cases last : lastAt call.toSave k with
    | some tcd =>
      have key := key_of_lastAt last
      subst key
      exact deleted.kept tcd (mem_iterate_byKey.mpr last)
    | none =>
      rw [deleted.gone succeeded k _ (by simp)]
      · rfl
      · intro out
        obtain ⟨tcd, mem, rfl⟩ := List.mem_map.mp out
        rw [mem_iterate_byKey.mp mem] at last
        cases last

theorem saveOver_safe (begun : trace ≠ [])
    (read : ∀ k, rowsAt s.table call.transportTransId k = (lastAt existing k).toList) :
    saveContract.Safe (.save call) (saveOver call existing)
      (fun result tr s' => tr ≠ [] ∧ (result = .ok () → AllDeleted tr → call.Saved s'.table))
      trace s := by
  have saving : Saving call existing (iterate call.saveRank (byKey call.toSave))
      (iterate call.saveRank (byKey call.toSave)) s :=
    ⟨fun k _ => read k, fun tcd mem out => absurd (List.mem_map_of_mem mem) out⟩
  refine Contract.safe_bind.mpr ((updateOrInsertEach_safe (find_iterate_byKey _ _)
    (fun tcd mem => ?_) (iterate_byKey_nodup _ _) (List.Sublist.refl _) begun saving).mono ?_)
  · exact call.own tcd (mem_of_lastAt (mem_iterate_byKey.mp mem))
  · rintro (message | ⟨⟩) tr s' ⟨begun', saved⟩
    · exact ⟨begun', fun ok => by cases ok⟩
    · refine Contract.safe_bind.mpr ((deleteRest_safe begun' (saved rfl)).mono ?_)
      rintro _ tr' s'' ⟨begun'', deleted⟩
      exact ⟨begun'', fun _ => deleted⟩

theorem saveTcdList_safe (begun : trace ≠ []) :
    saveContract.Safe (.save call) (saveTcdList call)
      (fun result tr s' => tr ≠ [] ∧ (result = .ok () → AllDeleted tr → call.Saved s'.table))
      trace s := by
  unfold saveTcdList
  split
  · next empty =>
    refine save_safe_op begun fun s' c keeps sane _ => ?_
    rcases deleteAll_rows (c := c) sane with ⟨s'', ok, sane', none_left, others⟩ | ⟨message, failed⟩
    · rw [ok]
      refine ⟨fun id ne k => others id k ne, sane', by simp, fun _ _ k => ?_⟩
      simp only [none_left]
      simp [lastAt, List.isEmpty_iff.mp empty]
    · rw [failed]
      exact ⟨fun id _ => .of_table rfl, sane, by simp, fun ok => by cases ok⟩
  · refine save_safe_op begun fun s' c keeps sane reads => ?_
    rcases find_cases s' c call.transportTransId with ok | ⟨message, failed⟩
    · rw [ok]
      exact ⟨fun id _ => .of_table rfl, sane,
        saveOver_safe (List.concat_ne_nil _ _) (read_rows sane reads)⟩
    · rw [failed]
      exact ⟨fun id _ => .of_table rfl, sane, by simp, fun ok => by cases ok⟩

/-- What an attempt to take the lock does: without KeyDB it passes, with KeyDB it takes a free
lock or does not pass. -/
theorem acquire_cases (id : Int) (c : TcdChoice) (s : TcdState) :
    (c.keydb = false ∧ tcdExec (.acquire id) c s = (true, s)) ∨
    (c.keydb = true ∧ id ∉ s.locks ∧
      tcdExec (.acquire id) c s = (true, { s with locks := id :: s.locks })) ∨
    tcdExec (.acquire id) c s = (false, s) := by
  simp only [tcdExec]
  split_ifs with keydb fault taken
  · exact .inl ⟨keydb, rfl⟩
  · exact .inr (.inr rfl)
  · exact .inr (.inr rfl)
  · exact .inr (.inl ⟨by simpa using keydb, taken, rfl⟩)

theorem acquire_table (id : Int) (c : TcdChoice) (s : TcdState) :
    (tcdExec (.acquire id) c s).2.table = s.table := by
  rcases acquire_cases id c s with ⟨-, eq⟩ | ⟨-, -, eq⟩ | eq <;> rw [eq]

theorem release_table (id : Int) (c : TcdChoice) (s : TcdState) :
    (tcdExec (.release id) c s).2.table = s.table := by
  simp only [tcdExec]
  split_ifs <;> rfl

theorem TcdState.Sane.of_table (sane : s.Sane) (same : s'.table = s.table) : s'.Sane :=
  ⟨same ▸ sane.unique, same ▸ sane.one⟩

theorem saveAndRelease_safe (begun : trace ≠ []) :
    saveContract.Safe (.save call)
      (do
        let result ← saveTcdList call
        releaseTcdSaveLock call.transportTransId
        pure result)
      (fun result tr s' => result = .ok () → AllDeleted tr → call.Saved s'.table) trace s := by
  refine Contract.safe_bind.mpr ((saveTcdList_safe begun).mono ?_)
  rintro result tr s' ⟨begun', saved⟩
  refine save_safe_op begun' fun s'' c keeps sane _ => ?_
  have table := release_table call.transportTransId c s''
  refine ⟨fun id _ => .of_table table, sane.of_table table, fun ok succeeded k => ?_⟩
  have here : rowsAt (tcdExec (.release call.transportTransId) c s'').2.table
      call.transportTransId k = rowsAt s'.table call.transportTransId k := by
    rw [table, keeps]
  rw [here]
  exact saved ok (fun ev mem => succeeded ev (List.mem_append_left _ mem)) k

/-- A call keeps its contract from its start, and if it succeeds and its deletions do, it leaves
exactly the lines of its list. -/
theorem saveBectTcdListWithLock_safe (call : SaveCall) (s : TcdState) :
    saveContract.Safe (.save call) (saveBectTcdListWithLock call)
      (fun result tr s' => result = .ok () → AllDeleted tr → call.Saved s'.table) [] s := by
  rintro s' - sane c -
  have table := acquire_table call.transportTransId c s'
  refine ⟨⟨fun _ => table, fun id _ => .of_table table⟩, sane.of_table table, ?_⟩
  cases (tcdSaves.exec (.acquire call.transportTransId) c s').1 with
  | false => exact fun ok => by cases ok
  | true => exact saveAndRelease_safe (List.concat_ne_nil _ _)

end Walk

end TollBackend

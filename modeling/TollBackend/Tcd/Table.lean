import TollBackend.Stage.Record

/-!
# The table of fee lines

`TRANSPORT_TRANS_STAGE_TCD` holds the fee lines of every transaction, and within a
transaction a line is told apart by its two stations. The statements of the repository go
by the primary key or by the transaction, so what they do to one pair of stations of one
transaction is said here.

## Main definitions

* `TransportTransStageTcd.key`: the pair of stations of a line.
* `rowsAt`: the rows of a transaction for one pair of stations.
* `byKey`: the values of a map from pairs of stations to lines, filled from a list.

## Main results

* `byKey_filter`: the map holds the last line of the list for each pair.
* `rowsAt_update`, `rowsAt_insert`, `rowsAt_delete`: what one statement does to the rows of
  a pair.
-/

namespace TollBackend

/-- `tcd_key`: the stations of a line, `0` where there is none. -/
def tcdKey (tollAId tollBId : Option Int) : Int × Int :=
  (tollAId.getD 0, tollBId.getD 0)

namespace TransportTransStageTcd

/-- The pair of stations of a line. -/
def key (tcd : TransportTransStageTcd) : Int × Int :=
  tcdKey tcd.tollAId tcd.tollBId

/-- A line with the given primary key. -/
def withId (tcd : TransportTransStageTcd) (id : Int) : TransportTransStageTcd :=
  { tcd with transportStageTcdId := id }

/-- The columns of a line other than its primary key. -/
def data (tcd : TransportTransStageTcd) : TransportTransStageTcd :=
  tcd.withId 0

@[simp] theorem withId_key (tcd : TransportTransStageTcd) (id : Int) :
    (tcd.withId id).key = tcd.key := rfl

@[simp] theorem withId_transportTransId (tcd : TransportTransStageTcd) (id : Int) :
    (tcd.withId id).transportTransId = tcd.transportTransId := rfl

@[simp] theorem withId_transportStageTcdId (tcd : TransportTransStageTcd) (id : Int) :
    (tcd.withId id).transportStageTcdId = id := rfl

@[simp] theorem withId_data (tcd : TransportTransStageTcd) (id : Int) :
    (tcd.withId id).data = tcd.data := rfl

end TransportTransStageTcd

/-! ### Maps from pairs of stations -/

/-- Put a line into a map from pairs of stations, of which only the values are kept. -/
def putByKey (lines : List TransportTransStageTcd) (tcd : TransportTransStageTcd) :
    List TransportTransStageTcd :=
  tcd :: lines.filter (·.key ≠ tcd.key)

/-- The values of the map that is filled from a list, later lines over earlier ones. -/
def byKey (list : List TransportTransStageTcd) : List TransportTransStageTcd :=
  list.foldl putByKey []

theorem byKey_concat (list : List TransportTransStageTcd) (tcd : TransportTransStageTcd) :
    byKey (list ++ [tcd]) = putByKey (byKey list) tcd := by
  simp [byKey]

/-- The last line of a list for a pair of stations. -/
def lastAt (list : List TransportTransStageTcd) (k : Int × Int) : Option TransportTransStageTcd :=
  (list.filter (·.key = k)).getLast?

theorem lastAt_concat (list : List TransportTransStageTcd) (tcd : TransportTransStageTcd)
    (k : Int × Int) :
    lastAt (list ++ [tcd]) k = if tcd.key = k then some tcd else lastAt list k := by
  by_cases same : tcd.key = k <;> simp [lastAt, same]

theorem key_of_lastAt {list : List TransportTransStageTcd} {k : Int × Int}
    {tcd : TransportTransStageTcd} (last : lastAt list k = some tcd) : tcd.key = k := by
  have mem := List.mem_of_getLast? last
  simpa using (List.mem_filter.mp mem).2

theorem mem_of_lastAt {list : List TransportTransStageTcd} {k : Int × Int}
    {tcd : TransportTransStageTcd} (last : lastAt list k = some tcd) : tcd ∈ list :=
  (List.mem_filter.mp (List.mem_of_getLast? last)).1

/-- The map holds the last line of the list for each pair of stations. -/
theorem byKey_filter (list : List TransportTransStageTcd) (k : Int × Int) :
    (byKey list).filter (·.key = k) = (lastAt list k).toList := by
  induction list using List.reverseRecOn with
  | nil => rfl
  | append_singleton list tcd ih =>
    rw [byKey_concat, putByKey, lastAt_concat, List.filter_cons, List.filter_filter]
    by_cases same : tcd.key = k
    · -- the other lines of the pair were taken out
      simp [same]
    · have others : (byKey list).filter (fun row => decide (row.key = k) &&
          decide (row.key ≠ tcd.key)) = (byKey list).filter (·.key = k) := by
        apply List.filter_congr
        intro row _
        by_cases here : row.key = k
        · simp [here, Ne.symm same]
        · simp [here]
      rw [others, ih]
      simp [same]

theorem mem_byKey {list : List TransportTransStageTcd} {tcd : TransportTransStageTcd} :
    tcd ∈ byKey list ↔ lastAt list tcd.key = some tcd := by
  have filtered := byKey_filter list tcd.key
  constructor
  · intro mem
    have here : tcd ∈ (byKey list).filter (·.key = tcd.key) := by simp [mem]
    rw [filtered] at here
    simpa [eq_comm] using here
  · intro last
    have here : tcd ∈ (byKey list).filter (·.key = tcd.key) := by simp [filtered, last]
    exact (List.mem_filter.mp here).1

theorem byKey_nodup (list : List TransportTransStageTcd) :
    ((byKey list).map TransportTransStageTcd.key).Nodup := by
  induction list using List.reverseRecOn with
  | nil => exact List.nodup_nil
  | append_singleton list tcd ih =>
    rw [byKey_concat, putByKey, List.map_cons, List.nodup_cons]
    constructor
    · simp
    · exact ih.sublist (List.filter_sublist.map _)

/-! ### Rows of a pair of stations -/

/-- The rows of a transaction for one pair of stations. -/
def rowsAt (table : List TransportTransStageTcd) (transportTransId : Int) (k : Int × Int) :
    List TransportTransStageTcd :=
  table.filter fun row => row.transportTransId = transportTransId ∧ row.key = k

theorem mem_rowsAt {table : List TransportTransStageTcd} {transportTransId : Int} {k : Int × Int}
    {row : TransportTransStageTcd} : row ∈ rowsAt table transportTransId k ↔
      row ∈ table ∧ row.transportTransId = transportTransId ∧ row.key = k := by
  simp [rowsAt]

/-- Primary keys are unique. -/
def UniqueIds (table : List TransportTransStageTcd) : Prop :=
  (table.map TransportTransStageTcd.transportStageTcdId).Nodup

/-- `UPDATE .. WHERE TRANSPORT_STAGE_TCD_ID = ..`: every column of the row is set. -/
def updateRow (table : List TransportTransStageTcd) (tcd : TransportTransStageTcd) :
    List TransportTransStageTcd :=
  table.map fun row => if row.transportStageTcdId = tcd.transportStageTcdId then tcd else row

/-- `DELETE .. WHERE TRANSPORT_STAGE_TCD_ID = ..`. -/
def deleteRow (table : List TransportTransStageTcd) (id : Int) : List TransportTransStageTcd :=
  table.filter fun row => row.transportStageTcdId ≠ id

/-- `DELETE .. WHERE TRANSPORT_TRANS_ID = ..`. -/
def deleteRowsOf (table : List TransportTransStageTcd) (transportTransId : Int) :
    List TransportTransStageTcd :=
  table.filter fun row => row.transportTransId ≠ transportTransId

section Statements

variable {table : List TransportTransStageTcd} {tcd row : TransportTransStageTcd}
variable {id : Int} {k : Int × Int}

theorem UniqueIds.eq_of_id (unique : UniqueIds table) (mem : row ∈ table) (mem' : tcd ∈ table)
    (same : row.transportStageTcdId = tcd.transportStageTcdId) : row = tcd :=
  List.inj_on_of_nodup_map unique mem mem' same

theorem UniqueIds.update (unique : UniqueIds table) : UniqueIds (updateRow table tcd) := by
  have same : (updateRow table tcd).map TransportTransStageTcd.transportStageTcdId =
      table.map TransportTransStageTcd.transportStageTcdId := by
    simp only [updateRow, List.map_map]
    apply List.map_congr_left
    intro row _
    simp only [Function.comp_apply]
    split
    · next eq => exact eq.symm
    · rfl
  rw [UniqueIds, same]
  exact unique

theorem UniqueIds.insert (unique : UniqueIds table)
    (fresh : tcd.transportStageTcdId ∉ table.map TransportTransStageTcd.transportStageTcdId) :
    UniqueIds (table ++ [tcd]) := by
  rw [UniqueIds, List.map_append, List.map_singleton]
  exact unique.append (List.nodup_singleton _) (List.disjoint_singleton.mpr fresh)

theorem UniqueIds.filter (unique : UniqueIds table) (p : TransportTransStageTcd → Bool) :
    UniqueIds (table.filter p) :=
  unique.sublist (List.filter_sublist.map _)

/-- An update of the row of a line by a line for the same pair of the same transaction. -/
theorem rowsAt_update (unique : UniqueIds table) (mem : row ∈ table)
    (same_id : tcd.transportStageTcdId = row.transportStageTcdId)
    (same_trans : tcd.transportTransId = row.transportTransId) (same_key : tcd.key = row.key) :
    rowsAt (updateRow table tcd) id k = (rowsAt table id k).map fun r =>
      if r.transportStageTcdId = tcd.transportStageTcdId then tcd else r := by
  rw [rowsAt, updateRow, List.filter_map, rowsAt]
  congr 1
  apply List.filter_congr
  intro r mem'
  simp only [Function.comp_apply]
  split
  · next eq =>
    rw [unique.eq_of_id mem' mem (eq.trans same_id), same_trans, same_key]
  · rfl

theorem rowsAt_update_self (unique : UniqueIds table) (here : rowsAt table id k = [row])
    (same_id : tcd.transportStageTcdId = row.transportStageTcdId)
    (trans : tcd.transportTransId = id) (key : tcd.key = k) :
    rowsAt (updateRow table tcd) id k = [tcd] := by
  have mem : row ∈ rowsAt table id k := by simp [here]
  obtain ⟨mem, row_trans, row_key⟩ := mem_rowsAt.mp mem
  rw [rowsAt_update unique mem same_id (trans.trans row_trans.symm) (key.trans row_key.symm), here]
  simp [same_id]

theorem rowsAt_update_other (unique : UniqueIds table) (mem : row ∈ table)
    (same_id : tcd.transportStageTcdId = row.transportStageTcdId)
    (same_trans : tcd.transportTransId = row.transportTransId) (same_key : tcd.key = row.key)
    (other : row.transportTransId ≠ id ∨ row.key ≠ k) :
    rowsAt (updateRow table tcd) id k = rowsAt table id k := by
  rw [rowsAt_update unique mem same_id same_trans same_key]
  refine (List.map_congr_left fun r mem' => ?_).trans (List.map_id _)
  obtain ⟨in_table, trans, key⟩ := mem_rowsAt.mp mem'
  refine if_neg fun eq => ?_
  rw [← unique.eq_of_id in_table mem (eq.trans same_id)] at other
  exact other.elim (fun ne => ne trans) fun ne => ne key

theorem rowsAt_insert :
    rowsAt (table ++ [tcd]) id k = rowsAt table id k ++
      if tcd.transportTransId = id ∧ tcd.key = k then [tcd] else [] := by
  rw [rowsAt, List.filter_append, List.filter_singleton]
  simp [rowsAt]

theorem rowsAt_delete {x : Int} :
    rowsAt (deleteRow table x) id k =
      (rowsAt table id k).filter fun row => row.transportStageTcdId ≠ x := by
  rw [rowsAt, deleteRow, List.filter_comm, rowsAt]

theorem rowsAt_delete_other (unique : UniqueIds table) (mem : row ∈ table)
    (other : row.transportTransId ≠ id ∨ row.key ≠ k) :
    rowsAt (deleteRow table row.transportStageTcdId) id k = rowsAt table id k := by
  rw [rowsAt_delete]
  apply List.filter_eq_self.mpr
  intro r mem'
  obtain ⟨in_table, trans, key⟩ := mem_rowsAt.mp mem'
  refine decide_eq_true fun eq => ?_
  rw [← unique.eq_of_id in_table mem eq] at other
  exact other.elim (fun ne => ne trans) fun ne => ne key

theorem rowsAt_deleteRowsOf {x : Int} :
    rowsAt (deleteRowsOf table x) id k = if id = x then [] else rowsAt table id k := by
  rw [rowsAt, deleteRowsOf, List.filter_filter]
  split
  · next same =>
    apply List.filter_eq_nil_iff.mpr
    intro row _
    simp only [Bool.and_eq_true, decide_eq_true_eq, not_and, same]
    exact fun trans ne => ne trans.1
  · next other =>
    apply List.filter_congr
    intro row _
    by_cases trans : row.transportTransId = id
    · simp [trans, other]
    · simp [trans]

end Statements

end TollBackend

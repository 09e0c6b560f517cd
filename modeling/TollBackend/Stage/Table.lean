import TollBackend.Stage.Record

/-!
# The tables of the rating database

`StageTable` is `TRANSPORT_TRANSACTION_STAGE` with its primary key, and each statement the
repositories send is a function on it. The sync tables are only read.

A statement that orders its rows does not say how ties are broken; `rank` breaks them.

## Main definitions

* `StageTable`: rows with distinct `TRANSPORT_TRANS_ID`.
* `StageTable.findById`, `findByTicketInId`, `findLatestByEtag`: the three `SELECT`s.
* `StageTable.insertRow`, `update`: the `INSERT` and the full-row `UPDATE`.
* `StageTable.updateCheckinCommit`, `updateCheckoutInfo`, `updateCheckoutCommit`,
  `updateHubId`: the `UPDATE`s of a few columns.

## Main results

* `StageTable.row?_updateWhere`, `StageTable.row?_insertRow`: the row of an id after a write.
-/

namespace TollBackend

/-- `TRANSPORT_TRANSACTION_STAGE`. -/
structure StageTable where
  rows : List TransportTransactionStage := []
  primaryKey : (rows.map (·.transportTransId)).Nodup := by simp

/-- The order of `ORDER BY .. DESC`: nulls first, then later times first. -/
def NotEarlier (a b : Option DbDatetime) : Prop :=
  match a, b with
  | none, _ => True
  | some _, none => False
  | some x, some y => y.epochSeconds ≤ x.epochSeconds

instance : DecidableRel NotEarlier := fun a b => by
  cases a <;> cases b <;> unfold NotEarlier <;> infer_instance

/-- Whether `a` comes before `b`, first by time and then by rank. -/
def OrderedBefore (a b : Option DbDatetime × Nat) : Prop :=
  NotEarlier a.1 b.1 ∧ (NotEarlier b.1 a.1 → a.2 ≤ b.2)

instance : DecidableRel OrderedBefore := fun a b => by
  unfold OrderedBefore; infer_instance

namespace TransportTransactionStage

/-- `NVL(CHECKIN_DATETIME, INSERT_DATETIME)`. -/
def checkinTime (row : TransportTransactionStage) : Option DbDatetime :=
  row.checkinDatetime <|> row.insertDatetime

/-- `CHECKIN_STATUS IN ('1', '2')`. -/
def CheckedIn (row : TransportTransactionStage) : Prop :=
  row.checkinStatus = some "1" ∨ row.checkinStatus = some "2"

instance : DecidablePred CheckedIn := fun row => by
  unfold CheckedIn; infer_instance

end TransportTransactionStage

/-! ### Columns of the partial updates -/

/-- The arguments of `update_checkin_commit`. -/
structure CheckinCommitColumns where
  checkinCommitDatetime : DbDatetime
  checkinImgCount : Int
  lastUpdate : DbDatetime
  checkinPass : String
  feWeight : Option Int
  feReasonId : Option Int
  imgCount : Option Int
  checkinStatus : Option String

/-- The arguments of `update_checkout_info`. -/
structure CheckoutInfoColumns where
  checkoutTollId : Int
  checkoutLaneId : Int
  checkoutPlate : String
  totalAmount : Int
  checkoutDatetime : DbDatetime
  lastUpdate : DbDatetime
  chargeStatus : String
  chargeType : String
  vehicleType : String
  turningCode : Option String
  checkoutTid : Option String
  chargeIn : String
  accountId : Int
  chargeInStatus : Option String
  checkoutStatus : Option String
  accountTransId : Option Int
  checkoutPlateStatus : Option String
  checkoutChannel : Option Int
  checkoutPass : Option String
  checkoutPassReasonId : Option String
  checkoutImgCount : Option Int
  status : Option String

/-- The arguments of `update_checkout_commit`. -/
structure CheckoutCommitColumns where
  checkoutCommitDatetime : DbDatetime
  checkoutImgCount : Int
  lastUpdate : DbDatetime
  chargeStatus : String
  checkoutStatus : Option String
  feReasonId : Option Int
  checkoutDatetime : Option DbDatetime
  imgCount : Option Int
  checkoutPlateStatus : Option String
  checkoutPlate : Option String
  syncStatus : Option Int

namespace TransportTransactionStage

/-- The `SET` list of `update_checkin_commit`. -/
def setCheckinCommit (row : TransportTransactionStage) (cols : CheckinCommitColumns) :
    TransportTransactionStage :=
  { row with
    checkinCommitDatetime := some cols.checkinCommitDatetime
    checkinImgCount := some cols.checkinImgCount
    lastUpdate := some cols.lastUpdate
    checkinPass := some cols.checkinPass
    checkinStatus := cols.checkinStatus <|> some "2"
    feWeight := cols.feWeight <|> row.feWeight
    feReasonId := cols.feReasonId <|> row.feReasonId
    imgCount := cols.imgCount <|> row.imgCount }

/-- The `SET` list of `update_checkout_info`. The account transaction is written only when
there is one with a positive id. -/
def setCheckoutInfo (row : TransportTransactionStage) (cols : CheckoutInfoColumns) :
    TransportTransactionStage :=
  { row with
    checkoutTollId := some cols.checkoutTollId
    checkoutLaneId := some cols.checkoutLaneId
    checkoutPlate := some cols.checkoutPlate
    plate := some cols.checkoutPlate
    totalAmount := some cols.totalAmount
    checkoutDatetime := some cols.checkoutDatetime
    lastUpdate := some cols.lastUpdate
    chargeStatus := some cols.chargeStatus
    chargeType := some cols.chargeType
    vehicleType := some cols.vehicleType
    chargeIn := some cols.chargeIn
    accountId := some cols.accountId
    ticketEtagId := some row.transportTransId
    ticketOutId := some row.transportTransId
    checkoutStatus := cols.checkoutStatus <|> row.checkoutStatus
    checkoutPlateStatus := cols.checkoutPlateStatus <|> row.checkoutPlateStatus
    checkoutChannel := cols.checkoutChannel <|> row.checkoutChannel
    checkoutPass := cols.checkoutPass <|> row.checkoutPass
    checkoutPassReasonId := cols.checkoutPassReasonId <|> row.checkoutPassReasonId
    checkoutImgCount := cols.checkoutImgCount <|> row.checkoutImgCount
    turningCode := cols.turningCode <|> row.turningCode
    checkoutTid := cols.checkoutTid <|> row.checkoutTid
    chargeInStatus := cols.chargeInStatus <|> row.chargeInStatus
    accountTransId := (cols.accountTransId.filter fun id => decide (0 < id)) <|> row.accountTransId
    status := cols.status <|> row.status }

/-- The `SET` list of `update_checkout_commit`. -/
def setCheckoutCommit (row : TransportTransactionStage) (cols : CheckoutCommitColumns) :
    TransportTransactionStage :=
  { row with
    checkoutCommitDatetime := some cols.checkoutCommitDatetime
    checkoutImgCount := some cols.checkoutImgCount
    lastUpdate := some cols.lastUpdate
    chargeStatus := some cols.chargeStatus
    checkoutPlate := cols.checkoutPlate <|> row.checkoutPlate
    plate := cols.checkoutPlate <|> row.plate
    checkoutStatus := cols.checkoutStatus <|> row.checkoutStatus
    feReasonId := cols.feReasonId <|> row.feReasonId
    checkoutPlateStatus := cols.checkoutPlateStatus <|> row.checkoutPlateStatus
    checkoutDatetime := cols.checkoutDatetime <|> row.checkoutDatetime
    imgCount := cols.imgCount <|> row.imgCount
    syncStatus := cols.syncStatus <|> row.syncStatus }

/-- `TRANSITION_CLOSE` is not null; a missing or empty text is written as `F`. -/
def transitionCloseOrF (entity : TransportTransactionStage) : Option String :=
  some ((entity.transitionClose.filter fun s => s ≠ "").getD "F")

/-- The row `build_insert_query` stores: the columns outside its list are null. -/
def insertColumns (entity : TransportTransactionStage) (sysdate : DbDatetime) :
    TransportTransactionStage :=
  { entity with
    insertDatetime := entity.insertDatetime <|> some sysdate
    transitionClose := entity.transitionCloseOrF
    bitwiseScan := none
    subscriptionIds := none
    turningCode := none
    mdhId := none
    tokenId := none
    acsAccountNo := none
    subChargeIn := none
    syncStatus := none }

/-- The first ten characters of a shift column. -/
def shiftText (column : Option String) : Option String :=
  column.map fun s => String.ofList (s.toList.take 10)

/-- A shift is stored as it was read exactly if it is short. -/
theorem shiftText_read_eq_iff {c : Option String} :
    (c.isSome → shiftText (readString c) = c) ↔
      ∀ text ∈ c, readString (some text) = some text ∧ text.toList.length ≤ 10 := by
  cases c with
  | none => simp
  | some text =>
    simp only [Option.isSome_some, forall_const, Option.mem_some_iff, forall_eq']
    cases read : readString (some text) with
    | none => simp [shiftText]
    | some short =>
      simp only [shiftText, Option.map_some, Option.some.injEq]
      constructor
      · -- what is read is no longer than the text, so nothing was cut off
        intro cut
        have part := sublist_of_readString read
        have lengths := congrArg (fun s : String => s.toList.length) cut
        rw [String.toList_ofList, List.length_take] at lengths
        have fits : short.toList.length ≤ 10 := by
          have := part.length_le
          omega
        rw [List.take_of_length_le fits, String.ofList_toList] at cut
        subst cut
        exact ⟨rfl, fits⟩
      · rintro ⟨rfl, fits⟩
        rw [List.take_of_length_le fits, String.ofList_toList]

/-- The row `build_update_query` stores: every column of its list comes from the entity, null
ones included, and the others keep the row's value. -/
def updateColumns (row entity : TransportTransactionStage) : TransportTransactionStage :=
  { entity with
    transportTransId := row.transportTransId
    vehicleTypeProfile := some (entity.vehicleTypeProfile.getD "STD")
    checkinShift := shiftText entity.checkinShift
    checkoutShift := shiftText entity.checkoutShift
    transitionClose := entity.transitionCloseOrF
    bitwiseScan := row.bitwiseScan
    subscriptionIds := row.subscriptionIds
    turningCode := row.turningCode
    mdhId := row.mdhId
    tokenId := row.tokenId
    acsAccountNo := row.acsAccountNo
    subChargeIn := row.subChargeIn
    syncStatus := row.syncStatus }

end TransportTransactionStage

namespace StageTable

/-! ### Statements -/

/-- The stored row with a primary key. -/
def row? (table : StageTable) (id : Int) : Option TransportTransactionStage :=
  table.rows.find? fun row => row.transportTransId == id

/-- `find_by_id`. -/
def findById (table : StageTable) (id : Int) : Option TransportTransactionStage :=
  (table.row? id).map (·.selectRow)

/-- The first row of `SELECT .. WHERE p AND CHECKIN_STATUS IN ('1', '2') ORDER BY
NVL(CHECKIN_DATETIME, INSERT_DATETIME) DESC`, as stored. -/
def latestRow? (table : StageTable) (p : TransportTransactionStage → Bool) (rank : Int → Nat) :
    Option TransportTransactionStage :=
  ((table.rows.filter fun row => p row && decide row.CheckedIn).insertionSort fun a b =>
    OrderedBefore (a.checkinTime, rank a.transportTransId)
      (b.checkinTime, rank b.transportTransId)).head?

/-- `find_by_ticket_in_id`. -/
def findByTicketInId (table : StageTable) (ticketInId : Int) (rank : Int → Nat) :
    Option TransportTransactionStage :=
  (table.latestRow? (fun row => row.ticketInId == some ticketInId) rank).map (·.selectRow)

/-- `find_latest_by_etag`. -/
def findLatestByEtag (table : StageTable) (etag : String) (rank : Int → Nat) :
    Option TransportTransactionStage :=
  (table.latestRow? (fun row => row.etagNumber == some etag) rank).map (·.selectRow)

/-- `UPDATE .. SET .. WHERE p`. No statement sets the primary key. -/
def updateWhere (table : StageTable) (p : TransportTransactionStage → Bool)
    (set : TransportTransactionStage → TransportTransactionStage) : StageTable where
  rows := table.rows.map fun row =>
    if p row then (set row).withId row.transportTransId else row
  primaryKey := by
    rw [List.map_map]
    refine (List.map_congr_left fun row _ => ?_) ▸ table.primaryKey
    simp only [Function.comp]
    split <;> rfl

/-- `WHERE TRANSPORT_TRANS_ID = id`. -/
def hasId (id : Int) (row : TransportTransactionStage) : Bool :=
  row.transportTransId == id

/-- The full-row `UPDATE` of `Repository::update`. -/
def update (table : StageTable) (id : Int) (entity : TransportTransactionStage) : StageTable :=
  table.updateWhere (hasId id) (·.updateColumns entity)

/-- `update_checkin_commit`: only a row still waiting for its commit. -/
def updateCheckinCommit (table : StageTable) (id : Int) (cols : CheckinCommitColumns) :
    StageTable :=
  table.updateWhere (fun row => hasId id row && row.checkinStatus == some "1")
    (·.setCheckinCommit cols)

/-- `update_checkout_info`. -/
def updateCheckoutInfo (table : StageTable) (id : Int) (cols : CheckoutInfoColumns) :
    StageTable :=
  table.updateWhere (hasId id) (·.setCheckoutInfo cols)

/-- `update_checkout_commit`. -/
def updateCheckoutCommit (table : StageTable) (id : Int) (cols : CheckoutCommitColumns) :
    StageTable :=
  table.updateWhere (hasId id) (·.setCheckoutCommit cols)

/-- `update_hub_id_by_transport_trans_id`. -/
def updateHubId (table : StageTable) (id hubId : Int) (now : DbDatetime) : StageTable :=
  table.updateWhere (hasId id) fun row =>
    { row with hubId := some hubId, lastUpdate := some now }

/-- The `INSERT`; `none` when the primary key is taken. -/
def insertRow (table : StageTable) (entity : TransportTransactionStage) (sysdate : DbDatetime) :
    Option StageTable :=
  if fresh : entity.transportTransId ∉ table.rows.map (·.transportTransId) then
    some
      { rows := table.rows ++ [entity.insertColumns sysdate]
        primaryKey := by
          rw [List.map_append, List.map_singleton, List.nodup_append]
          refine ⟨table.primaryKey, List.nodup_singleton _, ?_⟩
          rintro a ha b hb rfl
          exact fresh (by rwa [List.mem_singleton.mp hb] at ha) }
  else none

/-! ### Rows after a statement -/

variable {table : StageTable} {id : Int} {row : TransportTransactionStage}

theorem row?_eq_some_iff :
    table.row? id = some row ↔ row ∈ table.rows ∧ row.transportTransId = id := by
  constructor
  · intro found
    exact ⟨List.mem_of_find?_eq_some found, by simpa using List.find?_some found⟩
  · rintro ⟨mem, rfl⟩
    cases found : table.row? row.transportTransId with
    | none =>
      rw [row?, List.find?_eq_none] at found
      exact absurd (by simp) (found row mem)
    | some other =>
      have same : other.transportTransId = row.transportTransId := by
        simpa using List.find?_some found
      rw [List.inj_on_of_nodup_map table.primaryKey (List.mem_of_find?_eq_some found) mem same]

theorem row?_eq_none_iff : table.row? id = none ↔ ∀ row ∈ table.rows, row.transportTransId ≠ id := by
  simp [row?, List.find?_eq_none]

theorem transportTransId_of_row? (found : table.row? id = some row) :
    row.transportTransId = id :=
  (row?_eq_some_iff.mp found).2

/-- An `UPDATE` changes the row of each id on its own. -/
theorem row?_updateWhere (p : TransportTransactionStage → Bool)
    (set : TransportTransactionStage → TransportTransactionStage) :
    (table.updateWhere p set).row? id = (table.row? id).map fun row =>
      if p row then (set row).withId row.transportTransId else row := by
  simp only [row?, updateWhere, List.find?_map]
  congr 2
  funext row
  simp only [Function.comp]
  split <;> rfl

/-- The row of an id after an `UPDATE` of the row with primary key `key`. -/
theorem row?_updateWhere_hasId {key : Int}
    (set : TransportTransactionStage → TransportTransactionStage)
    (keeps : ∀ row, (set row).transportTransId = row.transportTransId) :
    (table.updateWhere (hasId key) set).row? id =
      if id = key then (table.row? id).map set else table.row? id := by
  rw [row?_updateWhere]
  cases found : table.row? id with
  | none => simp
  | some row =>
    have isId := transportTransId_of_row? found
    by_cases here : id = key
    · have hit : hasId key row = true := by simp [hasId, isId, here]
      simp only [Option.map_some, hit, if_true, if_pos here]
      rw [← keeps row]
      rfl
    · have miss : hasId key row = false := by simp [hasId, isId, here]
      simp [miss, here]

@[simp] theorem row?_update (key : Int) (entity : TransportTransactionStage) :
    (table.update key entity).row? id =
      if id = key then (table.row? id).map (·.updateColumns entity) else table.row? id :=
  row?_updateWhere_hasId _ fun _ => rfl

@[simp] theorem row?_updateCheckoutInfo (key : Int) (cols : CheckoutInfoColumns) :
    (table.updateCheckoutInfo key cols).row? id =
      if id = key then (table.row? id).map (·.setCheckoutInfo cols) else table.row? id :=
  row?_updateWhere_hasId _ fun _ => rfl

@[simp] theorem row?_updateCheckoutCommit (key : Int) (cols : CheckoutCommitColumns) :
    (table.updateCheckoutCommit key cols).row? id =
      if id = key then (table.row? id).map (·.setCheckoutCommit cols) else table.row? id :=
  row?_updateWhere_hasId _ fun _ => rfl

@[simp] theorem row?_updateHubId (key hubId : Int) (now : DbDatetime) :
    (table.updateHubId key hubId now).row? id =
      if id = key then (table.row? id).map
        (fun row => { row with hubId := some hubId, lastUpdate := some now })
      else table.row? id :=
  row?_updateWhere_hasId _ fun _ => rfl

@[simp] theorem row?_updateCheckinCommit (key : Int) (cols : CheckinCommitColumns) :
    (table.updateCheckinCommit key cols).row? id =
      if id = key then (table.row? id).map fun row =>
        if row.checkinStatus = some "1" then row.setCheckinCommit cols else row
      else table.row? id := by
  rw [updateCheckinCommit, row?_updateWhere]
  cases found : table.row? id with
  | none => simp
  | some row =>
    have isId := transportTransId_of_row? found
    by_cases here : id = key
    · have hit : hasId key row = true := by simp [hasId, isId, here]
      simp only [Option.map_some, hit, Bool.true_and, beq_iff_eq, if_pos here]
      split <;> rfl
    · have miss : hasId key row = false := by simp [hasId, isId, here]
      simp [miss, here]

theorem row?_insertRow {entity : TransportTransactionStage} {sysdate : DbDatetime}
    {table' : StageTable} (inserted : table.insertRow entity sysdate = some table') :
    table.row? entity.transportTransId = none ∧
      table'.row? id = if id = entity.transportTransId then some (entity.insertColumns sysdate)
        else table.row? id := by
  unfold insertRow at inserted
  split at inserted
  · next fresh =>
    have absent : table.row? entity.transportTransId = none := by
      rw [row?_eq_none_iff]
      rintro row mem same
      exact fresh (List.mem_map.mpr ⟨row, mem, same⟩)
    refine ⟨absent, ?_⟩
    cases inserted
    simp only [row?, List.find?_append]
    by_cases here : id = entity.transportTransId
    · subst here
      rw [if_pos rfl]
      have none : table.rows.find? (fun row => row.transportTransId == entity.transportTransId) =
          none := absent
      simp [none, TransportTransactionStage.insertColumns]
    · have miss : ([entity.insertColumns sysdate].find? fun row => row.transportTransId == id) =
          none := by
        simp [TransportTransactionStage.insertColumns, Ne.symm here]
      rw [if_neg here, miss, Option.or_none]
  · simp at inserted

theorem row?_of_insertRow {entity : TransportTransactionStage} {sysdate : DbDatetime}
    {table' : StageTable} (inserted : table.insertRow entity sysdate = some table') :
    table'.row? entity.transportTransId = some (entity.insertColumns sysdate) := by
  rw [(row?_insertRow inserted).2, if_pos rfl]

/-- An `INSERT` leaves the rows that were stored. -/
theorem row?_insertRow_of_some {entity : TransportTransactionStage} {sysdate : DbDatetime}
    {table' : StageTable} (inserted : table.insertRow entity sysdate = some table')
    (stored : table.row? id = some row) : table'.row? id = some row := by
  obtain ⟨absent, after⟩ := @row?_insertRow table id _ _ _ inserted
  rw [after, if_neg, stored]
  rintro rfl
  rw [absent] at stored
  cases stored

theorem insertRow_eq_none_iff {entity : TransportTransactionStage} {sysdate : DbDatetime} :
    table.insertRow entity sysdate = none ↔ ∃ row, table.row? entity.transportTransId = some row := by
  unfold insertRow
  split
  · next fresh =>
    simp only [reduceCtorEq, false_iff, not_exists]
    intro row found
    exact fresh (List.mem_map.mpr ⟨row, row?_eq_some_iff.mp found⟩)
  · next taken =>
    simp only [true_iff]
    obtain ⟨row, mem, same⟩ := List.mem_map.mp (not_not.mp taken)
    exact ⟨row, row?_eq_some_iff.mpr ⟨mem, same⟩⟩

theorem findById_eq_some {read : TransportTransactionStage} (found : table.findById id = some read) :
    ∃ row, table.row? id = some row ∧ read = row.selectRow := by
  obtain ⟨row, stored, rfl⟩ := Option.map_eq_some_iff.mp found
  exact ⟨row, stored, rfl⟩

theorem latestRow?_eq_some {p : TransportTransactionStage → Bool} {rank : Int → Nat}
    (found : table.latestRow? p rank = some row) :
    table.row? row.transportTransId = some row ∧ p row = true ∧ row.CheckedIn := by
  have mem := List.mem_of_mem_head? (Option.mem_def.mpr found)
  rw [List.mem_insertionSort, List.mem_filter] at mem
  simp only [Bool.and_eq_true, decide_eq_true_eq] at mem
  exact ⟨row?_eq_some_iff.mpr ⟨mem.1, rfl⟩, mem.2⟩

theorem latestRow?_eq_none_iff {p : TransportTransactionStage → Bool} {rank : Int → Nat} :
    table.latestRow? p rank = none ↔ ∀ row ∈ table.rows, row.CheckedIn → p row = false := by
  rw [latestRow?, List.head?_eq_none_iff, ← List.length_eq_zero_iff, List.length_insertionSort,
    List.length_eq_zero_iff, List.filter_eq_nil_iff]
  simp only [Bool.and_eq_true, decide_eq_true_eq, not_and]
  refine forall₂_congr fun row _ => ?_
  cases p row <;> simp

theorem findByTicketInId_eq_some {ticketInId : Int} {rank : Int → Nat}
    {read : TransportTransactionStage}
    (found : table.findByTicketInId ticketInId rank = some read) :
    ∃ row, table.row? row.transportTransId = some row ∧ row.ticketInId = some ticketInId ∧
      row.CheckedIn ∧ read = row.selectRow := by
  obtain ⟨row, latest, rfl⟩ := Option.map_eq_some_iff.mp found
  obtain ⟨stored, hit, checkedIn⟩ := latestRow?_eq_some latest
  exact ⟨row, stored, by simpa using hit, checkedIn, rfl⟩

theorem findByTicketInId_eq_none_iff {ticketInId : Int} {rank : Int → Nat} :
    table.findByTicketInId ticketInId rank = none ↔
      ∀ row ∈ table.rows, row.CheckedIn → row.ticketInId ≠ some ticketInId := by
  simp [findByTicketInId, latestRow?_eq_none_iff]

theorem findLatestByEtag_eq_some {etag : String} {rank : Int → Nat}
    {read : TransportTransactionStage} (found : table.findLatestByEtag etag rank = some read) :
    ∃ row, table.row? row.transportTransId = some row ∧ row.etagNumber = some etag ∧
      row.CheckedIn ∧ read = row.selectRow := by
  obtain ⟨row, latest, rfl⟩ := Option.map_eq_some_iff.mp found
  obtain ⟨stored, hit, checkedIn⟩ := latestRow?_eq_some latest
  exact ⟨row, stored, by simpa using hit, checkedIn, rfl⟩

end StageTable

/-! ### The sync tables -/

/-- What the select list of `TRANSPORT_TRANS_STAGE_SYNC` returns of a stored row. -/
def TransportTransStageSync.selectRow (row : TransportTransStageSync) :
    TransportTransStageSync :=
  { row with
    etagNumber := readString row.etagNumber
    tid := readString row.tid
    plate := readString row.plate
    vehicleType := readString row.vehicleType
    ticketType := readString row.ticketType
    priceTicketType := readString row.priceTicketType
    booEtag := readString row.booEtag
    ratingType := readString row.ratingType }

/-- `TransportTransStageSyncRepository::find_latest_by_etag`. -/
def syncFindLatestByEtag (syncs : List TransportTransStageSync) (etag : String) :
    Option TransportTransStageSync :=
  ((syncs.filter fun row => row.etagNumber == some (trim etag) &&
      (row.status == some 0 || row.status == some 1) && row.ratingType == some "E").insertionSort
    fun a b => NotEarlier a.checkinDatetime b.checkinDatetime ∧
      (NotEarlier b.checkinDatetime a.checkinDatetime →
        b.transportSyncId ≤ a.transportSyncId)).head?.map (·.selectRow)

theorem mem_of_syncFindLatestByEtag {syncs : List TransportTransStageSync} {etag : String}
    {read : TransportTransStageSync} (found : syncFindLatestByEtag syncs etag = some read) :
    ∃ row ∈ syncs, row.etagNumber = some (trim etag) ∧ read = row.selectRow := by
  obtain ⟨row, head, rfl⟩ := Option.map_eq_some_iff.mp found
  have mem := List.mem_of_mem_head? (Option.mem_def.mpr head)
  rw [List.mem_insertionSort, List.mem_filter] at mem
  simp only [Bool.and_eq_true, beq_iff_eq] at mem
  exact ⟨row, mem.1, mem.2.1.1, rfl⟩

/-- `TransportTransStageSyncDtRepository::find_by_transport_sync_id`. -/
def syncDtFindByTransportSyncId (details : List TransportTransStageSyncDt)
    (transportSyncId : Int) : List TransportTransStageSyncDt :=
  (details.filter fun dt => dt.transportSyncId == transportSyncId).insertionSort
    fun a b => a.transportSyncDtId ≤ b.transportSyncDtId

end TollBackend

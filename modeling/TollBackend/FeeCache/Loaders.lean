import TollBackend.FeeCache.Queries

/-!
# The loaders of the fee caches

The columns of each table that a loader reads. The loaders of the lists and of the subscriptions
take a row that is not fetched for the end of the result, those of the prices and the segments end
with an error.

## Main definitions

* `wbList`, `exList`, `exPriceList`, `subscriptionHistory`, `activePrice`: one query each.
* `transitionStages`, `cycleByStage`, `tollAbByStage`: the three queries for the segments.
-/

namespace TollBackend

open Rows

/-! ### Records -/

/-- `WbListRouteDto`. -/
structure WbListRouteDto where
  tollId : Int
  cycleId : Option Int
  itemType : String
  etag : Option String
  plate : Option String
  plateType : Option String
  effectDate : Option String
  expireDate : Option String
  typeStation : Option String
  boo : Option String
  vehicleType : Option String

/-- `ExListItemDto`. -/
structure ExListItemDto where
  stationId : Int
  vehicleType : String
  etag : Option String
  plate : Option String
  effectDate : Option String
  expireDate : Option String
  vehicleTypeProfile : Option String
  boo : Option String
  vehicleTypeBoo : Option String
  typeStation : Option String

/-- `ExPriceListItemDto`. -/
structure ExPriceListItemDto where
  stationId : Int
  priceTicketType : String
  etag : Option String
  plate : Option String
  vehicleType : Option String
  effectDate : Option String
  expireDate : Option String
  boo : Option String
  vehicleTypeBoo : Option String
  typeStation : Option String

/-! ### The lists -/

/-- The failures of a row that is read column by column. -/
theorem fails_read_iff {A B : Type} {x : Except DbError A} {f : A → Except DbError B}
    {row : CursorRow} {column : Column} {columns : List Column}
    (first : Fails x ↔ column.Reported row)
    (others : ∀ a, Fails (f a) ↔ ∃ c ∈ columns, c.Reported row) :
    Fails (x >>= f) ↔ ∃ c ∈ column :: columns, c.Reported row := by
  rw [List.exists_mem_cons_iff]
  exact fails_bind_iff first others

/-- The last step gives the record. -/
theorem fails_pure_iff {A : Type} {a : A} {row : CursorRow} :
    Fails (pure a : Except DbError A) ↔ ∃ c ∈ ([] : List Column), c.Reported row := by
  simp

/-- The rows of `load_wb_list_from_db`. -/
def wbRow (row : CursorRow) : Except DbError WbListRouteDto := do
  let stationId ← getNullableI64 row 1
  let cycleId ← getNullableI64 row 2
  let itemType ← getNullableString row 3
  let etag ← getNullableString row 4
  let plate ← getNullableString row 5
  let plateType ← getNullableString row 6
  let effectDate ← getNullableDatetimeString row 7
  let expireDate ← getNullableDatetimeString row 8
  let typeStation ← getNullableString row 9
  let boo ← getNullableString row 10
  let vehicleType ← getNullableString row 11
  pure {
    tollId := stationId.getD 0, cycleId, itemType := itemType.getD "", etag, plate, plateType,
    effectDate, expireDate, typeStation, boo, vehicleType }

/-- `load_wb_list_from_db`. -/
def wbList : TableQuery WbListRouteDto where
  columns := [.nullableI64 1, .nullableI64 2, .string 3, .string 4, .string 5, .string 6,
    .datetime 7, .datetime 8, .string 9, .string 10, .string 11]
  decode := wbRow
  onFault _ := none
  fails_decode_iff row := by
    apply fails_read_iff (fails_getNullableI64 row 1); intro stationId
    apply fails_read_iff (fails_getNullableI64 row 2); intro cycleId
    apply fails_read_iff (fails_getNullableString row 3); intro itemType
    apply fails_read_iff (fails_getNullableString row 4); intro etag
    apply fails_read_iff (fails_getNullableString row 5); intro plate
    apply fails_read_iff (fails_getNullableString row 6); intro plateType
    apply fails_read_iff (fails_getNullableDatetimeString row 7); intro effectDate
    apply fails_read_iff (fails_getNullableDatetimeString row 8); intro expireDate
    apply fails_read_iff (fails_getNullableString row 9); intro typeStation
    apply fails_read_iff (fails_getNullableString row 10); intro boo
    apply fails_read_iff (fails_getNullableString row 11); intro vehicleType
    exact fails_pure_iff

/-- The rows of `load_ex_list_from_db`. -/
def exRow (row : CursorRow) : Except DbError ExListItemDto := do
  let stationId ← getI64 row 1
  let vehicleType ← getNullableString row 2
  let etag ← getNullableString row 3
  let plate ← getNullableString row 4
  let effectDate ← getNullableDatetimeString row 5
  let expireDate ← getNullableDatetimeString row 6
  let vehicleTypeProfile ← getNullableString row 7
  let boo ← getNullableString row 8
  let vehicleTypeBoo ← getNullableString row 9
  let typeStation ← getNullableString row 10
  pure {
    stationId, vehicleType := vehicleType.getD "", etag, plate, effectDate, expireDate,
    vehicleTypeProfile, boo, vehicleTypeBoo, typeStation }

/-- `load_ex_list_from_db`. -/
def exList : TableQuery ExListItemDto where
  columns := [.i64 1, .string 2, .string 3, .string 4, .datetime 5, .datetime 6, .string 7,
    .string 8, .string 9, .string 10]
  decode := exRow
  onFault _ := none
  fails_decode_iff row := by
    apply fails_read_iff (fails_getI64 row 1); intro stationId
    apply fails_read_iff (fails_getNullableString row 2); intro vehicleType
    apply fails_read_iff (fails_getNullableString row 3); intro etag
    apply fails_read_iff (fails_getNullableString row 4); intro plate
    apply fails_read_iff (fails_getNullableDatetimeString row 5); intro effectDate
    apply fails_read_iff (fails_getNullableDatetimeString row 6); intro expireDate
    apply fails_read_iff (fails_getNullableString row 7); intro vehicleTypeProfile
    apply fails_read_iff (fails_getNullableString row 8); intro boo
    apply fails_read_iff (fails_getNullableString row 9); intro vehicleTypeBoo
    apply fails_read_iff (fails_getNullableString row 10); intro typeStation
    exact fails_pure_iff

/-- The rows of `load_ex_price_list_from_db`. -/
def exPriceRow (row : CursorRow) : Except DbError ExPriceListItemDto := do
  let stationId ← getI64 row 1
  let priceTicketType ← getNullableString row 2
  let etag ← getNullableString row 3
  let plate ← getNullableString row 4
  let vehicleType ← getNullableString row 5
  let effectDate ← getNullableDatetimeString row 6
  let expireDate ← getNullableDatetimeString row 7
  let boo ← getNullableString row 8
  let vehicleTypeBoo ← getNullableString row 9
  let typeStation ← getNullableString row 10
  pure {
    stationId, priceTicketType := priceTicketType.getD "0", etag, plate, vehicleType, effectDate,
    expireDate, boo, vehicleTypeBoo, typeStation }

/-- `load_ex_price_list_from_db`. -/
def exPriceList : TableQuery ExPriceListItemDto where
  columns := [.i64 1, .string 2, .string 3, .string 4, .string 5, .datetime 6, .datetime 7,
    .string 8, .string 9, .string 10]
  decode := exPriceRow
  onFault _ := none
  fails_decode_iff row := by
    apply fails_read_iff (fails_getI64 row 1); intro stationId
    apply fails_read_iff (fails_getNullableString row 2); intro priceTicketType
    apply fails_read_iff (fails_getNullableString row 3); intro etag
    apply fails_read_iff (fails_getNullableString row 4); intro plate
    apply fails_read_iff (fails_getNullableString row 5); intro vehicleType
    apply fails_read_iff (fails_getNullableDatetimeString row 6); intro effectDate
    apply fails_read_iff (fails_getNullableDatetimeString row 7); intro expireDate
    apply fails_read_iff (fails_getNullableString row 8); intro boo
    apply fails_read_iff (fails_getNullableString row 9); intro vehicleTypeBoo
    apply fails_read_iff (fails_getNullableString row 10); intro typeStation
    exact fails_pure_iff

/-! ### The subscriptions -/

/-- `get_nullable_i64(..).ok().flatten()`: an error is taken for a missing value. -/
def getIgnoredI64 (row : CursorRow) (colIndex : Nat) : Except DbError (Option Int) :=
  match getNullableI64 row colIndex with
  | .ok field => .ok field
  | .error _ => .ok none

theorem fails_getIgnoredI64 (row : CursorRow) (i : Nat) :
    Fails (getIgnoredI64 row i) ↔ (Column.ignoredI64 i).Reported row := by
  rw [getIgnoredI64, Column.Reported]
  cases getNullableI64 row i <;> simp

/-- The rows of `load_subscription_history_from_db`: a subscription and its tag. -/
def subscriptionRow (row : CursorRow) : Except DbError (String × SubscriptionHistoryDto) := do
  let etag ← getNullableString row 1
  let stageId ← getI64 row 2
  let subscriptionId ← getI64 row 3
  let priceType ← getNullableString row 4
  let stageBoo ← getNullableString row 5
  let startDate ← getNullableDatetimeString row 6
  let endDate ← getNullableDatetimeString row 7
  let priceId ← getIgnoredI64 row 8
  let botId ← getIgnoredI64 row 9
  pure (trim (etag.getD ""), {
    stageId, subscriptionId, priceType, priceId, botId, stageBoo, startDate, endDate })

/-- `load_subscription_history_from_db`. -/
def subscriptionHistory : TableQuery (String × SubscriptionHistoryDto) where
  columns := [.string 1, .i64 2, .i64 3, .string 4, .string 5, .datetime 6, .datetime 7,
    .ignoredI64 8, .ignoredI64 9]
  decode := subscriptionRow
  onFault _ := none
  fails_decode_iff row := by
    apply fails_read_iff (fails_getNullableString row 1); intro etag
    apply fails_read_iff (fails_getI64 row 2); intro stageId
    apply fails_read_iff (fails_getI64 row 3); intro subscriptionId
    apply fails_read_iff (fails_getNullableString row 4); intro priceType
    apply fails_read_iff (fails_getNullableString row 5); intro stageBoo
    apply fails_read_iff (fails_getNullableDatetimeString row 6); intro startDate
    apply fails_read_iff (fails_getNullableDatetimeString row 7); intro endDate
    apply fails_read_iff (fails_getIgnoredI64 row 8); intro priceId
    apply fails_read_iff (fails_getIgnoredI64 row 9); intro botId
    exact fails_pure_iff

/-! ### The prices -/

/-- The rows of `get_active_price`. -/
def priceRow (row : CursorRow) : Except DbError PriceDto := do
  let priceId ← getI64 row 1
  let tollA ← getNullableI64 row 2
  let tollB ← getNullableI64 row 3
  let boo ← getNullableString row 4
  let priceAmount ← getNullableI64 row 5
  let vehicleType ← getNullableString row 6
  let priceTicketType ← getNullableString row 7
  let priceType ← getNullableString row 8
  let turningCode ← getNullableString row 9
  let effectDatetime ← getNullableDatetimeString row 10
  let endDatetime ← getNullableDatetimeString row 11
  let botId ← getNullableI64 row 12
  let stageId ← getNullableI64 row 13
  pure {
    priceId, tollA, tollB, boo, priceAmount, vehicleType, priceTicketType, priceType,
    turningCode, effectDatetime, endDatetime, botId, stageId }

/-- `get_active_price`. -/
def activePrice : TableQuery PriceDto where
  columns := [.i64 1, .nullableI64 2, .nullableI64 3, .string 4, .nullableI64 5, .string 6,
    .string 7, .string 8, .string 9, .datetime 10, .datetime 11, .nullableI64 12,
    .nullableI64 13]
  decode := priceRow
  onFault e := some (.executionError s!"[PriceCache] Error fetching row: {e}")
  fails_decode_iff row := by
    apply fails_read_iff (fails_getI64 row 1); intro priceId
    apply fails_read_iff (fails_getNullableI64 row 2); intro tollA
    apply fails_read_iff (fails_getNullableI64 row 3); intro tollB
    apply fails_read_iff (fails_getNullableString row 4); intro boo
    apply fails_read_iff (fails_getNullableI64 row 5); intro priceAmount
    apply fails_read_iff (fails_getNullableString row 6); intro vehicleType
    apply fails_read_iff (fails_getNullableString row 7); intro priceTicketType
    apply fails_read_iff (fails_getNullableString row 8); intro priceType
    apply fails_read_iff (fails_getNullableString row 9); intro turningCode
    apply fails_read_iff (fails_getNullableDatetimeString row 10); intro effectDatetime
    apply fails_read_iff (fails_getNullableDatetimeString row 11); intro endDatetime
    apply fails_read_iff (fails_getNullableI64 row 12); intro botId
    apply fails_read_iff (fails_getNullableI64 row 13); intro stageId
    exact fails_pure_iff

/-! ### The segments -/

/-- The rows of `CLOSED_CYCLE_TRANSITION_STAGE`: two stations and a transition between them. -/
def transitionRow (row : CursorRow) : Except DbError (Int × Int × Int) := do
  let tollA ← getI64 row 1
  let tollB ← getI64 row 2
  let transitionId ← getI64 row 3
  pure (tollA, tollB, transitionId)

/-- The first query of `load_closed_cycle_transition_stage_from_db`. -/
def transitionStages : TableQuery (Int × Int × Int) where
  columns := [.i64 1, .i64 2, .i64 3]
  decode := transitionRow
  onFault e := some (.executionError s!"Error fetching CLOSED_CYCLE_TRANSITION_STAGE row: {e}")
  fails_decode_iff row := by
    apply fails_read_iff (fails_getI64 row 1); intro tollA
    apply fails_read_iff (fails_getI64 row 2); intro tollB
    apply fails_read_iff (fails_getI64 row 3); intro transitionId
    exact fails_pure_iff

/-- The rows of `load_cycle_by_stage`. -/
def cycleRow (row : CursorRow) : Except DbError (Int × Int) := do
  let stageId ← getI64 row 1
  let cycleId ← getI64 row 2
  pure (stageId, cycleId)

/-- `load_cycle_by_stage`. -/
def cycleByStage : TableQuery (Int × Int) where
  columns := [.i64 1, .i64 2]
  decode := cycleRow
  onFault e := some (.executionError s!"Error fetching TOLL_STAGE cycle: {e}")
  fails_decode_iff row := by
    apply fails_read_iff (fails_getI64 row 1); intro stageId
    apply fails_read_iff (fails_getI64 row 2); intro cycleId
    exact fails_pure_iff

/-- The rows of `load_toll_ab_by_stage`. -/
def tollAbRow (row : CursorRow) : Except DbError (Int × Option Int × Option Int) := do
  let stageId ← getI64 row 1
  let tollA ← getNullableI64 row 2
  let tollB ← getNullableI64 row 3
  pure (stageId, tollA, tollB)

/-- `load_toll_ab_by_stage`. -/
def tollAbByStage : TableQuery (Int × Option Int × Option Int) where
  columns := [.i64 1, .nullableI64 2, .nullableI64 3]
  decode := tollAbRow
  onFault e := some (.executionError s!"Error fetching TOLL_STAGE toll_a/toll_b: {e}")
  fails_decode_iff row := by
    apply fails_read_iff (fails_getI64 row 1); intro stageId
    apply fails_read_iff (fails_getNullableI64 row 2); intro tollA
    apply fails_read_iff (fails_getNullableI64 row 3); intro tollB
    exact fails_pure_iff

end TollBackend

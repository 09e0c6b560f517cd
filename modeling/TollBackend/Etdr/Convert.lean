import TollBackend.Etdr.Record
import TollBackend.Stage.Record

/-!
# Between records and rows

Every function of the source that turns a record into a row, a row into a record, or two of
them into one. They are pure up to the clock and the table of stations, which are passed as
an `Ambient` reading.

## Main definitions

* `Etdr.fromTransportTransactionStage`: the record of a row of the main table.
* `createTransportTransactionStageFromBectCheckin`, `buildTransportStageFromSync`,
  `buildTransportStageFromEtdr`: the three places that build a fresh row.
* `mergeEtdrIntoTransportStage`: what a retry writes over a row that exists.
* `fillEtdrFromSync`, `mergeLatestCheckinEtdr`, `mergeEtdrSameTicketId`: merges of records.
-/

namespace TollBackend

/-- What the code reads from outside its database at one moment: the clock, the toll type of
each station in the station cache, and two settings. -/
structure Ambient where
  now : Clock := default
  tollType : Int → Option String := fun _ => none
  bectSkipAccountCheck : Bool := false
  allowZeroFeeWhenNoPriceOrRoute : Bool := false

instance : Inhabited Ambient :=
  ⟨{}⟩

/-- `SubscriberInfo`, the owner of a tag. -/
structure SubscriberInfo where
  subscriberId : Int := 0
  etagId : Int := 0
  vehicleId : Int := 0
  accountId : Int := 0
  plate : String := ""
  vehicleType : String := ""

/-- `checkin::PLATE_EMPTY_SENTINEL`. -/
def plateEmptySentinel : String := "0000000000"

/-! ### Stations and codes -/

/-- One upper case letter for the type of a station, `C` for an empty text. -/
def normalizeStationType (s : String) : String :=
  match (trim s).toList with
  | [] => "C"
  | c :: _ => String.ofList [c.toUpper]

/-- `toll_type_from_checkin_toll_id`. -/
def tollTypeFromCheckinTollId (env : Ambient) (checkinTollId : Option Int) : String :=
  ((checkinTollId.bind fun id => env.tollType (toI32 id)).map normalizeStationType).getD "C"

/-- `resolve_toll_type_for_etdr`. -/
def resolveTollTypeForEtdr (env : Ambient) (booTollType : Option String)
    (checkinTollId checkoutTollId : Option Int) : String :=
  match booTollType.filter fun s => !isBlank s with
  | some s => normalizeStationType (trim s)
  | none =>
      match checkinTollId.bind fun id => env.tollType (toI32 id) with
      | some t => normalizeStationType t
      | none =>
          match checkoutTollId.bind fun id => env.tollType (toI32 id) with
          | some t => normalizeStationType t
          | none => "C"

/-- `Config::get_vehicle_boo_type`. -/
def getVehicleBooType (_etag : String) : Int := 3

/-- Letter by letter upper case, with the two letters outside ASCII whose upper case is in
it. -/
def upperCode (s : String) : String :=
  String.ofList (s.toList.map fun c =>
    if c.toNat = 0x131 then 'I' else if c.toNat = 0x17F then 'S' else c.toUpper)

/-- `price_ticket_type::from_db_string` of a nonnull column. -/
def priceTicketTypeFromDbString (s : String) : Int :=
  let text := trim s
  if text = "" then 1
  else
    match (parseInt 32 text).filter fun n => decide (1 ≤ n ∧ n ≤ 99) with
    | some n => n
    | none =>
        match upperCode text with
        | "BL" => 94
        | "BL_ALL" => 95
        | "W" | "WL" | "WL_TOLL" => 97
        | "W_ALL" | "WL_ALL" => 98
        | "FREE_TURNING" | "99" => 99
        | "93" | "LP_VD3" | "LP_IN_VD3" => 93
        | "96" | "FREE_TURNING_SECOND" => 96
        | _ => 1

/-! ### Records from rows -/

/-- `ETDR::from_transport_transaction_stage`. Neither the price nor the fee lines of the trip
are in the row, so the record has none. -/
def Etdr.fromTransportTransactionStage (stage : TransportTransactionStage) (now : Clock) :
    Etdr :=
  let checkinDatetimeMs :=
    ((stage.checkinDatetime <|> stage.insertDatetime).map
      DbDatetime.timestampMillis).getD now.ms
  let etagStr := stage.etagNumber.getD ""
  { timeUpdate := now.ms
    subId := idOrZero stage.subscriberId
    etagId := etagStr
    etagKey := stage.etagId.map toI32
    etagNumber := etagStr
    accountId := idOrZero stage.accountId
    vehicleId := idOrZero stage.vehicleId
    status := (stage.status.map fun s => if s = "1" then 0 else 1).getD 0
    hashValue := stage.checkinShift.getD ""
    vehicleType := stage.vehicleType.getD "1"
    vehicleTypeProfile := stage.vehicleTypeProfile.getD "STD"
    plate := (stage.checkinPlate <|> stage.plate).getD ""
    plateStatus := (stage.checkinPlateStatus.bind (parseInt 32)).getD 0
    weight := idOrZero stage.feWeight
    vehicleLength := idOrZero stage.feVehicleLength
    requestId := stage.requestId.getD 0
    ticketId := stage.transportTransId
    refTransId := stage.transportTransId
    tId := stage.checkinTid.getD ""
    ticketType := (stage.chargeType.map ticketTypeStrToI32).getD 1
    priceTicketType := 1
    imageCount := stage.checkinImgCount.getD 0
    stationId := idOrZero stage.checkinTollId
    stationType := 1
    laneId := idOrZero stage.checkinLaneId
    tollOut := idOrZero stage.checkoutTollId
    laneOut := idOrZero stage.checkoutLaneId
    timeRouteCheckin := checkinDatetimeMs
    timeRouteCheckinCommit := millisOrZero stage.checkinCommitDatetime
    timeRouteCheckout := millisOrZero stage.checkoutDatetime
    timeStationCheckin := checkinDatetimeMs
    checkinDatetime := checkinDatetimeMs
    checkinCommitDatetime := millisOrZero stage.checkinCommitDatetime
    checkoutDatetime := millisOrZero stage.checkoutDatetime
    checkoutCommitDatetime := millisOrZero stage.checkoutCommitDatetime
    booTicketId := stage.transportTransId
    booLaneType := some "I"
    booTollType := stage.tollType <|> some "C"
    chargeIn := stage.chargeIn
    chargeInStatus := stage.chargeInStatus
    chargeTransId := stage.chargeTransId
    chargeDatetime := stage.chargeDatetime.map DbDatetime.timestampMillis
    chargeIn104 := stage.chargeIn104
    chdType := stage.chdType
    chdRefId := stage.chdRefId.map toString
    chdReason := stage.chdReason
    tollTurningTimeCode := stage.turningCode
    enoughMinBalance := true
    ratingType := stage.ratingType
    feTransId := stage.feTransId
    ticketInId := stage.ticketInId
    ticketEtagId := stage.ticketEtagId
    ticketOutId := stage.ticketOutId
    hubId := stage.hubId
    checkinFromSync := stage.transportSyncId.isSome
    dbSaved := true
    syncStatus := (stage.syncStatus.map toI32).getD 0 }

namespace Etdr

variable (stage : TransportTransactionStage) (now : Clock)

@[simp] theorem fromTransportTransactionStage_ticketId :
    (fromTransportTransactionStage stage now).ticketId = stage.transportTransId := rfl

@[simp] theorem fromTransportTransactionStage_etagId :
    (fromTransportTransactionStage stage now).etagId = stage.etagNumber.getD "" := rfl

@[simp] theorem fromTransportTransactionStage_checkinCommitDatetime :
    (fromTransportTransactionStage stage now).checkinCommitDatetime =
      millisOrZero stage.checkinCommitDatetime := rfl

@[simp] theorem fromTransportTransactionStage_checkoutDatetime :
    (fromTransportTransactionStage stage now).checkoutDatetime =
      millisOrZero stage.checkoutDatetime := rfl

@[simp] theorem fromTransportTransactionStage_checkoutCommitDatetime :
    (fromTransportTransactionStage stage now).checkoutCommitDatetime =
      millisOrZero stage.checkoutCommitDatetime := rfl

@[simp] theorem fromTransportTransactionStage_tollOut :
    (fromTransportTransactionStage stage now).tollOut = idOrZero stage.checkoutTollId := rfl

@[simp] theorem fromTransportTransactionStage_price :
    (fromTransportTransactionStage stage now).price = 0 := rfl

@[simp] theorem fromTransportTransactionStage_ratingDetails :
    (fromTransportTransactionStage stage now).ratingDetails = [] := rfl

@[simp] theorem fromTransportTransactionStage_dbSaved :
    (fromTransportTransactionStage stage now).dbSaved = true := rfl

end Etdr

/-! ### Fresh rows -/

/-- The plate a check-in stores: normalized, with the sentinel for a blank one. -/
def checkinPlateForDb (plate : String) : String :=
  if normalizeEtag plate = "" then plateEmptySentinel else normalizeEtag plate

/-- `create_transport_transaction_stage_from_bect_checkin`. `tollId` and `tollType` are those
of the station, `laneCode` that of the lane. -/
def createTransportTransactionStageFromBectCheckin (feCheckin : FeCheckin) (etdr : Etdr)
    (tollId : Int) (tollType : String) (laneCode transportTransId : Int)
    (subscriberInfo : Option SubscriberInfo) (now : Clock) : TransportTransactionStage :=
  { transportTransId := transportTransId
    subscriberId := subscriberInfo.map (·.subscriberId)
    etagId := subscriberInfo.map (·.etagId)
    vehicleId := subscriberInfo.map (·.vehicleId)
    checkinTollId := some tollId
    checkinLaneId := some laneCode
    checkinChannel := some feCheckin.lane
    checkinPass := some (if etdr.check = 0 then "P" else "F")
    checkinPassReasonId := if etdr.check = 0 then none else some ("RT-" ++ toString etdr.check)
    accountId := subscriberInfo.map (·.accountId)
    checkinDatetime := some now.dbDatetime
    checkinStatus := some "1"
    etagNumber := some (normalizeEtag feCheckin.etag)
    requestId := some feCheckin.requestId
    checkinPlate := some (checkinPlateForDb etdr.plate)
    checkinPlateStatus := some (if etdr.check = 0 then "1" else "0")
    plateFromToll :=
      if normalizeEtag feCheckin.plate = "" then none else some (normalizeEtag feCheckin.plate)
    imgCount := some etdr.imageCount
    checkinImgCount := some etdr.imageCount
    status := some "1"
    lastUpdate := some now.dbDatetime
    tollType := some (normalizeStationType tollType)
    ratingType := some (etdr.ratingType.getD "E")
    insertDatetime := some now.dbDatetime
    plate := some (checkinPlateForDb etdr.plate)
    vehicleType := some etdr.vehicleType
    feCommitAmount := some etdr.commitAmount
    feWeight := some etdr.weight
    feReasonId := some etdr.reasonId
    vehicleTypeProfile := some "STD"
    boo := some 3
    booTransportTransId := some transportTransId
    checkinTid := some (normalizeEtag feCheckin.tid)
    chargeIn := etdr.chargeIn
    transitionClose := some "F"
    ticketInId := some transportTransId
    hubId := etdr.hubId
    booEtag := some "3" }

/-- `build_transport_stage_from_sync`. The row counts as committed (`CHECKIN_STATUS` `2`)
even when the sync record has no commit time. -/
def buildTransportStageFromSync (sync : TransportTransStageSync) (env : Ambient)
    (ticketId : Int) : TransportTransactionStage :=
  { transportTransId := ticketId
    checkinTollId := sync.checkinTollId
    checkinLaneId := sync.checkinLaneId
    checkinCommitDatetime := sync.checkinCommitDatetime
    checkinPass := some "P"
    checkoutTollId := sync.checkoutTollId
    checkoutLaneId := sync.checkoutLaneId
    checkoutCommitDatetime := sync.checkoutCommitDatetime
    totalAmount := sync.totalAmount
    checkinDatetime := sync.checkinDatetime
    checkoutDatetime := sync.checkoutDatetime
    checkinStatus := some "2"
    etagNumber := sync.etagNumber
    requestId := sync.requestId
    checkinPlate := sync.plate
    lastUpdate := some env.now.dbDatetime
    tollType := some (tollTypeFromCheckinTollId env sync.checkinTollId)
    ratingType := some "E"
    insertDatetime := some env.now.dbDatetime
    plate := sync.plate
    vehicleType := sync.vehicleType
    boo := some (getVehicleBooType (sync.etagNumber.getD ""))
    checkinTid := sync.tid
    transitionClose := some "F"
    transportSyncId := some sync.transportSyncId
    ticketInId := sync.ticketInId <|> some ticketId
    hubId := sync.hubId
    ticketEtagId := sync.ticketEtagId
    ticketOutId := sync.ticketOutId
    booEtag := sync.booEtag }

/-- The column of a number that is null when it is not positive. -/
def positive? (n : Int) : Option Int :=
  if 0 < n then some n else none

/-- The column of a number that is null when it is zero. -/
def nonzero? (n : Int) : Option Int :=
  if n = 0 then none else some n

/-- The column of a text that is null when it is empty. -/
def nonempty? (s : String) : Option String :=
  if s = "" then none else some s

/-- `DB: 1 = success, 0 = error; ETDR: 0 = success, non-zero = error`. -/
def dbStatus (status : Int) : String :=
  if status = 0 then "1" else "0"

/-- `build_transport_stage_from_etdr`, the row of a record the table does not have. It takes
neither commit time, nor any checkout column but the exit station, from the record. -/
def buildTransportStageFromEtdr (etdr : Etdr) (env : Ambient) : TransportTransactionStage :=
  { transportTransId := etdr.ticketId
    subscriberId := positive? etdr.subId
    etagId := etdr.etagKey
    vehicleId := positive? etdr.vehicleId
    checkinTollId := some etdr.stationId
    checkinLaneId := some etdr.laneId
    checkinChannel := some etdr.laneId
    checkinPass := some "P"
    checkoutTollId := nonzero? etdr.tollOut
    checkoutLaneId := nonzero? etdr.laneOut
    accountId := positive? etdr.accountId
    checkinDatetime := some ((epochToDatetimeUtc etdr.checkinDatetime).getD env.now.dbDatetime)
    checkinStatus := some "2"
    etagNumber := some etdr.etagNumber
    requestId := some etdr.requestId
    checkinPlate := some etdr.plate
    checkinPlateStatus := some (toString etdr.plateStatus)
    plateFromToll := nonempty? etdr.plate
    imgCount := some etdr.imageCount
    checkinImgCount := some etdr.imageCount
    status := some (dbStatus etdr.status)
    lastUpdate := some env.now.dbDatetime
    tollType := some (resolveTollTypeForEtdr env etdr.booTollType (some etdr.stationId)
      (nonzero? etdr.tollOut))
    ratingType := etdr.ratingType
    insertDatetime := some env.now.dbDatetime
    plate := some etdr.plate
    vehicleType := some etdr.vehicleType
    feCommitAmount := some etdr.commitAmount
    feWeight := positive? etdr.weight
    feReasonId := positive? etdr.reasonId
    vehicleTypeProfile := some etdr.vehicleTypeProfile
    boo := some (getVehicleBooType etdr.etagNumber)
    booTransportTransId := some etdr.ticketId
    checkinTid := some etdr.tId
    chargeIn := etdr.chargeIn
    chargeInStatus := etdr.chargeInStatus
    chargeIn104 := etdr.chargeIn104
    chdType := etdr.chdType
    chdRefId := etdr.chdRefId.bind (parseInt 64)
    chdReason := etdr.chdReason
    feTransId := etdr.feTransId
    transitionClose := some "F"
    ticketInId := etdr.ticketInId
    hubId := etdr.hubId
    ticketEtagId := etdr.ticketEtagId
    subChargeIn := etdr.subChargeIn }

/-! ### Merges -/

/-- `merge_etdr_into_transport_stage`: the columns of the row stay, null ones are filled from
the record. The two commit times are never filled, and the charge type is always `L`. -/
def mergeEtdrIntoTransportStage (existing : TransportTransactionStage) (etdr : Etdr)
    (env : Ambient) : TransportTransactionStage :=
  { existing with
    subscriberId := existing.subscriberId <|> positive? etdr.subId
    etagId := existing.etagId <|> etdr.etagKey
    vehicleId := existing.vehicleId <|> nonzero? etdr.vehicleId
    checkinTollId := existing.checkinTollId <|> some etdr.stationId
    checkinLaneId := existing.checkinLaneId <|> some etdr.laneId
    checkinChannel := existing.checkinChannel <|> some etdr.laneId
    checkinPass := existing.checkinPass <|> some "P"
    checkoutTollId := existing.checkoutTollId <|> nonzero? etdr.tollOut
    checkoutLaneId := existing.checkoutLaneId <|> nonzero? etdr.laneOut
    chargeType := some "L"
    totalAmount := existing.totalAmount <|> nonzero? etdr.price
    accountId := existing.accountId <|> nonzero? etdr.accountId
    checkinDatetime := existing.checkinDatetime <|> epochToDatetimeUtc etdr.checkinDatetime
    checkoutDatetime := existing.checkoutDatetime <|> epochToDatetimeUtc etdr.checkoutDatetime
    checkinStatus := existing.checkinStatus <|> some "1"
    etagNumber := existing.etagNumber <|> nonempty? etdr.etagNumber
    requestId := existing.requestId <|> some etdr.requestId
    checkinPlate := existing.checkinPlate <|> nonempty? etdr.plate
    checkinPlateStatus := existing.checkinPlateStatus <|> some (toString etdr.plateStatus)
    checkoutPlate := existing.checkoutPlate <|> nonempty? etdr.plate
    plateFromToll := existing.plateFromToll <|> nonempty? etdr.plate
    imgCount := existing.imgCount <|> some etdr.imageCount
    checkinImgCount := existing.checkinImgCount <|> some etdr.imageCount
    status := existing.status <|> some (dbStatus etdr.status)
    lastUpdate := some env.now.dbDatetime
    tollType := existing.tollType <|> some (resolveTollTypeForEtdr env etdr.booTollType
      (existing.checkinTollId <|> some etdr.stationId)
      (existing.checkoutTollId <|> nonzero? etdr.tollOut))
    ratingType := existing.ratingType <|> etdr.ratingType
    plate := existing.plate <|> nonempty? etdr.plate
    vehicleType := existing.vehicleType <|> nonempty? etdr.vehicleType
    feCommitAmount := existing.feCommitAmount <|> some etdr.commitAmount
    feWeight := existing.feWeight <|> nonzero? etdr.weight
    feReasonId := existing.feReasonId <|> positive? etdr.reasonId
    vehicleTypeProfile := existing.vehicleTypeProfile <|> some etdr.vehicleTypeProfile
    boo := existing.boo <|> some (getVehicleBooType etdr.etagNumber)
    booTransportTransId := existing.booTransportTransId <|> some etdr.ticketId
    turningCode := existing.turningCode <|> etdr.tollTurningTimeCode
    checkinTid := existing.checkinTid <|> some etdr.tId
    chargeIn := existing.chargeIn <|> etdr.chargeIn
    chargeInStatus := existing.chargeInStatus <|> etdr.chargeInStatus
    chargeIn104 := existing.chargeIn104 <|> etdr.chargeIn104
    chdType := existing.chdType <|> etdr.chdType
    chdRefId := existing.chdRefId <|> etdr.chdRefId.bind (parseInt 64)
    chdReason := existing.chdReason <|> etdr.chdReason
    feTransId := existing.feTransId <|> etdr.feTransId
    transitionClose := existing.transitionClose <|> some "F"
    ticketInId := existing.ticketInId <|> etdr.ticketInId
    hubId := existing.hubId <|> etdr.hubId
    ticketEtagId := existing.ticketEtagId <|> etdr.ticketEtagId
    ticketOutId := existing.ticketOutId <|> etdr.ticketOutId
    subChargeIn := existing.subChargeIn <|> etdr.subChargeIn
    syncStatus := existing.syncStatus <|>
      if etdr.syncStatus = 0 ∨ etdr.syncStatus = 1 then some etdr.syncStatus
      else existing.syncStatus }

/-- `merge_etdr_same_ticket_id`: the record with the later check-in is the base, and the
nonzero times, exit, price and texts of the other one replace the base's own. -/
def mergeEtdrSameTicketId (a b : Etdr) : Etdr :=
  let (base, other) := if b.checkinDatetime ≤ a.checkinDatetime then (a, b) else (b, a)
  let take (v w : Int) : Int := if w = 0 then v else w
  let takeStr (v w : String) : String := if w = "" then v else w
  { base with
    checkinDatetime := max base.checkinDatetime other.checkinDatetime
    checkinCommitDatetime := max base.checkinCommitDatetime other.checkinCommitDatetime
    checkoutDatetime := take base.checkoutDatetime other.checkoutDatetime
    checkoutCommitDatetime := take base.checkoutCommitDatetime other.checkoutCommitDatetime
    stationId := take other.stationId base.stationId
    laneId := take other.laneId base.laneId
    tollOut := take base.tollOut other.tollOut
    laneOut := take base.laneOut other.laneOut
    plate := takeStr base.plate other.plate
    price := take base.price other.price
    commitAmount := take base.commitAmount other.commitAmount
    imageCount := take other.imageCount base.imageCount
    etagNumber := takeStr base.etagNumber other.etagNumber
    dbSaveRetryCount := max base.dbSaveRetryCount other.dbSaveRetryCount }

theorem mergeEtdrSameTicketId_ticketId {a b : Etdr} (same : a.ticketId = b.ticketId) :
    (mergeEtdrSameTicketId a b).ticketId = b.ticketId := by
  unfold mergeEtdrSameTicketId
  by_cases older : b.checkinDatetime ≤ a.checkinDatetime
  · simp only [older, if_true]
    exact same
  · simp only [older, if_false]

/-- `fill_etdr_from_sync`: every column the sync record has replaces the record's own. -/
def fillEtdrFromSync (etdr : Etdr) (sync : TransportTransStageSync) (now : Clock) : Etdr :=
  { etdr with
    plate := ((sync.plate.filter fun p => !isBlank p).map trim).getD etdr.plate
    vehicleType :=
      ((sync.vehicleType.filter fun v => !isBlank v).map trim).getD etdr.vehicleType
    ticketType := ((sync.ticketType.filter fun t => !isBlank t).map
      ticketTypeStrToI32).getD etdr.ticketType
    priceTicketType :=
      (sync.priceTicketType.map priceTicketTypeFromDbString).getD etdr.priceTicketType
    checkinDatetime :=
      (sync.checkinDatetime.map DbDatetime.timestampMillis).getD etdr.checkinDatetime
    checkinCommitDatetime := (sync.checkinCommitDatetime.map
      DbDatetime.timestampMillis).getD etdr.checkinCommitDatetime
    stationId := (sync.checkinTollId.map toI32).getD etdr.stationId
    laneId := (sync.checkinLaneId.map toI32).getD etdr.laneId
    requestId := sync.requestId.getD etdr.requestId
    ticketInId := sync.ticketInId <|> etdr.ticketInId
    ticketEtagId := sync.ticketEtagId <|> etdr.ticketEtagId
    hubId := sync.hubId <|> etdr.hubId
    tollOut := (sync.checkoutTollId.map toI32).getD etdr.tollOut
    laneOut := (sync.checkoutLaneId.map toI32).getD etdr.laneOut
    checkoutDatetime :=
      (sync.checkoutDatetime.map DbDatetime.timestampMillis).getD etdr.checkoutDatetime
    timeRouteCheckout :=
      (sync.checkoutDatetime.map DbDatetime.timestampMillis).getD etdr.timeRouteCheckout
    checkoutCommitDatetime := (sync.checkoutCommitDatetime.map
      DbDatetime.timestampMillis).getD etdr.checkoutCommitDatetime
    checkinFromSync := true
    syncStatus := (sync.syncStatus.map toI32).getD etdr.syncStatus
    timeUpdate := now.ms }

@[simp] theorem fillEtdrFromSync_ticketId (etdr : Etdr) (sync : TransportTransStageSync)
    (now : Clock) : (fillEtdrFromSync etdr sync now).ticketId = etdr.ticketId := rfl

@[simp] theorem fillEtdrFromSync_etagId (etdr : Etdr) (sync : TransportTransStageSync)
    (now : Clock) : (fillEtdrFromSync etdr sync now).etagId = etdr.etagId := rfl

/-- `merge_latest_checkin_etdr`: the later check-in of the two, the one of the database when
they are equally late. -/
def mergeLatestCheckinEtdr : Option Etdr → Option Etdr → Option Etdr
  | none, db => db
  | some a, none => some a
  | some a, some b => if b.checkinDatetime < a.checkinDatetime then some a else some b

/-- The merge invents nothing: what it returns is one of its two arguments. -/
theorem mergeLatestCheckinEtdr_mem {cache db : Option Etdr} {e : Etdr}
    (merged : mergeLatestCheckinEtdr cache db = some e) : cache = some e ∨ db = some e := by
  cases cache with
  | none => exact .inr merged
  | some a =>
    cases db with
    | none => exact .inl merged
    | some b =>
      simp only [mergeLatestCheckinEtdr] at merged
      split at merged
      · exact .inl merged
      · exact .inr merged

end TollBackend

import TollBackend.Basic

/-!
# Rows of the rating database

The entities of `TRANSPORT_TRANSACTION_STAGE`, `TRANSPORT_TRANS_STAGE_SYNC` with its
details, `TRANSPORT_TRANS_STAGE_TCD` and `ACCOUNT_TRANSACTION`, and how a row is read.

## Main definitions

* `TransportTransactionStage`: one trip in the main table.
* `TransportTransStageSync`: one trip another provider told the hub about.
* `TransportTransactionStage.selectRow`: what the select list returns of a stored row.
-/

namespace TollBackend

/-- A row of `TRANSPORT_TRANSACTION_STAGE`. -/
structure TransportTransactionStage where
  transportTransId : Int := 0
  subscriberId : Option Int := none
  etagId : Option Int := none
  vehicleId : Option Int := none
  checkinTollId : Option Int := none
  checkinLaneId : Option Int := none
  checkinCommitDatetime : Option DbDatetime := none
  checkinChannel : Option Int := none
  checkinPass : Option String := none
  checkinPassReasonId : Option String := none
  checkoutTollId : Option Int := none
  checkoutLaneId : Option Int := none
  checkoutCommitDatetime : Option DbDatetime := none
  checkoutChannel : Option Int := none
  checkoutPass : Option String := none
  checkoutPassReasonId : Option String := none
  chargeStatus : Option String := none
  chargeType : Option String := none
  totalAmount : Option Int := none
  accountId : Option Int := none
  accountTransId : Option Int := none
  checkinDatetime : Option DbDatetime := none
  checkoutDatetime : Option DbDatetime := none
  checkinStatus : Option String := none
  etagNumber : Option String := none
  requestId : Option Int := none
  checkinPlate : Option String := none
  checkinPlateStatus : Option String := none
  checkoutPlate : Option String := none
  checkoutPlateStatus : Option String := none
  plateFromToll : Option String := none
  imgCount : Option Int := none
  checkinImgCount : Option Int := none
  checkoutImgCount : Option Int := none
  status : Option String := none
  lastUpdate : Option DbDatetime := none
  notifScan : Option Int := none
  tollType : Option String := none
  ratingType : Option String := none
  insertDatetime : Option DbDatetime := none
  checkoutStatus : Option String := none
  bitwiseScan : Option Int := none
  plate : Option String := none
  vehicleType : Option String := none
  feVehicleLength : Option Int := none
  feCommitAmount : Option Int := none
  feWeight : Option Int := none
  feReasonId : Option Int := none
  vehicleTypeProfile : Option String := none
  boo : Option Int := none
  booTransportTransId : Option Int := none
  subscriptionIds : Option String := none
  checkinShift : Option String := none
  checkoutShift : Option String := none
  turningCode : Option String := none
  checkinTid : Option String := none
  checkoutTid : Option String := none
  chargeIn : Option String := none
  chargeTransId : Option String := none
  chargeInStatus : Option String := none
  chargeDatetime : Option DbDatetime := none
  chargeIn104 : Option String := none
  feOnlineStatus : Option String := none
  mdhId : Option Int := none
  chdType : Option String := none
  chdRefId : Option Int := none
  chdReason : Option String := none
  feTransId : Option String := none
  transitionClose : Option String := none
  voucherCode : Option String := none
  voucherUsedAmount : Option Int := none
  voucherAmount : Option Int := none
  transportSyncId : Option Int := none
  ticketInId : Option Int := none
  hubId : Option Int := none
  ticketEtagId : Option Int := none
  ticketOutId : Option Int := none
  tokenId : Option String := none
  acsAccountNo : Option String := none
  booEtag : Option String := none
  subChargeIn : Option String := none
  syncStatus : Option Int := none
deriving Inhabited

/-- A row of `TRANSPORT_TRANS_STAGE_SYNC`, written by the hub and only read here. -/
structure TransportTransStageSync where
  transportSyncId : Int := 0
  ticketInId : Option Int := none
  ticketEtagId : Option Int := none
  ticketOutId : Option Int := none
  hubId : Option Int := none
  checkinTollId : Option Int := none
  checkinLaneId : Option Int := none
  checkinDatetime : Option DbDatetime := none
  checkinCommitDatetime : Option DbDatetime := none
  checkoutTollId : Option Int := none
  checkoutLaneId : Option Int := none
  checkoutDatetime : Option DbDatetime := none
  checkoutCommitDatetime : Option DbDatetime := none
  totalAmount : Option Int := none
  etagNumber : Option String := none
  tid : Option String := none
  requestId : Option Int := none
  status : Option Int := none
  syncStatus : Option Int := none
  insertDatetime : Option DbDatetime := none
  plate : Option String := none
  vehicleType : Option String := none
  ticketType : Option String := none
  priceTicketType : Option String := none
  booEtag : Option String := none
  ratingType : Option String := none
deriving Inhabited

/-- A row of `TRANSPORT_TRANS_STAGE_SYNC_DT`. -/
structure TransportTransStageSyncDt where
  transportSyncDtId : Int := 0
  transportSyncId : Int := 0
  boo : Option Int := none
  botId : Option Int := none
  tollAId : Option Int := none
  tollBId : Option Int := none
  stageId : Option Int := none
  priceId : Option Int := none
  ticketType : Option String := none
  priceTicketType : Option String := none
  priceAmount : Option Int := none
  subscriptionId : Option String := none
  vehicleType : Option Int := none
  checkinDatetime : Option DbDatetime := none

/-- A row of `TRANSPORT_TRANS_STAGE_TCD`, one line of the fee of a trip. -/
structure TransportTransStageTcd where
  transportStageTcdId : Int := 0
  transportTransId : Int := 0
  boo : Int := 0
  botId : Option Int := none
  tollAId : Option Int := none
  tollBId : Option Int := none
  stageId : Option Int := none
  priceId : Option Int := none
  ticketType : Option String := none
  priceTicketType : Option String := none
  priceAmount : Option Int := none
  subscriptionId : Option String := none
  vehicleType : Option Int := none
  mdhId : Option Int := none
  checkinDatetime : Option DbDatetime := none

/-- A row of `ACCOUNT_TRANSACTION`. The ticket is the one its `DESCRIPTION` names. -/
structure AccountTransaction where
  accountTransactionId : Int := 0
  accountId : Int := 0
  amount : Int := 0
  transportTransId : Int := 0
  transDatetime : Option DbDatetime := none
  finishDatetime : Option DbDatetime := none
  autocommit : Option Int := none
  autocommitStatus : Option Int := none

/-! ### Reading -/

/-- `get_nullable_string`: a text column up to its first NUL, trimmed, with the empty text
read as null. -/
@[irreducible] def readString (column : Option String) : Option String :=
  column.bind fun s =>
    let text := trim (String.ofList (s.toList.takeWhile (· != '\x00')))
    if text = "" then none else some text

/-- A text that was read is not empty. -/
theorem readString_ne_empty (c : Option String) : readString c ≠ some "" := by
  unfold readString
  intro eq
  obtain ⟨text, -, read⟩ := Option.bind_eq_some_iff.mp eq
  dsimp only at read
  split at read
  · cases read
  · next nonempty => exact nonempty (Option.some.inj read)

/-- What is read of a text is a part of it. -/
theorem sublist_of_readString {text short : String} (read : readString (some text) = some short) :
    short.toList.Sublist text.toList := by
  unfold readString at read
  simp only [Option.bind_some] at read
  split at read
  · cases read
  · cases read
    unfold trim
    simp only [String.toList_ofList]
    exact (List.rdropWhile_prefix _ _).sublist.trans
      ((List.dropWhile_suffix _).sublist.trans (List.takeWhile_prefix _).sublist)

/-- A trimmed text without NUL is read as it is stored. -/
theorem readString_some {s : String} (plain : '\x00' ∉ s.toList) (trimmed : trim s = s) :
    readString (some s) = if s = "" then none else some s := by
  have whole : s.toList.takeWhile (· != '\x00') = s.toList := by
    refine List.takeWhile_eq_self_iff.mpr fun c mem => ?_
    simp only [bne_iff_ne]
    rintro rfl
    exact plain mem
  unfold readString
  simp only [Option.bind_some, whole, String.ofList_toList, trimmed]

theorem readString_getD {s : String} (plain : '\x00' ∉ s.toList) (trimmed : trim s = s) :
    (readString (some s)).getD "" = s := by
  rw [readString_some plain trimmed]
  split
  · next empty => exact empty.symm
  · rfl

theorem readString_readString_getD {s : String} (plain : '\x00' ∉ s.toList)
    (trimmed : trim s = s) : (readString (readString (some s))).getD "" = s := by
  by_cases empty : s = ""
  · rw [readString_some plain trimmed, if_pos empty, empty]
    unfold readString
    rfl
  · rw [readString_some plain trimmed, if_neg empty]
    exact readString_getD plain trimmed

namespace TransportTransactionStage

/-- The row under another primary key. -/
def withId (row : TransportTransactionStage) (id : Int) : TransportTransactionStage :=
  { row with transportTransId := id }

@[simp] theorem withId_transportTransId (row : TransportTransactionStage) (id : Int) :
    (row.withId id).transportTransId = id := rfl

/-- What `TRANSPORT_TRANSACTION_STAGE_SELECT` and the mapper return of a stored row: text is
trimmed, and eight columns are selected as `CAST(NULL ..)`. -/
def selectRow (row : TransportTransactionStage) : TransportTransactionStage :=
  { row with
    checkinPass := readString row.checkinPass
    checkinPassReasonId := readString row.checkinPassReasonId
    checkoutPass := readString row.checkoutPass
    checkoutPassReasonId := readString row.checkoutPassReasonId
    chargeStatus := readString row.chargeStatus
    chargeType := readString row.chargeType
    checkinStatus := readString row.checkinStatus
    etagNumber := readString row.etagNumber
    checkinPlate := readString row.checkinPlate
    checkinPlateStatus := readString row.checkinPlateStatus
    checkoutPlate := readString row.checkoutPlate
    checkoutPlateStatus := readString row.checkoutPlateStatus
    plateFromToll := readString row.plateFromToll
    status := readString row.status
    tollType := readString row.tollType
    ratingType := readString row.ratingType
    checkoutStatus := readString row.checkoutStatus
    plate := readString row.plate
    vehicleType := readString row.vehicleType
    vehicleTypeProfile := readString row.vehicleTypeProfile
    checkinShift := readString row.checkinShift
    checkoutShift := readString row.checkoutShift
    checkinTid := readString row.checkinTid
    checkoutTid := readString row.checkoutTid
    chargeIn := readString row.chargeIn
    chargeTransId := readString row.chargeTransId
    chargeInStatus := readString row.chargeInStatus
    chargeIn104 := readString row.chargeIn104
    feOnlineStatus := readString row.feOnlineStatus
    chdType := readString row.chdType
    chdReason := readString row.chdReason
    feTransId := readString row.feTransId
    transitionClose := readString row.transitionClose
    voucherCode := readString row.voucherCode
    bitwiseScan := none
    subscriptionIds := none
    turningCode := none
    mdhId := none
    tokenId := none
    acsAccountNo := none
    booEtag := none
    subChargeIn := none }

@[simp] theorem selectRow_transportTransId (row : TransportTransactionStage) :
    row.selectRow.transportTransId = row.transportTransId := rfl

@[simp] theorem selectRow_checkinCommitDatetime (row : TransportTransactionStage) :
    row.selectRow.checkinCommitDatetime = row.checkinCommitDatetime := rfl

@[simp] theorem selectRow_checkoutDatetime (row : TransportTransactionStage) :
    row.selectRow.checkoutDatetime = row.checkoutDatetime := rfl

@[simp] theorem selectRow_checkoutCommitDatetime (row : TransportTransactionStage) :
    row.selectRow.checkoutCommitDatetime = row.checkoutCommitDatetime := rfl

@[simp] theorem selectRow_checkoutTollId (row : TransportTransactionStage) :
    row.selectRow.checkoutTollId = row.checkoutTollId := rfl

@[simp] theorem selectRow_ticketInId (row : TransportTransactionStage) :
    row.selectRow.ticketInId = row.ticketInId := rfl

@[simp] theorem selectRow_accountTransId (row : TransportTransactionStage) :
    row.selectRow.accountTransId = row.accountTransId := rfl

@[simp] theorem selectRow_etagNumber (row : TransportTransactionStage) :
    row.selectRow.etagNumber = readString row.etagNumber := rfl

end TransportTransactionStage

end TollBackend

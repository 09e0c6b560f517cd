import TollBackend.Stage.Table

/-!
# The column lists of the main table

The repository of `TRANSPORT_TRANSACTION_STAGE` lists its columns by hand: in the `SELECT` list,
in the mapper that reads the results by position, in the `INSERT` and in the `UPDATE`. A value is
written by the argument at the position of its column, and read by the mapper at the position of
the `SELECT` list.

## Main definitions

* `StageColumn`: the columns, with the kind of their values.
* `StageEntity`: a value or null for each column; `D` are the values of datetime columns.
* `insertNames`, `insertArgs`, `updateNames`, `updateArgs`, `selectItems`, `mapper`: the lists.
* `StageEntity.inserted`, `StageEntity.updated`, `StageEntity.found`: what the statements store
  and return.

## Main results

* `inserted_apply`, `updated_apply`, `found_apply`: the lists agree, column by column.
* `toEntity_insertColumns`, `toEntity_updateColumns`, `toEntity_selectRow`: so the rows of
  `StageTable` are written and read as they are there.
-/

namespace TollBackend

/-! ### Columns -/

/-- The columns of the table, in the order of the entity. -/
inductive StageColumn
  | transportTransId | subscriberId | etagId | vehicleId | checkinTollId | checkinLaneId
  | checkinCommitDatetime | checkinChannel | checkinPass | checkinPassReasonId | checkoutTollId
  | checkoutLaneId | checkoutCommitDatetime | checkoutChannel | checkoutPass
  | checkoutPassReasonId | chargeStatus | chargeType | totalAmount | accountId | accountTransId
  | checkinDatetime | checkoutDatetime | checkinStatus | etagNumber | requestId | checkinPlate
  | checkinPlateStatus | checkoutPlate | checkoutPlateStatus | plateFromToll | imgCount
  | checkinImgCount | checkoutImgCount | status | lastUpdate | notifScan | tollType | ratingType
  | insertDatetime | insuffAmount | checkoutStatus | bitwiseScan | plate | vehicleType
  | feVehicleLength | feCommitAmount | feWeight | feReasonId | vehicleTypeProfile | boo
  | booTransportTransId | subscriptionIds | checkinShift | checkoutShift | turningCode
  | checkinTid | checkoutTid | chargeIn | chargeTransId | balance | chargeInStatus
  | chargeDatetime | chargeIn104 | feOnlineStatus | mdhId | chdType | chdRefId | chdReason
  | feTransId | transitionClose | voucherCode | voucherUsedAmount | voucherAmount
  | transportSyncId | ticketInId | hubId | ticketEtagId | ticketOutId | tokenId | acsAccountNo
  | booEtag | subChargeIn | syncStatus
deriving DecidableEq, Repr

/-- The kinds of columns. -/
inductive ColumnKind
  | int | float | text | date
deriving DecidableEq, Repr

/-- An `f64`, as it is displayed: a number, without quotes. -/
structure F64 where
  display : List Char
  unquoted : Char.ofNat 39 ∉ display

/-- The values of a kind. -/
@[reducible] def ColumnKind.Ty (D : Type) : ColumnKind → Type
  | .int => Int
  | .float => F64
  | .text => String
  | .date => D

/-- The kind of a column, as the type of its field says. -/
@[reducible] def StageColumn.kind : StageColumn → ColumnKind
  | .checkinCommitDatetime | .checkoutCommitDatetime | .checkinDatetime | .checkoutDatetime
  | .lastUpdate | .insertDatetime | .chargeDatetime => .date
  | .insuffAmount | .balance => .float
  | .checkinPass | .checkinPassReasonId | .checkoutPass | .checkoutPassReasonId | .chargeStatus
  | .chargeType | .checkinStatus | .etagNumber | .checkinPlate | .checkinPlateStatus
  | .checkoutPlate | .checkoutPlateStatus | .plateFromToll | .status | .tollType | .ratingType
  | .checkoutStatus | .plate | .vehicleType | .vehicleTypeProfile | .subscriptionIds
  | .checkinShift | .checkoutShift | .turningCode | .checkinTid | .checkoutTid | .chargeIn
  | .chargeTransId | .chargeInStatus | .chargeIn104 | .feOnlineStatus | .chdType | .chdReason
  | .feTransId | .transitionClose | .voucherCode | .tokenId | .acsAccountNo | .booEtag
  | .subChargeIn => .text
  | .transportTransId | .subscriberId | .etagId | .vehicleId | .checkinTollId | .checkinLaneId
  | .checkinChannel | .checkoutTollId | .checkoutLaneId | .checkoutChannel | .totalAmount
  | .accountId | .accountTransId | .requestId | .imgCount | .checkinImgCount | .checkoutImgCount
  | .notifScan | .bitwiseScan | .feVehicleLength | .feCommitAmount | .feWeight | .feReasonId
  | .boo | .booTransportTransId | .mdhId | .chdRefId | .voucherUsedAmount | .voucherAmount
  | .transportSyncId | .ticketInId | .hubId | .ticketEtagId | .ticketOutId | .syncStatus => .int

/-- A row of the table, or an entity: a value or null for each column. -/
def StageEntity (D : Type) : Type :=
  (c : StageColumn) → Option (c.kind.Ty D)

/-- A value of any column. -/
inductive Cell (D : Type)
  | null
  | int (i : Int)
  | float (f : F64)
  | text (s : String)
  | date (d : D)

section Cell

variable {D : Type}

/-- The cell of a value. -/
def Cell.ofValue : (k : ColumnKind) → Option (k.Ty D) → Cell D
  | _, none => .null
  | .int, some i => .int i
  | .float, some f => .float f
  | .text, some s => .text s
  | .date, some d => .date d

/-- The value of a cell in a column of the kind. -/
def Cell.as : (k : ColumnKind) → Cell D → Option (k.Ty D)
  | .int, .int i => some i
  | .float, .float f => some f
  | .text, .text s => some s
  | .date, .date d => some d
  | _, _ => none

@[simp] theorem Cell.as_ofValue (k : ColumnKind) (v : Option (k.Ty D)) :
    (Cell.ofValue k v).as k = v := by
  cases v with
  | none => cases k <;> rfl
  | some v => cases k <;> rfl

/-- The text of a value, if it is one. -/
def textOf : (k : ColumnKind) → Option (k.Ty D) → Option String
  | .text, v => v
  | _, _ => none

end Cell

/-! ### Writing -/

/-- What is interpolated into a statement: `NULL` or a number, a text that is escaped or not, a
datetime, or `SYSDATE`. -/
inductive SqlArg (D : Type)
  | null
  | int (i : Int)
  | float (f : F64)
  | string (s : String)
  | unescaped (s : String)
  | date (d : D)
  | sysdate

/-- How an argument is formatted: by the nullable formatter of the type of its field, or with a
default or a cut. -/
inductive SqlFormat
  | nullable
  | orSysdate
  | nonEmptyOrF
  | unescapedOrStd
  | firstTen
deriving DecidableEq, Repr

section Format

variable {D : Type}

/-- `format_sql_nullable_i64` and its like. -/
def SqlArg.nullable : (k : ColumnKind) → Option (k.Ty D) → SqlArg D
  | _, none => .null
  | .int, some i => .int i
  | .float, some f => .float f
  | .text, some s => .string s
  | .date, some d => .date d

/-- `s.chars().take(10).collect()`. -/
def firstTenChars (s : String) : String :=
  String.ofList (s.toList.take 10)

/-- The argument for a value of a column. -/
def SqlFormat.arg (format : SqlFormat) (k : ColumnKind) (v : Option (k.Ty D)) : SqlArg D :=
  match format with
  | .nullable => .nullable k v
  | .orSysdate =>
    match v with
    | some v => .nullable k (some v)
    | none => .sysdate
  | .nonEmptyOrF => .string (((textOf k v).filter (· ≠ "")).getD "F")
  | .unescapedOrStd =>
    match textOf k v with
    | some s => .unescaped s
    | none => .string "STD"
  | .firstTen => .nullable .text ((textOf k v).map firstTenChars)

/-- What the statement stores for an argument, where it says what it is meant to. -/
def SqlArg.cell (sysdate : D) : SqlArg D → Cell D
  | .null => .null
  | .int i => .int i
  | .float f => .float f
  | .string s => .text s
  | .unescaped s => .text s
  | .date d => .date d
  | .sysdate => .date sysdate

end Format

/-- The columns of `build_insert_query`. -/
def insertNames : List StageColumn :=
  [
    .transportTransId, .subscriberId, .etagId, .vehicleId, .checkinTollId, .checkinLaneId,
    .checkinCommitDatetime, .checkinChannel, .checkinPass, .checkinPassReasonId, .checkoutTollId,
    .checkoutLaneId, .checkoutCommitDatetime, .checkoutChannel, .checkoutPass,
    .checkoutPassReasonId, .chargeStatus, .chargeType, .totalAmount, .accountId, .accountTransId,
    .checkinDatetime, .checkoutDatetime, .checkinStatus, .etagNumber, .requestId, .checkinPlate,
    .checkinPlateStatus, .checkoutPlate, .checkoutPlateStatus, .plateFromToll, .imgCount,
    .checkinImgCount, .checkoutImgCount, .status, .lastUpdate, .notifScan, .tollType, .ratingType,
    .insertDatetime, .insuffAmount, .checkoutStatus, .plate, .vehicleType, .feVehicleLength,
    .feCommitAmount, .feWeight, .feReasonId, .vehicleTypeProfile, .boo, .booTransportTransId,
    .checkinShift, .checkoutShift, .checkinTid, .checkoutTid, .chargeIn, .chargeTransId, .balance,
    .chargeInStatus, .chargeDatetime, .chargeIn104, .feOnlineStatus, .chdType, .chdRefId,
    .chdReason, .feTransId, .transitionClose, .voucherCode, .voucherUsedAmount, .voucherAmount,
    .transportSyncId, .ticketInId, .hubId, .ticketEtagId, .ticketOutId, .booEtag
  ]

/-- The fields and formats of its arguments, behind the table name. -/
def insertArgs : List (StageColumn × SqlFormat) :=
  [
    (.transportTransId, .nullable), (.subscriberId, .nullable), (.etagId, .nullable),
    (.vehicleId, .nullable), (.checkinTollId, .nullable), (.checkinLaneId, .nullable),
    (.checkinCommitDatetime, .nullable), (.checkinChannel, .nullable), (.checkinPass, .nullable),
    (.checkinPassReasonId, .nullable), (.checkoutTollId, .nullable), (.checkoutLaneId, .nullable),
    (.checkoutCommitDatetime, .nullable), (.checkoutChannel, .nullable),
    (.checkoutPass, .nullable), (.checkoutPassReasonId, .nullable), (.chargeStatus, .nullable),
    (.chargeType, .nullable), (.totalAmount, .nullable), (.accountId, .nullable),
    (.accountTransId, .nullable), (.checkinDatetime, .nullable), (.checkoutDatetime, .nullable),
    (.checkinStatus, .nullable), (.etagNumber, .nullable), (.requestId, .nullable),
    (.checkinPlate, .nullable), (.checkinPlateStatus, .nullable), (.checkoutPlate, .nullable),
    (.checkoutPlateStatus, .nullable), (.plateFromToll, .nullable), (.imgCount, .nullable),
    (.checkinImgCount, .nullable), (.checkoutImgCount, .nullable), (.status, .nullable),
    (.lastUpdate, .nullable), (.notifScan, .nullable), (.tollType, .nullable),
    (.ratingType, .nullable), (.insertDatetime, .orSysdate), (.insuffAmount, .nullable),
    (.checkoutStatus, .nullable), (.plate, .nullable), (.vehicleType, .nullable),
    (.feVehicleLength, .nullable), (.feCommitAmount, .nullable), (.feWeight, .nullable),
    (.feReasonId, .nullable), (.vehicleTypeProfile, .nullable), (.boo, .nullable),
    (.booTransportTransId, .nullable), (.checkinShift, .nullable), (.checkoutShift, .nullable),
    (.checkinTid, .nullable), (.checkoutTid, .nullable), (.chargeIn, .nullable),
    (.chargeTransId, .nullable), (.balance, .nullable), (.chargeInStatus, .nullable),
    (.chargeDatetime, .nullable), (.chargeIn104, .nullable), (.feOnlineStatus, .nullable),
    (.chdType, .nullable), (.chdRefId, .nullable), (.chdReason, .nullable),
    (.feTransId, .nullable), (.transitionClose, .nonEmptyOrF), (.voucherCode, .nullable),
    (.voucherUsedAmount, .nullable), (.voucherAmount, .nullable), (.transportSyncId, .nullable),
    (.ticketInId, .nullable), (.hubId, .nullable), (.ticketEtagId, .nullable),
    (.ticketOutId, .nullable), (.booEtag, .nullable)
  ]

/-- The columns of `build_update_query`. -/
def updateNames : List StageColumn :=
  [
    .subscriberId, .etagId, .vehicleId, .checkinTollId, .checkinLaneId, .checkinCommitDatetime,
    .checkinChannel, .checkinPass, .checkinPassReasonId, .checkoutTollId, .checkoutLaneId,
    .checkoutCommitDatetime, .checkoutChannel, .checkoutPass, .checkoutPassReasonId,
    .chargeStatus, .chargeType, .totalAmount, .accountId, .accountTransId, .checkinDatetime,
    .checkoutDatetime, .checkinStatus, .etagNumber, .requestId, .checkinPlate,
    .checkinPlateStatus, .checkoutPlate, .checkoutPlateStatus, .plateFromToll, .imgCount,
    .checkinImgCount, .checkoutImgCount, .status, .lastUpdate, .notifScan, .tollType, .ratingType,
    .insertDatetime, .insuffAmount, .checkoutStatus, .plate, .vehicleType, .feVehicleLength,
    .feCommitAmount, .feWeight, .feReasonId, .vehicleTypeProfile, .boo, .booTransportTransId,
    .checkinShift, .checkoutShift, .checkinTid, .checkoutTid, .chargeIn, .chargeTransId, .balance,
    .chargeInStatus, .chargeDatetime, .chargeIn104, .feOnlineStatus, .chdType, .chdRefId,
    .chdReason, .feTransId, .transitionClose, .voucherCode, .voucherUsedAmount, .voucherAmount,
    .transportSyncId, .ticketInId, .hubId, .ticketEtagId, .ticketOutId, .booEtag
  ]

/-- The fields and formats of its arguments, behind the table name and before the key. -/
def updateArgs : List (StageColumn × SqlFormat) :=
  [
    (.subscriberId, .nullable), (.etagId, .nullable), (.vehicleId, .nullable),
    (.checkinTollId, .nullable), (.checkinLaneId, .nullable), (.checkinCommitDatetime, .nullable),
    (.checkinChannel, .nullable), (.checkinPass, .nullable), (.checkinPassReasonId, .nullable),
    (.checkoutTollId, .nullable), (.checkoutLaneId, .nullable),
    (.checkoutCommitDatetime, .nullable), (.checkoutChannel, .nullable),
    (.checkoutPass, .nullable), (.checkoutPassReasonId, .nullable), (.chargeStatus, .nullable),
    (.chargeType, .nullable), (.totalAmount, .nullable), (.accountId, .nullable),
    (.accountTransId, .nullable), (.checkinDatetime, .nullable), (.checkoutDatetime, .nullable),
    (.checkinStatus, .nullable), (.etagNumber, .nullable), (.requestId, .nullable),
    (.checkinPlate, .nullable), (.checkinPlateStatus, .nullable), (.checkoutPlate, .nullable),
    (.checkoutPlateStatus, .nullable), (.plateFromToll, .nullable), (.imgCount, .nullable),
    (.checkinImgCount, .nullable), (.checkoutImgCount, .nullable), (.status, .nullable),
    (.lastUpdate, .nullable), (.notifScan, .nullable), (.tollType, .nullable),
    (.ratingType, .nullable), (.insertDatetime, .nullable), (.insuffAmount, .nullable),
    (.checkoutStatus, .nullable), (.plate, .nullable), (.vehicleType, .nullable),
    (.feVehicleLength, .nullable), (.feCommitAmount, .nullable), (.feWeight, .nullable),
    (.feReasonId, .nullable), (.vehicleTypeProfile, .unescapedOrStd), (.boo, .nullable),
    (.booTransportTransId, .nullable), (.checkinShift, .firstTen), (.checkoutShift, .firstTen),
    (.checkinTid, .nullable), (.checkoutTid, .nullable), (.chargeIn, .nullable),
    (.chargeTransId, .nullable), (.balance, .nullable), (.chargeInStatus, .nullable),
    (.chargeDatetime, .nullable), (.chargeIn104, .nullable), (.feOnlineStatus, .nullable),
    (.chdType, .nullable), (.chdRefId, .nullable), (.chdReason, .nullable),
    (.feTransId, .nullable), (.transitionClose, .nonEmptyOrF), (.voucherCode, .nullable),
    (.voucherUsedAmount, .nullable), (.voucherAmount, .nullable), (.transportSyncId, .nullable),
    (.ticketInId, .nullable), (.hubId, .nullable), (.ticketEtagId, .nullable),
    (.ticketOutId, .nullable), (.booEtag, .nullable)
  ]

/-- The argument at the position of a column. -/
def argFor (names : List StageColumn) (args : List (StageColumn × SqlFormat)) (c : StageColumn) :
    Option (StageColumn × SqlFormat) :=
  (names.zip args).lookup c

namespace StageEntity

variable {D : Type}

/-- The arguments of an `UPDATE`. -/
def updateValues (e : StageEntity D) : List (SqlArg D) :=
  updateArgs.map fun (field, format) => format.arg field.kind (e field)

/-- The arguments of an `INSERT`. -/
def insertValues (e : StageEntity D) : List (SqlArg D) :=
  insertArgs.map fun (field, format) => format.arg field.kind (e field)

/-- The row that `INSERT` stores; columns outside its list are null. -/
def inserted (sysdate : D) (e : StageEntity D) : StageEntity D := fun c =>
  match argFor insertNames insertArgs c with
  | some (field, format) => ((format.arg field.kind (e field)).cell sysdate).as c.kind
  | none => none

/-- The row that `UPDATE` stores; columns outside its list keep their values. -/
def updated (sysdate : D) (row e : StageEntity D) : StageEntity D := fun c =>
  match argFor updateNames updateArgs c with
  | some (field, format) => ((format.arg field.kind (e field)).cell sysdate).as c.kind
  | none => row c

end StageEntity

/-! ### Reading -/

/-- The items of the `SELECT` list. -/
inductive SelectItem
  | column (c : StageColumn)
  | toChar (c : StageColumn)
  | castNull
deriving DecidableEq, Repr

/-- `TRANSPORT_TRANSACTION_STAGE_SELECT`. -/
def selectItems : List SelectItem :=
  [
    .column .transportTransId, .column .subscriberId, .column .etagId, .column .vehicleId,
    .column .checkinTollId, .column .checkinLaneId, .toChar .checkinCommitDatetime,
    .column .checkinChannel, .column .checkinPass, .column .checkinPassReasonId,
    .column .checkoutTollId, .column .checkoutLaneId, .toChar .checkoutCommitDatetime,
    .column .checkoutChannel, .column .checkoutPass, .column .checkoutPassReasonId,
    .column .chargeStatus, .column .chargeType, .column .totalAmount, .column .accountId,
    .column .accountTransId, .toChar .checkinDatetime, .toChar .checkoutDatetime,
    .column .checkinStatus, .column .etagNumber, .column .requestId, .column .checkinPlate,
    .column .checkinPlateStatus, .column .checkoutPlate, .column .checkoutPlateStatus,
    .column .plateFromToll, .column .imgCount, .column .checkinImgCount,
    .column .checkoutImgCount, .column .status, .toChar .lastUpdate, .column .notifScan,
    .column .tollType, .column .ratingType, .toChar .insertDatetime, .column .insuffAmount,
    .column .checkoutStatus, .castNull, .column .plate, .column .vehicleType,
    .column .feVehicleLength, .column .feCommitAmount, .column .feWeight, .column .feReasonId,
    .column .vehicleTypeProfile, .column .boo, .column .booTransportTransId, .castNull,
    .column .checkinShift, .column .checkoutShift, .castNull, .column .checkinTid,
    .column .checkoutTid, .column .chargeIn, .column .chargeTransId, .column .balance,
    .column .chargeInStatus, .toChar .chargeDatetime, .column .chargeIn104,
    .column .feOnlineStatus, .castNull, .column .chdType, .column .chdRefId, .column .chdReason,
    .column .feTransId, .column .transitionClose, .column .voucherCode,
    .column .voucherUsedAmount, .column .voucherAmount, .column .transportSyncId,
    .column .ticketInId, .column .hubId, .column .ticketEtagId, .column .ticketOutId, .castNull,
    .castNull, .castNull, .castNull, .column .syncStatus
  ]

/-- The functions that read a column of a result. -/
inductive ColumnGetter
  | i64 | nullableI64 | nullableI32 | nullableF64 | nullableString | nullableDatetimeString
deriving DecidableEq, Repr

/-- `map_row`: how each field is read, and at which position, from 1 on. -/
def mapper : StageColumn → ColumnGetter × Nat
  | .transportTransId => (.i64, 1)
  | .subscriberId => (.nullableI64, 2)
  | .etagId => (.nullableI64, 3)
  | .vehicleId => (.nullableI64, 4)
  | .checkinTollId => (.nullableI64, 5)
  | .checkinLaneId => (.nullableI64, 6)
  | .checkinCommitDatetime => (.nullableDatetimeString, 7)
  | .checkinChannel => (.nullableI64, 8)
  | .checkinPass => (.nullableString, 9)
  | .checkinPassReasonId => (.nullableString, 10)
  | .checkoutTollId => (.nullableI64, 11)
  | .checkoutLaneId => (.nullableI64, 12)
  | .checkoutCommitDatetime => (.nullableDatetimeString, 13)
  | .checkoutChannel => (.nullableI64, 14)
  | .checkoutPass => (.nullableString, 15)
  | .checkoutPassReasonId => (.nullableString, 16)
  | .chargeStatus => (.nullableString, 17)
  | .chargeType => (.nullableString, 18)
  | .totalAmount => (.nullableI64, 19)
  | .accountId => (.nullableI64, 20)
  | .accountTransId => (.nullableI64, 21)
  | .checkinDatetime => (.nullableDatetimeString, 22)
  | .checkoutDatetime => (.nullableDatetimeString, 23)
  | .checkinStatus => (.nullableString, 24)
  | .etagNumber => (.nullableString, 25)
  | .requestId => (.nullableI64, 26)
  | .checkinPlate => (.nullableString, 27)
  | .checkinPlateStatus => (.nullableString, 28)
  | .checkoutPlate => (.nullableString, 29)
  | .checkoutPlateStatus => (.nullableString, 30)
  | .plateFromToll => (.nullableString, 31)
  | .imgCount => (.nullableI32, 32)
  | .checkinImgCount => (.nullableI32, 33)
  | .checkoutImgCount => (.nullableI32, 34)
  | .status => (.nullableString, 35)
  | .lastUpdate => (.nullableDatetimeString, 36)
  | .notifScan => (.nullableI32, 37)
  | .tollType => (.nullableString, 38)
  | .ratingType => (.nullableString, 39)
  | .insertDatetime => (.nullableDatetimeString, 40)
  | .insuffAmount => (.nullableF64, 41)
  | .checkoutStatus => (.nullableString, 42)
  | .bitwiseScan => (.nullableI64, 43)
  | .plate => (.nullableString, 44)
  | .vehicleType => (.nullableString, 45)
  | .feVehicleLength => (.nullableI64, 46)
  | .feCommitAmount => (.nullableI64, 47)
  | .feWeight => (.nullableI64, 48)
  | .feReasonId => (.nullableI64, 49)
  | .vehicleTypeProfile => (.nullableString, 50)
  | .boo => (.nullableI64, 51)
  | .booTransportTransId => (.nullableI64, 52)
  | .subscriptionIds => (.nullableString, 53)
  | .checkinShift => (.nullableString, 54)
  | .checkoutShift => (.nullableString, 55)
  | .turningCode => (.nullableString, 56)
  | .checkinTid => (.nullableString, 57)
  | .checkoutTid => (.nullableString, 58)
  | .chargeIn => (.nullableString, 59)
  | .chargeTransId => (.nullableString, 60)
  | .balance => (.nullableF64, 61)
  | .chargeInStatus => (.nullableString, 62)
  | .chargeDatetime => (.nullableDatetimeString, 63)
  | .chargeIn104 => (.nullableString, 64)
  | .feOnlineStatus => (.nullableString, 65)
  | .mdhId => (.nullableI64, 66)
  | .chdType => (.nullableString, 67)
  | .chdRefId => (.nullableI64, 68)
  | .chdReason => (.nullableString, 69)
  | .feTransId => (.nullableString, 70)
  | .transitionClose => (.nullableString, 71)
  | .voucherCode => (.nullableString, 72)
  | .voucherUsedAmount => (.nullableI64, 73)
  | .voucherAmount => (.nullableI64, 74)
  | .transportSyncId => (.nullableI64, 75)
  | .ticketInId => (.nullableI64, 76)
  | .hubId => (.nullableI64, 77)
  | .ticketEtagId => (.nullableI64, 78)
  | .ticketOutId => (.nullableI64, 79)
  | .tokenId => (.nullableString, 80)
  | .acsAccountNo => (.nullableString, 81)
  | .booEtag => (.nullableString, 82)
  | .subChargeIn => (.nullableString, 83)
  | .syncStatus => (.nullableI64, 84)

section Read

variable {D : Type}

/-- The result at a position. Datetimes keep their seconds in `TO_CHAR`. -/
def SelectItem.cell (row : StageEntity D) : SelectItem → Cell D
  | .column c | .toChar c => .ofValue c.kind (row c)
  | .castNull => .null

/-- A text is trimmed, and null if it is empty. -/
def ColumnGetter.read : ColumnGetter → Cell D → Cell D
  | .nullableString, .text s => .ofValue .text (readString (some s))
  | _, cell => cell

/-- `map_row`. -/
def mapRow (cells : List (Cell D)) : StageEntity D := fun c =>
  ((mapper c).1.read (cells.getD ((mapper c).2 - 1) .null)).as c.kind

/-- What `find_by_id` returns of a stored row. -/
def StageEntity.found (row : StageEntity D) : StageEntity D :=
  mapRow (selectItems.map (SelectItem.cell row))

end Read

/-! ### The lists agree -/

/-- How `INSERT` writes a column, if it does. -/
def insertFormat : StageColumn → Option SqlFormat
  | .insertDatetime => some .orSysdate
  | .transitionClose => some .nonEmptyOrF
  | .bitwiseScan | .subscriptionIds | .turningCode | .mdhId | .tokenId | .acsAccountNo
  | .subChargeIn | .syncStatus => none
  | _ => some .nullable

/-- How `UPDATE` writes a column, if it does. -/
def updateFormat : StageColumn → Option SqlFormat
  | .vehicleTypeProfile => some .unescapedOrStd
  | .checkinShift | .checkoutShift => some .firstTen
  | .transitionClose => some .nonEmptyOrF
  | .transportTransId | .bitwiseScan | .subscriptionIds | .turningCode | .mdhId | .tokenId
  | .acsAccountNo | .subChargeIn | .syncStatus => none
  | _ => some .nullable

/-- Whether the `SELECT` list reads the column from the table. -/
def isSelected : StageColumn → Bool
  | .bitwiseScan | .subscriptionIds | .turningCode | .mdhId | .tokenId | .acsAccountNo | .booEtag
  | .subChargeIn => false
  | _ => true

/-- The argument at the position of a column is its own field. -/
theorem argFor_insert (c : StageColumn) :
    argFor insertNames insertArgs c = (insertFormat c).map fun format => (c, format) := by
  cases c <;> rfl

theorem argFor_update (c : StageColumn) :
    argFor updateNames updateArgs c = (updateFormat c).map fun format => (c, format) := by
  cases c <;> rfl

/-- A getter reads values of a kind. -/
def ColumnGetter.fits : ColumnGetter → ColumnKind → Bool
  | .i64, .int | .nullableI64, .int | .nullableI32, .int | .nullableF64, .float => true
  | .nullableString, .text | .nullableDatetimeString, .date => true
  | _, _ => false

/-- The item of the `SELECT` list at the position of a field is its own column, or null. -/
theorem selectItem_mapper (c : StageColumn) :
    (mapper c).1.fits c.kind = true ∧
      (selectItems[(mapper c).2 - 1]? = some .castNull ∧ isSelected c = false ∨
        (selectItems[(mapper c).2 - 1]? = some (.column c) ∨
          selectItems[(mapper c).2 - 1]? = some (.toChar c)) ∧ isSelected c = true) := by
  cases c <;> decide

section Agree

variable {D : Type}

/-- What is read of a value: a text is trimmed, and null if it is empty. -/
def readValue : (k : ColumnKind) → Option (k.Ty D) → Option (k.Ty D)
  | .text, v => readString v
  | _, v => v

theorem read_null (getter : ColumnGetter) (k : ColumnKind) :
    (getter.read (.null : Cell D)).as k = none := by
  cases getter <;> cases k <;> rfl

theorem read_ofValue {getter : ColumnGetter} {k : ColumnKind} (fits : getter.fits k = true)
    (v : Option (k.Ty D)) : (getter.read (.ofValue k v)).as k = readValue k v := by
  cases v with
  | none =>
    have empty : readString none = none := by rw [readString, Option.bind_none]
    cases k <;> cases getter <;> first | exact empty.symm | rfl
  | some v =>
    cases k <;> cases getter <;>
      first | exact Cell.as_ofValue .text (readString (some v)) | rfl | cases fits

theorem inserted_apply (sysdate : D) (e : StageEntity D) (c : StageColumn) :
    e.inserted sysdate c =
      (insertFormat c).elim none fun format => ((format.arg c.kind (e c)).cell sysdate).as c.kind := by
  rw [StageEntity.inserted, argFor_insert]
  cases insertFormat c <;> rfl

theorem updated_apply (sysdate : D) (row e : StageEntity D) (c : StageColumn) :
    StageEntity.updated sysdate row e c =
      (updateFormat c).elim (row c) fun format =>
        ((format.arg c.kind (e c)).cell sysdate).as c.kind := by
  rw [StageEntity.updated, argFor_update]
  cases updateFormat c <;> rfl

theorem found_apply (row : StageEntity D) (c : StageColumn) :
    row.found c = if isSelected c then readValue c.kind (row c) else none := by
  obtain ⟨fits, position⟩ := selectItem_mapper c
  have result : row.found c = ((mapper c).1.read
      ((selectItems[(mapper c).2 - 1]?.map (SelectItem.cell row)).getD .null)).as c.kind := by
    rw [StageEntity.found, mapRow, List.getD_eq_getElem?_getD, List.getElem?_map]
  rw [result]
  obtain ⟨null, no⟩ | ⟨item | item, yes⟩ := position
  · rw [null, if_neg (by rw [no]; decide)]
    exact read_null _ _
  · rw [item, if_pos yes]
    exact read_ofValue fits _
  · rw [item, if_pos yes]
    exact read_ofValue fits _

/-- A formatter of the type of the field stores the value. -/
@[simp] theorem nullable_cell (sysdate : D) (k : ColumnKind) (v : Option (k.Ty D)) :
    ((SqlFormat.nullable.arg k v).cell sysdate).as k = v := by
  cases v with
  | none => cases k <;> rfl
  | some v => cases k <;> rfl

end Agree

/-! ### The rows of `StageTable` -/

/-- The columns of a row, without the two columns of floating-point numbers. -/
def TransportTransactionStage.toEntity (row : TransportTransactionStage) :
    StageEntity DbDatetime
  | .transportTransId => some row.transportTransId
  | .subscriberId => row.subscriberId
  | .etagId => row.etagId
  | .vehicleId => row.vehicleId
  | .checkinTollId => row.checkinTollId
  | .checkinLaneId => row.checkinLaneId
  | .checkinCommitDatetime => row.checkinCommitDatetime
  | .checkinChannel => row.checkinChannel
  | .checkinPass => row.checkinPass
  | .checkinPassReasonId => row.checkinPassReasonId
  | .checkoutTollId => row.checkoutTollId
  | .checkoutLaneId => row.checkoutLaneId
  | .checkoutCommitDatetime => row.checkoutCommitDatetime
  | .checkoutChannel => row.checkoutChannel
  | .checkoutPass => row.checkoutPass
  | .checkoutPassReasonId => row.checkoutPassReasonId
  | .chargeStatus => row.chargeStatus
  | .chargeType => row.chargeType
  | .totalAmount => row.totalAmount
  | .accountId => row.accountId
  | .accountTransId => row.accountTransId
  | .checkinDatetime => row.checkinDatetime
  | .checkoutDatetime => row.checkoutDatetime
  | .checkinStatus => row.checkinStatus
  | .etagNumber => row.etagNumber
  | .requestId => row.requestId
  | .checkinPlate => row.checkinPlate
  | .checkinPlateStatus => row.checkinPlateStatus
  | .checkoutPlate => row.checkoutPlate
  | .checkoutPlateStatus => row.checkoutPlateStatus
  | .plateFromToll => row.plateFromToll
  | .imgCount => row.imgCount
  | .checkinImgCount => row.checkinImgCount
  | .checkoutImgCount => row.checkoutImgCount
  | .status => row.status
  | .lastUpdate => row.lastUpdate
  | .notifScan => row.notifScan
  | .tollType => row.tollType
  | .ratingType => row.ratingType
  | .insertDatetime => row.insertDatetime
  | .insuffAmount => none
  | .checkoutStatus => row.checkoutStatus
  | .bitwiseScan => row.bitwiseScan
  | .plate => row.plate
  | .vehicleType => row.vehicleType
  | .feVehicleLength => row.feVehicleLength
  | .feCommitAmount => row.feCommitAmount
  | .feWeight => row.feWeight
  | .feReasonId => row.feReasonId
  | .vehicleTypeProfile => row.vehicleTypeProfile
  | .boo => row.boo
  | .booTransportTransId => row.booTransportTransId
  | .subscriptionIds => row.subscriptionIds
  | .checkinShift => row.checkinShift
  | .checkoutShift => row.checkoutShift
  | .turningCode => row.turningCode
  | .checkinTid => row.checkinTid
  | .checkoutTid => row.checkoutTid
  | .chargeIn => row.chargeIn
  | .chargeTransId => row.chargeTransId
  | .balance => none
  | .chargeInStatus => row.chargeInStatus
  | .chargeDatetime => row.chargeDatetime
  | .chargeIn104 => row.chargeIn104
  | .feOnlineStatus => row.feOnlineStatus
  | .mdhId => row.mdhId
  | .chdType => row.chdType
  | .chdRefId => row.chdRefId
  | .chdReason => row.chdReason
  | .feTransId => row.feTransId
  | .transitionClose => row.transitionClose
  | .voucherCode => row.voucherCode
  | .voucherUsedAmount => row.voucherUsedAmount
  | .voucherAmount => row.voucherAmount
  | .transportSyncId => row.transportSyncId
  | .ticketInId => row.ticketInId
  | .hubId => row.hubId
  | .ticketEtagId => row.ticketEtagId
  | .ticketOutId => row.ticketOutId
  | .tokenId => row.tokenId
  | .acsAccountNo => row.acsAccountNo
  | .booEtag => row.booEtag
  | .subChargeIn => row.subChargeIn
  | .syncStatus => row.syncStatus

namespace TransportTransactionStage

/-- A row is read as the lists say. -/
theorem toEntity_selectRow (row : TransportTransactionStage) :
    row.selectRow.toEntity = row.toEntity.found := by
  funext c
  rw [found_apply]
  cases c <;> rfl

/-- A row is inserted as the lists say. -/
theorem toEntity_insertColumns (entity : TransportTransactionStage) (sysdate : DbDatetime) :
    (entity.insertColumns sysdate).toEntity = entity.toEntity.inserted sysdate := by
  funext c
  rw [inserted_apply]
  cases c with
  | insertDatetime =>
    change (entity.insertDatetime <|> some sysdate) = _
    cases given : entity.insertDatetime <;> simp [insertFormat, toEntity, given] <;> rfl
  | _ => first | rfl | exact (nullable_cell sysdate _ _).symm

/-- A row is updated as the lists say. -/
theorem toEntity_updateColumns (row entity : TransportTransactionStage) (sysdate : DbDatetime) :
    (row.updateColumns entity).toEntity =
      StageEntity.updated sysdate row.toEntity entity.toEntity := by
  funext c
  rw [updated_apply]
  cases c with
  | vehicleTypeProfile =>
    change some (entity.vehicleTypeProfile.getD "STD") =
      ((SqlFormat.unescapedOrStd.arg .text entity.vehicleTypeProfile).cell sysdate).as .text
    cases entity.vehicleTypeProfile <;> rfl
  | checkinShift =>
    change shiftText entity.checkinShift =
      ((SqlFormat.firstTen.arg .text entity.checkinShift).cell sysdate).as .text
    cases entity.checkinShift <;> rfl
  | checkoutShift =>
    change shiftText entity.checkoutShift =
      ((SqlFormat.firstTen.arg .text entity.checkoutShift).cell sysdate).as .text
    cases entity.checkoutShift <;> rfl
  | _ => first | rfl | exact (nullable_cell sysdate _ _).symm

end TransportTransactionStage

end TollBackend

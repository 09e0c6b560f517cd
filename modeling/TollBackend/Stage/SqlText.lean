import TollBackend.Sql.Literals
import TollBackend.Stage.Columns

/-!
# The texts of the statements

The `INSERT` and the `UPDATE` of the main table and the queries of prices are built as texts. What
is interpolated is escaped by hand.

## Main definitions

* `normalizeDatetimeString`: the form in which datetimes are written.
* `insertStatement`, `updateStatement`, `priceByStageQuery`, `priceByTollsQuery`: the texts.
* `Conveys`: each value is one literal that is read back, and the rest does not depend on values.

## Main results

* `statements_convey_iff`: when they all do.
-/

namespace TollBackend

open Sql (Piece Says Follows render tokens plain)

/-! ### Datetimes -/

/-- `str::len`. -/
def utf8Length (cs : List Char) : Nat :=
  (cs.map Char.utf8Size).sum

/-- The characters of the first bytes, and those behind them; slicing inside of a character
panics. -/
def splitBytes : List Char → Nat → Option (List Char × List Char)
  | cs, 0 => some ([], cs)
  | [], _ + 1 => none
  | c :: cs, n + 1 =>
    if c.utf8Size ≤ n + 1 then
      (splitBytes cs (n + 1 - c.utf8Size)).map fun (front, back) => (c :: front, back)
    else none

/-- `str::to_uppercase`, of the characters whose capital is a letter from A to Z. -/
def upperChar (c : Char) : Char :=
  if c = 'ſ' then 'S' else if c = 'ı' then 'I' else c.toUpper

/-- The number of a month. -/
def monthNumber (name : List Char) : Option String :=
  [("JAN", "01"), ("FEB", "02"), ("MAR", "03"), ("APR", "04"), ("MAY", "05"), ("JUN", "06"),
    ("JUL", "07"), ("AUG", "08"), ("SEP", "09"), ("OCT", "10"), ("NOV", "11"), ("DEC", "12")].lookup
    (String.ofList (name.map upperChar))

/-- `normalize_datetime_string`. -/
def normalizeDatetimeString (s : String) : Option String :=
  let dt := (trim s).toList
  if 10 ≤ utf8Length dt ∧ dt[4]? = some '-' ∧ dt[7]? = some '-' then
    (splitBytes dt 10).map fun (datePart, behind) =>
      if utf8Length dt = 10 then String.ofList (datePart ++ " 00:00:00".toList)
      else
        let rest := behind.dropWhile isWhiteSpace
        let timePart :=
          if '.' ∈ rest then (rest.takeWhile (· != '.')).rdropWhile isWhiteSpace else rest
        if 8 ≤ utf8Length timePart then String.ofList (datePart ++ ' ' :: timePart)
        else String.ofList (datePart ++ " 00:00:00".toList)
  else
    match dt.splitOnP fun c => c == '-' || c == ' ' with
    | day :: month :: year :: parts =>
      match monthNumber month with
      | none => some (trim s)
      | some number =>
        let time := if parts = [] then "00:00:00".toList else [':'].intercalate parts
        let time := if 8 ≤ utf8Length time then time else time ++ ":00:00".toList
        some (String.ofList (year ++ '-' :: number.toList ++ '-' :: day ++ ' ' :: time))
    | [] | [_] | [_, _] => some (trim s)

/-- A datetime that is written as it is. -/
structure IsNormal (d : String) : Prop where
  nonblank : trim d ≠ ""
  normal : normalizeDatetimeString (trim d) = some d

/-! ### Arguments -/

/-- `'YYYY-MM-DD HH24:MI:SS'`. -/
def datetimeFormat : Piece :=
  .escaped "YYYY-MM-DD HH24:MI:SS".toList

/-- `TO_DATE('..', 'YYYY-MM-DD HH24:MI:SS')`. -/
def toDate (d : String) : List Piece :=
  [.text "TO_DATE(".toList, .escaped d.toList, .text ", ".toList, datetimeFormat, .text ")".toList]

/-- `NULL`. -/
def nullText : List Piece :=
  [.text "NULL".toList]

/-- `format_sql_nullable_datetime` of a given datetime. -/
def formatDatetime (d : String) : Option (List Piece) :=
  if trim d = "" then some nullText
  else (normalizeDatetimeString (trim d)).map fun normalized =>
    if normalized = "" then nullText else toDate normalized

/-- The text of an argument. -/
def SqlArg.pieces : SqlArg String → Option (List Piece)
  | .null => some nullText
  | .int i => some [.text (toString i).toList]
  | .float f => some [.text f.display]
  | .string s => some [.escaped s.toList]
  | .unescaped s => some [.unescaped s.toList]
  | .date d => formatDatetime d
  | .sysdate => some [.text "SYSDATE".toList]

namespace SqlFormat

/-- What stands for a null. -/
def meantNull : SqlFormat → List Piece
  | .nullable | .firstTen => nullText
  | .orSysdate => [.text "SYSDATE".toList]
  | .nonEmptyOrF => [.escaped "F".toList]
  | .unescapedOrStd => [.escaped "STD".toList]

/-- What an argument should say: a literal with the value itself. -/
def meant (format : SqlFormat) : (k : ColumnKind) → Option (k.Ty String) → List Piece
  | _, none => format.meantNull
  | .int, some i => [.text (toString i).toList]
  | .float, some f => [.text f.display]
  | .text, some s => [.escaped s.toList]
  | .date, some d => toDate d

/-- A text is written as it is, between quotes. -/
def KeepsText : SqlFormat → String → Prop
  | .nullable, _ | .orSysdate, _ => True
  | .nonEmptyOrF, s => s ≠ ""
  | .unescapedOrStd, s => Sql.quote ∉ s.toList
  | .firstTen, s => s.toList.length ≤ 10

/-- A value is written as it is. -/
def Keeps (format : SqlFormat) : (k : ColumnKind) → Option (k.Ty String) → Prop
  | .text, some s => format.KeepsText s
  | .date, some d => IsNormal d
  | _, _ => True

/-- The kinds of columns that a format is used for. -/
def suits : SqlFormat → ColumnKind → Bool
  | .nullable, _ | .orSysdate, .date | .nonEmptyOrF, .text | .unescapedOrStd, .text
  | .firstTen, .text => true
  | _, _ => false

end SqlFormat

/-! ### Statements -/

/-- The name of a column. -/
def columnName : StageColumn → String
  | .transportTransId => "TRANSPORT_TRANS_ID"
  | .subscriberId => "SUBSCRIBER_ID"
  | .etagId => "ETAG_ID"
  | .vehicleId => "VEHICLE_ID"
  | .checkinTollId => "CHECKIN_TOLL_ID"
  | .checkinLaneId => "CHECKIN_LANE_ID"
  | .checkinCommitDatetime => "CHECKIN_COMMIT_DATETIME"
  | .checkinChannel => "CHECKIN_CHANNEL"
  | .checkinPass => "CHECKIN_PASS"
  | .checkinPassReasonId => "CHECKIN_PASS_REASON_ID"
  | .checkoutTollId => "CHECKOUT_TOLL_ID"
  | .checkoutLaneId => "CHECKOUT_LANE_ID"
  | .checkoutCommitDatetime => "CHECKOUT_COMMIT_DATETIME"
  | .checkoutChannel => "CHECKOUT_CHANNEL"
  | .checkoutPass => "CHECKOUT_PASS"
  | .checkoutPassReasonId => "CHECKOUT_PASS_REASON_ID"
  | .chargeStatus => "CHARGE_STATUS"
  | .chargeType => "CHARGE_TYPE"
  | .totalAmount => "TOTAL_AMOUNT"
  | .accountId => "ACCOUNT_ID"
  | .accountTransId => "ACCOUNT_TRANS_ID"
  | .checkinDatetime => "CHECKIN_DATETIME"
  | .checkoutDatetime => "CHECKOUT_DATETIME"
  | .checkinStatus => "CHECKIN_STATUS"
  | .etagNumber => "ETAG_NUMBER"
  | .requestId => "REQUEST_ID"
  | .checkinPlate => "CHECKIN_PLATE"
  | .checkinPlateStatus => "CHECKIN_PLATE_STATUS"
  | .checkoutPlate => "CHECKOUT_PLATE"
  | .checkoutPlateStatus => "CHECKOUT_PLATE_STATUS"
  | .plateFromToll => "PLATE_FROM_TOLL"
  | .imgCount => "IMG_COUNT"
  | .checkinImgCount => "CHECKIN_IMG_COUNT"
  | .checkoutImgCount => "CHECKOUT_IMG_COUNT"
  | .status => "STATUS"
  | .lastUpdate => "LAST_UPDATE"
  | .notifScan => "NOTIF_SCAN"
  | .tollType => "TOLL_TYPE"
  | .ratingType => "RATING_TYPE"
  | .insertDatetime => "INSERT_DATETIME"
  | .insuffAmount => "INSUFF_AMOUNT"
  | .checkoutStatus => "CHECKOUT_STATUS"
  | .bitwiseScan => "BITWISE_SCAN"
  | .plate => "PLATE"
  | .vehicleType => "VEHICLE_TYPE"
  | .feVehicleLength => "FE_VEHICLE_LENGTH"
  | .feCommitAmount => "FE_COMMIT_AMOUNT"
  | .feWeight => "FE_WEIGHT"
  | .feReasonId => "FE_REASON_ID"
  | .vehicleTypeProfile => "VEHICLE_TYPE_PROFILE"
  | .boo => "BOO"
  | .booTransportTransId => "BOO_TRANSPORT_TRANS_ID"
  | .subscriptionIds => "SUBSCRIPTION_IDS"
  | .checkinShift => "CHECKIN_SHIFT"
  | .checkoutShift => "CHECKOUT_SHIFT"
  | .turningCode => "TURNING_CODE"
  | .checkinTid => "CHECKIN_TID"
  | .checkoutTid => "CHECKOUT_TID"
  | .chargeIn => "CHARGE_IN"
  | .chargeTransId => "CHARGE_TRANS_ID"
  | .balance => "BALANCE"
  | .chargeInStatus => "CHARGE_IN_STATUS"
  | .chargeDatetime => "CHARGE_DATETIME"
  | .chargeIn104 => "CHARGE_IN_104"
  | .feOnlineStatus => "FE_ONLINE_STATUS"
  | .mdhId => "MDH_ID"
  | .chdType => "CHD_TYPE"
  | .chdRefId => "CHD_REF_ID"
  | .chdReason => "CHD_REASON"
  | .feTransId => "FE_TRANS_ID"
  | .transitionClose => "TRANSITION_CLOSE"
  | .voucherCode => "VOUCHER_CODE"
  | .voucherUsedAmount => "VOUCHER_USED_AMOUNT"
  | .voucherAmount => "VOUCHER_AMOUNT"
  | .transportSyncId => "TRANSPORT_SYNC_ID"
  | .ticketInId => "TICKET_IN_ID"
  | .hubId => "HUB_ID"
  | .ticketEtagId => "TICKET_ETAG_ID"
  | .ticketOutId => "TICKET_OUT_ID"
  | .tokenId => "TOKEN_ID"
  | .acsAccountNo => "ACS_ACCOUNT_NO"
  | .booEtag => "BOO_ETAG"
  | .subChargeIn => "SUB_CHARGE_IN"
  | .syncStatus => "SYNC_STATUS"

/-- The table. -/
def stageTable : String :=
  "RATING_OWNER.TRANSPORT_TRANSACTION_STAGE"

/-- The placeholders of a statement, each with the text behind it. -/
abbrev Template :=
  List ((StageColumn × SqlFormat) × List Char)

/-- The pieces of a template. -/
def Template.fill (e : StageEntity String) : Template → Option (List Piece)
  | [] => some []
  | ((field, format), behind) :: template => do
    let value ← (format.arg field.kind (e field)).pieces
    let rest ← fill e template
    pure (value ++ .text behind :: rest)

/-- What they should say. -/
def Template.meant (e : StageEntity String) : Template → List Piece
  | [] => []
  | ((field, format), behind) :: template =>
    format.meant field.kind (e field) ++ .text behind :: meant e template

/-- `INSERT INTO .. VALUES (`. -/
def insertHead : List Char :=
  ("INSERT INTO " ++ stageTable ++ " (").toList ++
    ", ".toList.intercalate (insertNames.map fun c => (columnName c).toList) ++ ") VALUES (".toList

/-- The placeholders of `build_insert_query`. -/
def insertTemplate : Template :=
  insertArgs.zip (List.replicate (insertArgs.length - 1) ", ".toList ++ [")".toList])

/-- `build_insert_query`. -/
def insertStatement (e : StageEntity String) : Option (List Piece) :=
  (insertTemplate.fill e).map (.text insertHead :: ·)

/-- `UPDATE .. SET SUBSCRIBER_ID = `. -/
def updateHead : List Char :=
  ("UPDATE " ++ stageTable ++ " SET SUBSCRIBER_ID = ").toList

/-- The placeholders of `build_update_query`. -/
def updateTemplate (id : Int) : Template :=
  updateArgs.zip ((updateNames.tail.map fun c => (", " ++ columnName c ++ " = ").toList) ++
    [(" WHERE TRANSPORT_TRANS_ID = " ++ toString id).toList])

/-- `build_update_query`. -/
def updateStatement (id : Int) (e : StageEntity String) : Option (List Piece) :=
  ((updateTemplate id).fill e).map (.text updateHead :: ·)

/-- The columns that are read of a price, up to the first format of a datetime. -/
def priceSelect : String :=
  "SELECT P.PRICE_ID, T.TOLL_A, T.TOLL_B, T.BOO, P.PRICE_AMOUNT, P.VEHICLE_TYPE,\n" ++
  "                      P.PRICE_TICKET_TYPE, P.PRICE_TYPE, P.TURNING_CODE, " ++
  "TO_CHAR(P.EFFECT_DATETIME, "

/-- The tables that are joined, behind the second format. -/
def priceFrom : String :=
  "),\n                      BT.BOT_ID, P.STAGE_ID\n" ++
  "               FROM RATING_OWNER.PRICE P\n" ++
  "               INNER JOIN RATING_OWNER.TOLL_STAGE T ON P.STAGE_ID = T.STAGE_ID\n" ++
  "               LEFT JOIN RATING_OWNER.BOT_TOLL BT ON BT.STAGE_ID = P.STAGE_ID\n" ++
  "               WHERE P.STATUS = "

/-- The queries of prices, with their filter and what is added to the bounds of the time. The
vehicle type was escaped before, and `format_sql_string` escapes it again. -/
def priceQuery (filter after before : String) (vehicleType : List Char) (nowUtc : String) :
    List Piece :=
  [
    .text priceSelect.toList, datetimeFormat, .text "), TO_CHAR(P.END_DATETIME, ".toList,
    datetimeFormat, .text priceFrom.toList, .escaped "1".toList,
    .text ("\n                AND " ++ filter ++ " AND P.VEHICLE_TYPE = ").toList,
    .escaped vehicleType,
    .text "\n                AND P.EFFECT_DATETIME <= TO_DATE(".toList, .escaped nowUtc.toList,
    .text ", ".toList, datetimeFormat,
    .text (")" ++ after ++ "\n                AND (P.END_DATETIME IS NULL OR " ++
      "P.END_DATETIME >= TO_DATE(").toList,
    .escaped nowUtc.toList, .text ", ".toList, datetimeFormat, .text (")" ++ before ++ ")").toList
  ]

/-- The query of `get_price_by_stage_id_from_db`. -/
def priceByStageQuery (stageId : Int) (vehicleType nowUtc : String) : List Piece :=
  priceQuery ("P.STAGE_ID = " ++ toString stageId) "" "" (Sql.escape vehicleType.toList) nowUtc

/-- The query of `get_price_from_db`. -/
def priceByTollsQuery (tollA tollB : Int) (vehicleType nowUtc : String) : List Piece :=
  priceQuery ("T.TOLL_A = " ++ toString tollA ++ " AND T.TOLL_B = " ++ toString tollB) " + 1/24"
    " - 1/24" (Sql.escape vehicleType.toList) nowUtc

/-! ### What they should say -/

/-- The value, or the empty text for any text or datetime. -/
def emptyText : (k : ColumnKind) → Option (k.Ty String) → Option (k.Ty String)
  | .text, v | .date, v => v.map fun _ => ""
  | .int, v | .float, v => v

/-- The entity with its texts and datetimes emptied. -/
def StageEntity.emptied (e : StageEntity String) : StageEntity String := fun c =>
  emptyText c.kind (e c)

/-- A statement is built, has the tokens of what is meant, and outside of literals those do not
depend on the values. -/
def Conveys (built : Option (List Piece)) (meant blank : List Piece) : Prop :=
  ∃ pieces, built = some pieces ∧ Says pieces meant ∧ plain (tokens meant) = plain (tokens blank)

/-- An `INSERT` says what is meant. -/
def InsertConveys (e : StageEntity String) : Prop :=
  Conveys (insertStatement e) (.text insertHead :: insertTemplate.meant e)
    (.text insertHead :: insertTemplate.meant e.emptied)

/-- An `UPDATE` says what is meant. -/
def UpdateConveys (id : Int) (e : StageEntity String) : Prop :=
  Conveys (updateStatement id e) (.text updateHead :: (updateTemplate id).meant e)
    (.text updateHead :: (updateTemplate id).meant e.emptied)

/-- A query of prices by stage says what is meant. -/
def PriceByStageConveys (stageId : Int) (vehicleType nowUtc : String) : Prop :=
  Conveys (some (priceByStageQuery stageId vehicleType nowUtc))
    (priceQuery ("P.STAGE_ID = " ++ toString stageId) "" "" vehicleType.toList nowUtc)
    (priceQuery ("P.STAGE_ID = " ++ toString stageId) "" "" [] "")

/-- A query of prices by stations says what is meant. -/
def PriceByTollsConveys (tollA tollB : Int) (vehicleType nowUtc : String) : Prop :=
  Conveys (some (priceByTollsQuery tollA tollB vehicleType nowUtc))
    (priceQuery ("T.TOLL_A = " ++ toString tollA ++ " AND T.TOLL_B = " ++ toString tollB)
      " + 1/24" " - 1/24" vehicleType.toList nowUtc)
    (priceQuery ("T.TOLL_A = " ++ toString tollA ++ " AND T.TOLL_B = " ++ toString tollB)
      " + 1/24" " - 1/24" [] "")

/-- The datetime of a value, if it is one. -/
def datetimeOf : (k : ColumnKind) → Option (k.Ty String) → Option String
  | .date, v => v
  | _, _ => none

/-- All texts are written as they are, and the one that is not escaped has no quote. -/
structure WritesTexts (e : StageEntity String) : Prop where
  profile : ∀ s, e .vehicleTypeProfile = some s → Sql.quote ∉ s.toList
  datetimes : ∀ c d, datetimeOf c.kind (e c) = some d → IsNormal d
  transitionClose : ∀ s, e .transitionClose = some s → s ≠ ""
  checkinShift : ∀ s, e .checkinShift = some s → s.toList.length ≤ 10
  checkoutShift : ∀ s, e .checkoutShift = some s → s.toList.length ≤ 10

/-! ### Texts without quotes -/

/-- A number is written with digits, and with a sign in front of them. -/
theorem not_mem_toString_int {c : Char} (no_digit : c.isDigit = false) (no_sign : c ≠ '-')
    (i : Int) : c ∉ (toString i).toList := by
  have digits : ∀ n : Nat, c ∉ n.repr.toList := by
    intro n mem
    rw [Nat.toList_repr] at mem
    have digit := Nat.isDigit_of_mem_toDigits (by decide) (by decide) mem
    rw [no_digit] at digit
    cases digit
  cases i with
  | ofNat n => exact digits n
  | negSucc n =>
    change c ∉ ("-" ++ (n + 1).repr).toList
    rw [String.toList_append, List.mem_append, not_or]
    exact ⟨by simpa using no_sign, digits (n + 1)⟩

/-- A number is written without quotes. -/
theorem quote_not_mem_int (i : Int) : Sql.quote ∉ (toString i).toList :=
  not_mem_toString_int (by decide) (by decide) i

theorem quote_not_mem_columnName (c : StageColumn) : Sql.quote ∉ (columnName c).toList := by
  cases c <;> decide

/-! ### Arguments one by one -/

section Argument

variable {rest meantRest : List Piece}

/-- `TO_DATE` of a datetime says another datetime only if it is the same. -/
theorem says_toDate (n d : String) :
    Says (toDate n ++ rest) (toDate d ++ meantRest) ↔ n = d ∧ Says rest meantRest := by
  have same : n.toList = d.toList ↔ n = d := String.toList_inj
  simp only [toDate, datetimeFormat, List.cons_append, List.nil_append]
  rw [Sql.says_text (by decide), Sql.says_escaped_text (by decide) (by decide),
    Sql.says_escaped_text (by decide) (by decide), same]
  simp

/-- `NULL` is no datetime. -/
theorem not_says_null (d : String) : ¬ Says (nullText ++ rest) (toDate d ++ meantRest) :=
  Sql.not_says_text (by decide) (by decide)

/-- A datetime that is given is written as it is exactly if it is normal. -/
theorem says_datetime (d : String) :
    (∃ pieces, formatDatetime d = some pieces ∧ Says (pieces ++ rest) (toDate d ++ meantRest)) ↔
      IsNormal d ∧ Says rest meantRest := by
  rw [formatDatetime]
  by_cases blank : trim d = ""
  · rw [if_pos blank]
    apply iff_of_false
    · rintro ⟨pieces, built, said⟩
      cases built
      exact not_says_null d said
    · rintro ⟨normal, -⟩
      exact normal.nonblank blank
  · rw [if_neg blank]
    cases normalized : normalizeDatetimeString (trim d) with
    | none =>
      apply iff_of_false
      · rintro ⟨pieces, built, -⟩
        cases built
      · rintro ⟨normal, -⟩
        cases normalized.symm.trans normal.normal
    | some n =>
      rw [Option.map_some]
      by_cases empty : n = ""
      · rw [if_pos empty]
        apply iff_of_false
        · rintro ⟨pieces, built, said⟩
          cases built
          exact not_says_null d said
        · rintro ⟨normal, -⟩
          -- then the datetime is the empty text, which is blank
          have same : n = d := Option.some.inj (normalized.symm.trans normal.normal)
          apply blank
          rw [← same, empty]
          unfold trim
          decide
      · rw [if_neg empty]
        constructor
        · rintro ⟨pieces, built, said⟩
          cases built
          obtain ⟨rfl, tail⟩ := (says_toDate n d).mp said
          exact ⟨⟨blank, normalized⟩, tail⟩
        · rintro ⟨normal, tail⟩
          have same : n = d := Option.some.inj (normalized.symm.trans normal.normal)
          exact ⟨toDate n, rfl, (says_toDate n d).mpr ⟨same, tail⟩⟩

/-- A number or `NULL` is what it is. -/
theorem says_plain_arg {s : List Char} (unquoted : Sql.quote ∉ s) :
    (∃ pieces, some [.text s] = some pieces ∧ Says (pieces ++ rest) (.text s :: meantRest)) ↔
      True ∧ Says rest meantRest := by
  simp only [Option.some.injEq, exists_eq_left', List.singleton_append, true_and]
  exact Sql.says_text unquoted

/-- An escaped text says the text that is meant only if it is the same. -/
theorem says_escaped_arg (follows : Follows (render rest)) (s s' : String) :
    (∃ pieces, some [.escaped s.toList] = some pieces ∧
      Says (pieces ++ rest) (.escaped s'.toList :: meantRest)) ↔ s = s' ∧ Says rest meantRest := by
  simp only [Option.some.injEq, exists_eq_left', List.singleton_append]
  rw [Sql.says_escaped follows, String.toList_inj]

/-- A text that is not escaped says what is meant only if it has no quote. -/
theorem says_unescaped_arg (follows : Follows (render rest)) (s : String) :
    (∃ pieces, some [.unescaped s.toList] = some pieces ∧
      Says (pieces ++ rest) (.escaped s.toList :: meantRest)) ↔
      Sql.quote ∉ s.toList ∧ Says rest meantRest := by
  simp only [Option.some.injEq, exists_eq_left', List.singleton_append]
  exact Sql.says_unescaped follows

theorem firstTenChars_eq_self_iff (s : String) :
    firstTenChars s = s ↔ s.toList.length ≤ 10 := by
  rw [firstTenChars, ← String.toList_inj, String.toList_ofList, List.take_eq_self_iff]

/-- A text is written as it is exactly if its format keeps it. -/
theorem says_text_arg {format : SqlFormat} (suits : format.suits .text = true)
    (follows : Follows (render rest)) (s : String) :
    (∃ pieces, (format.arg .text (some s)).pieces = some pieces ∧
      Says (pieces ++ rest) (.escaped s.toList :: meantRest)) ↔
      format.KeepsText s ∧ Says rest meantRest := by
  cases format with
  | nullable =>
    refine (says_escaped_arg follows s s).trans ?_
    simp [SqlFormat.KeepsText]
  | orSysdate => cases suits
  | nonEmptyOrF =>
    by_cases empty : s = ""
    · subst empty
      refine (says_escaped_arg follows "F" "").trans ?_
      simp [SqlFormat.KeepsText]
    · have given : (SqlFormat.nonEmptyOrF.arg .text (some s) : SqlArg String) = .string s := by
        simp [SqlFormat.arg, textOf, Option.filter, empty]
      rw [given]
      refine (says_escaped_arg follows s s).trans ?_
      simp [SqlFormat.KeepsText, empty]
  | unescapedOrStd => exact says_unescaped_arg follows s
  | firstTen =>
    refine (says_escaped_arg follows (firstTenChars s) s).trans ?_
    rw [firstTenChars_eq_self_iff]
    rfl

/-- A null is written as it is meant. -/
theorem says_null_arg (format : SqlFormat) (k : ColumnKind) (follows : Follows (render rest)) :
    (∃ pieces, (format.arg k (none : Option (k.Ty String))).pieces = some pieces ∧
      Says (pieces ++ rest) (format.meantNull ++ meantRest)) ↔ True ∧ Says rest meantRest := by
  have noText : textOf k (none : Option (k.Ty String)) = none := by cases k <;> rfl
  cases format with
  | nullable => exact says_plain_arg (by decide)
  | orSysdate => exact says_plain_arg (by decide)
  | nonEmptyOrF =>
    rw [SqlFormat.arg, noText]
    refine (says_escaped_arg follows "F" "F").trans ?_
    simp
  | unescapedOrStd =>
    rw [SqlFormat.arg, noText]
    refine (says_escaped_arg follows "STD" "STD").trans ?_
    simp
  | firstTen =>
    rw [SqlFormat.arg, noText]
    exact says_plain_arg (by decide)

/-- An argument is written as it is meant exactly if its format keeps it. -/
theorem says_arg {format : SqlFormat} {k : ColumnKind} (suits : format.suits k = true)
    (follows : Follows (render rest)) (v : Option (k.Ty String)) :
    (∃ pieces, (format.arg k v).pieces = some pieces ∧
      Says (pieces ++ rest) (format.meant k v ++ meantRest)) ↔
      format.Keeps k v ∧ Says rest meantRest := by
  cases v with
  | none =>
    have keeps : format.Keeps k none = True := by cases k <;> rfl
    have null : format.meant k none = format.meantNull := by cases k <;> rfl
    rw [keeps, null]
    exact says_null_arg format k follows
  | some v =>
    cases k with
    | text => exact says_text_arg suits follows v
    | int =>
      cases format with
      | nullable => exact says_plain_arg (quote_not_mem_int v)
      | _ => cases suits
    | float =>
      cases format with
      | nullable => exact says_plain_arg v.unquoted
      | _ => cases suits
    | date =>
      cases format with
      | nullable | orSysdate => exact says_datetime v
      | _ => cases suits

end Argument

/-! ### Templates -/

/-- Formats suit the kinds of their columns, and a text without quotes follows each placeholder. -/
def Template.Sound (template : Template) : Prop :=
  ∀ slot ∈ template, slot.1.2.suits slot.1.1.kind = true ∧ slot.2 ≠ [] ∧ Sql.quote ∉ slot.2

/-- A template says what is meant exactly if all its formats keep their values. -/
theorem Template.says_fill_iff {template : Template} (sound : template.Sound)
    (e : StageEntity String) :
    (∃ pieces, template.fill e = some pieces ∧ Says pieces (template.meant e)) ↔
      ∀ slot ∈ template, slot.1.2.Keeps slot.1.1.kind (e slot.1.1) := by
  induction template with
  | nil => exact iff_of_true ⟨[], rfl, Sql.says_nil⟩ fun _ mem => by cases mem
  | cons slot template ih =>
    obtain ⟨⟨field, format⟩, behind⟩ := slot
    obtain ⟨suits, nonempty, unquoted⟩ := sound _ List.mem_cons_self
    have tail := ih fun slot mem => sound slot (List.mem_cons_of_mem _ mem)
    have first (rest : List Piece) :
        (∃ pieces, (format.arg field.kind (e field)).pieces = some pieces ∧
          Says (pieces ++ .text behind :: rest)
            (meant e ((⟨⟨field, format⟩, behind⟩) :: template))) ↔
        format.Keeps field.kind (e field) ∧
          Says (.text behind :: rest) (.text behind :: meant e template) :=
      says_arg suits (Sql.follows_text nonempty unquoted) (e field)
    rw [List.forall_mem_cons, ← tail]
    constructor
    · rintro ⟨pieces, built, said⟩
      simp only [fill, Option.bind_eq_bind, Option.bind_eq_some_iff, Option.pure_def,
        Option.some.injEq] at built
      obtain ⟨value, valueBuilt, rest, restBuilt, rfl⟩ := built
      obtain ⟨keeps, said⟩ := (first rest).mp ⟨value, valueBuilt, said⟩
      exact ⟨keeps, rest, restBuilt, (Sql.says_text unquoted).mp said⟩
    · rintro ⟨keeps, rest, restBuilt, said⟩
      obtain ⟨value, valueBuilt, said⟩ :=
        (first rest).mpr ⟨keeps, (Sql.says_text unquoted).mpr said⟩
      refine ⟨value ++ .text behind :: rest, ?_, said⟩
      simp [fill, valueBuilt, restBuilt]

/-- Outside of literals, an argument does not depend on a text or datetime. -/
theorem plain_meant_emptyText (format : SqlFormat) (k : ColumnKind) (v : Option (k.Ty String)) :
    plain (tokens (format.meant k v)) = plain (tokens (format.meant k (emptyText k v))) := by
  cases v with
  | none => cases k <;> rfl
  | some v =>
    cases k with
    | int | float => rfl
    | text => rfl
    | date =>
      simp [SqlFormat.meant, emptyText, toDate, datetimeFormat, tokens, Piece.tokens, plain]

/-- Outside of literals, a template does not depend on texts and datetimes. -/
theorem Template.plain_meant_emptied (template : Template) (e : StageEntity String) :
    plain (tokens (template.meant e)) = plain (tokens (template.meant e.emptied)) := by
  induction template with
  | nil => rfl
  | cons slot template ih =>
    obtain ⟨⟨field, format⟩, behind⟩ := slot
    rw [meant, meant, Sql.plain_tokens_append, Sql.plain_tokens_append, Sql.plain_tokens_cons,
      Sql.plain_tokens_cons, ih, plain_meant_emptyText]
    rfl

/-- A statement of a text and a template conveys exactly if all formats keep their values. -/
theorem conveys_template_iff {head : List Char} (unquoted : Sql.quote ∉ head) {template : Template}
    (sound : template.Sound) (e : StageEntity String) :
    Conveys ((template.fill e).map (.text head :: ·)) (.text head :: template.meant e)
        (.text head :: template.meant e.emptied) ↔
      ∀ slot ∈ template, slot.1.2.Keeps slot.1.1.kind (e slot.1.1) := by
  have same : plain (tokens (.text head :: template.meant e)) =
      plain (tokens (.text head :: template.meant e.emptied)) := by
    rw [Sql.plain_tokens_cons, Sql.plain_tokens_cons, template.plain_meant_emptied]
  rw [← template.says_fill_iff sound]
  constructor
  · rintro ⟨pieces, built, said, -⟩
    obtain ⟨rest, filled, rfl⟩ := Option.map_eq_some_iff.mp built
    exact ⟨rest, filled, (Sql.says_text unquoted).mp said⟩
  · rintro ⟨rest, filled, said⟩
    exact ⟨.text head :: rest, by rw [filled, Option.map_some],
      (Sql.says_text unquoted).mpr said, same⟩

/-! ### The statements of the main table -/

theorem quote_not_mem_assign (c : StageColumn) :
    Sql.quote ∉ (", " ++ columnName c ++ " = ").toList := by
  rw [String.toList_append, String.toList_append]
  simp only [List.mem_append, not_or]
  exact ⟨⟨by decide, quote_not_mem_columnName c⟩, by decide⟩

/-- Slots are sound if their formats suit and the texts behind them have no quotes. -/
theorem sound_zip {args : List (StageColumn × SqlFormat)} {texts : List (List Char)}
    (suits : ∀ arg ∈ args, arg.2.suits arg.1.kind = true)
    (separate : ∀ text ∈ texts, text ≠ [] ∧ Sql.quote ∉ text) :
    Template.Sound (args.zip texts) := by
  intro slot mem
  obtain ⟨arg, text⟩ := List.of_mem_zip mem
  exact ⟨suits _ arg, separate _ text⟩

/-- What holds for all slots holds for all arguments. -/
theorem forall_mem_zip_iff {args : List (StageColumn × SqlFormat)} {texts : List (List Char)}
    (length : args.length ≤ texts.length) (P : StageColumn × SqlFormat → Prop) :
    (∀ slot ∈ args.zip texts, P slot.1) ↔ ∀ arg ∈ args, P arg := by
  have front : (args.zip texts).map Prod.fst = args := List.map_fst_zip length
  constructor
  · intro slots arg mem
    rw [← front] at mem
    obtain ⟨slot, listed, rfl⟩ := List.mem_map.mp mem
    exact slots slot listed
  · intro given slot mem
    exact given _ (List.of_mem_zip mem).1

theorem not_mem_intercalate {c : Char} {separator : List Char} (outside : c ∉ separator)
    {texts : List (List Char)} (none : ∀ text ∈ texts, c ∉ text) :
    c ∉ separator.intercalate texts := by
  induction texts with
  | nil => exact List.not_mem_nil
  | cons text texts ih =>
    have first := none text List.mem_cons_self
    have others := ih fun text mem => none text (List.mem_cons_of_mem _ mem)
    by_cases last : texts = []
    · rw [last, List.intercalate_singleton]
      exact first
    · rw [List.intercalate_cons_of_ne_nil last, List.mem_append, List.mem_append]
      simp [first, outside, others]

theorem insertConveys_iff (e : StageEntity String) :
    InsertConveys e ↔ ∀ arg ∈ insertArgs, arg.2.Keeps arg.1.kind (e arg.1) := by
  have head : Sql.quote ∉ insertHead := by
    unfold insertHead
    simp only [stageTable, String.toList_append, List.mem_append, not_or]
    refine ⟨⟨⟨⟨by decide, by decide⟩, by decide⟩, ?_⟩, by decide⟩
    apply not_mem_intercalate (by decide)
    intro name mem
    obtain ⟨c, -, rfl⟩ := List.mem_map.mp mem
    exact quote_not_mem_columnName c
  have sound : insertTemplate.Sound := by
    apply sound_zip (by decide)
    intro text mem
    rcases List.mem_append.mp mem with comma | last
    · rw [List.eq_of_mem_replicate comma]
      decide
    · rw [List.mem_singleton.mp last]
      decide
  refine (conveys_template_iff head sound e).trans ?_
  exact forall_mem_zip_iff (by simp [insertArgs]) fun arg => arg.2.Keeps arg.1.kind (e arg.1)

theorem updateConveys_iff (id : Int) (e : StageEntity String) :
    UpdateConveys id e ↔ ∀ arg ∈ updateArgs, arg.2.Keeps arg.1.kind (e arg.1) := by
  have head : Sql.quote ∉ updateHead := by
    unfold updateHead
    simp only [stageTable, String.toList_append, List.mem_append, not_or]
    exact ⟨⟨by decide, by decide⟩, by decide⟩
  have sound : (updateTemplate id).Sound := by
    apply sound_zip (by decide)
    intro text mem
    rcases List.mem_append.mp mem with assign | last
    · obtain ⟨c, -, rfl⟩ := List.mem_map.mp assign
      refine ⟨?_, quote_not_mem_assign c⟩
      simp
    · rw [List.mem_singleton.mp last, String.toList_append]
      refine ⟨by simp, ?_⟩
      rw [List.mem_append, not_or]
      exact ⟨by decide, quote_not_mem_int id⟩
  refine (conveys_template_iff head sound e).trans ?_
  exact forall_mem_zip_iff (by simp [updateArgs, updateNames]) fun arg =>
    arg.2.Keeps arg.1.kind (e arg.1)

/-- A format that writes values as they are keeps all but datetimes that are not normal. -/
theorem keeps_iff_of_plain {format : SqlFormat} (isPlain : format = .nullable ∨ format = .orSysdate)
    (k : ColumnKind) (v : Option (k.Ty String)) :
    format.Keeps k v ↔ ∀ d, datetimeOf k v = some d → IsNormal d := by
  cases v with
  | none => cases k <;> exact iff_of_true trivial fun d given => by cases given
  | some v =>
    cases k with
    | date =>
      refine ⟨fun normal d given => ?_, fun all => all v rfl⟩
      cases given
      exact normal
    | int | float => exact iff_of_true trivial fun d given => by cases given
    | text =>
      refine iff_of_true ?_ fun d given => by cases given
      rcases isPlain with rfl | rfl <;> exact trivial

/-- When a text is kept. -/
theorem keeps_text_iff (format : SqlFormat) (v : Option String) :
    format.Keeps .text v ↔ ∀ s, v = some s → format.KeepsText s := by
  cases v with
  | none => exact iff_of_true trivial fun s given => by cases given
  | some v =>
    constructor
    · intro keeps s given
      cases given
      exact keeps
    · intro all
      exact all v rfl

theorem kind_of_datetimeOf {k : ColumnKind} {v : Option (k.Ty String)} {d : String}
    (given : datetimeOf k v = some d) : k = .date := by
  cases k with
  | date => rfl
  | int | float | text => cases given

/-- The `INSERT` and the `UPDATE` say what is meant exactly if all texts are written as they are. -/
theorem stageStatements_iff (id : Int) (e : StageEntity String) :
    InsertConveys e ∧ UpdateConveys id e ↔ WritesTexts e := by
  have insertFormats : ∀ arg ∈ insertArgs, (arg.2 = .nullable ∨ arg.2 = .orSysdate) ∨
      arg = (.transitionClose, .nonEmptyOrF) := by decide
  have updateFormats : ∀ arg ∈ updateArgs, arg.2 = .nullable ∨
      arg = (.transitionClose, .nonEmptyOrF) ∨ arg = (.vehicleTypeProfile, .unescapedOrStd) ∨
      arg = (.checkinShift, .firstTen) ∨ arg = (.checkoutShift, .firstTen) := by decide
  have dates (c : StageColumn) : c.kind = .date → (c, .nullable) ∈ updateArgs := by
    cases c <;> decide
  rw [insertConveys_iff, updateConveys_iff]
  constructor
  · rintro ⟨-, update⟩
    constructor
    case profile =>
      exact (keeps_text_iff _ _).mp (update (.vehicleTypeProfile, .unescapedOrStd) (by decide))
    case datetimes =>
      intro c d given
      have written := update (c, .nullable) (dates c (kind_of_datetimeOf given))
      exact (keeps_iff_of_plain (.inl rfl) _ _).mp written d given
    case transitionClose =>
      exact (keeps_text_iff _ _).mp (update (.transitionClose, .nonEmptyOrF) (by decide))
    case checkinShift =>
      exact (keeps_text_iff _ _).mp (update (.checkinShift, .firstTen) (by decide))
    case checkoutShift =>
      exact (keeps_text_iff _ _).mp (update (.checkoutShift, .firstTen) (by decide))
  · intro writes
    constructor
    · intro arg mem
      rcases insertFormats arg mem with isPlain | rfl
      · exact (keeps_iff_of_plain isPlain _ _).mpr (writes.datetimes arg.1)
      · exact (keeps_text_iff .nonEmptyOrF _).mpr writes.transitionClose
    · intro arg mem
      rcases updateFormats arg mem with isPlain | rfl | rfl | rfl | rfl
      · exact (keeps_iff_of_plain (.inl isPlain) _ _).mpr (writes.datetimes arg.1)
      · exact (keeps_text_iff .nonEmptyOrF _).mpr writes.transitionClose
      · exact (keeps_text_iff .unescapedOrStd _).mpr writes.profile
      · exact (keeps_text_iff .firstTen _).mpr writes.checkinShift
      · exact (keeps_text_iff .firstTen _).mpr writes.checkoutShift

/-! ### The queries of prices -/

/-- A query of prices says what is meant exactly if the vehicle type is escaped once. -/
theorem says_priceQuery {filter after before : String} (noFilter : Sql.quote ∉ filter.toList)
    (noAfter : Sql.quote ∉ after.toList) (noBefore : Sql.quote ∉ before.toList)
    (written vehicleType : List Char) (nowUtc : String) :
    Says (priceQuery filter after before written nowUtc)
        (priceQuery filter after before vehicleType nowUtc) ↔ written = vehicleType := by
  have selectText : Sql.quote ∉ priceSelect.toList := by
    unfold priceSelect
    simp only [String.toList_append, List.mem_append, not_or]
    exact ⟨⟨by decide, by decide⟩, by decide⟩
  have fromText : Sql.quote ∉ priceFrom.toList := by
    unfold priceFrom
    simp only [String.toList_append, List.mem_append, not_or]
    exact ⟨⟨⟨⟨by decide, by decide⟩, by decide⟩, by decide⟩, by decide⟩
  have fromGiven : priceFrom.toList ≠ [] := by
    unfold priceFrom
    rw [String.toList_append]
    exact List.append_ne_nil_of_right_ne_nil _ (by decide)
  have filterText : Sql.quote ∉
      ("\n                AND " ++ filter ++ " AND P.VEHICLE_TYPE = ").toList := by
    simp only [String.toList_append, List.mem_append, not_or]
    exact ⟨⟨by decide, noFilter⟩, by decide⟩
  have afterText : Sql.quote ∉ (")" ++ after ++ "\n                AND (P.END_DATETIME IS NULL OR "
      ++ "P.END_DATETIME >= TO_DATE(").toList := by
    simp only [String.toList_append, List.mem_append, not_or]
    exact ⟨⟨⟨by decide, noAfter⟩, by decide⟩, by decide⟩
  have beforeText : Sql.quote ∉ (")" ++ before ++ ")").toList := by
    simp only [String.toList_append, List.mem_append, not_or]
    exact ⟨⟨by decide, noBefore⟩, by decide⟩
  simp only [priceQuery, datetimeFormat]
  rw [Sql.says_text selectText, Sql.says_escaped_text (by decide) (by decide),
    Sql.says_escaped_text fromGiven fromText,
    Sql.says_escaped_text (by simp) filterText,
    Sql.says_escaped_text (by decide) (by decide), Sql.says_escaped_text (by decide) (by decide),
    Sql.says_escaped_text (by simp) afterText, Sql.says_escaped_text (by decide) (by decide),
    Sql.says_escaped_text (by simp) beforeText]
  simp [Sql.says_nil]

/-- A query of prices conveys its values exactly if the vehicle type has no quote. -/
theorem conveys_priceQuery_iff {filter after before : String}
    (noFilter : Sql.quote ∉ filter.toList) (noAfter : Sql.quote ∉ after.toList)
    (noBefore : Sql.quote ∉ before.toList) (vehicleType nowUtc : String) :
    Conveys (some (priceQuery filter after before (Sql.escape vehicleType.toList) nowUtc))
        (priceQuery filter after before vehicleType.toList nowUtc)
        (priceQuery filter after before [] "") ↔ Sql.quote ∉ vehicleType.toList := by
  rw [← Sql.escape_eq_self_iff, ← says_priceQuery noFilter noAfter noBefore _ _ nowUtc, Conveys]
  simp only [Option.some.injEq, exists_eq_left']
  apply and_iff_left
  have noText (value : List Char) : plain (Piece.escaped value).tokens = [] := rfl
  simp only [priceQuery, Sql.plain_tokens_cons, noText]

theorem quote_not_mem_append {a b : String} (first : Sql.quote ∉ a.toList)
    (second : Sql.quote ∉ b.toList) : Sql.quote ∉ (a ++ b).toList := by
  rw [String.toList_append, List.mem_append, not_or]
  exact ⟨first, second⟩

theorem priceByStageConveys_iff (stageId : Int) (vehicleType nowUtc : String) :
    PriceByStageConveys stageId vehicleType nowUtc ↔ Sql.quote ∉ vehicleType.toList := by
  apply conveys_priceQuery_iff _ (by decide) (by decide)
  exact quote_not_mem_append (by decide) (quote_not_mem_int stageId)

theorem priceByTollsConveys_iff (tollA tollB : Int) (vehicleType nowUtc : String) :
    PriceByTollsConveys tollA tollB vehicleType nowUtc ↔ Sql.quote ∉ vehicleType.toList := by
  apply conveys_priceQuery_iff _ (by decide) (by decide)
  have first := quote_not_mem_append (a := "T.TOLL_A = ") (by decide) (quote_not_mem_int tollA)
  have both := quote_not_mem_append first (b := " AND T.TOLL_B = ") (by decide)
  exact quote_not_mem_append both (quote_not_mem_int tollB)

/-- Every statement carries each text of the entity and the vehicle type as one literal that is
read back, and nothing else depends on them, exactly if all texts are written as they are and the
vehicle type has no quote. -/
theorem statements_convey_iff (id : Int) (e : StageEntity String) (stageId tollA tollB : Int)
    (vehicleType nowUtc : String) :
    (InsertConveys e ∧ UpdateConveys id e) ∧ PriceByStageConveys stageId vehicleType nowUtc ∧
        PriceByTollsConveys tollA tollB vehicleType nowUtc ↔
      WritesTexts e ∧ Sql.quote ∉ vehicleType.toList := by
  rw [stageStatements_iff, priceByStageConveys_iff, priceByTollsConveys_iff, and_self_iff]

/-- An entity whose profile closes its literal and sets another column. -/
def injectingEntity : StageEntity String
  | .vehicleTypeProfile => some (String.ofList
      ("x".toList ++ Sql.quote :: ", BALANCE = ".toList ++ Sql.quote :: "1".toList))
  | _ => none

/-- The `UPDATE` with that profile does not say what is meant, nor does a query for a vehicle type
with a quote. -/
theorem injecting_update :
    ¬ UpdateConveys 5 injectingEntity ∧
      ¬ PriceByStageConveys 7 (String.ofList [Sql.quote]) "2026-01-01 00:00:00" := by
  constructor
  · intro conveys
    have kept := (updateConveys_iff 5 injectingEntity).mp conveys
      (.vehicleTypeProfile, .unescapedOrStd) (by decide)
    have unquoted := (keeps_text_iff .unescapedOrStd _).mp kept _ rfl
    apply unquoted
    simp
  · rw [priceByStageConveys_iff, String.toList_ofList]
    simp

end TollBackend

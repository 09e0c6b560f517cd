import TollBackend.Fe.Dispatch

/-!
# The requests of the test client

`FeMessageBuilder` writes requests field by field. What it writes is long enough for the
server, and the handler of its command reads back every field.

## Main definitions

* `client`: the types of the fields of a client, which hold only what fits.
* `build`: the message of a request.
* `Side.Reading`: a change of all fields of a request.

## Main results

* `parseRequest_build`: each field of a request is recovered from its message.
-/

namespace TollBackend.Fe

open Wire

/-- A text of one ASCII character. -/
structure OneChar extends FieldText 1 where
  nonempty : str ≠ ""

/-- What a client has. -/
@[reducible] def client : Side where
  text := FieldText
  char := OneChar
  raw := Raw
  hub := I64

/-! ### Building -/

/-- `VERSION_ID_DEFAULT`. -/
def versionIdDefault : Int :=
  1

/-- The first character of a text, or a default. -/
def firstChar (s default : String) : String :=
  if s.isEmpty then default else String.ofList (s.toList.take 1)

/-- The first bytes of a general field, or zeros if there are not enough. -/
def general (bs : Bytes) (n : Nat) : Bytes :=
  if n ≤ bs.length then bs.take n else List.replicate n 0

/-- `buildConnect`. -/
def buildConnect (x : Connect client) : Bytes :=
  le32 44 ++ le32 CONNECT ++ le32 versionIdDefault ++ x.requestId.bytes ++
    pad x.username.str 10 ++ pad x.password.str 10 ++ x.timeout.bytes

/-- `buildHandshake`. -/
def buildHandshake (x : Ids) : Bytes :=
  le32 28 ++ le32 HANDSHAKE ++ le32 versionIdDefault ++ x.requestId.bytes ++
    x.sessionId.bytes

/-- `buildTerminate`. -/
def buildTerminate (x : Ids) : Bytes :=
  le32 28 ++ le32 TERMINATE ++ le32 versionIdDefault ++ x.requestId.bytes ++
    x.sessionId.bytes

/-- `buildCheckin`. -/
def buildCheckin (x : Checkin client) : Bytes :=
  le32 106 ++ le32 CHECKIN ++ x.requestId.bytes ++ x.sessionId.bytes ++ pad x.etag.str 24 ++
    x.station.bytes ++ x.lane.bytes ++ pad x.plate.str 10 ++ pad x.tid.str 24 ++
    pad x.hashValue.str 16

/-- `buildCommit`. -/
def buildCommit (x : Commit client) : Bytes :=
  le32 98 ++ le32 COMMIT ++ x.requestId.bytes ++ x.sessionId.bytes ++ pad x.etag.str 24 ++
    x.station.bytes ++ x.lane.bytes ++ x.ticketId.bytes ++ x.status.bytes ++
    pad x.plate.str 10 ++ x.imageCount.bytes ++ x.vehicleLength.bytes ++
    x.transactionAmount.bytes ++ x.weight.bytes ++ x.reasonId.bytes

/-- `buildRollback`. -/
def buildRollback (x : Rollback client) : Bytes :=
  le32 90 ++ le32 ROLLBACK ++ x.requestId.bytes ++ x.sessionId.bytes ++
    pad x.etag.str 24 ++ x.station.bytes ++ x.lane.bytes ++ x.ticketId.bytes ++ x.status.bytes ++
    pad x.plate.str 10 ++ x.imageCount.bytes ++ x.weight.bytes ++ x.reasonId.bytes

/-- `buildLookupVehicle`. -/
def buildLookupVehicle (x : LookupVehicle client) : Bytes :=
  le32 110 ++ le32 LOOKUP_VEHICLE ++ le32 versionIdDefault ++ x.requestId.bytes ++
    x.sessionId.bytes ++ x.timestamp.bytes ++ pad x.tid.str 24 ++ pad x.etag.str 24 ++
    x.station.bytes ++ x.lane.bytes ++ pad (firstChar x.stationType.str "C") 1 ++
    pad (firstChar x.laneType.str "I") 1 ++ general x.general1.val 8 ++ general x.general2.val 8

/-- `buildQueryVehicleBoo`. -/
def buildQueryVehicleBoo (x : QueryVehicleBoo client) : Bytes :=
  le32 122 ++ le32 QUERY_VEHICLE_BOO ++ le32 versionIdDefault ++ x.requestId.bytes ++
    x.sessionId.bytes ++ x.timestamp.bytes ++ pad x.tid.str 24 ++ pad x.etag.str 24 ++
    x.station.bytes ++ x.lane.bytes ++ pad (firstChar x.stationType.str "C") 1 ++
    pad (firstChar x.laneType.str "I") 1 ++ x.minBalance.bytes ++ general x.general1.val 8 ++
    general x.general2.val 16

/-- `buildCheckoutReserveBoo`: a line count that is not negative is written, the lines
themselves are not. -/
def buildCheckoutReserveBoo (x : CheckoutReserveBoo client) : Bytes :=
  le32 203 ++ le32 CHECKOUT_RESERVE_BOO ++ le32 versionIdDefault ++ x.requestId.bytes ++
    x.sessionId.bytes ++ x.timestamp.bytes ++ pad x.tid.str 24 ++ pad x.etag.str 24 ++
    x.ticketInId.bytes ++ x.hubId.bytes ++ x.ticketETagId.bytes ++ x.ticketOutId.bytes ++
    x.checkinDatetime.bytes ++ x.checkinCommitDatetime.bytes ++ x.stationIn.bytes ++
    x.laneIn.bytes ++ x.stationOut.bytes ++ x.laneOut.bytes ++ pad x.plate.str 10 ++
    pad (firstChar x.ticketType.str "L") 1 ++ x.priceTicketType.bytes ++ x.transAmount.bytes ++
    x.transDatetime.bytes ++
    (if 0 ≤ x.ratingDetailLine.val then x.ratingDetailLine.bytes else le32 0) ++
    general x.general1.val 8 ++ general x.general2.val 16

/-- `buildCheckoutCommitBoo`. -/
def buildCheckoutCommitBoo (x : CheckoutBoo 20 client) : Bytes :=
  le32 188 ++ le32 CHECKOUT_COMMIT_BOO ++ le32 versionIdDefault ++ x.requestId.bytes ++
    x.sessionId.bytes ++ x.timestamp.bytes ++ pad x.tid.str 24 ++ pad x.etag.str 24 ++
    x.ticketInId.bytes ++ x.hubId.bytes ++ x.ticketOutId.bytes ++ x.ticketETagId.bytes ++
    x.stationIn.bytes ++ x.laneIn.bytes ++ x.stationOut.bytes ++ x.laneOut.bytes ++
    pad x.plate.str 20 ++ x.transAmount.bytes ++ x.transDatetime.bytes ++
    general x.general1.val 8 ++ general x.general2.val 16

/-- `buildCheckoutRollbackBoo`. -/
def buildCheckoutRollbackBoo (x : CheckoutBoo 10 client) : Bytes :=
  le32 178 ++ le32 CHECKOUT_ROLLBACK_BOO ++ le32 versionIdDefault ++ x.requestId.bytes ++
    x.sessionId.bytes ++ x.timestamp.bytes ++ pad x.tid.str 24 ++ pad x.etag.str 24 ++
    x.ticketInId.bytes ++ x.hubId.bytes ++ x.ticketOutId.bytes ++ x.ticketETagId.bytes ++
    x.stationIn.bytes ++ x.laneIn.bytes ++ x.stationOut.bytes ++ x.laneOut.bytes ++
    pad x.plate.str 10 ++ x.transAmount.bytes ++ x.transDatetime.bytes ++
    general x.general1.val 8 ++ general x.general2.val 16

/-- The message of a request. -/
def build : Request client → Bytes
  | .connect x => buildConnect x
  | .shake x => buildHandshake x
  | .terminate x => buildTerminate x
  | .checkin x => buildCheckin x
  | .commit x => buildCommit x
  | .rollback x => buildRollback x
  | .queryVehicleBoo x => buildQueryVehicleBoo x
  | .lookupVehicle x => buildLookupVehicle x
  | .checkoutReserveBoo x => buildCheckoutReserveBoo x
  | .checkoutCommitBoo x => buildCheckoutCommitBoo x
  | .checkoutRollbackBoo x => buildCheckoutRollbackBoo x

/-! ### What comes back -/

/-- The command of a request. -/
def Request.command {k : Side} : Request k → Int
  | .connect _ => CONNECT
  | .shake _ => HANDSHAKE
  | .terminate _ => TERMINATE
  | .checkin _ => CHECKIN
  | .commit _ => COMMIT
  | .rollback _ => ROLLBACK
  | .queryVehicleBoo _ => QUERY_VEHICLE_BOO
  | .lookupVehicle _ => LOOKUP_VEHICLE
  | .checkoutReserveBoo _ => CHECKOUT_RESERVE_BOO
  | .checkoutCommitBoo _ => CHECKOUT_COMMIT_BOO
  | .checkoutRollbackBoo _ => CHECKOUT_ROLLBACK_BOO

/-- The version in a request, if its command has one. -/
def Request.version {k : Side} : Request k → Option Int
  | .checkin _ | .commit _ | .rollback _ => none
  | _ => some versionIdDefault

/-- The header that a client writes. -/
def Request.header (r : Request client) : Header where
  messageLength := .wrap 4 (build r).length
  commandId := .wrap 4 r.command
  versionId := r.version.map (.wrap 4)

/-- A request without a line of its fee. -/
def Request.NoLines : Request client → Prop
  | .checkoutReserveBoo x => x.ratingDetailLine.val = 0 ∧ x.ratingDetail = []
  | _ => True

/-- A change of all fields that differ between two sides. -/
structure Reading (k l : Side) where
  text {n : Nat} : k.text n → l.text n
  char : k.char → l.char
  raw {n : Nat} : k.raw n → l.raw n
  hub : k.hub → l.hub

/-- What a handler should get from a client. -/
def received : Reading client server where
  text t := t.str
  char c := c.str
  raw bs := bs.val
  hub := idOrNone

/-- `normalize_etag` of all texts. -/
def normalized : Reading server server where
  text := normalizeEtag
  char := normalizeEtag
  raw := id
  hub := id

section Map

variable {k l : Side} (f : Reading k l)

def Connect.map (x : Connect k) : Connect l :=
  { x with username := f.text x.username, password := f.text x.password }

def Checkin.map (x : Checkin k) : Checkin l :=
  { x with
    etag := f.text x.etag, plate := f.text x.plate, tid := f.text x.tid
    hashValue := f.text x.hashValue }

def Commit.map (x : Commit k) : Commit l :=
  { x with etag := f.text x.etag, plate := f.text x.plate }

def Rollback.map (x : Rollback k) : Rollback l :=
  { x with etag := f.text x.etag, plate := f.text x.plate }

def QueryVehicleBoo.map (x : QueryVehicleBoo k) : QueryVehicleBoo l :=
  { x with
    tid := f.text x.tid, etag := f.text x.etag, stationType := f.char x.stationType
    laneType := f.char x.laneType, general1 := f.raw x.general1, general2 := f.raw x.general2 }

def LookupVehicle.map (x : LookupVehicle k) : LookupVehicle l :=
  { x with
    tid := f.text x.tid, etag := f.text x.etag, stationType := f.char x.stationType
    laneType := f.char x.laneType, general1 := f.raw x.general1, general2 := f.raw x.general2 }

def CheckoutReserveBoo.map (x : CheckoutReserveBoo k) : CheckoutReserveBoo l :=
  { x with
    tid := f.text x.tid, etag := f.text x.etag, hubId := f.hub x.hubId, plate := f.text x.plate
    ticketType := f.char x.ticketType, general1 := f.raw x.general1
    general2 := f.raw x.general2 }

def CheckoutBoo.map {plateWidth : Nat} (x : CheckoutBoo plateWidth k) :
    CheckoutBoo plateWidth l :=
  { x with
    tid := f.text x.tid, etag := f.text x.etag, plate := f.text x.plate
    general1 := f.raw x.general1, general2 := f.raw x.general2 }

/-- The request with its fields changed. -/
def Request.map : Request k → Request l
  | .connect x => .connect (x.map f)
  | .shake x => .shake x
  | .terminate x => .terminate x
  | .checkin x => .checkin (x.map f)
  | .commit x => .commit (x.map f)
  | .rollback x => .rollback (x.map f)
  | .queryVehicleBoo x => .queryVehicleBoo (x.map f)
  | .lookupVehicle x => .lookupVehicle (x.map f)
  | .checkoutReserveBoo x => .checkoutReserveBoo (x.map f)
  | .checkoutCommitBoo x => .checkoutCommitBoo (x.map f)
  | .checkoutRollbackBoo x => .checkoutRollbackBoo (x.map f)

end Map

/-! ### Fields -/

section Fields

variable {n : Nat}

attribute [simp] FieldText.normalizeEtag_str FieldText.normalizeEtag_pad
  FieldText.trimEndNul_pad FieldText.trim_str

/-- A text of one character is not cut. -/
@[simp] theorem OneChar.firstChar_str (c : OneChar) (default : String) :
    firstChar c.str default = c.str := by
  have some_char : c.str.isEmpty = false := by
    rw [Bool.eq_false_iff]
    intro empty
    exact c.nonempty (String.isEmpty_iff.mp empty)
  rw [firstChar, some_char, if_neg Bool.false_ne_true, List.take_of_length_le c.short,
    String.ofList_toList]

/-- A general field of its full length is written as it is. -/
@[simp] theorem general_raw (raw : Raw n) :
    general raw.val n = raw.val := by
  rw [general, if_pos (Nat.le_of_eq raw.property.symm),
    List.take_of_length_le (Nat.le_of_eq raw.property)]

@[simp] theorem length_general (bs : Bytes) (n : Nat) : (general bs n).length = n := by
  unfold general
  split
  · rw [List.length_take]
    omega
  · rw [List.length_replicate]

/-- The one byte of a text is read at its position. -/
theorem charAt_eq (data : Bytes) (a : Nat) : charAt data a = charAt (slice data a (a + 1)) 0 := by
  have byte : (slice data a (a + 1)).getD 0 0 = data.getD a 0 := by
    rw [slice, List.getD_eq_getElem?_getD, List.getElem?_drop, List.getElem?_take,
      List.getD_eq_getElem?_getD]
    simp
  rw [charAt, charAt, byte]

@[simp] theorem OneChar.charAt_pad (c : OneChar) : charAt (pad c.str 1) 0 = c.str := by
  have one : ∃ char, c.str.toList = [char] := by
    apply List.length_eq_one_iff.mp
    have short := c.short
    have nonempty : c.str.toList.length ≠ 0 := by
      intro zero
      apply c.nonempty
      rw [← String.ofList_toList (s := c.str), List.length_eq_zero_iff.mp zero]
    omega
  obtain ⟨char, chars⟩ := one
  obtain ⟨visible, small⟩ := c.ascii char (by rw [chars]; exact List.mem_singleton_self _)
  have code : (UInt8.ofNat char.toNat).toNat = char.toNat := by
    rw [UInt8.toNat_ofNat']
    omega
  have byte : (pad c.str 1).getD 0 0 = UInt8.ofNat char.toNat := by
    rw [pad, utf8Bytes, chars, encodeUtf8_cons, utf8EncodeChar_ascii small]
    rfl
  have positive : 0 < UInt8.ofNat char.toNat := by
    rw [UInt8.lt_iff_toNat_lt, code]
    exact visible
  simp only [charAt, byte]
  rw [if_pos positive, code, Char.ofNat_toNat, String.singleton_eq_ofList, ← chars,
    String.ofList_toList]

end Fields

/-! ### Round trips -/

section RoundTrip

attribute [local simp] i32 i64 text slice_append_right slice_append_left slice_whole le32
  received normalized

theorem length_buildConnect (x : Connect client) :
    (buildConnect x).length = Len.CONNECT := by
  unfold buildConnect
  simp [Len.CONNECT]

theorem header_buildConnect (x : Connect client) :
    versionHeader (buildConnect x) = (Request.connect (k := client) x).header := by
  rw [Request.header, build, length_buildConnect]
  unfold buildConnect
  simp [versionHeader, Request.version, Request.command, Len.CONNECT]

theorem parseConnect_build (x : Connect client) :
    (parseConnect (buildConnect x)).map (Prod.map id (Connect.map normalized)) =
      .ok ((Request.connect x).header, x.map received) := by
  rw [parseConnect, checkLength_of_le (Nat.le_of_eq (length_buildConnect x).symm)]
  refine congrArg Except.ok (Prod.ext (header_buildConnect x) ?_)
  unfold buildConnect
  simp [Connect.map]

theorem length_buildHandshake (x : Ids) :
    (buildHandshake x).length = Len.HANDSHAKE := by
  unfold buildHandshake
  simp [Len.HANDSHAKE]

theorem header_buildHandshake (x : Ids) :
    versionHeader (buildHandshake x) = (Request.shake (k := client) x).header := by
  rw [Request.header, build, length_buildHandshake]
  unfold buildHandshake
  simp [versionHeader, Request.version, Request.command, Len.HANDSHAKE]

theorem length_buildTerminate (x : Ids) :
    (buildTerminate x).length = Len.TERMINATE := by
  unfold buildTerminate
  simp [Len.TERMINATE]

theorem header_buildTerminate (x : Ids) :
    versionHeader (buildTerminate x) = (Request.terminate (k := client) x).header := by
  rw [Request.header, build, length_buildTerminate]
  unfold buildTerminate
  simp [versionHeader, Request.version, Request.command, Len.TERMINATE]

theorem length_buildCheckin (x : Checkin client) :
    (buildCheckin x).length = Len.CHECKIN := by
  unfold buildCheckin
  simp [Len.CHECKIN]

theorem header_buildCheckin (x : Checkin client) :
    plainHeader (buildCheckin x) = (Request.checkin (k := client) x).header := by
  rw [Request.header, build, length_buildCheckin]
  unfold buildCheckin
  simp [plainHeader, Request.version, Request.command, Len.CHECKIN]

theorem parseCheckin_build (x : Checkin client) :
    (parseCheckin (buildCheckin x)).map (Prod.map id (Checkin.map normalized)) =
      .ok ((Request.checkin x).header, x.map received) := by
  rw [parseCheckin, checkLength_of_le (Nat.le_of_eq (length_buildCheckin x).symm)]
  refine congrArg Except.ok (Prod.ext (header_buildCheckin x) ?_)
  unfold buildCheckin
  simp [Checkin.map]

theorem length_buildCommit (x : Commit client) :
    (buildCommit x).length = Len.COMMIT := by
  unfold buildCommit
  simp [Len.COMMIT]

theorem header_buildCommit (x : Commit client) :
    plainHeader (buildCommit x) = (Request.commit (k := client) x).header := by
  rw [Request.header, build, length_buildCommit]
  unfold buildCommit
  simp [plainHeader, Request.version, Request.command, Len.COMMIT]

theorem parseCommit_build (x : Commit client) :
    (parseCommit (buildCommit x)).map (Prod.map id (Commit.map normalized)) =
      .ok ((Request.commit x).header, x.map received) := by
  rw [parseCommit, checkLength_of_le (Nat.le_of_eq (length_buildCommit x).symm)]
  refine congrArg Except.ok (Prod.ext (header_buildCommit x) ?_)
  unfold buildCommit
  simp [Commit.map]

theorem length_buildRollback (x : Rollback client) :
    (buildRollback x).length = Len.ROLLBACK := by
  unfold buildRollback
  simp [Len.ROLLBACK]

theorem header_buildRollback (x : Rollback client) :
    plainHeader (buildRollback x) = (Request.rollback (k := client) x).header := by
  rw [Request.header, build, length_buildRollback]
  unfold buildRollback
  simp [plainHeader, Request.version, Request.command, Len.ROLLBACK]

theorem parseRollback_build (x : Rollback client) :
    (parseRollback (buildRollback x)).map (Prod.map id (Rollback.map normalized)) =
      .ok ((Request.rollback x).header, x.map received) := by
  rw [parseRollback, checkLength_of_le (Nat.le_of_eq (length_buildRollback x).symm)]
  refine congrArg Except.ok (Prod.ext (header_buildRollback x) ?_)
  unfold buildRollback
  simp [Rollback.map]

theorem length_buildQueryVehicleBoo (x : QueryVehicleBoo client) :
    (buildQueryVehicleBoo x).length = Len.QUERY_VEHICLE_BOO := by
  unfold buildQueryVehicleBoo
  simp [Len.QUERY_VEHICLE_BOO]

theorem header_buildQueryVehicleBoo (x : QueryVehicleBoo client) :
    versionHeader (buildQueryVehicleBoo x) = (Request.queryVehicleBoo (k := client) x).header := by
  rw [Request.header, build, length_buildQueryVehicleBoo]
  unfold buildQueryVehicleBoo
  simp [versionHeader, Request.version, Request.command, Len.QUERY_VEHICLE_BOO]

theorem parseQueryVehicleBoo_build (x : QueryVehicleBoo client) :
    (parseQueryVehicleBoo (buildQueryVehicleBoo x)).map
        (Prod.map id (QueryVehicleBoo.map normalized)) =
      .ok ((Request.queryVehicleBoo x).header, x.map received) := by
  rw [parseQueryVehicleBoo, checkLength_of_le (Nat.le_of_eq (length_buildQueryVehicleBoo x).symm)]
  refine congrArg Except.ok (Prod.ext (header_buildQueryVehicleBoo x) ?_)
  unfold buildQueryVehicleBoo
  simp [QueryVehicleBoo.map]

theorem length_buildLookupVehicle (x : LookupVehicle client) :
    (buildLookupVehicle x).length = Len.LOOKUP_VEHICLE := by
  unfold buildLookupVehicle
  simp [Len.LOOKUP_VEHICLE]

theorem header_buildLookupVehicle (x : LookupVehicle client) :
    versionHeader (buildLookupVehicle x) = (Request.lookupVehicle (k := client) x).header := by
  rw [Request.header, build, length_buildLookupVehicle]
  unfold buildLookupVehicle
  simp [versionHeader, Request.version, Request.command, Len.LOOKUP_VEHICLE]

theorem parseLookupVehicle_build (x : LookupVehicle client) :
    (parseLookupVehicle (buildLookupVehicle x)).map (Prod.map id (LookupVehicle.map normalized)) =
      .ok ((Request.lookupVehicle x).header, x.map received) := by
  rw [parseLookupVehicle, checkLength_of_le (Nat.le_of_eq (length_buildLookupVehicle x).symm)]
  refine congrArg Except.ok (Prod.ext (header_buildLookupVehicle x) ?_)
  unfold buildLookupVehicle
  simp [LookupVehicle.map]

theorem parseShake_build (x : Ids) :
    parseShake (buildHandshake x) = .ok ((Request.shake (k := client) x).header, x) := by
  have long : Len.HANDSHAKE ≤ (buildHandshake x).length :=
    Nat.le_of_eq (length_buildHandshake x).symm
  rw [parseShake, checkLength_of_le long, parseShakeIds_of_le long]
  refine congrArg Except.ok (Prod.ext (header_buildHandshake x) ?_)
  unfold buildHandshake
  simp

theorem parseTerminate_build (x : Ids) :
    parseTerminate (buildTerminate x) = .ok ((Request.terminate (k := client) x).header, x) := by
  have long : Len.TERMINATE ≤ (buildTerminate x).length :=
    Nat.le_of_eq (length_buildTerminate x).symm
  rw [parseTerminate, checkLength_of_le long, parseTerminateIds_of_le long]
  refine congrArg Except.ok (Prod.ext (header_buildTerminate x) ?_)
  unfold buildTerminate
  simp

section Reserve

variable (x : CheckoutReserveBoo client)

theorem length_buildCheckoutReserveBoo :
    (buildCheckoutReserveBoo x).length = Len.CHECKOUT_RESERVE_BOO_MIN := by
  have lines : (if 0 ≤ x.ratingDetailLine.val then x.ratingDetailLine.bytes
      else le32 0).length = 4 := by
    split
    · exact SInt.length_bytes _
    · exact length_le32 _
  unfold buildCheckoutReserveBoo
  simp only [List.length_append, lines]
  simp [Len.CHECKOUT_RESERVE_BOO_MIN]

theorem header_buildCheckoutReserveBoo :
    versionHeader (buildCheckoutReserveBoo x) = (Request.checkoutReserveBoo x).header := by
  rw [Request.header, build, length_buildCheckoutReserveBoo]
  unfold buildCheckoutReserveBoo
  simp [versionHeader, Request.version, Request.command, Len.CHECKOUT_RESERVE_BOO_MIN]

/-- Without lines the general fields follow the count of lines. -/
theorem parseCheckoutReserveBoo_build (noLines : (Request.checkoutReserveBoo x).NoLines) :
    (parseCheckoutReserveBoo (buildCheckoutReserveBoo x)).map
        (Prod.map id (CheckoutReserveBoo.map normalized)) =
      .ok ((Request.checkoutReserveBoo x).header, x.map received) := by
  obtain ⟨zero, no_detail⟩ := noLines
  have length := length_buildCheckoutReserveBoo x
  have lines : i32 (buildCheckoutReserveBoo x) 175 179 = x.ratingDetailLine := by
    unfold buildCheckoutReserveBoo
    rw [if_pos (Int.le_of_eq zero.symm)]
    simp
  rw [parseCheckoutReserveBoo, checkLength_of_le (Nat.le_of_eq length.symm)]
  refine congrArg Except.ok (Prod.ext (header_buildCheckoutReserveBoo x) ?_)
  simp only [lines, zero, length, Len.CHECKOUT_RESERVE_BOO_MIN]
  unfold buildCheckoutReserveBoo
  rw [if_pos (Int.le_of_eq zero.symm)]
  simp [CheckoutReserveBoo.map, charAt_eq _ 158, no_detail]

end Reserve

theorem length_buildCheckoutCommitBoo (x : CheckoutBoo 20 client) :
    (buildCheckoutCommitBoo x).length = Len.CHECKOUT_COMMIT_BOO := by
  unfold buildCheckoutCommitBoo
  simp [Len.CHECKOUT_COMMIT_BOO]

theorem header_buildCheckoutCommitBoo (x : CheckoutBoo 20 client) :
    versionHeader (buildCheckoutCommitBoo x) =
      (Request.checkoutCommitBoo (k := client) x).header := by
  rw [Request.header, build, length_buildCheckoutCommitBoo]
  unfold buildCheckoutCommitBoo
  simp [versionHeader, Request.version, Request.command, Len.CHECKOUT_COMMIT_BOO]

theorem parseCheckoutCommitBoo_build (x : CheckoutBoo 20 client) :
    (parseCheckoutCommitBoo (buildCheckoutCommitBoo x)).map
        (Prod.map id (CheckoutBoo.map normalized)) =
      .ok ((Request.checkoutCommitBoo x).header, x.map received) := by
  rw [parseCheckoutCommitBoo,
    checkLength_of_le (Nat.le_of_eq (length_buildCheckoutCommitBoo x).symm)]
  refine congrArg Except.ok (Prod.ext (header_buildCheckoutCommitBoo x) ?_)
  unfold buildCheckoutCommitBoo
  simp [CheckoutBoo.map]

theorem length_buildCheckoutRollbackBoo (x : CheckoutBoo 10 client) :
    (buildCheckoutRollbackBoo x).length = Len.CHECKOUT_ROLLBACK_BOO := by
  unfold buildCheckoutRollbackBoo
  simp [Len.CHECKOUT_ROLLBACK_BOO]

theorem header_buildCheckoutRollbackBoo (x : CheckoutBoo 10 client) :
    versionHeader (buildCheckoutRollbackBoo x) =
      (Request.checkoutRollbackBoo (k := client) x).header := by
  rw [Request.header, build, length_buildCheckoutRollbackBoo]
  unfold buildCheckoutRollbackBoo
  simp [versionHeader, Request.version, Request.command, Len.CHECKOUT_ROLLBACK_BOO]

theorem parseCheckoutRollbackBoo_build (x : CheckoutBoo 10 client) :
    (parseCheckoutRollbackBoo (buildCheckoutRollbackBoo x)).map
        (Prod.map id (CheckoutBoo.map normalized)) =
      .ok ((Request.checkoutRollbackBoo x).header, x.map received) := by
  rw [parseCheckoutRollbackBoo,
    checkLength_of_le (Nat.le_of_eq (length_buildCheckoutRollbackBoo x).symm)]
  refine congrArg Except.ok (Prod.ext (header_buildCheckoutRollbackBoo x) ?_)
  unfold buildCheckoutRollbackBoo
  simp [CheckoutBoo.map]

/-- A message has the length that the server wants. -/
theorem length_build (r : Request client) : (build r).length = minLenForCommand r.command := by
  cases r with
  | connect x => exact length_buildConnect x
  | shake x => exact length_buildHandshake x
  | terminate x => exact length_buildTerminate x
  | checkin x => exact length_buildCheckin x
  | commit x => exact length_buildCommit x
  | rollback x => exact length_buildRollback x
  | queryVehicleBoo x => exact length_buildQueryVehicleBoo x
  | lookupVehicle x => exact length_buildLookupVehicle x
  | checkoutReserveBoo x => exact length_buildCheckoutReserveBoo x
  | checkoutCommitBoo x => exact length_buildCheckoutCommitBoo x
  | checkoutRollbackBoo x => exact length_buildCheckoutRollbackBoo x

theorem command_mem (r : Request client) : r.command ∈ validCommands := by
  cases r <;> simp [Request.command, validCommands]

theorem minLenForCommand_ge : ∀ command ∈ validCommands, 8 ≤ minLenForCommand command := by
  decide

/-- The server takes each message. -/
theorem checkRequest_build (r : Request client) :
    checkRequest r.command (build r) = .ok () := by
  have valid : validCommands.contains r.command = true :=
    List.contains_iff_mem.mpr (command_mem r)
  have long := minLenForCommand_ge r.command (command_mem r)
  rw [checkRequest, if_neg (not_not_intro valid), length_build, if_neg (Nat.not_lt.mpr long),
    if_neg (Nat.lt_irrefl _)]

theorem commandId_of_plain {data : Bytes} {header : Header} (eq : plainHeader data = header) :
    i32 data 4 8 = header.commandId := by
  rw [← eq, plainHeader]

theorem commandId_of_version {data : Bytes} {header : Header} (eq : versionHeader data = header) :
    i32 data 4 8 = header.commandId := by
  rw [← eq, versionHeader]

/-- The command in a message is the one of the request. -/
theorem i32_command_build (r : Request client) : (i32 (build r) 4 8).val = r.command := by
  have header : i32 (build r) 4 8 = r.header.commandId := by
    cases r with
    | connect x => exact commandId_of_version (header_buildConnect x)
    | shake x => exact commandId_of_version (header_buildHandshake x)
    | terminate x => exact commandId_of_version (header_buildTerminate x)
    | checkin x => exact commandId_of_plain (header_buildCheckin x)
    | commit x => exact commandId_of_plain (header_buildCommit x)
    | rollback x => exact commandId_of_plain (header_buildRollback x)
    | queryVehicleBoo x => exact commandId_of_version (header_buildQueryVehicleBoo x)
    | lookupVehicle x => exact commandId_of_version (header_buildLookupVehicle x)
    | checkoutReserveBoo x => exact commandId_of_version (header_buildCheckoutReserveBoo x)
    | checkoutCommitBoo x => exact commandId_of_version (header_buildCheckoutCommitBoo x)
    | checkoutRollbackBoo x => exact commandId_of_version (header_buildCheckoutRollbackBoo x)
  have small : ∀ command ∈ validCommands, (SInt.wrap 4 command).val = command := by decide
  rw [header]
  exact small r.command (command_mem r)

/-- A parser that recovers the fields of its command does so as a parser of requests. -/
theorem map_request {α : Type} {parsed : Except String (Header × α)} {change : α → α}
    {request : α → Request server} {header : Header} {y : α}
    (commutes : ∀ x, (request x).map normalized = request (change x))
    (recovers : parsed.map (Prod.map id change) = .ok (header, y)) :
    (parsed.map (·.map id request)).map (Prod.map id (Request.map normalized)) =
      .ok (header, request y) := by
  cases parsed with
  | error e => cases recovers
  | ok p =>
    cases recovers
    exact congrArg (fun r => Except.ok (p.1, r)) (commutes p.2)

/-- The handler of the command gets the header and all fields. -/
theorem parseRequest_command_build (r : Request client) (noLines : r.NoLines) :
    (parseRequest r.command (build r)).map (Prod.map id (Request.map normalized)) =
      .ok (r.header, r.map received) := by
  cases r with
  | connect x =>
    rw [Request.command, build, parseRequest_connect]
    exact map_request (fun _ => rfl) (parseConnect_build x)
  | shake x =>
    rw [Request.command, build, parseRequest_shake]
    have recovers : (parseShake (buildHandshake x)).map (Prod.map id id) =
        .ok ((Request.shake (k := client) x).header, x) := by
      rw [parseShake_build]
      rfl
    exact map_request (fun _ => rfl) recovers
  | terminate x =>
    rw [Request.command, build, parseRequest_terminate]
    have recovers : (parseTerminate (buildTerminate x)).map (Prod.map id id) =
        .ok ((Request.terminate (k := client) x).header, x) := by
      rw [parseTerminate_build]
      rfl
    exact map_request (fun _ => rfl) recovers
  | checkin x =>
    rw [Request.command, build, parseRequest_checkin]
    exact map_request (fun _ => rfl) (parseCheckin_build x)
  | commit x =>
    rw [Request.command, build, parseRequest_commit]
    exact map_request (fun _ => rfl) (parseCommit_build x)
  | rollback x =>
    rw [Request.command, build, parseRequest_rollback]
    exact map_request (fun _ => rfl) (parseRollback_build x)
  | queryVehicleBoo x =>
    rw [Request.command, build, parseRequest_queryVehicleBoo]
    exact map_request (fun _ => rfl) (parseQueryVehicleBoo_build x)
  | lookupVehicle x =>
    rw [Request.command, build, parseRequest_lookupVehicle]
    exact map_request (fun _ => rfl) (parseLookupVehicle_build x)
  | checkoutReserveBoo x =>
    rw [Request.command, build, parseRequest_checkoutReserveBoo]
    exact map_request (fun _ => rfl) (parseCheckoutReserveBoo_build x noLines)
  | checkoutCommitBoo x =>
    rw [Request.command, build, parseRequest_checkoutCommitBoo]
    exact map_request (fun _ => rfl) (parseCheckoutCommitBoo_build x)
  | checkoutRollbackBoo x =>
    rw [Request.command, build, parseRequest_checkoutRollbackBoo]
    exact map_request (fun _ => rfl) (parseCheckoutRollbackBoo_build x)

end RoundTrip

/-- The server takes each message of a client without lines of a fee, and the handler gets the
header and all fields: the texts after `normalize_etag`, and the hub id of a reserve unless it
is `0`. -/
theorem parseRequest_build (r : Request client) (noLines : r.NoLines) :
    checkRequest (i32 (build r) 4 8).val (build r) = .ok () ∧
      (parseRequest (i32 (build r) 4 8).val (build r)).map
          (Prod.map id (Request.map normalized)) =
        .ok (r.header, r.map received) := by
  rw [i32_command_build]
  exact ⟨checkRequest_build r, parseRequest_command_build r noLines⟩

/-! ### A reserve -/

theorem isWhiteSpace_of_visible {c : Char} (visible : 0x20 < c.toNat ∧ c.toNat < 0x7F) :
    isWhiteSpace c = false := by
  simp only [isWhiteSpace, Bool.or_eq_false_iff, Bool.and_eq_false_iff, decide_eq_false_iff_not,
    beq_eq_false_iff_ne]
  omega

/-- A text of visible characters that fits. -/
def ofVisible {n : Nat} (s : String) (short : s.toList.length ≤ n)
    (visible : ∀ c ∈ s.toList, 0x20 < c.toNat ∧ c.toNat < 0x7F) : FieldText n where
  str := s
  short := short
  ascii c mem := by
    have range := visible c mem
    omega
  no_blank_before c head :=
    isWhiteSpace_of_visible (visible c (List.mem_of_mem_head? head))
  no_blank_behind c last :=
    isWhiteSpace_of_visible (visible c (List.mem_of_getLast? last))

/-- A reserve of trip 5 through station 12. -/
def reserveSample : CheckoutReserveBoo client where
  requestId := .wrap 8 7
  sessionId := .wrap 8 9
  timestamp := .wrap 8 1700000000000
  tid := ofVisible "E2003412" (by decide) (by simp)
  etag := ofVisible "34161FA820328EE8" (by decide) (by simp)
  ticketInId := .wrap 8 5
  hubId := .wrap 8 0
  ticketETagId := .wrap 8 0
  ticketOutId := .wrap 8 0
  checkinDatetime := .wrap 8 0
  checkinCommitDatetime := .wrap 8 0
  stationIn := .wrap 4 11
  laneIn := .wrap 4 1
  stationOut := .wrap 4 12
  laneOut := .wrap 4 (-2)
  plate := ofVisible "51G12345" (by decide) (by simp)
  ticketType := ⟨ofVisible "L" (by decide) (by simp), by decide⟩
  priceTicketType := .wrap 4 1
  transAmount := .wrap 4 35000
  transDatetime := .wrap 8 1700000000000
  ratingDetailLine := .wrap 4 0
  ratingDetail := []
  general1 := ⟨List.replicate 8 1, rfl⟩
  general2 := ⟨List.replicate 16 2, rfl⟩

theorem parseRequest_build_reserveSample :
    let data := build (.checkoutReserveBoo reserveSample)
    checkRequest (i32 data 4 8).val data = .ok () ∧
      (parseRequest (i32 data 4 8).val data).map (Prod.map id (Request.map normalized)) =
        .ok ((Request.checkoutReserveBoo reserveSample).header,
          (Request.checkoutReserveBoo reserveSample).map received) :=
  parseRequest_build (.checkoutReserveBoo reserveSample) ⟨by decide, rfl⟩

end TollBackend.Fe

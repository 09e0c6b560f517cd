import TollBackend.Fe.Protocol

/-!
# What handlers read from requests

Every handler parses its request by offsets of its own. A client and a handler have the same
fields of a request, but not of the same types: the texts of a client fit their fields, and a
handler has what it decodes.

## Main definitions

* `Side`: the types of the fields on one side.
* `Request`: a request of any command with its fields.
* `parseRequest`: what the handler of a command parses from a message.
-/

namespace TollBackend.Fe

open Wire

/-! ### Fields -/

/-- The types of texts, of texts of one character, of raw bytes and of the hub id of a
reserve. -/
structure Side where
  text : Nat → Type
  char : Type
  raw : Nat → Type
  hub : Type

/-- What a handler has. -/
@[reducible] def server : Side where
  text _ := String
  char := String
  raw _ := Bytes
  hub := Option I64

/-- The fields of a `CONNECT`. -/
structure Connect (k : Side) where
  requestId : I64
  username : k.text 10
  password : k.text 10
  timeout : I32

/-- The fields of a `SHAKE` or a `TERMINATE`. -/
structure Ids where
  requestId : I64
  sessionId : I64

/-- The fields of a `CHECKIN`. -/
structure Checkin (k : Side) where
  requestId : I64
  sessionId : I64
  etag : k.text 24
  station : I32
  lane : I32
  plate : k.text 10
  tid : k.text 24
  hashValue : k.text 16

/-- The fields of a `COMMIT`. -/
structure Commit (k : Side) where
  requestId : I64
  sessionId : I64
  etag : k.text 24
  station : I32
  lane : I32
  ticketId : I64
  status : I32
  plate : k.text 10
  imageCount : I32
  vehicleLength : I32
  transactionAmount : I32
  weight : I32
  reasonId : I32

/-- The fields of a `ROLLBACK`. -/
structure Rollback (k : Side) where
  requestId : I64
  sessionId : I64
  etag : k.text 24
  station : I32
  lane : I32
  ticketId : I64
  status : I32
  plate : k.text 10
  imageCount : I32
  weight : I32
  reasonId : I32

/-- The fields of a `QUERY_VEHICLE_BOO`. -/
structure QueryVehicleBoo (k : Side) where
  requestId : I64
  sessionId : I64
  timestamp : I64
  tid : k.text 24
  etag : k.text 24
  station : I32
  lane : I32
  stationType : k.char
  laneType : k.char
  minBalance : I32
  general1 : k.raw 8
  general2 : k.raw 16

/-- The fields of a `LOOKUP_VEHICLE`. -/
structure LookupVehicle (k : Side) where
  requestId : I64
  sessionId : I64
  timestamp : I64
  tid : k.text 24
  etag : k.text 24
  station : I32
  lane : I32
  stationType : k.char
  laneType : k.char
  general1 : k.raw 8
  general2 : k.raw 8

/-- A line of the fee of a reserve. -/
structure RatingLine where
  priceId : Option I64
  boo : I32
  tollAId : I32
  tollBId : I32
  ticketType : String
  subscriptionId : String
  priceTicketType : I32
  priceAmount : I32
  vehicleType : I32
  botId : Option I64
  stageId : Option I64

/-- The fields of a `CHECKOUT_RESERVE_BOO`. -/
structure CheckoutReserveBoo (k : Side) where
  requestId : I64
  sessionId : I64
  timestamp : I64
  tid : k.text 24
  etag : k.text 24
  ticketInId : I64
  hubId : k.hub
  ticketETagId : I64
  ticketOutId : I64
  checkinDatetime : I64
  checkinCommitDatetime : I64
  stationIn : I32
  laneIn : I32
  stationOut : I32
  laneOut : I32
  plate : k.text 10
  ticketType : k.char
  priceTicketType : I32
  transAmount : I32
  transDatetime : I64
  ratingDetailLine : I32
  ratingDetail : List RatingLine
  general1 : k.raw 8
  general2 : k.raw 16

/-- The fields of a `CHECKOUT_COMMIT_BOO` or a `CHECKOUT_ROLLBACK_BOO`, whose plates differ in
width. -/
structure CheckoutBoo (plateWidth : Nat) (k : Side) where
  requestId : I64
  sessionId : I64
  timestamp : I64
  tid : k.text 24
  etag : k.text 24
  ticketInId : I64
  hubId : I64
  ticketOutId : I64
  ticketETagId : I64
  stationIn : I32
  laneIn : I32
  stationOut : I32
  laneOut : I32
  plate : k.text plateWidth
  transAmount : I32
  transDatetime : I64
  general1 : k.raw 8
  general2 : k.raw 16

/-- A request. -/
inductive Request (k : Side)
  | connect (x : Connect k)
  | shake (x : Ids)
  | terminate (x : Ids)
  | checkin (x : Checkin k)
  | commit (x : Commit k)
  | rollback (x : Rollback k)
  | queryVehicleBoo (x : QueryVehicleBoo k)
  | lookupVehicle (x : LookupVehicle k)
  | checkoutReserveBoo (x : CheckoutReserveBoo k)
  | checkoutCommitBoo (x : CheckoutBoo 20 k)
  | checkoutRollbackBoo (x : CheckoutBoo 10 k)

/-- The header of a request; some commands have no version. -/
structure Header where
  messageLength : I32
  commandId : I32
  versionId : Option I32

/-! ### Parsers -/

/-- A message with a header without version. -/
def plainHeader (data : Bytes) : Header :=
  ⟨i32 data 0 4, i32 data 4 8, none⟩

/-- A message with a header with version. -/
def versionHeader (data : Bytes) : Header :=
  ⟨i32 data 0 4, i32 data 4 8, some (i32 data 8 12)⟩

/-- The check of a handler that its message is long enough. -/
def checkLength (name : String) (data : Bytes) (minimum : Nat) (wanted : String) :
    Except String Unit :=
  if data.length < minimum then
    .error s!"{name} message too short: {data.length} bytes ({wanted} {minimum})"
  else .ok ()

theorem checkLength_of_le {name wanted : String} {data : Bytes} {minimum : Nat}
    (long : minimum ≤ data.length) : checkLength name data minimum wanted = .ok () :=
  if_neg (Nat.not_lt.mpr long)

/-- The parser of `handle_connect`. -/
def parseConnect (data : Bytes) : Except String (Header × Connect server) := do
  checkLength "CONNECT" data Len.CONNECT "minimum"
  return (versionHeader data, {
    requestId := i64 data 12 20
    username := text data 20 30
    password := text data 30 40
    timeout := i32 data 40 44 })

/-- The parser of `handle_handshake`. -/
def parseShake (data : Bytes) : Except String (Header × Ids) := do
  checkLength "SHAKE" data Len.HANDSHAKE "minimum"
  match parseShakeIds data with
  | some (versionId, requestId, sessionId) =>
    return (⟨i32 data 0 4, i32 data 4 8, some versionId⟩, ⟨requestId, sessionId⟩)
  | none => .error "SHAKE message too short for header ids"

/-- The parser of `handle_terminate`. -/
def parseTerminate (data : Bytes) : Except String (Header × Ids) := do
  checkLength "TERMINATE" data Len.TERMINATE "minimum"
  match parseTerminateIds data with
  | some (versionId, requestId, sessionId) =>
    return (⟨i32 data 0 4, i32 data 4 8, some versionId⟩, ⟨requestId, sessionId⟩)
  | none => .error "TERMINATE message too short for version_id/request_id/session_id"

/-- The parser of `handle_checkin`. -/
def parseCheckin (data : Bytes) : Except String (Header × Checkin server) := do
  checkLength "CHECKIN" data Len.CHECKIN "minimum"
  return (plainHeader data, {
    requestId := i64 data 8 16
    sessionId := i64 data 16 24
    etag := text data 24 48
    station := i32 data 48 52
    lane := i32 data 52 56
    plate := text data 56 66
    tid := text data 66 90
    hashValue := text data 90 106 })

/-- The parser of `handle_commit`. -/
def parseCommit (data : Bytes) : Except String (Header × Commit server) := do
  checkLength "COMMIT" data Len.COMMIT "minimum"
  return (plainHeader data, {
    requestId := i64 data 8 16
    sessionId := i64 data 16 24
    etag := text data 24 48
    station := i32 data 48 52
    lane := i32 data 52 56
    ticketId := i64 data 56 64
    status := i32 data 64 68
    plate := text data 68 78
    imageCount := i32 data 78 82
    vehicleLength := i32 data 82 86
    transactionAmount := i32 data 86 90
    weight := i32 data 90 94
    reasonId := i32 data 94 98 })

/-- The parser of `handle_rollback`. -/
def parseRollback (data : Bytes) : Except String (Header × Rollback server) := do
  checkLength "ROLLBACK" data Len.ROLLBACK "minimum"
  return (plainHeader data, {
    requestId := i64 data 8 16
    sessionId := i64 data 16 24
    etag := text data 24 48
    station := i32 data 48 52
    lane := i32 data 52 56
    ticketId := i64 data 56 64
    status := i32 data 64 68
    plate := text data 68 78
    imageCount := i32 data 78 82
    weight := i32 data 82 86
    reasonId := i32 data 86 90 })

/-- `parse_query_vehicle_boo`. -/
def parseQueryVehicleBoo (data : Bytes) : Except String (Header × QueryVehicleBoo server) := do
  checkLength "QUERY_VEHICLE_BOO" data Len.QUERY_VEHICLE_BOO "need"
  return (versionHeader data, {
    requestId := i64 data 12 20
    sessionId := i64 data 20 28
    timestamp := i64 data 28 36
    tid := trimEndNul (text data 36 60)
    etag := trimEndNul (text data 60 84)
    station := i32 data 84 88
    lane := i32 data 88 92
    stationType := trimEndNul (text data 92 93)
    laneType := trimEndNul (text data 93 94)
    minBalance := i32 data 94 98
    general1 := slice data 98 106
    general2 := slice data 106 122 })

/-- `parse_lookup_vehicle`. -/
def parseLookupVehicle (data : Bytes) : Except String (Header × LookupVehicle server) := do
  checkLength "LOOKUP_VEHICLE" data Len.LOOKUP_VEHICLE "need"
  return (versionHeader data, {
    requestId := i64 data 12 20
    sessionId := i64 data 20 28
    timestamp := i64 data 28 36
    tid := trimEndNul (text data 36 60)
    etag := trimEndNul (text data 60 84)
    station := i32 data 84 88
    lane := i32 data 88 92
    stationType := trimEndNul (text data 92 93)
    laneType := trimEndNul (text data 93 94)
    general1 := slice data 94 102
    general2 := slice data 102 110 })

/-- An id of which `0` means that there is none. -/
def idOrNone (id : I64) : Option I64 :=
  if id.val ≠ 0 then some id else none

/-- A text of one byte, of which `0` means the empty text. -/
def charAt (data : Bytes) (a : Nat) : String :=
  let byte := data.getD a 0
  if 0 < byte then String.singleton (Char.ofNat byte.toNat) else ""

/-- The bytes of a line of a reserve. -/
def ratingDetailItemBytes : Nat :=
  74

/-- A line of a reserve. -/
def parseRatingLine (data : Bytes) (base : Nat) : RatingLine where
  priceId := idOrNone (i64 data base (base + 8))
  boo := i32 data (base + 8) (base + 12)
  tollAId := i32 data (base + 12) (base + 16)
  tollBId := i32 data (base + 16) (base + 20)
  ticketType := charAt data (base + 20)
  subscriptionId := trim (trimEndNul (text data (base + 21) (base + 46)))
  priceTicketType := i32 data (base + 46) (base + 50)
  priceAmount := i32 data (base + 50) (base + 54)
  vehicleType := i32 data (base + 54) (base + 58)
  botId := idOrNone (i64 data (base + 58) (base + 66))
  stageId := idOrNone (i64 data (base + 66) (base + 74))

/-- `parse_checkout_reserve_boo`: the lines are read if they are all there, and what follows
them if it is. -/
def parseCheckoutReserveBoo (data : Bytes) :
    Except String (Header × CheckoutReserveBoo server) := do
  checkLength "CHECKOUT_RESERVE_BOO" data Len.CHECKOUT_RESERVE_BOO_MIN "minimum"
  let lines := i32 data 175 179
  let detailEnd := 179 + lines.val.toNat * ratingDetailItemBytes
  let complete := detailEnd + 24 ≤ data.length
  return (versionHeader data, {
    requestId := i64 data 12 20
    sessionId := i64 data 20 28
    timestamp := i64 data 28 36
    tid := trim (trimEndNul (text data 36 60))
    etag := trim (trimEndNul (text data 60 84))
    ticketInId := i64 data 84 92
    hubId := idOrNone (i64 data 92 100)
    ticketETagId := i64 data 100 108
    ticketOutId := i64 data 108 116
    checkinDatetime := i64 data 116 124
    checkinCommitDatetime := i64 data 124 132
    stationIn := i32 data 132 136
    laneIn := i32 data 136 140
    stationOut := i32 data 140 144
    laneOut := i32 data 144 148
    plate := trim (trimEndNul (text data 148 158))
    ticketType := charAt data 158
    priceTicketType := i32 data 159 163
    transAmount := i32 data 163 167
    transDatetime := i64 data 167 175
    ratingDetailLine := lines
    ratingDetail :=
      if detailEnd ≤ data.length then
        (List.range lines.val.toNat).map fun i =>
          parseRatingLine data (179 + i * ratingDetailItemBytes)
      else []
    general1 := if complete then slice data detailEnd (detailEnd + 8) else List.replicate 8 0
    general2 :=
      if complete then slice data (detailEnd + 8) (detailEnd + 24) else List.replicate 16 0 })

/-- `parse_checkout_commit_boo`. -/
def parseCheckoutCommitBoo (data : Bytes) : Except String (Header × CheckoutBoo 20 server) := do
  checkLength "CHECKOUT_COMMIT_BOO" data Len.CHECKOUT_COMMIT_BOO "expected"
  return (versionHeader data, {
    requestId := i64 data 12 20
    sessionId := i64 data 20 28
    timestamp := i64 data 28 36
    tid := normalizeEtag (text data 36 60)
    etag := normalizeEtag (text data 60 84)
    ticketInId := i64 data 84 92
    hubId := i64 data 92 100
    ticketOutId := i64 data 100 108
    ticketETagId := i64 data 108 116
    stationIn := i32 data 116 120
    laneIn := i32 data 120 124
    stationOut := i32 data 124 128
    laneOut := i32 data 128 132
    plate := normalizeEtag (text data 132 152)
    transAmount := i32 data 152 156
    transDatetime := i64 data 156 164
    general1 := slice data 164 172
    general2 := slice data 172 188 })

/-- `parse_checkout_rollback_boo`. -/
def parseCheckoutRollbackBoo (data : Bytes) : Except String (Header × CheckoutBoo 10 server) := do
  checkLength "CHECKOUT_ROLLBACK_BOO" data Len.CHECKOUT_ROLLBACK_BOO "expected"
  return (versionHeader data, {
    requestId := i64 data 12 20
    sessionId := i64 data 20 28
    timestamp := i64 data 28 36
    tid := normalizeEtag (text data 36 60)
    etag := normalizeEtag (text data 60 84)
    ticketInId := i64 data 84 92
    hubId := i64 data 92 100
    ticketOutId := i64 data 100 108
    ticketETagId := i64 data 108 116
    stationIn := i32 data 116 120
    laneIn := i32 data 120 124
    stationOut := i32 data 124 128
    laneOut := i32 data 128 132
    plate := normalizeEtag (text data 132 142)
    transAmount := i32 data 142 146
    transDatetime := i64 data 146 154
    general1 := slice data 154 162
    general2 := slice data 162 178 })

/-- What the handler of the command parses. -/
def parseRequest (command : Int) (data : Bytes) : Except String (Header × Request server) :=
  if command = CONNECT then (parseConnect data).map (·.map id .connect)
  else if command = HANDSHAKE then (parseShake data).map (·.map id .shake)
  else if command = CHECKIN then (parseCheckin data).map (·.map id .checkin)
  else if command = COMMIT then (parseCommit data).map (·.map id .commit)
  else if command = ROLLBACK then (parseRollback data).map (·.map id .rollback)
  else if command = TERMINATE then (parseTerminate data).map (·.map id .terminate)
  else if command = QUERY_VEHICLE_BOO then
    (parseQueryVehicleBoo data).map (·.map id .queryVehicleBoo)
  else if command = LOOKUP_VEHICLE then (parseLookupVehicle data).map (·.map id .lookupVehicle)
  else if command = CHECKOUT_RESERVE_BOO then
    (parseCheckoutReserveBoo data).map (·.map id .checkoutReserveBoo)
  else if command = CHECKOUT_COMMIT_BOO then
    (parseCheckoutCommitBoo data).map (·.map id .checkoutCommitBoo)
  else if command = CHECKOUT_ROLLBACK_BOO then
    (parseCheckoutRollbackBoo data).map (·.map id .checkoutRollbackBoo)
  else .error s!"Unhandled command ID: {commandHex command}"

section ParseRequest

variable (data : Bytes)

theorem parseRequest_connect :
    parseRequest CONNECT data = (parseConnect data).map (·.map id .connect) :=
  rfl

theorem parseRequest_shake :
    parseRequest HANDSHAKE data = (parseShake data).map (·.map id .shake) :=
  rfl

theorem parseRequest_terminate :
    parseRequest TERMINATE data = (parseTerminate data).map (·.map id .terminate) :=
  rfl

theorem parseRequest_checkin :
    parseRequest CHECKIN data = (parseCheckin data).map (·.map id .checkin) :=
  rfl

theorem parseRequest_commit :
    parseRequest COMMIT data = (parseCommit data).map (·.map id .commit) :=
  rfl

theorem parseRequest_rollback :
    parseRequest ROLLBACK data = (parseRollback data).map (·.map id .rollback) :=
  rfl

theorem parseRequest_queryVehicleBoo :
    parseRequest QUERY_VEHICLE_BOO data =
      (parseQueryVehicleBoo data).map (·.map id .queryVehicleBoo) :=
  rfl

theorem parseRequest_lookupVehicle :
    parseRequest LOOKUP_VEHICLE data = (parseLookupVehicle data).map (·.map id .lookupVehicle) :=
  rfl

theorem parseRequest_checkoutReserveBoo :
    parseRequest CHECKOUT_RESERVE_BOO data =
      (parseCheckoutReserveBoo data).map (·.map id .checkoutReserveBoo) :=
  rfl

theorem parseRequest_checkoutCommitBoo :
    parseRequest CHECKOUT_COMMIT_BOO data =
      (parseCheckoutCommitBoo data).map (·.map id .checkoutCommitBoo) :=
  rfl

theorem parseRequest_checkoutRollbackBoo :
    parseRequest CHECKOUT_ROLLBACK_BOO data =
      (parseCheckoutRollbackBoo data).map (·.map id .checkoutRollbackBoo) :=
  rfl

end ParseRequest

end TollBackend.Fe

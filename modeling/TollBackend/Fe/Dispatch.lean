import TollBackend.Fe.Requests

/-!
# What the dispatcher reads from requests

Before it calls the handler of a command, `process_request` checks the length of the message and
reads some of its fields by offsets of its own. They go to the request log, to the keep-alive of
the session and to the check of the station.

## Main definitions

* `checkRequest`: the checks of command and length.
* `dispatch`: the fields that `process_request` reads.
* `Agrees`: what the dispatcher read are fields that the handler parses.

## Main results

* `agrees_iff`: when they agree.
-/

namespace TollBackend.Fe

open Wire

/-! ### Reading -/

/-- The checks of `process_request` before it reads anything. -/
def checkRequest (command : Int) (data : Bytes) : Except String Unit :=
  if ¬ validCommands.contains command then .error s!"Invalid command ID: {commandHex command}"
  else if data.length < 8 then .error "FE request too short for header"
  else if data.length < minLenForCommand command then
    .error (s!"FE request too short: {data.length} bytes (min {minLenForCommand command} " ++
      s!"for command {commandHex command})")
  else .ok ()

/-- The part of `RequestContext` that is read from the message. -/
structure RequestContext where
  requestId : I64
  sessionId : I64
  tollId : Option I32
  etagId : Option String
  laneId : Option I32
  plate : Option String
deriving DecidableEq

/-- The ids as `process_request` reads them. -/
def dispatchIds (command : Int) (data : Bytes) : Except String (I64 × I64) :=
  if command = HANDSHAKE then
    match parseShakeIds data with
    | some (_, requestId, sessionId) => .ok (requestId, sessionId)
    | none => .error "FE SHAKE message too short for header ids (need 28 bytes)"
  else
    match parseRequestIdSessionId data with
    | some ids => .ok ids
    | none => .error "FE request too short for header ids"

/-- There is a field, and the message is long enough for it. -/
def hasField (data : Bytes) (field : Nat × Nat) : Bool :=
  field.1 < field.2 && field.2 ≤ data.length

/-- A text of the message, without NULs at its end. -/
def dispatchText (data : Bytes) (field : Nat × Nat) : Option String :=
  if hasField data field then some (trimEndNul (text data field.1 field.2)) else none

/-- An integer of the message. -/
def dispatchInt (data : Bytes) (field : Nat × Nat) : Option I32 :=
  if hasField data field then some (i32 data field.1 field.2) else none

/-- The commands of which the station is checked. -/
def readsTollId : List Int :=
  [CONNECT, CHECKIN, COMMIT, ROLLBACK, CHECKOUT_RESERVE_BOO, CHECKOUT_COMMIT_BOO,
    CHECKOUT_ROLLBACK_BOO]

/-- What `process_request` reads once it has the ids. -/
def contextWith (command : Int) (data : Bytes) (ids : I64 × I64) : RequestContext :=
  let off := feBodyOffsets command
  { requestId := ids.1
    sessionId := ids.2
    tollId := if readsTollId.contains command then dispatchInt data off.toll else none
    etagId := dispatchText data off.etag
    laneId := dispatchInt data off.lane
    plate := dispatchText data off.plate }

/-- What `process_request` reads. -/
def dispatch (command : Int) (data : Bytes) : Except String RequestContext := do
  checkRequest command data
  let ids ← dispatchIds command data
  return contextWith command data ids

/-! ### Agreement -/

/-- The fields of a request that the dispatcher reads as well, as the handler parses them. -/
structure Shared where
  requestId : I64
  sessionId : Option I64
  station : Option I32
  etag : Option String
  lane : Option I32
  plate : Option String

/-- The shared fields; at the exit of a trip the station is the one of the exit. -/
def Request.shared : Request server → Shared
  | .connect x => ⟨x.requestId, none, none, none, none, none⟩
  | .shake x | .terminate x => ⟨x.requestId, x.sessionId, none, none, none, none⟩
  | .checkin x => ⟨x.requestId, x.sessionId, x.station, x.etag, x.lane, x.plate⟩
  | .commit x => ⟨x.requestId, x.sessionId, x.station, x.etag, x.lane, x.plate⟩
  | .rollback x => ⟨x.requestId, x.sessionId, x.station, x.etag, x.lane, x.plate⟩
  | .queryVehicleBoo x => ⟨x.requestId, x.sessionId, x.station, x.etag, x.lane, none⟩
  | .lookupVehicle x => ⟨x.requestId, x.sessionId, x.station, x.etag, x.lane, none⟩
  | .checkoutReserveBoo x =>
    ⟨x.requestId, x.sessionId, x.stationOut, x.etag, x.laneOut, x.plate⟩
  | .checkoutCommitBoo x =>
    ⟨x.requestId, x.sessionId, x.stationOut, x.etag, x.laneOut, x.plate⟩
  | .checkoutRollbackBoo x =>
    ⟨x.requestId, x.sessionId, x.stationOut, x.etag, x.laneOut, x.plate⟩

/-- A text that the dispatcher read is the one of the handler, up to its margins. -/
def SameText (read parsed : Option String) : Prop :=
  ∀ s, read = some s → ∃ t, parsed = some t ∧ bare s = bare t

/-- An integer that the dispatcher read is the one of the handler. -/
def SameInt (read parsed : Option I32) : Prop :=
  ∀ i, read = some i → parsed = some i

/-- What the dispatcher read are fields of the request. -/
structure Agrees (ctx : RequestContext) (x : Shared) : Prop where
  requestId : x.requestId = ctx.requestId
  sessionId : x.sessionId = some ctx.sessionId
  tollId : SameInt ctx.tollId x.station
  etagId : SameText ctx.etagId x.etag
  laneId : SameInt ctx.laneId x.lane
  plate : SameText ctx.plate x.plate

/-- The dispatcher and the handler of the command both read the message, and they agree. -/
def DispatchAgrees (command : Int) (data : Bytes) : Prop :=
  ∃ ctx header r, dispatch command data = .ok ctx ∧
    parseRequest command data = .ok (header, r) ∧ Agrees ctx r.shared

/-- Each four bytes of the ids repeat the version before them. -/
def VersionRepeated (data : Bytes) : Prop :=
  slice data 8 24 = slice data 12 28

instance (data : Bytes) : Decidable (VersionRepeated data) :=
  inferInstanceAs (Decidable (_ = _))

/-- When dispatcher and handler agree. -/
def AgreesWhen (command : Int) (data : Bytes) : Prop :=
  if command = CONNECT then False
  else if command = CHECKIN ∨ command = COMMIT ∨ command = ROLLBACK then True
  else if command = HANDSHAKE then data.length < 48
  else if command = TERMINATE then VersionRepeated data ∧ data.length < 48
  else VersionRepeated data

/-! ### Comparing -/

section Compare

variable {command : Int} {data : Bytes}

/-- A request that passes the checks has a valid command and is long enough for it. -/
theorem checkRequest_ok (ok : checkRequest command data = .ok ()) :
    command ∈ validCommands ∧ minLenForCommand command ≤ data.length := by
  unfold checkRequest at ok
  split at ok
  · cases ok
  · split at ok
    · cases ok
    · split at ok
      · cases ok
      · exact ⟨by simp_all, by omega⟩

theorem sameInt_none (parsed : Option I32) : SameInt none parsed := by
  intro i none_eq
  cases none_eq

theorem sameText_none (parsed : Option String) : SameText none parsed := by
  intro s none_eq
  cases none_eq

theorem sameInt_dispatchInt (field : Nat × Nat) :
    SameInt (dispatchInt data field) (some (i32 data field.1 field.2)) := by
  intro i read
  unfold dispatchInt at read
  split at read
  · exact read
  · cases read

theorem sameText_dispatchText {field : Nat × Nat} {t : String}
    (trimmed : bare (text data field.1 field.2) = bare t) :
    SameText (dispatchText data field) (some t) := by
  intro s read
  unfold dispatchText at read
  split at read
  · cases read
    exact ⟨t, rfl, (bare_trimEndNul _).trans trimmed⟩
  · cases read

/-- A field that the handler does not parse is not read if the message ends before it. -/
theorem hasField_of_short {field : Nat × Nat} (short : data.length < field.2) :
    hasField data field = false := by
  rw [hasField, decide_eq_false (Nat.not_le.mpr short), Bool.and_false]

theorem hasField_of_long {field : Nat × Nat} (ordered : field.1 < field.2)
    (long : field.2 ≤ data.length) : hasField data field = true := by
  rw [hasField, decide_eq_true ordered, decide_eq_true long, Bool.and_self]

/-- Ids are equal only if their bytes are. -/
theorem i64_eq_iff {c d : Nat} (left : c + 8 ≤ data.length) (right : d + 8 ≤ data.length) :
    i64 data c (c + 8) = i64 data d (d + 8) ↔
      slice data c (c + 8) = slice data d (d + 8) :=
  SInt.read_inj (by rw [length_slice] <;> omega) (by rw [length_slice] <;> omega)

/-- The ids with and without a version before them are the same if they repeat it. -/
theorem ids_eq_iff (long : 28 ≤ data.length) :
    (i64 data 12 20 = i64 data 8 16 ∧ i64 data 20 28 = i64 data 16 24) ↔
      VersionRepeated data := by
  have requestIds : i64 data 12 20 = i64 data 8 16 ↔ slice data 12 20 = slice data 8 16 :=
    i64_eq_iff (by omega) (by omega)
  have sessionIds : i64 data 20 28 = i64 data 16 24 ↔ slice data 20 28 = slice data 16 24 :=
    i64_eq_iff (by omega) (by omega)
  have plain : slice data 8 16 ++ slice data 16 24 = slice data 8 24 :=
    slice_append_slice (by decide) (by decide)
  have versioned : slice data 12 20 ++ slice data 20 28 = slice data 12 28 :=
    slice_append_slice (by decide) (by decide)
  have width : (slice data 8 16).length = (slice data 12 20).length := by
    rw [length_slice (by decide) (by omega), length_slice (by decide) (by omega)]
  rw [requestIds, sessionIds, VersionRepeated, ← plain, ← versioned]
  constructor
  · rintro ⟨requestId, sessionId⟩
    rw [requestId, sessionId]
  · intro repeated
    obtain ⟨requestId, sessionId⟩ := List.append_inj repeated width
    exact ⟨requestId.symm, sessionId.symm⟩

/-- Dispatcher and handler are compared field by field. -/
theorem dispatchAgrees_iff {ids : I64 × I64} {x : Shared}
    (ok : checkRequest command data = .ok ())
    (read : dispatchIds command data = .ok ids)
    (parsed : (parseRequest command data).map (·.2.shared) = .ok x) :
    DispatchAgrees command data ↔ Agrees (contextWith command data ids) x := by
  have dispatched : dispatch command data = .ok (contextWith command data ids) := by
    rw [dispatch, ok]
    change (dispatchIds command data >>= _) = _
    rw [read]
    rfl
  cases request : parseRequest command data with
  | error e =>
    rw [request] at parsed
    cases parsed
  | ok p =>
    rw [request] at parsed
    cases parsed
    constructor
    · rintro ⟨ctx, header, r, dispatched', parsed', agrees⟩
      cases dispatched.symm.trans dispatched'
      cases request.symm.trans parsed'
      exact agrees
    · intro agrees
      exact ⟨_, p.1, p.2, dispatched, request, agrees⟩

/-- Unless it is a `SHAKE`, the ids are read where there is no version. -/
theorem dispatchIds_of_ne (other : command ≠ HANDSHAKE) (long : 24 ≤ data.length) :
    dispatchIds command data = .ok (i64 data 8 16, i64 data 16 24) := by
  rw [dispatchIds, if_neg other, parseRequestIdSessionId_of_le long]

/-- The fields behind the ids agree. -/
structure BodyAgrees (command : Int) (data : Bytes) (station : Option I32) (etag : Option String)
    (lane : Option I32) (plate : Option String) : Prop where
  tollId : SameInt
    (if readsTollId.contains command then dispatchInt data (feBodyOffsets command).toll else none)
    station
  etagId : SameText (dispatchText data (feBodyOffsets command).etag) etag
  laneId : SameInt (dispatchInt data (feBodyOffsets command).lane) lane
  plate : SameText (dispatchText data (feBodyOffsets command).plate) plate

theorem agrees_iff_body {ids : I64 × I64} {requestId : I64} {sessionId : Option I64}
    {station lane : Option I32} {etag plate : Option String} :
    Agrees (contextWith command data ids) ⟨requestId, sessionId, station, etag, lane, plate⟩ ↔
      (requestId = ids.1 ∧ sessionId = some ids.2) ∧
        BodyAgrees command data station etag lane plate := by
  constructor
  · intro agrees
    exact ⟨⟨agrees.requestId, agrees.sessionId⟩,
      agrees.tollId, agrees.etagId, agrees.laneId, agrees.plate⟩
  · rintro ⟨⟨sameRequest, sameSession⟩, body⟩
    exact ⟨sameRequest, sameSession, body.tollId, body.etagId, body.laneId, body.plate⟩

/-- Without a version the ids are where the dispatcher reads them. -/
theorem plain_agrees {station lane : Option I32} {etag plate : Option String}
    (ok : checkRequest command data = .ok ()) (other : command ≠ HANDSHAKE)
    (long : 24 ≤ data.length)
    (parsed : (parseRequest command data).map (·.2.shared) =
      .ok ⟨i64 data 8 16, i64 data 16 24, station, etag, lane, plate⟩)
    (body : BodyAgrees command data station etag lane plate) :
    DispatchAgrees command data := by
  rw [dispatchAgrees_iff ok (dispatchIds_of_ne other long) parsed, agrees_iff_body]
  exact ⟨⟨rfl, rfl⟩, body⟩

/-- With a version the dispatcher reads the ids four bytes before the handler. -/
theorem versioned_agrees_iff {station lane : Option I32} {etag plate : Option String}
    (ok : checkRequest command data = .ok ()) (other : command ≠ HANDSHAKE)
    (long : 28 ≤ data.length)
    (parsed : (parseRequest command data).map (·.2.shared) =
      .ok ⟨i64 data 12 20, i64 data 20 28, station, etag, lane, plate⟩) :
    DispatchAgrees command data ↔
      VersionRepeated data ∧ BodyAgrees command data station etag lane plate := by
  have enough : 24 ≤ data.length := by omega
  rw [dispatchAgrees_iff ok (dispatchIds_of_ne other enough) parsed, agrees_iff_body,
    Option.some.injEq, ids_eq_iff long]

/-! ### What the handlers parse -/

theorem shared_connect (long : Len.CONNECT ≤ data.length) :
    (parseRequest CONNECT data).map (·.2.shared) =
      .ok ⟨i64 data 12 20, none, none, none, none, none⟩ := by
  rw [parseRequest_connect, parseConnect, checkLength_of_le long]
  rfl

theorem shared_checkin (long : Len.CHECKIN ≤ data.length) :
    (parseRequest CHECKIN data).map (·.2.shared) =
      .ok ⟨i64 data 8 16, i64 data 16 24, i32 data 48 52, text data 24 48, i32 data 52 56,
        text data 56 66⟩ := by
  rw [parseRequest_checkin, parseCheckin, checkLength_of_le long]
  rfl

theorem shared_commit (long : Len.COMMIT ≤ data.length) :
    (parseRequest COMMIT data).map (·.2.shared) =
      .ok ⟨i64 data 8 16, i64 data 16 24, i32 data 48 52, text data 24 48, i32 data 52 56,
        text data 68 78⟩ := by
  rw [parseRequest_commit, parseCommit, checkLength_of_le long]
  rfl

theorem shared_rollback (long : Len.ROLLBACK ≤ data.length) :
    (parseRequest ROLLBACK data).map (·.2.shared) =
      .ok ⟨i64 data 8 16, i64 data 16 24, i32 data 48 52, text data 24 48, i32 data 52 56,
        text data 68 78⟩ := by
  rw [parseRequest_rollback, parseRollback, checkLength_of_le long]
  rfl

theorem shared_shake (long : Len.HANDSHAKE ≤ data.length) :
    (parseRequest HANDSHAKE data).map (·.2.shared) =
      .ok ⟨i64 data 12 20, i64 data 20 28, none, none, none, none⟩ := by
  rw [parseRequest_shake, parseShake, checkLength_of_le long, parseShakeIds_of_le long]
  rfl

theorem shared_terminate (long : Len.TERMINATE ≤ data.length) :
    (parseRequest TERMINATE data).map (·.2.shared) =
      .ok ⟨i64 data 12 20, i64 data 20 28, none, none, none, none⟩ := by
  rw [parseRequest_terminate, parseTerminate, checkLength_of_le long,
    parseTerminateIds_of_le long]
  rfl

theorem shared_queryVehicleBoo (long : Len.QUERY_VEHICLE_BOO ≤ data.length) :
    (parseRequest QUERY_VEHICLE_BOO data).map (·.2.shared) =
      .ok ⟨i64 data 12 20, i64 data 20 28, i32 data 84 88, trimEndNul (text data 60 84),
        i32 data 88 92, none⟩ := by
  rw [parseRequest_queryVehicleBoo, parseQueryVehicleBoo, checkLength_of_le long]
  rfl

theorem shared_lookupVehicle (long : Len.LOOKUP_VEHICLE ≤ data.length) :
    (parseRequest LOOKUP_VEHICLE data).map (·.2.shared) =
      .ok ⟨i64 data 12 20, i64 data 20 28, i32 data 84 88, trimEndNul (text data 60 84),
        i32 data 88 92, none⟩ := by
  rw [parseRequest_lookupVehicle, parseLookupVehicle, checkLength_of_le long]
  rfl

theorem shared_checkoutReserveBoo (long : Len.CHECKOUT_RESERVE_BOO_MIN ≤ data.length) :
    (parseRequest CHECKOUT_RESERVE_BOO data).map (·.2.shared) =
      .ok ⟨i64 data 12 20, i64 data 20 28, i32 data 140 144, trim (trimEndNul (text data 60 84)),
        i32 data 144 148, trim (trimEndNul (text data 148 158))⟩ := by
  rw [parseRequest_checkoutReserveBoo, parseCheckoutReserveBoo, checkLength_of_le long]
  rfl

theorem shared_checkoutCommitBoo (long : Len.CHECKOUT_COMMIT_BOO ≤ data.length) :
    (parseRequest CHECKOUT_COMMIT_BOO data).map (·.2.shared) =
      .ok ⟨i64 data 12 20, i64 data 20 28, i32 data 124 128, normalizeEtag (text data 60 84),
        i32 data 128 132, normalizeEtag (text data 132 152)⟩ := by
  rw [parseRequest_checkoutCommitBoo, parseCheckoutCommitBoo, checkLength_of_le long]
  rfl

theorem shared_checkoutRollbackBoo (long : Len.CHECKOUT_ROLLBACK_BOO ≤ data.length) :
    (parseRequest CHECKOUT_ROLLBACK_BOO data).map (·.2.shared) =
      .ok ⟨i64 data 12 20, i64 data 20 28, i32 data 124 128, normalizeEtag (text data 60 84),
        i32 data 128 132, normalizeEtag (text data 132 142)⟩ := by
  rw [parseRequest_checkoutRollbackBoo, parseCheckoutRollbackBoo, checkLength_of_le long]
  rfl

/-! ### The commands -/

theorem connect_disagrees (ok : checkRequest CONNECT data = .ok ()) :
    ¬ DispatchAgrees CONNECT data := by
  have long : Len.CONNECT ≤ data.length := (checkRequest_ok ok).2
  have enough : 24 ≤ data.length := Nat.le_trans (by decide) long
  rw [dispatchAgrees_iff ok (dispatchIds_of_ne (by decide) enough) (shared_connect long)]
  -- the handler parses no session
  intro agrees
  cases agrees.sessionId

theorem checkin_agrees (ok : checkRequest CHECKIN data = .ok ()) :
    DispatchAgrees CHECKIN data := by
  have long : Len.CHECKIN ≤ data.length := (checkRequest_ok ok).2
  apply plain_agrees ok (by decide) (Nat.le_trans (by decide) long) (shared_checkin long)
  exact ⟨sameInt_dispatchInt (48, 52), sameText_dispatchText rfl, sameInt_dispatchInt (52, 56),
    sameText_dispatchText rfl⟩

theorem commit_agrees (ok : checkRequest COMMIT data = .ok ()) : DispatchAgrees COMMIT data := by
  have long : Len.COMMIT ≤ data.length := (checkRequest_ok ok).2
  apply plain_agrees ok (by decide) (Nat.le_trans (by decide) long) (shared_commit long)
  exact ⟨sameInt_dispatchInt (48, 52), sameText_dispatchText rfl, sameInt_dispatchInt (52, 56),
    sameText_dispatchText rfl⟩

theorem rollback_agrees (ok : checkRequest ROLLBACK data = .ok ()) :
    DispatchAgrees ROLLBACK data := by
  have long : Len.ROLLBACK ≤ data.length := (checkRequest_ok ok).2
  apply plain_agrees ok (by decide) (Nat.le_trans (by decide) long) (shared_rollback long)
  exact ⟨sameInt_dispatchInt (48, 52), sameText_dispatchText rfl, sameInt_dispatchInt (52, 56),
    sameText_dispatchText rfl⟩

/-- Where there are no offsets of a command, the default ones are read: of a message that is
long enough the tag, which the handler does not parse. -/
theorem default_body_iff
    (offsets : feBodyOffsets command = ⟨(48, 52), (24, 48), (52, 56), (68, 78)⟩)
    (unchecked : readsTollId.contains command = false) :
    BodyAgrees command data none none none none ↔ data.length < 48 := by
  constructor
  · intro body
    by_contra long
    have etagId := body.etagId
    have present : hasField data (24, 48) = true :=
      hasField_of_long (by decide) (Nat.not_lt.mp long)
    rw [offsets, dispatchText, if_pos present] at etagId
    obtain ⟨t, none_eq, -⟩ := etagId _ rfl
    cases none_eq
  · intro short
    have etag : hasField data (24, 48) = false := hasField_of_short short
    have lane : hasField data (52, 56) = false := hasField_of_short (by omega)
    have plate : hasField data (68, 78) = false := hasField_of_short (by omega)
    constructor
    · rw [unchecked]
      exact sameInt_none _
    · rw [offsets, dispatchText, etag]
      exact sameText_none _
    · rw [offsets, dispatchInt, lane]
      exact sameInt_none _
    · rw [offsets, dispatchText, plate]
      exact sameText_none _

theorem shake_agrees_iff (ok : checkRequest HANDSHAKE data = .ok ()) :
    DispatchAgrees HANDSHAKE data ↔ data.length < 48 := by
  have long : Len.HANDSHAKE ≤ data.length := (checkRequest_ok ok).2
  have ids := parseShakeIds_of_le long
  have read : dispatchIds HANDSHAKE data = .ok (i64 data 12 20, i64 data 20 28) := by
    rw [dispatchIds, if_pos rfl, ids]
  rw [dispatchAgrees_iff ok read (shared_shake long), agrees_iff_body, default_body_iff rfl rfl]
  exact and_iff_right ⟨rfl, rfl⟩

theorem terminate_agrees_iff (ok : checkRequest TERMINATE data = .ok ()) :
    DispatchAgrees TERMINATE data ↔ VersionRepeated data ∧ data.length < 48 := by
  have long : Len.TERMINATE ≤ data.length := (checkRequest_ok ok).2
  rw [versioned_agrees_iff ok (by decide) long (shared_terminate long), default_body_iff rfl rfl]

theorem queryVehicleBoo_agrees_iff (ok : checkRequest QUERY_VEHICLE_BOO data = .ok ()) :
    DispatchAgrees QUERY_VEHICLE_BOO data ↔ VersionRepeated data := by
  have long : Len.QUERY_VEHICLE_BOO ≤ data.length := (checkRequest_ok ok).2
  rw [versioned_agrees_iff ok (by decide) (Nat.le_trans (by decide) long)
    (shared_queryVehicleBoo long)]
  apply and_iff_left
  exact ⟨sameInt_none _, sameText_dispatchText (bare_trimEndNul _).symm,
    sameInt_dispatchInt (88, 92), sameText_none _⟩

theorem lookupVehicle_agrees_iff (ok : checkRequest LOOKUP_VEHICLE data = .ok ()) :
    DispatchAgrees LOOKUP_VEHICLE data ↔ VersionRepeated data := by
  have long : Len.LOOKUP_VEHICLE ≤ data.length := (checkRequest_ok ok).2
  rw [versioned_agrees_iff ok (by decide) (Nat.le_trans (by decide) long)
    (shared_lookupVehicle long)]
  apply and_iff_left
  exact ⟨sameInt_none _, sameText_dispatchText (bare_trimEndNul _).symm,
    sameInt_dispatchInt (88, 92), sameText_none _⟩

theorem checkoutReserveBoo_agrees_iff (ok : checkRequest CHECKOUT_RESERVE_BOO data = .ok ()) :
    DispatchAgrees CHECKOUT_RESERVE_BOO data ↔ VersionRepeated data := by
  have long : Len.CHECKOUT_RESERVE_BOO_MIN ≤ data.length := (checkRequest_ok ok).2
  rw [versioned_agrees_iff ok (by decide) (Nat.le_trans (by decide) long)
    (shared_checkoutReserveBoo long)]
  apply and_iff_left
  have trimmed (a b : Nat) :
      bare (text data a b) = bare (trim (trimEndNul (text data a b))) := by
    rw [bare_trim, bare_trimEndNul]
  exact ⟨sameInt_dispatchInt (140, 144), sameText_dispatchText (trimmed 60 84),
    sameInt_dispatchInt (144, 148), sameText_dispatchText (trimmed 148 158)⟩

theorem checkoutCommitBoo_agrees_iff (ok : checkRequest CHECKOUT_COMMIT_BOO data = .ok ()) :
    DispatchAgrees CHECKOUT_COMMIT_BOO data ↔ VersionRepeated data := by
  have long : Len.CHECKOUT_COMMIT_BOO ≤ data.length := (checkRequest_ok ok).2
  rw [versioned_agrees_iff ok (by decide) (Nat.le_trans (by decide) long)
    (shared_checkoutCommitBoo long)]
  apply and_iff_left
  exact ⟨sameInt_dispatchInt (124, 128), sameText_dispatchText (bare_normalizeEtag _).symm,
    sameInt_dispatchInt (128, 132), sameText_dispatchText (bare_normalizeEtag _).symm⟩

theorem checkoutRollbackBoo_agrees_iff (ok : checkRequest CHECKOUT_ROLLBACK_BOO data = .ok ()) :
    DispatchAgrees CHECKOUT_ROLLBACK_BOO data ↔ VersionRepeated data := by
  have long : Len.CHECKOUT_ROLLBACK_BOO ≤ data.length := (checkRequest_ok ok).2
  rw [versioned_agrees_iff ok (by decide) (Nat.le_trans (by decide) long)
    (shared_checkoutRollbackBoo long)]
  apply and_iff_left
  exact ⟨sameInt_dispatchInt (124, 128), sameText_dispatchText (bare_normalizeEtag _).symm,
    sameInt_dispatchInt (128, 132), sameText_dispatchText (bare_normalizeEtag _).symm⟩

/-- A request that passes the checks is read alike by dispatcher and handler exactly if
`AgreesWhen` says so. -/
theorem agrees_iff (ok : checkRequest command data = .ok ()) :
    DispatchAgrees command data ↔ AgreesWhen command data := by
  have valid := (checkRequest_ok ok).1
  simp only [validCommands, List.mem_cons, List.not_mem_nil, or_false] at valid
  rcases valid with rfl | rfl | rfl | rfl | rfl | rfl | rfl | rfl | rfl | rfl | rfl
  · exact iff_of_false (connect_disagrees ok) id
  · exact shake_agrees_iff ok
  · exact iff_of_true (checkin_agrees ok) trivial
  · exact iff_of_true (commit_agrees ok) trivial
  · exact iff_of_true (rollback_agrees ok) trivial
  · exact terminate_agrees_iff ok
  · exact queryVehicleBoo_agrees_iff ok
  · exact lookupVehicle_agrees_iff ok
  · exact checkoutReserveBoo_agrees_iff ok
  · exact checkoutCommitBoo_agrees_iff ok
  · exact checkoutRollbackBoo_agrees_iff ok

/-! ### The session of a request -/

/-- The session that a request carries, as its handler parses it. -/
def carriedSession (command : Int) (data : Bytes) : Option I64 :=
  match parseRequest command data with
  | .ok (_, r) => r.shared.sessionId
  | .error _ => none

/-- The commands with a version before the ids that `process_request` does not expect. -/
def versionUnexpected : List Int :=
  [TERMINATE, QUERY_VEHICLE_BOO, LOOKUP_VEHICLE, CHECKOUT_RESERVE_BOO, CHECKOUT_COMMIT_BOO,
    CHECKOUT_ROLLBACK_BOO]

theorem carriedSession_of_shared {x : Shared}
    (parsed : (parseRequest command data).map (·.2.shared) = .ok x) :
    carriedSession command data = x.sessionId := by
  unfold carriedSession
  cases request : parseRequest command data with
  | error e =>
    rw [request] at parsed
    cases parsed
  | ok p =>
    rw [request] at parsed
    cases parsed
    rfl

/-- The dispatcher reads the session that a request carries, unless it overlooks a version. -/
theorem session_read_iff {ids : I64 × I64} {session : I64}
    (ok : checkRequest command data = .ok ()) (read : dispatchIds command data = .ok ids)
    (carried : carriedSession command data = some session) :
    ids.2 = session ↔
      (versionUnexpected.contains command = true → i64 data 16 24 = i64 data 20 28) := by
  have ⟨valid, long⟩ := checkRequest_ok ok
  -- without a version the session is where it is read
  have plain (other : command ≠ HANDSHAKE) (enough : 24 ≤ data.length)
      (expected : versionUnexpected.contains command = false)
      (at_16 : carriedSession command data = some (i64 data 16 24)) : ids.2 = session ↔
        (versionUnexpected.contains command = true → i64 data 16 24 = i64 data 20 28) := by
    have ids_eq := Except.ok.inj (read.symm.trans (dispatchIds_of_ne other enough))
    have session_eq := Option.some.inj (carried.symm.trans at_16)
    rw [ids_eq, session_eq, expected]
    exact iff_of_true rfl nofun
  -- with one it is four bytes further
  have versioned (other : command ≠ HANDSHAKE) (enough : 24 ≤ data.length)
      (unexpected : versionUnexpected.contains command = true)
      (at_20 : carriedSession command data = some (i64 data 20 28)) : ids.2 = session ↔
        (versionUnexpected.contains command = true → i64 data 16 24 = i64 data 20 28) := by
    have ids_eq := Except.ok.inj (read.symm.trans (dispatchIds_of_ne other enough))
    have session_eq := Option.some.inj (carried.symm.trans at_20)
    rw [ids_eq, session_eq]
    exact ⟨fun same _ => same, fun same => same unexpected⟩
  simp only [validCommands, List.mem_cons, List.not_mem_nil, or_false] at valid
  rcases valid with rfl | rfl | rfl | rfl | rfl | rfl | rfl | rfl | rfl | rfl | rfl
  · -- a `CONNECT` carries none
    cases carried.symm.trans (carriedSession_of_shared (shared_connect long))
  · have shake : dispatchIds HANDSHAKE data = .ok (i64 data 12 20, i64 data 20 28) := by
      rw [dispatchIds, if_pos rfl, parseShakeIds_of_le long]
    have ids_eq := Except.ok.inj (read.symm.trans shake)
    have session_eq := Option.some.inj
      (carried.symm.trans (carriedSession_of_shared (shared_shake long)))
    rw [ids_eq, session_eq]
    exact iff_of_true rfl nofun
  · exact plain (by decide) (Nat.le_trans (by decide) long) rfl
      (carriedSession_of_shared (shared_checkin long))
  · exact plain (by decide) (Nat.le_trans (by decide) long) rfl
      (carriedSession_of_shared (shared_commit long))
  · exact plain (by decide) (Nat.le_trans (by decide) long) rfl
      (carriedSession_of_shared (shared_rollback long))
  · exact versioned (by decide) (Nat.le_trans (by decide) long) rfl
      (carriedSession_of_shared (shared_terminate long))
  · exact versioned (by decide) (Nat.le_trans (by decide) long) rfl
      (carriedSession_of_shared (shared_queryVehicleBoo long))
  · exact versioned (by decide) (Nat.le_trans (by decide) long) rfl
      (carriedSession_of_shared (shared_lookupVehicle long))
  · exact versioned (by decide) (Nat.le_trans (by decide) long) rfl
      (carriedSession_of_shared (shared_checkoutReserveBoo long))
  · exact versioned (by decide) (Nat.le_trans (by decide) long) rfl
      (carriedSession_of_shared (shared_checkoutCommitBoo long))
  · exact versioned (by decide) (Nat.le_trans (by decide) long) rfl
      (carriedSession_of_shared (shared_checkoutRollbackBoo long))

end Compare

/-- A `TERMINATE` of version 1 with request 7 and session 9. -/
def terminateSample : Bytes :=
  [28, 0, 0, 0, 0x70, 0, 0, 0, 1, 0, 0, 0, 7, 0, 0, 0, 0, 0, 0, 0, 9, 0, 0, 0, 0, 0, 0, 0]

theorem agrees_iff_terminateSample :
    checkRequest TERMINATE terminateSample = .ok () ∧
      (DispatchAgrees TERMINATE terminateSample ↔ AgreesWhen TERMINATE terminateSample) :=
  ⟨rfl, agrees_iff rfl⟩

/-- The dispatcher takes the high half of the request id and the low half of the session id for
the session. -/
theorem terminate_read_apart :
    checkRequest TERMINATE terminateSample = .ok () ∧
      ¬ DispatchAgrees TERMINATE terminateSample := by
  have ok : checkRequest TERMINATE terminateSample = .ok () := rfl
  refine ⟨ok, ?_⟩
  rw [terminate_agrees_iff ok]
  decide

end TollBackend.Fe

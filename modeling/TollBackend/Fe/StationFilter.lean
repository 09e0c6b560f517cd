import TollBackend.Fe.Dispatch
import TollBackend.Handlers.Commit
import TollBackend.Network.ServerConfig

/-!
# The stations that a peer may speak for

The configuration of a peer has a list of stations, ids and ranges separated by commas, and
`process_request` refuses a request of another station before it reaches its handler. The list
is that of the first record of the address, whichever record the key of the connection belongs
to, and not all requests that carry a station are checked.

## Main definitions

* `isTollIdValid`: the check of a list.
* `stations`: the stations that a list stands for.
* `processRequestAdmits`: the checks that stand before the handlers.
* `AdmitsOnlyAllowed`: what the check is for.

## Main results

* `isTollIdValid_iff`: the check accepts the stations of the list.
* `admitsOnlyAllowed_iff`: when a request of another station does not reach its handler.
* `admitsOnlyAllowed_forall_iff`: the configurations with which none does.
-/

namespace TollBackend.Fe

open Wire

/-! ### Lists of stations -/

/-- The parts of a list, trimmed. -/
def listParts (separator : Char) (s : String) : List String :=
  (splitAtChar separator s).map trim

/-- The iteration of `is_toll_id_valid` for one part of the list returns `true`. A part with a
dash is a range, or else nothing. -/
def partAllows (requestTollId : Int) (part : String) : Bool :=
  if part = "" then false
  else if part.toList.contains '-' then
    match listParts '-' part with
    | [start, stop] =>
      match parseInt 64 start, parseInt 64 stop with
      | some start, some stop => decide (start ≤ requestTollId) && decide (requestTollId ≤ stop)
      | _, _ => false
    | _ => false
  else
    match parseInt 64 part with
    | some value => decide (requestTollId = value)
    | none => false

/-- `is_toll_id_valid`. -/
def isTollIdValid (requestTollId : Int) : Option String → Bool
  | none => true
  | some tollIdStr =>
    if isBlank tollIdStr then true else (listParts ',' tollIdStr).any (partAllows requestTollId)

/-- The bounds of the range that a part stands for, an id being a range of its own. -/
def partRange (part : String) : Option (Int × Int) :=
  if part.toList.contains '-' then
    match listParts '-' part with
    | [start, stop] => (parseInt 64 start).bind fun start => (parseInt 64 stop).map (start, ·)
    | _ => none
  else (parseInt 64 part).map fun value => (value, value)

/-- The stations that a list stands for: the union of its ranges. Parts that are none stand for
nothing. -/
def stations (list : String) : Set Int :=
  {n | ∃ part ∈ listParts ',' list, ∃ range ∈ partRange part, n ∈ Set.Icc range.1 range.2}

/-- The stations of a record: all of them, where it has no list. -/
def allowedStations : Option String → Set Int
  | none => Set.univ
  | some list => if isBlank list then Set.univ else stations list

theorem parseInt_empty (bits : Nat) : parseInt bits "" = none := by
  rw [parseInt]
  rfl

/-- A part allows the stations of its range. -/
theorem partAllows_iff (n : Int) (part : String) :
    partAllows n part = true ↔ ∃ range ∈ partRange part, n ∈ Set.Icc range.1 range.2 := by
  rw [partAllows, partRange]
  by_cases empty : part = ""
  · -- an empty part is no id
    subst empty
    simp [parseInt_empty]
  · rw [if_neg empty]
    by_cases dash : part.toList.contains '-'
    · rw [if_pos dash, if_pos dash]
      split
      · next start stop _ =>
        cases parseInt 64 start <;> cases parseInt 64 stop <;> simp
      · simp
    · rw [if_neg dash, if_neg dash]
      cases parseInt 64 part with
      | none => simp
      | some value =>
        simp only [decide_eq_true_eq, Option.map_some, Option.mem_def, Option.some.injEq,
          exists_eq_left', Set.mem_Icc]
        omega

/-- The check accepts the stations of the list. -/
theorem isTollIdValid_iff (n : Int) (list : Option String) :
    isTollIdValid n list = true ↔ n ∈ allowedStations list := by
  cases list with
  | none => simp [isTollIdValid, allowedStations]
  | some list =>
    rw [isTollIdValid, allowedStations]
    by_cases blank : isBlank list
    · simp [blank]
    · rw [if_neg blank, if_neg blank, List.any_eq_true]
      simp only [partAllows_iff]
      rfl

/-! ### The check of a request -/

/-- `process_request` checks the station that it has read. -/
def checkStation (tollId : Option I32) (dbTollId : Option String) : Except String Unit :=
  match tollId, dbTollId with
  | some requestTollId, some dbTollIdStr =>
    if ¬ isBlank dbTollIdStr ∧ ¬ isTollIdValid requestTollId.val dbTollId then
      .error (s!"Error {notFoundStationLane}: toll_id {requestTollId.val} " ++
        "not found in allowed list")
    else .ok ()
  | _, _ => .ok ()

/-- `process_request` up to the call of a handler. -/
def processRequestAdmits (command : Int) (data : Bytes) (dbTollId : Option String) :
    Except String RequestContext := do
  let ctx ← dispatch command data
  checkStation ctx.tollId dbTollId
  return ctx

/-- The commands whose requests carry a station. -/
def stationCommands : List Int :=
  [CHECKIN, COMMIT, ROLLBACK, QUERY_VEHICLE_BOO, LOOKUP_VEHICLE, CHECKOUT_RESERVE_BOO,
    CHECKOUT_COMMIT_BOO, CHECKOUT_ROLLBACK_BOO]

/-- The station of a request, that of the exit for a checkout. -/
def station (command : Int) (data : Bytes) : Int :=
  (i32 data (feBodyOffsets command).toll.1 (feBodyOffsets command).toll.2).val

/-- A request reaches its handler only with a station of the record that the key of the
connection belongs to. -/
def AdmitsOnlyAllowed (records : List TcocConnectionServer) (key : String) (command : Int)
    (data : Bytes) : Prop :=
  (∃ ctx, processRequestAdmits command data (loadServerConfig records).1 = .ok ctx) →
    station command data ∈ allowedStations ((recordOfKey records key).bind (·.tollId))

/-- When that is so: the record of the key has the station, or the request is refused, for its
form or because the first record does not have the station. -/
def AllowedWhen (records : List TcocConnectionServer) (key : String) (command : Int)
    (data : Bytes) : Prop :=
  isTollIdValid (station command data) ((recordOfKey records key).bind (·.tollId)) = true ∨
    checkRequest command data ≠ .ok () ∨
    command ∈ readsTollId ∧
      isTollIdValid (station command data) (records.head?.bind (·.tollId)) = false

/-- The check accepts the stations of the list. -/
theorem checkStation_ok_iff (tollId : I32) (dbTollId : Option String) :
    checkStation (some tollId) dbTollId = .ok () ↔ tollId.val ∈ allowedStations dbTollId := by
  rw [← isTollIdValid_iff]
  cases dbTollId with
  | none => simp [checkStation, isTollIdValid]
  | some list =>
    by_cases blank : isBlank list
    · simp [checkStation, isTollIdValid, blank]
    · by_cases valid : isTollIdValid tollId.val (some list) <;> simp [checkStation, blank, valid]

/-- The station lies within the shortest request of each command that carries one. -/
theorem station_bounds : ∀ command ∈ stationCommands,
    (feBodyOffsets command).toll.1 < (feBodyOffsets command).toll.2 ∧
      (feBodyOffsets command).toll.2 ≤ minLenForCommand command ∧
      24 ≤ minLenForCommand command ∧ command ≠ HANDSHAKE := by
  decide

section Check

variable {command : Int} {data : Bytes}

/-- The station that the dispatcher checks, if it checks one. -/
theorem dispatch_station (carries : command ∈ stationCommands)
    (ok : checkRequest command data = .ok ()) :
    ∃ ctx, dispatch command data = .ok ctx ∧
      ctx.tollId = if readsTollId.contains command then
        some (i32 data (feBodyOffsets command).toll.1 (feBodyOffsets command).toll.2) else none := by
  obtain ⟨ordered, within, header, other⟩ := station_bounds command carries
  have long := (checkRequest_ok ok).2
  have present := hasField_of_long ordered (within.trans long)
  refine ⟨contextWith command data (i64 data 8 16, i64 data 16 24), ?_, ?_⟩
  · rw [dispatch, ok]
    change (dispatchIds command data >>= _) = _
    rw [dispatchIds_of_ne other (header.trans long)]
    rfl
  · rw [contextWith, dispatchInt, if_pos present]

/-- Which requests reach their handlers: those that pass the checks of command and length, and
whose station is on the list of the first record, if it is looked at. -/
theorem admits_iff (carries : command ∈ stationCommands) (dbTollId : Option String) :
    (∃ ctx, processRequestAdmits command data dbTollId = .ok ctx) ↔
      checkRequest command data = .ok () ∧
        (command ∈ readsTollId → station command data ∈ allowedStations dbTollId) := by
  cases ok : checkRequest command data with
  | error e =>
    have refused : dispatch command data = .error e := by
      rw [dispatch, ok]
      rfl
    simp [processRequestAdmits, refused, bind, Except.bind]
  | ok =>
    obtain ⟨ctx, dispatched, tollId⟩ := dispatch_station carries ok
    have admitted : (∃ ctx, processRequestAdmits command data dbTollId = .ok ctx) ↔
        checkStation ctx.tollId dbTollId = .ok () := by
      rw [processRequestAdmits, dispatched]
      change (∃ ctx', (checkStation ctx.tollId dbTollId >>= fun _ => pure ctx) = .ok ctx') ↔ _
      cases checkStation ctx.tollId dbTollId <;> simp [bind, Except.bind, pure, Except.pure]
    rw [admitted, tollId]
    by_cases reads : command ∈ readsTollId
    · rw [if_pos (List.contains_iff_mem.mpr reads), checkStation_ok_iff]
      simp [reads, station]
    · rw [if_neg (mt List.contains_iff_mem.mp reads)]
      simp [reads, checkStation]

/-- When a request of another station does not reach its handler. -/
theorem admitsOnlyAllowed_iff (records : List TcocConnectionServer) (key : String)
    (carries : command ∈ stationCommands) :
    AdmitsOnlyAllowed records key command data ↔ AllowedWhen records key command data := by
  rw [AdmitsOnlyAllowed, admits_iff carries, AllowedWhen, isTollIdValid_iff, ← Bool.not_eq_true,
    isTollIdValid_iff, loadServerConfig]
  tauto

/-- A request of a command with a station, and zeros elsewhere. -/
def stationRequest (command : Int) (n : I32) : Bytes :=
  List.replicate (feBodyOffsets command).toll.1 0 ++
    (n.bytes ++ List.replicate (minLenForCommand command) 0)

theorem station_stationRequest (carries : command ∈ stationCommands) (n : I32) :
    station command (stationRequest command n) = n.val := by
  have four : ∀ command ∈ stationCommands,
      (feBodyOffsets command).toll.2 = (feBodyOffsets command).toll.1 + 4 := by decide
  have read : slice (stationRequest command n) (feBodyOffsets command).toll.1
      (feBodyOffsets command).toll.2 = n.bytes := by
    rw [four command carries, stationRequest, slice_append_right (by simp), List.length_replicate,
      Nat.sub_self, Nat.add_sub_cancel_left, slice_append_left (by simp), slice_whole (by simp)]
  rw [station, i32, read, SInt.read_bytes]

theorem checkRequest_stationRequest (carries : command ∈ stationCommands) (n : I32) :
    checkRequest command (stationRequest command n) = .ok () := by
  have valid : ∀ command ∈ stationCommands, command ∈ validCommands := by decide
  have long : minLenForCommand command ≤ (stationRequest command n).length := by
    simp only [stationRequest, List.length_append, List.length_replicate]
    omega
  have header := (station_bounds command carries).2.2.1
  rw [checkRequest, if_neg (by simp [valid command carries]), if_neg (by omega),
    if_neg (Nat.not_lt.mpr long)]

/-- The configurations with which no request of another station reaches its handler: every
station that the first record lets through, or every station at all for a command whose station
is not looked at, is one of the record of the key. -/
theorem admitsOnlyAllowed_forall_iff (records : List TcocConnectionServer) (key : String)
    (carries : command ∈ stationCommands) :
    (∀ data, AdmitsOnlyAllowed records key command data) ↔
      ∀ n : I32, (command ∈ readsTollId → n.val ∈ allowedStations (records.head?.bind (·.tollId))) →
        n.val ∈ allowedStations ((recordOfKey records key).bind (·.tollId)) := by
  constructor
  · intro only n passes
    have admitted := only (stationRequest command n)
    rw [AdmitsOnlyAllowed, admits_iff carries, station_stationRequest carries] at admitted
    exact admitted ⟨checkRequest_stationRequest carries n, passes⟩
  · intro allowed data
    rw [AdmitsOnlyAllowed, admits_iff carries]
    rintro ⟨-, passes⟩
    exact allowed _ passes

end Check

/-! ### Two records of one address -/

/-- A record for the stations 1000 to 1009, and one for station 2000, with a key each. -/
def twoRecords : List TcocConnectionServer :=
  [⟨some "0123456789abcdef", some "1000-1009"⟩, ⟨some "fedcba9876543210", some "2000"⟩]

/-- A check-in at station 1005. -/
def checkinSample : Bytes :=
  le32 106 ++ le32 CHECKIN ++ List.replicate 40 0 ++ le32 1005 ++ List.replicate 54 0

theorem admitsOnlyAllowed_iff_twoRecords :
    CHECKIN ∈ stationCommands ∧
      (AdmitsOnlyAllowed twoRecords "0123456789abcdef" CHECKIN checkinSample ↔
        AllowedWhen twoRecords "0123456789abcdef" CHECKIN checkinSample) :=
  ⟨by decide, admitsOnlyAllowed_iff _ _ (by decide)⟩

/-- A connection with the key of the second record speaks for a station of the first. -/
theorem other_station_admitted :
    "fedcba9876543210" ∈ (loadServerConfig twoRecords).2 ∧
      ¬ AdmitsOnlyAllowed twoRecords "fedcba9876543210" CHECKIN checkinSample := by
  refine ⟨by decide +kernel, fun only => ?_⟩
  have admitted : (processRequestAdmits CHECKIN checkinSample
      (loadServerConfig twoRecords).1).toOption.isSome = true := by decide +kernel
  cases result : processRequestAdmits CHECKIN checkinSample (loadServerConfig twoRecords).1 with
  | error e =>
    rw [result] at admitted
    cases admitted
  | ok ctx =>
    have allowed := (isTollIdValid_iff _ _).mpr (only ⟨ctx, result⟩)
    revert allowed
    decide +kernel

end TollBackend.Fe

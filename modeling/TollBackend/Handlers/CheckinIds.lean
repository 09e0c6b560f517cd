import TollBackend.Fe.Requests
import TollBackend.Handlers.Checkin
import TollBackend.Handlers.Commit
import TollBackend.Lanes.Cache

/-!
# The reference id of a check-in

`from_checkin_bect` makes the reference id of a record out of the request id, which the client
chooses, and of the clock. The multiplication has no check: a release build wraps it, a debug
build panics. The reference id and the `ticketInId`, which is the same number, then stand for the
record in the cache and in the lookups of the database.

## Main definitions

* `handleCheckin`: a frame becomes a check-in or is refused.
* `CheckinArrival`: a frame with what the caches, the database and the clock say.
* `KeepsRefTransIds`: no reference id overflows, and requests with different ids have different
  ones.
* `InProductRange`: the request ids that the multiplication has room for.

## Main results

* `keepsRefTransIds_iff`: when the check-ins that arrive keep their reference ids.
* `refTransId_eq_iff`: which request ids collide at one time.
-/

namespace TollBackend

open Concurrent Wire

/-! ### From a frame to its record -/

/-- What the caches and the database tell `handle_checkin`: the id and the type of a station, its
lanes, and whether the balance of a tag is below the minimum. -/
structure CheckinLookups where
  toll : Int → Option (Int × String)
  lanes : Int → List TollLane
  balanceTooLow : String → Bool

/-- How a check-in is refused. -/
inductive CheckinRefusal
  /-- an error without an answer -/
  | error (message : String)
  /-- an answer with a status -/
  | status (code : Int)
deriving DecidableEq

/-- The request as the handler has it. -/
def feCheckin (header : Fe.Header) (x : Fe.Checkin Fe.server) : FeCheckin where
  commandId := header.commandId.val
  requestId := x.requestId.val
  etag := x.etag
  station := x.station.val
  lane := x.lane.val
  plate := x.plate
  tid := x.tid
  hashValue := x.hashValue

/-- `handle_checkin`, up to its call of `process_checkin`. -/
def handleCheckin (lookups : CheckinLookups) (data : Bytes) :
    Except CheckinRefusal CheckinCall :=
  match Fe.parseCheckin data with
  | .error message => .error (.error message)
  | .ok (header, x) =>
    match lookups.toll x.station.val with
    | none => .error (.status notFoundStationLane)
    | some (tollId, tollType) =>
      match (lookups.lanes x.station.val).find? fun l => l.laneCode == x.lane.val with
      | none => .error (.status notFoundStationLane)
      | some lane =>
        if lane.laneType = laneTypeIn then
          .ok { req := feCheckin header x, tollId, tollType, laneCode := lane.laneCode }
        else if lane.laneType = laneTypeOut then .error (.status notFoundRouteTransaction)
        else .error (.status notFoundStationLane)

/-- A frame that reaches `handle_checkin`, what it finds there, and the clock at which its record
would be made. -/
structure CheckinArrival where
  data : Bytes
  lookups : CheckinLookups
  now : Clock

namespace CheckinArrival

/-- The check-in whose record is made, when the request is not refused before. -/
def checkin (a : CheckinArrival) : Except CheckinRefusal CheckinCall :=
  match handleCheckin a.lookups a.data with
  | .error refusal => .error refusal
  | .ok call =>
    if a.lookups.balanceTooLow (normalizeEtag call.req.etag) = true then
      .error (.status accountNotEnoughMoney)
    else .ok call

/-- The request is not refused before its record is made. -/
def Admitted (a : CheckinArrival) : Prop :=
  ∃ call, a.checkin = .ok call

/-- The request id in the frame. -/
def requestId (a : CheckinArrival) : Int :=
  (i64 a.data 8 16).val

/-- The reference id of the record that is made of a request. -/
def refTransId (a : CheckinArrival) (call : CheckinCall) : Int :=
  (Etdr.fromCheckinBect call.req a.now).refTransId

end CheckinArrival

/-- The computation of a reference id stays inside `i64`. -/
structure ComputesRefTransId (requestId : Int) (now : Clock) : Prop where
  product : FitsInt 8 (requestId * 1000000)
  sum : FitsInt 8 (requestId * 1000000 + now.ms % 1000000)

/-- Of the check-ins that are not refused, none overflows, and different request ids give
different reference ids. -/
structure KeepsRefTransIds (arrivals : List CheckinArrival) : Prop where
  computes : ∀ a ∈ arrivals, ∀ call, a.checkin = .ok call →
    ComputesRefTransId call.req.requestId a.now ∧
      a.refTransId call = call.req.requestId * 1000000 + a.now.ms % 1000000
  distinct : ∀ a ∈ arrivals, ∀ b ∈ arrivals, ∀ call call', a.checkin = .ok call →
    b.checkin = .ok call' → call.req.requestId ≠ call'.req.requestId →
      a.refTransId call ≠ b.refTransId call'

/-- The multiplication by a million has room for the request id, and so has the sum for what the
clock adds. -/
def InProductRange (requestId : Int) (now : Clock) : Prop :=
  -9223372036854 ≤ requestId ∧ (requestId < 9223372036854 ∨
    requestId = 9223372036854 ∧ now.ms % 1000000 ≤ 775807)

/-! ### The arithmetic -/

theorem fitsInt_eight_iff {n : Int} :
    FitsInt 8 n ↔ -9223372036854775808 ≤ n ∧ n ≤ 9223372036854775807 := by
  unfold FitsInt
  omega

theorem computesRefTransId_iff {requestId : Int} {now : Clock} :
    ComputesRefTransId requestId now ↔ InProductRange requestId now := by
  have rest : 0 ≤ now.ms % 1000000 ∧ now.ms % 1000000 < 1000000 := by omega
  constructor
  · rintro ⟨product, sum⟩
    rw [fitsInt_eight_iff] at product sum
    unfold InProductRange
    omega
  · intro inRange
    unfold InProductRange at inRange
    constructor <;> rw [fitsInt_eight_iff] <;> omega

theorem toI64_of_fits {n : Int} (fits : FitsInt 8 n) : toI64 n = n := by
  rw [fitsInt_eight_iff] at fits
  rw [toI64, Int.bmod_eq_of_le_mul_two] <;> omega

theorem fromCheckinBect_refTransId (req : FeCheckin) (now : Clock) :
    (Etdr.fromCheckinBect req now).refTransId =
      toI64 (req.requestId * 1000000 + now.ms % 1000000) := by
  simp only [Etdr.fromCheckinBect, toI64, Int.bmod_add_bmod]

/-- Without an overflow the reference id is what the formula says. -/
theorem ComputesRefTransId.refTransId_eq {req : FeCheckin} {now : Clock}
    (computes : ComputesRefTransId req.requestId now) :
    (Etdr.fromCheckinBect req now).refTransId =
      req.requestId * 1000000 + now.ms % 1000000 := by
  rw [fromCheckinBect_refTransId, toI64_of_fits computes.sum]

/-- The clock stays below a million, so that the request id can be read off. -/
theorem ComputesRefTransId.refTransId_ne {req req' : FeCheckin} {now now' : Clock}
    (computes : ComputesRefTransId req.requestId now)
    (computes' : ComputesRefTransId req'.requestId now') (ne : req.requestId ≠ req'.requestId) :
    (Etdr.fromCheckinBect req now).refTransId ≠ (Etdr.fromCheckinBect req' now').refTransId := by
  rw [computes.refTransId_eq, computes'.refTransId_eq]
  omega

/-- A million has six factors of two, and the others are odd. -/
theorem dvd_mul_million_iff (d : Int) : ((2 ^ 64 : Nat) : Int) ∣ d * 1000000 ↔ 2 ^ 58 ∣ d := by
  have odd : IsCoprime (2 ^ 58 : Int) 15625 := by
    apply IsCoprime.pow_left
    exact Int.isCoprime_iff_gcd_eq_one.mpr (by decide)
  have factors : d * 1000000 = 2 ^ 6 * (15625 * d) := by ring
  have modulus : ((2 ^ 64 : Nat) : Int) = 2 ^ 6 * 2 ^ 58 := by norm_num
  rw [factors, modulus, mul_dvd_mul_iff_left (by norm_num)]
  exact ⟨odd.dvd_of_dvd_mul_left, fun divides => divides.mul_left _⟩

/-- At one time the request ids collide that differ by a multiple of `2 ^ 58`. -/
theorem refTransId_eq_iff (req req' : FeCheckin) (now : Clock) :
    (Etdr.fromCheckinBect req now).refTransId = (Etdr.fromCheckinBect req' now).refTransId ↔
      2 ^ 58 ∣ req.requestId - req'.requestId := by
  rw [fromCheckinBect_refTransId, fromCheckinBect_refTransId, toI64, toI64,
    Int.bmod_add_cancel_right, Int.bmod_eq_bmod_iff_bmod_sub_eq_zero, ← Int.dvd_iff_bmod_eq_zero,
    ← dvd_mul_million_iff, sub_mul]

/-! ### The check-ins that arrive -/

theorem parseCheckin_requestId {data : Bytes} {header : Fe.Header} {x : Fe.Checkin Fe.server}
    (parsed : Fe.parseCheckin data = .ok (header, x)) : x.requestId = i64 data 8 16 := by
  unfold Fe.parseCheckin at parsed
  cases length : Fe.checkLength "CHECKIN" data Fe.Len.CHECKIN "minimum" with
  | error message =>
    rw [length] at parsed
    cases parsed
  | ok =>
    rw [length] at parsed
    obtain ⟨_, rfl⟩ := Prod.mk.inj (Except.ok.inj parsed)
    rfl

/-- The way of a frame through `handle_checkin`. -/
theorem handleCheckin_eq_ok {lookups : CheckinLookups} {data : Bytes} {call : CheckinCall}
    (handled : handleCheckin lookups data = .ok call) :
    ∃ header x lane, Fe.parseCheckin data = .ok (header, x) ∧
      lookups.toll x.station.val = some (call.tollId, call.tollType) ∧
      lane ∈ lookups.lanes x.station.val ∧ lane.laneCode = x.lane.val ∧
      lane.laneType = laneTypeIn ∧ call.req = feCheckin header x := by
  unfold handleCheckin at handled
  split at handled
  · cases handled
  · rename_i header x parsed
    split at handled
    · cases handled
    · rename_i tollId tollType toll
      split at handled
      · cases handled
      · rename_i lane found
        split at handled
        · rename_i entry
          cases handled
          have code := List.find?_some found
          exact ⟨header, x, lane, parsed, toll, List.mem_of_find?_eq_some found,
            beq_iff_eq.mp code, entry, rfl⟩
        · split at handled <;> cases handled

namespace CheckinArrival

variable {a : CheckinArrival} {call : CheckinCall}

theorem handleCheckin_of_checkin (admitted : a.checkin = .ok call) :
    handleCheckin a.lookups a.data = .ok call := by
  unfold checkin at admitted
  split at admitted
  · cases admitted
  · rename_i call' handled
    split at admitted
    · cases admitted
    · cases admitted
      exact handled

/-- An admitted check-in carries the request id of its frame. -/
theorem checkin_requestId (admitted : a.checkin = .ok call) :
    call.req.requestId = a.requestId := by
  obtain ⟨header, x, _, parsed, _, _, _, _, request⟩ :=
    handleCheckin_eq_ok (handleCheckin_of_checkin admitted)
  rw [request, requestId, ← parseCheckin_requestId parsed]
  rfl

end CheckinArrival

/-- The check-ins that arrive keep their reference ids exactly where each of them is refused or
has a request id that the multiplication has room for. -/
theorem keepsRefTransIds_iff (arrivals : List CheckinArrival) :
    KeepsRefTransIds arrivals ↔
      ∀ a ∈ arrivals, a.Admitted → InProductRange a.requestId a.now := by
  constructor
  · rintro keeps a mem ⟨call, admitted⟩
    have computes := (keeps.computes a mem call admitted).1
    rwa [computesRefTransId_iff, CheckinArrival.checkin_requestId admitted] at computes
  · intro inRange
    have computes : ∀ a ∈ arrivals, ∀ call, a.checkin = .ok call →
        ComputesRefTransId call.req.requestId a.now := by
      intro a mem call admitted
      rw [computesRefTransId_iff, CheckinArrival.checkin_requestId admitted]
      exact inRange a mem ⟨call, admitted⟩
    constructor
    · intro a mem call admitted
      have fits := computes a mem call admitted
      exact ⟨fits, fits.refTransId_eq⟩
    · intro a mem b mem' call call' admitted admitted' ne
      exact (computes a mem call admitted).refTransId_ne (computes b mem' call' admitted') ne

/-- Check-ins at one time whose request ids differ by a multiple of `2 ^ 58` do not. -/
theorem not_keepsRefTransIds {a b : CheckinArrival} (admitted : a.Admitted)
    (admitted' : b.Admitted) (together : a.now = b.now) (ne : a.requestId ≠ b.requestId)
    (collide : 2 ^ 58 ∣ a.requestId - b.requestId) : ¬ KeepsRefTransIds [a, b] := by
  intro keeps
  obtain ⟨call, ok⟩ := admitted
  obtain ⟨call', ok'⟩ := admitted'
  have id := CheckinArrival.checkin_requestId ok
  have id' := CheckinArrival.checkin_requestId ok'
  refine keeps.distinct a (by simp) b (by simp) call call' ok ok' (by rwa [id, id']) ?_
  rw [CheckinArrival.refTransId, CheckinArrival.refTransId, ← together, refTransId_eq_iff, id, id']
  exact collide

/-! ### The records of the check-ins -/

/-- The record has the reference id that a request gets at some time, and as its `ticketInId`,
too. -/
def HasRefTransId (req : FeCheckin) (etdr : Etdr) : Prop :=
  ∃ now, etdr.refTransId = (Etdr.fromCheckinBect req now).refTransId ∧
    etdr.ticketInId = some etdr.refTransId

/-- Whatever a check-in saves has the reference id of its request. -/
theorem processCheckin_savesRefTransId (call : CheckinCall) :
    (processCheckin call).Only fun o =>
      ∀ etdr, o = .saveEtdr (.checkin etdr) → HasRefTransId call.req etdr := by
  have own : ∀ {etdr}, CheckinRecord call etdr → HasRefTransId call.req etdr := by
    rintro _ ⟨subscriberInfo, exVehicleType, ticketId, now⟩
    refine ⟨now, ?_⟩
    cases subscriberInfo <;> exact ⟨rfl, rfl⟩
  refine (processCheckin_performs call).mono fun o op etdr saves => ?_
  cases op with
  | ask q => cases saves
  | insertRow made ticketId id subscriberInfo now => cases saves
  | answer status ticketId => cases saves
  | saved made =>
    cases saves
    obtain ⟨now, ref, ticket⟩ := own made
    exact ⟨now, ref, ticket⟩
  | unsaved made =>
    cases saves
    obtain ⟨now, ref, ticket⟩ := own made
    exact ⟨now, ref, ticket⟩

/-- Where all records have the reference ids of requests in range, an update for the reference id
of one reaches only records of the same request id. -/
theorem updateEtdr_sameRequest {cache : EtdrCache} {updater : Etdr → Etdr} {tag k : String}
    {req : FeCheckin} {now now' : Clock} {e' : Etdr} (inRange : InProductRange req.requestId now)
    (made : ∀ k e, cache.Cached k e → ∃ at_, InProductRange e.requestId at_ ∧
      e.refTransId = (Etdr.fromCheckinBect { req with requestId := e.requestId } at_).refTransId)
    (cached : (cache.updateEtdr tag (Etdr.fromCheckinBect req now).refTransId updater
      now').Cached k e') :
    cache.Cached k e' ∨
      ∃ e, cache.Cached k e ∧ e.requestId = req.requestId ∧ e' = updater e := by
  rcases EtdrCache.updateEtdr_cached cached with old | ⟨e, _, old, same, updated⟩
  · exact .inl old
  · refine .inr ⟨e, old, ?_, updated⟩
    obtain ⟨at_, range, ref⟩ := made k e old
    by_contra ne
    have computes : ComputesRefTransId
        (FeCheckin.requestId { req with requestId := e.requestId }) at_ :=
      computesRefTransId_iff.mpr range
    exact computes.refTransId_ne (computesRefTransId_iff.mpr inRange) ne (ref.symm.trans same)

/-- A frame of a check-in with nothing but a request id. -/
def bareCheckin (requestId : Nat) : CheckinArrival where
  data := List.replicate 8 0 ++ leBytes 8 requestId ++ List.replicate 90 0
  lookups :=
    { toll := fun _ => some (1, "C")
      lanes := fun _ => [{ tollLaneId := 1, tollId := 1, laneType := laneTypeIn }]
      balanceTooLow := fun _ => false }
  now := default

theorem CheckinArrival.admitted_of_toBool {a : CheckinArrival} (admits : a.checkin.toBool = true) :
    a.Admitted := by
  cases outcome : a.checkin with
  | error refusal =>
    rw [outcome] at admits
    cases admits
  | ok call => exact ⟨call, outcome⟩

/-- The check-ins `1` and `2 ^ 58 + 1` get the same reference id. -/
theorem collidingCheckins :
    ¬ KeepsRefTransIds [bareCheckin 1, bareCheckin 288230376151711745] := by
  have one : (bareCheckin 1).requestId = 1 := by decide +kernel
  have far : (bareCheckin 288230376151711745).requestId = 288230376151711745 := by
    decide +kernel
  have admitted : (bareCheckin 1).Admitted :=
    CheckinArrival.admitted_of_toBool (by decide +kernel)
  have admitted' : (bareCheckin 288230376151711745).Admitted :=
    CheckinArrival.admitted_of_toBool (by decide +kernel)
  apply not_keepsRefTransIds admitted admitted'
  · rfl
  · rw [one, far]
    decide
  · rw [one, far]
    decide

end TollBackend

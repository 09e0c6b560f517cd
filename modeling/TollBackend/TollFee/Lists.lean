import TollBackend.System

/-!
# The lists and the master data of the fee calculation

What `calculate_toll_fee` reads: the white, black, exception and exception-price lists of a
tag, its subscriptions, and the master data of stations, stages and prices. A station's owner
(`BOO`) limits each entry of a list.

## Main definitions

* `TollFeeListContext`, `SubscriptionHistoryDto`, `PriceDto`: the data of a calculation.
* `FeeEnv`: the master data, as the caches of the process answer during one calculation.
* `segmentInList`: whether an entry of a white or black list applies to a segment.
* `effectiveVehicleType`: the vehicle type of the exception list.
* `priceIsValidAtTime`: whether a price is in force.
-/

namespace TollBackend

/-! ### Data -/

/-- A date and time without a zone, as a number of nanoseconds. -/
structure NaiveDateTime where
  nanoseconds : Int
deriving DecidableEq, Repr

instance : LE NaiveDateTime :=
  ⟨fun a b => a.nanoseconds ≤ b.nanoseconds⟩

instance (a b : NaiveDateTime) : Decidable (a ≤ b) :=
  inferInstanceAs (Decidable (a.nanoseconds ≤ b.nanoseconds))

/-- An entry of a white or black list. Station `0` stands for the whole country. -/
structure WbEntry where
  tollId : Int := 0
  cycleId : Option Int := none
  boo : Option String := none

/-- An entry of an exception list: a value for a station, of the given type of station. -/
structure ExEntry (α : Type) where
  stationId : Int := 0
  boo : Option String := none
  value : α
  typeStation : Option String := none

/-- The lists of a tag. -/
structure TollFeeListContext where
  whiteList : List WbEntry := []
  blackList : List WbEntry := []
  exList : List (ExEntry String) := []
  exPriceList : List (ExEntry Int) := []

/-- A subscription of a tag to a stage. -/
structure SubscriptionHistoryDto where
  stageId : Int := 0
  subscriptionId : Int := 0
  priceType : Option String := none
  priceId : Option Int := none
  botId : Option Int := none
  stageBoo : Option String := none
  startDate : Option String := none
  endDate : Option String := none

/-- A row of the price table. -/
structure PriceDto where
  priceId : Int := 0
  tollA : Option Int := none
  tollB : Option Int := none
  boo : Option String := none
  priceAmount : Option Int := none
  vehicleType : Option String := none
  priceTicketType : Option String := none
  priceType : Option String := none
  turningCode : Option String := none
  effectDatetime : Option String := none
  endDatetime : Option String := none
  botId : Option Int := none
  stageId : Option Int := none

/-- Errors of the calculation. -/
inductive TollFeeError : Type
  | noPriceConfigForSegment (tollA tollB : Int)
  | noRouteNoPrice
  | sameStationNoPrice
  | priceExpiredForSegment (tollA tollB : Int)
  | booNotFoundForToll (tollId : Int)
  | routeOrPriceConfigNotFound (tollA tollB : Int)
deriving DecidableEq

/-- The owner of a station, as text and as number. -/
structure ParsedBoo where
  str : String
  int : Int
deriving DecidableEq

/-- `ParsedBoo::from_str`. -/
def ParsedBoo.fromStr (s : String) : ParsedBoo :=
  ⟨trim s, (parseInt 32 (trim s)).getD 3⟩

/-- `ParsedBoo::from_price`. -/
def ParsedBoo.fromPrice (price : PriceDto) : ParsedBoo :=
  .fromStr (price.boo.getD "3")

/-! ### Master data -/

/-- Where the clock is read when a calculation has no transaction time. The source reads it anew
for every stage of a leg; one value stands for all reads of a kind. -/
inductive ClockRead : Type
  | check
  | amount
  | subscription

/-- The master data as the caches answer during one calculation: the `BOO` column of a station,
the stages of a leg and of a segment in memory, the cycle and the stations of a stage, the price
of a pair of stations or of a stage for a vehicle type. `parseDatetime` and `parseDate` are
`chrono`'s parsers, given the text and the format. -/
structure FeeEnv where
  tollBoo : Int → Option String := fun _ => none
  segmentsForLeg : Int → Int → Option (List Int) := fun _ _ => none
  segments : Int → Int → Option (List Int) := fun _ _ => none
  cycleByStage : Int → Option Int := fun _ => none
  tollAbByStage : Int → Option (Int × Int) := fun _ => none
  price : Int → Int → String → Option PriceDto := fun _ _ _ => none
  priceByStageId : Int → String → Option PriceDto := fun _ _ => none
  now : ClockRead → NaiveDateTime := fun _ => ⟨0⟩
  parseDatetime : String → String → Option NaiveDateTime := fun _ _ => none
  parseDate : String → String → Option NaiveDateTime := fun _ _ => none

namespace FeeEnv

variable (env : FeeEnv)

/-- `get_stage_id_for_segment`: the first stage of the segment. -/
def stageIdForSegment (tollA tollB : Int) : Option Int :=
  (env.segments tollA tollB).bind List.head?

/-- `get_segment_cycle_id`. -/
def segmentCycleId (tollA tollB : Int) : Option Int :=
  (env.stageIdForSegment tollA tollB).bind env.cycleByStage

/-- `get_boo_from_toll_by_sout`. -/
def booFromTollBySout (tollId : Int) : Except TollFeeError ParsedBoo :=
  if -2 ^ 31 ≤ tollId ∧ tollId < 2 ^ 31 then
    match env.tollBoo tollId with
    | none => .error (.booNotFoundForToll tollId)
    | some boo =>
        if trim boo = "" then .error (.booNotFoundForToll tollId)
        else .ok (.fromStr (trim boo))
  else .error (.booNotFoundForToll tollId)

/-- The time that validity is checked against: the time of the transaction, or else the
clock. -/
def checkTime (transDatetime : Option NaiveDateTime) (read : ClockRead) : NaiveDateTime :=
  transDatetime.getD (env.now read)

end FeeEnv

/-! ### Entries of lists -/

/-- `boo_matches`: an entry without a `BOO` applies to all of them. -/
def booMatches (entryBoo : Option String) (priceBoo : String) : Bool :=
  match entryBoo with
  | none => true
  | some s => isBlank s || (trim s).toLower == (trim priceBoo).toLower

/-- An entry applies to the segment: nationwide, or by its station or its cycle. -/
def WbEntry.appliesTo (entry : WbEntry) (tollB : Int) (segmentCycleId : Option Int) : Bool :=
  let noCycleFilter := entry.cycleId.elim true (· == 0)
  let isNationwide := entry.tollId == 0 && noCycleFilter
  let hasFilter := decide (entry.tollId > 0) || entry.cycleId.elim false (decide <| · > 0)
  let segmentOk := entry.tollId == tollB ||
    (entry.cycleId.elim false (decide <| · > 0) && segmentCycleId == entry.cycleId)
  isNationwide || (hasFilter && segmentOk)

/-- Some entry of the list whose `BOO` matches applies to the segment. -/
def segmentInList (tollB : Int) (segmentCycleId : Option Int) (list : List WbEntry)
    (priceBoo : String) : Bool :=
  list.any fun entry =>
    booMatches entry.boo (trim priceBoo) && entry.appliesTo tollB segmentCycleId

/-- `segment_is_whitelisted`. -/
def segmentIsWhitelisted (tollB : Int) (segmentCycleId : Option Int) (whiteList : List WbEntry)
    (priceBoo : String) : Bool :=
  segmentInList tollB segmentCycleId whiteList priceBoo

/-- `segment_in_black_list`: by the same rules as the white list. -/
def segmentInBlackList (tollB : Int) (segmentCycleId : Option Int) (blackList : List WbEntry)
    (priceBoo : String) : Bool :=
  segmentInList tollB segmentCycleId blackList priceBoo

/-- `type_station_closed`: the first byte of the type is `0` or `2`. A type without a first
character of one byte is accepted. -/
def typeStationClosed (typeStation : Option String) : Bool :=
  match typeStation.bind fun s => (trim s).toList.head? with
  | none => true
  | some c => if c.toNat < 128 then c == '0' || c == '2' else true

/-- The loop of `effective_vehicle_type` and `effective_ticket_type`: the first entry for one of
the stations, or else the first nationwide one. -/
def effectiveValue {α : Type} (tollA tollB : Int) (priceBoo : String) :
    List (ExEntry α) → Option α → Option α
  | [], nationwide => nationwide
  | entry :: rest, nationwide =>
      if !booMatches entry.boo (trim priceBoo) || !typeStationClosed entry.typeStation then
        effectiveValue tollA tollB priceBoo rest nationwide
      else if entry.stationId = tollA ∨ entry.stationId = tollB then some entry.value
      else if entry.stationId = 0 then
        effectiveValue tollA tollB priceBoo rest (nationwide.or (some entry.value))
      else effectiveValue tollA tollB priceBoo rest nationwide

/-- `effective_vehicle_type`. -/
def effectiveVehicleType (tollA tollB : Int) (exList : List (ExEntry String))
    (priceBoo default : String) : String :=
  (effectiveValue tollA tollB priceBoo exList none).getD default

/-- `effective_ticket_type`. -/
def effectiveTicketType (tollA tollB : Int) (exPriceList : List (ExEntry Int))
    (priceBoo default : String) : String :=
  ((effectiveValue tollA tollB priceBoo exPriceList none).map toString).getD default

/-- A pair of stations regardless of its direction. -/
def segmentKey (tollA tollB : Int) : Int × Int :=
  if tollA ≤ tollB then (tollA, tollB) else (tollB, tollA)

/-- `segment_covered_by_subscription`. -/
def segmentCoveredBySubscription (tollA tollB : Int) (subscriptionSet : List (Int × Int)) :
    Bool :=
  subscriptionSet.contains (segmentKey tollA tollB)

/-! ### Validity in time -/

/-- The format of datetime columns. -/
def dbDatetimeFormat : String :=
  "%Y-%m-%d %H:%M:%S"

/-- `str::trim_end`. -/
def trimEnd (s : String) : String :=
  String.ofList (s.toList.rdropWhile isWhiteSpace)

/-- The text up to its first dot, without the white space before it. -/
def withoutFraction (s : String) : String :=
  if '.' ∈ s.toList then trimEnd (String.ofList (s.toList.takeWhile (· != '.'))) else s

/-- `parse_price_datetime`: the first format that fits, a date alone meaning its first
second. -/
def FeeEnv.parsePriceDatetime (env : FeeEnv) (s : String) : Option NaiveDateTime :=
  if trim s = "" then none
  else
    let text := withoutFraction (trim s)
    (env.parseDatetime text "%Y-%m-%d %H:%M:%S").or <|
    (env.parseDatetime text "%Y-%m-%dT%H:%M:%S").or <|
    (env.parseDatetime text "%Y-%m-%d %H:%M").or <|
    (env.parseDatetime text "%Y-%m-%d").or <|
    env.parseDate text "%Y-%m-%d"

/-- `price_is_valid_at_time`: both ends that are given can be read and enclose the time. -/
def FeeEnv.priceIsValidAtTime (env : FeeEnv) (effectDatetime endDatetime : Option String)
    (checkTime : NaiveDateTime) : Bool :=
  (match effectDatetime with
    | some s => (env.parsePriceDatetime s).elim false fun effect => decide (effect ≤ checkTime)
    | none => true) &&
  (match endDatetime with
    | some s => (env.parsePriceDatetime s).elim false fun till => decide (checkTime ≤ till)
    | none => true)

/-- The price is in force at the time. -/
def FeeEnv.validAt (env : FeeEnv) (price : PriceDto) (checkTime : NaiveDateTime) : Bool :=
  env.priceIsValidAtTime price.effectDatetime price.endDatetime checkTime

/-- `subscription_is_valid_at_time`: an end that cannot be read is no end. -/
def FeeEnv.subscriptionIsValidAtTime (env : FeeEnv) (subscription : SubscriptionHistoryDto)
    (checkTime : NaiveDateTime) : Bool :=
  match subscription.startDate.bind fun s => env.parseDatetime (trim s) dbDatetimeFormat with
  | none => false
  | some start =>
      decide (start ≤ checkTime) &&
        (subscription.endDate.bind fun s => env.parseDatetime (trim s) dbDatetimeFormat).elim true
          fun till => decide (checkTime ≤ till)

/-! ### Ticket types of prices -/

/-- `price_ticket_type_for_wb`. -/
def priceTicketTypeForWb (cycleId : Option Int) : Int :=
  match cycleId with
  | none | some 0 => 98
  | some _ => 97

/-- `price_ticket_type_for_bl`. -/
def priceTicketTypeForBl (cycleId : Option Int) : Int :=
  match cycleId with
  | none | some 0 => 95
  | some _ => 94

end TollBackend

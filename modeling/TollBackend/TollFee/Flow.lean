import TollBackend.TollFee.Lists

/-!
# The fee calculation

`calculate_toll_fee`: a trip that enters and leaves at the same station is priced by the pair
of stations, any other by each stage of its segment. Every line of the fee is a whitelist
line, a subscription line, or a regular line with the amount of a price. Each line is kept
here with the way it came about, so that one can say which price it was made from.

## Main definitions

* `FeeContext`: what a calculation is given.
* `FeeLine`: a line with the way it came about.
* `calculateFeeForOneStageId`, `buildSameStationDetailForDirectPrice`: one line.
* `calculateTollFee`: the fee.

## Main results

* `calculateFeeForSegmentByStageId_ok`: a segment is priced exactly when each of its stages is.
-/

namespace TollBackend

/-! ### The context of a calculation -/

/-- The arguments of `calculate_toll_fee`. -/
structure FeeInput where
  stationIn : Int := 0
  stationOut : Int := 0
  vehicleType : Int := 1
  ticketType : String := "L"
  subscriberId : Option Int := none
  listCtx : Option TollFeeListContext := none
  subscriptionStages : Option (List (Int × Int)) := none
  subscriptionStageIds : Option (List Int) := none
  subscriptionHistory : Option (List SubscriptionHistoryDto) := none
  transDatetime : Option NaiveDateTime := none

/-- `FeeCalculationContext`. -/
structure FeeContext where
  vehicleType : String
  ticketType : String
  subscriptionId : String
  listCtx : Option TollFeeListContext
  subscriptionSet : List (Int × Int)
  subscriptionHistory : Option (List SubscriptionHistoryDto)
  subscriptionStageIds : Option (List Int)
  transDatetime : Option NaiveDateTime

/-- `FeeCalculationContext::new`. -/
def FeeInput.context (input : FeeInput) : FeeContext where
  vehicleType := toString input.vehicleType
  ticketType := input.ticketType
  subscriptionId := (input.subscriberId.map toString).getD ""
  listCtx := input.listCtx
  subscriptionSet := ((input.subscriptionStages.getD []).map fun ab => segmentKey ab.1 ab.2)
  subscriptionHistory := input.subscriptionHistory
  subscriptionStageIds := input.subscriptionStageIds
  transDatetime := input.transDatetime

namespace FeeContext

variable (ctx : FeeContext)

/-- The white list, empty without a list context. -/
def whiteList : List WbEntry :=
  (ctx.listCtx.map TollFeeListContext.whiteList).getD []

/-- The black list, empty without a list context. -/
def blackList : List WbEntry :=
  (ctx.listCtx.map TollFeeListContext.blackList).getD []

/-- The exception list, empty without a list context. -/
def exList : List (ExEntry String) :=
  (ctx.listCtx.map TollFeeListContext.exList).getD []

/-- The exception-price list, empty without a list context. -/
def exPriceList : List (ExEntry Int) :=
  (ctx.listCtx.map TollFeeListContext.exPriceList).getD []

end FeeContext

/-! ### Lines -/

/-- `RatingDetailBuilder`. -/
structure RatingDetailBuilder where
  subscriptionId : String
  vehicleType : Int
  ticketType : String

/-- `RatingDetailBuilder::build`. -/
def RatingDetailBuilder.build (builder : RatingDetailBuilder) (tollA tollB boo priceAmount
    priceTicketType : Int) (priceId botId stageId : Option Int)
    (ticketTypeOverride : Option String) : RatingDetail where
  boo := boo
  tollAId := toI32 tollA
  tollBId := toI32 tollB
  ticketType := ticketTypeOverride.getD builder.ticketType
  subscriptionId := builder.subscriptionId
  priceTicketType := priceTicketType
  priceAmount := priceAmount
  vehicleType := builder.vehicleType
  priceId := priceId
  botId := botId
  stageId := stageId

/-- A price with the vehicle type it was looked up for. -/
structure FoundPrice where
  price : PriceDto
  vehicleType : String

/-- How a line of the fee came about. -/
inductive LineKind : Type
  | whitelist
  | subscription
  | regular (found : FoundPrice)

/-- A line of the fee with the way it came about. -/
structure FeeLine where
  kind : LineKind
  detail : RatingDetail

/-- The outcome of a calculation: the total and the lines. -/
abbrev FeeResult : Type :=
  Except TollFeeError (Int × List FeeLine)

section Lines

variable (env : FeeEnv) (ctx : FeeContext) (builder : RatingDetailBuilder)

/-- `get_subscription_entry_for_stage`. -/
def subscriptionEntryForStage (stageId : Int) (booStr : String) :
    Option SubscriptionHistoryDto :=
  ctx.subscriptionHistory.bind fun history =>
    history.find? fun sub => sub.stageId == stageId && booMatches sub.stageBoo booStr &&
      env.subscriptionIsValidAtTime sub (env.checkTime ctx.transDatetime .subscription)

/-- `is_subscribed_by_stage_id`. -/
def isSubscribedByStageId (stageId : Option Int) (booStr : String) : Bool :=
  -- with a history the dates decide, without one the plain ids
  match ctx.subscriptionHistory, stageId with
  | some _, some sid => (subscriptionEntryForStage env ctx sid booStr).isSome
  | _, _ =>
      (stageId.bind fun sid => ctx.subscriptionStageIds.map fun ids => decide (sid ∈ ids)).getD
        false

/-- `get_subscription_price_type`. -/
def subscriptionPriceType (stageId : Option Int) (booStr : String) : String :=
  ((stageId.bind fun sid => subscriptionEntryForStage env ctx sid booStr).bind
    SubscriptionHistoryDto.priceType).getD "T"

/-- `create_subscription_rating_detail`. -/
def createSubscriptionRatingDetail (tollA tollB : Int) (boo : ParsedBoo)
    (priceId botId stageId : Option Int) : FeeLine where
  kind := .subscription
  detail := builder.build tollA tollB boo.int 0
    (priceTicketTypeFromDbString (effectiveTicketType tollA tollB ctx.exPriceList boo.str "0"))
    priceId botId stageId (some (subscriptionPriceType env ctx stageId boo.str))

/-- `create_whitelist_rating_detail`. -/
def createWhitelistRatingDetail (tollA tollB : Int) (boo : ParsedBoo)
    (priceId botId stageId cycleId : Option Int) : FeeLine where
  kind := .whitelist
  detail := builder.build tollA tollB boo.int 0 (priceTicketTypeForWb cycleId) priceId botId
    stageId none

/-- `create_regular_rating_detail`, for a price. -/
def createRegularRatingDetail (found : FoundPrice) (tollA tollB : Int) (boo : ParsedBoo)
    (priceAmount priceTicketType : Int) : FeeLine where
  kind := .regular found
  detail := builder.build tollA tollB boo.int priceAmount priceTicketType
    (some found.price.priceId) found.price.botId found.price.stageId none

/-- `calculate_amount_from_price`: a price that is not in force gives `0`. -/
def calculateAmountFromPrice (price : PriceDto) : Int :=
  if env.validAt price (env.checkTime ctx.transDatetime .amount) then
    toI32 (price.priceAmount.getD 0)
  else 0

/-- `price_ticket_type::from_db_string` of the column of a price. -/
def PriceDto.ticketTypeValue (price : PriceDto) : Int :=
  (price.priceTicketType.map priceTicketTypeFromDbString).getD 1

/-! ### One station -/

/-- A look-up of the price of a pair of stations. -/
def getPrice (tollA tollB : Int) (vehicleType : String) : Option FoundPrice :=
  (env.price tollA tollB vehicleType).map fun price => ⟨price, vehicleType⟩

/-- `get_segment_price_with_ex`. -/
def getSegmentPriceWithEx (tollA tollB : Int) (vehicleType : String)
    (exList : List (ExEntry String)) (booStr : String) : Option FoundPrice :=
  getPrice env tollA tollB (effectiveVehicleType tollA tollB exList booStr vehicleType)

/-- `resolve_direct_price_opt`. -/
def resolveDirectPriceOpt (sin sout : Int) : Option FoundPrice :=
  match ctx.listCtx with
  | some lists =>
      let cycleId := env.segmentCycleId sin sout
      let priceOpt := getPrice env sin sout ctx.vehicleType
      let boo := match env.booFromTollBySout sout with
        | .ok parsed => parsed.str
        | .error _ => "3"
      -- the black list takes a vehicle out of the exception list
      if segmentInBlackList sout cycleId lists.blackList boo then priceOpt
      else
        let effVehicle := effectiveVehicleType sin sout lists.exList boo ctx.vehicleType
        -- another vehicle type, and so another price
        if effVehicle = ctx.vehicleType then priceOpt
        else getSegmentPriceWithEx env sin sout ctx.vehicleType lists.exList boo
  | none => getPrice env sin sout ctx.vehicleType

/-- `build_same_station_detail_for_direct_price`: the black list comes first. -/
def buildSameStationDetailForDirectPrice (t : Int) (direct : FoundPrice) (boo : ParsedBoo) :
    FeeLine × Int :=
  let (detailTollA, detailTollB) :=
    (direct.price.stageId.bind env.tollAbByStage).getD (t, t)
  let directBoo := ParsedBoo.fromPrice direct.price
  let cycleId := env.segmentCycleId t t
  if segmentInBlackList t cycleId ctx.blackList boo.str then
    let amount := calculateAmountFromPrice env ctx direct.price
    (createRegularRatingDetail builder direct detailTollA detailTollB directBoo amount
      (priceTicketTypeForBl cycleId), amount)
  else if segmentIsWhitelisted t cycleId ctx.whiteList boo.str then
    (createWhitelistRatingDetail builder detailTollA detailTollB boo (some direct.price.priceId)
      direct.price.botId direct.price.stageId cycleId, 0)
  else if segmentCoveredBySubscription t t ctx.subscriptionSet then
    (createSubscriptionRatingDetail env ctx builder detailTollA detailTollB directBoo
      (some direct.price.priceId) direct.price.botId direct.price.stageId, 0)
  else
    let amount := calculateAmountFromPrice env ctx direct.price
    (createRegularRatingDetail builder direct detailTollA detailTollB directBoo amount
      direct.price.ticketTypeValue, amount)

/-- The stations of the line of a segment that has no price: those of its first stage. -/
def stationsWithoutPrice (t : Int) : Int × Int :=
  ((env.stageIdForSegment t t).bind env.tollAbByStage).getD (t, t)

/-- `handle_same_station_with_route`. -/
def handleSameStationWithRoute (t : Int) (directPriceOpt : Option FoundPrice) : FeeResult :=
  match directPriceOpt with
  | some direct =>
      let boo := match env.booFromTollBySout t with
        | .ok parsed => parsed
        | .error _ => ParsedBoo.fromPrice direct.price
      let (line, total) := buildSameStationDetailForDirectPrice env ctx builder t direct boo
      .ok (total, [line])
  | none => do
      let boo ← env.booFromTollBySout t
      let cycleId := env.segmentCycleId t t
      let stageId := env.stageIdForSegment t t
      let (detailTollA, detailTollB) := stationsWithoutPrice env t
      -- a vehicle of the black list has to pay, and there is no price
      if segmentInBlackList t cycleId ctx.blackList boo.str then .error .sameStationNoPrice
      else if segmentIsWhitelisted t cycleId ctx.whiteList boo.str then
        .ok (0, [createWhitelistRatingDetail builder detailTollA detailTollB boo none none
          stageId cycleId])
      else if segmentCoveredBySubscription t t ctx.subscriptionSet then
        .ok (0, [createSubscriptionRatingDetail env ctx builder detailTollA detailTollB boo none
          none stageId])
      else .error .sameStationNoPrice

/-! ### The stages of a segment -/

/-- A look-up of the price of a stage. -/
def getPriceByStageId (stageId : Int) (vehicleType : String) : Option FoundPrice :=
  (env.priceByStageId stageId vehicleType).map fun price => ⟨price, vehicleType⟩

/-- `calculate_fee_for_one_stage_id` from the price that was found: the lists are tried again
with the `BOO` of the price. -/
def feeFromStagePrice (tollA tollB : Int) (detailTolls : Int × Int) (boo : ParsedBoo)
    (cycleId : Option Int) (found : FoundPrice) : Except TollFeeError (Int × FeeLine) :=
  let price := found.price
  if env.validAt price (env.checkTime ctx.transDatetime .check) = false then
    .error (.priceExpiredForSegment tollA tollB)
  else
    let priceBoo := ParsedBoo.fromPrice price
    if segmentIsWhitelisted tollB cycleId ctx.whiteList priceBoo.str then
      .ok (0, createWhitelistRatingDetail builder detailTolls.1 detailTolls.2 boo
        (some price.priceId) price.botId price.stageId cycleId)
    else if isSubscribedByStageId env ctx price.stageId priceBoo.str then
      let subEntry := price.stageId.bind fun sid =>
        subscriptionEntryForStage env ctx sid priceBoo.str
      -- the ids are those of the entry, if it names a price
      let (priceId, botId, stageId) :=
        (subEntry.bind fun e => e.priceId.map fun pid => (some pid, e.botId, some e.stageId)).getD
          (some price.priceId, price.botId, price.stageId)
      .ok (0, createSubscriptionRatingDetail env ctx builder detailTolls.1 detailTolls.2 priceBoo
        priceId botId stageId)
    else
      let priceAmount := calculateAmountFromPrice env ctx price
      -- the black list changes only the ticket type of the line here, not the amount
      let finalPriceTicketType :=
        if segmentInBlackList tollB cycleId ctx.blackList priceBoo.str then
          priceTicketTypeForBl cycleId
        else price.ticketTypeValue
      .ok (priceAmount, createRegularRatingDetail builder found detailTolls.1 detailTolls.2
        priceBoo priceAmount finalPriceTicketType)

/-- The vehicle type that a stage is priced for: the exception list counts where the black list
does not apply. -/
def stageVehicleType (tollA tollB : Int) (boo : ParsedBoo) (cycleId : Option Int) : String :=
  if segmentInBlackList tollB cycleId ctx.blackList boo.str then ctx.vehicleType
  else effectiveVehicleType tollA tollB ctx.exList boo.str ctx.vehicleType

/-- `calculate_fee_for_one_stage_id`: here the white list is tried first. -/
def calculateFeeForOneStageId (tollA tollB : Int) (boo : ParsedBoo) (cycleId : Option Int)
    (sid : Int) : Except TollFeeError (Int × FeeLine) :=
  let (detailTollA, detailTollB) := (env.tollAbByStage sid).getD (tollA, tollB)
  if segmentIsWhitelisted tollB cycleId ctx.whiteList boo.str then
    .ok (0, createWhitelistRatingDetail builder detailTollA detailTollB boo none none (some sid)
      cycleId)
  else if segmentCoveredBySubscription tollA tollB ctx.subscriptionSet then
    -- the pair of stations decides; the entry only fills the ids in
    let subEntry := subscriptionEntryForStage env ctx sid boo.str
    let (priceId, botId, stageId) :=
      (subEntry.map fun e =>
        if e.priceId.isSome then (e.priceId, e.botId, some e.stageId)
        else (none, none, some sid)).getD (none, none, some sid)
    .ok (0, createSubscriptionRatingDetail env ctx builder detailTollA detailTollB boo priceId
      botId stageId)
  else
    match getPriceByStageId env sid (stageVehicleType ctx tollA tollB boo cycleId) with
    | some found =>
        feeFromStagePrice env ctx builder tollA tollB (detailTollA, detailTollB) boo cycleId found
    | none => .error (.noPriceConfigForSegment tollA tollB)

/-- The loop over the stages: the total so far and the lines so far. -/
def addStages (one : Int → Except TollFeeError (Int × FeeLine)) :
    List Int → Int → List FeeLine → FeeResult
  | [], total, lines => .ok (total, lines)
  -- the first stage without a price ends the loop; the total is an i32
  | sid :: rest, total, lines => do
      let (amount, line) ← one sid
      addStages one rest (toI32 (total + amount)) (lines ++ [line])

/-- `calculate_fee_for_segment_by_stage_id`. -/
def calculateFeeForSegmentByStageId (tollA tollB : Int) (stageIds : List Int) : FeeResult :=
  if stageIds = [] then .error (.noPriceConfigForSegment tollA tollB)
  else do
    let boo ← env.booFromTollBySout tollB
    let cycleId := env.segmentCycleId tollA tollB
    addStages (calculateFeeForOneStageId env ctx builder tollA tollB boo cycleId) stageIds 0 []

end Lines

/-! ### What a calculation can return -/

/-- A line of the given kind with the given amount. -/
structure FeeLine.Is (line : FeeLine) (kind : LineKind) (amount : Int) : Prop where
  kind_eq : line.kind = kind
  amount_eq : line.detail.priceAmount = amount

section Cases

variable (env : FeeEnv) (ctx : FeeContext) (builder : RatingDetailBuilder)
variable (tollA tollB : Int) (boo : ParsedBoo) (cycleId : Option Int)

/-- The line of a trip at one station that has a price. -/
theorem buildSameStationDetailForDirectPrice_cases (t : Int) (direct : FoundPrice) :
    (segmentInBlackList t (env.segmentCycleId t t) ctx.blackList boo.str = true ∧
      ∃ line, line.Is (.regular direct) (calculateAmountFromPrice env ctx direct.price) ∧
        buildSameStationDetailForDirectPrice env ctx builder t direct boo =
          (line, calculateAmountFromPrice env ctx direct.price)) ∨
    (segmentInBlackList t (env.segmentCycleId t t) ctx.blackList boo.str = false ∧
      ((segmentIsWhitelisted t (env.segmentCycleId t t) ctx.whiteList boo.str = true ∧
        ∃ line, line.Is .whitelist 0 ∧
          buildSameStationDetailForDirectPrice env ctx builder t direct boo = (line, 0)) ∨
      (segmentIsWhitelisted t (env.segmentCycleId t t) ctx.whiteList boo.str = false ∧
        ((segmentCoveredBySubscription t t ctx.subscriptionSet = true ∧
          ∃ line, line.Is .subscription 0 ∧
            buildSameStationDetailForDirectPrice env ctx builder t direct boo = (line, 0)) ∨
        (segmentCoveredBySubscription t t ctx.subscriptionSet = false ∧
          ∃ line, line.Is (.regular direct) (calculateAmountFromPrice env ctx direct.price) ∧
            buildSameStationDetailForDirectPrice env ctx builder t direct boo =
              (line, calculateAmountFromPrice env ctx direct.price)))))) := by
  generalize result : buildSameStationDetailForDirectPrice env ctx builder t direct boo = r
  simp only [buildSameStationDetailForDirectPrice] at result
  split at result
  · next black => exact .inl ⟨black, _, ⟨rfl, rfl⟩, result.symm⟩
  · next black =>
    refine .inr ⟨by simpa using black, ?_⟩
    split at result
    · next white => exact .inl ⟨white, _, ⟨rfl, rfl⟩, result.symm⟩
    · next white =>
      refine .inr ⟨by simpa using white, ?_⟩
      split at result
      · next covered => exact .inl ⟨covered, _, ⟨rfl, rfl⟩, result.symm⟩
      · next covered => exact .inr ⟨by simpa using covered, _, ⟨rfl, rfl⟩, result.symm⟩

/-- A trip at one station that has no price. -/
theorem handleSameStationWithRoute_none_cases (t : Int) :
    (∃ e, handleSameStationWithRoute env ctx builder t none = .error e) ∨
    ∃ boo, env.booFromTollBySout t = .ok boo ∧
      segmentInBlackList t (env.segmentCycleId t t) ctx.blackList boo.str = false ∧
      ((segmentIsWhitelisted t (env.segmentCycleId t t) ctx.whiteList boo.str = true ∧
        ∃ line, line.Is .whitelist 0 ∧
          handleSameStationWithRoute env ctx builder t none = .ok (0, [line])) ∨
      (segmentIsWhitelisted t (env.segmentCycleId t t) ctx.whiteList boo.str = false ∧
        segmentCoveredBySubscription t t ctx.subscriptionSet = true ∧
        ∃ line, line.Is .subscription 0 ∧
          handleSameStationWithRoute env ctx builder t none = .ok (0, [line]))) := by
  generalize result : handleSameStationWithRoute env ctx builder t none = r
  simp only [handleSameStationWithRoute] at result
  cases found : env.booFromTollBySout t with
  | error e =>
    rw [found] at result
    exact .inl ⟨e, result.symm⟩
  | ok boo =>
    rw [found] at result
    change (if _ then _ else _) = r at result
    split at result
    · exact .inl ⟨_, result.symm⟩
    · next black =>
      split at result
      · next white =>
        exact .inr ⟨boo, rfl, by simpa using black, .inl ⟨white, _, ⟨rfl, rfl⟩, result.symm⟩⟩
      · next white =>
        split at result
        · next covered =>
          exact .inr ⟨boo, rfl, by simpa using black,
            .inr ⟨by simpa using white, covered, _, ⟨rfl, rfl⟩, result.symm⟩⟩
        · exact .inl ⟨_, result.symm⟩

/-- The line of a stage from the price that was found. -/
theorem feeFromStagePrice_cases (tolls : Int × Int) (found : FoundPrice) :
    (env.validAt found.price (env.checkTime ctx.transDatetime .check) = false ∧ ∃ e,
      feeFromStagePrice env ctx builder tollA tollB tolls boo cycleId found = .error e) ∨
    (env.validAt found.price (env.checkTime ctx.transDatetime .check) = true ∧
      ((segmentIsWhitelisted tollB cycleId ctx.whiteList (ParsedBoo.fromPrice found.price).str =
          true ∧ ∃ line, line.Is .whitelist 0 ∧
            feeFromStagePrice env ctx builder tollA tollB tolls boo cycleId found =
              .ok (0, line)) ∨
      (segmentIsWhitelisted tollB cycleId ctx.whiteList (ParsedBoo.fromPrice found.price).str =
          false ∧
        ((isSubscribedByStageId env ctx found.price.stageId
            (ParsedBoo.fromPrice found.price).str = true ∧
          ∃ line, line.Is .subscription 0 ∧
            feeFromStagePrice env ctx builder tollA tollB tolls boo cycleId found =
              .ok (0, line)) ∨
        (isSubscribedByStageId env ctx found.price.stageId
            (ParsedBoo.fromPrice found.price).str = false ∧
          ∃ line, line.Is (.regular found) (calculateAmountFromPrice env ctx found.price) ∧
            feeFromStagePrice env ctx builder tollA tollB tolls boo cycleId found =
              .ok (calculateAmountFromPrice env ctx found.price, line)))))) := by
  generalize result : feeFromStagePrice env ctx builder tollA tollB tolls boo cycleId found = r
  simp only [feeFromStagePrice] at result
  split at result
  · next expired => exact .inl ⟨expired, _, result.symm⟩
  · next current =>
    refine .inr ⟨by simpa using current, ?_⟩
    split at result
    · next white => exact .inl ⟨white, _, ⟨rfl, rfl⟩, result.symm⟩
    · next white =>
      refine .inr ⟨by simpa using white, ?_⟩
      split at result
      · next subscribed => exact .inl ⟨subscribed, _, ⟨rfl, rfl⟩, result.symm⟩
      · next subscribed => exact .inr ⟨by simpa using subscribed, _, ⟨rfl, rfl⟩, result.symm⟩

/-- The line of a stage: whitelisted, or covered by a subscription, or by its price. -/
theorem calculateFeeForOneStageId_cases (sid : Int) :
    (segmentIsWhitelisted tollB cycleId ctx.whiteList boo.str = true ∧
      ∃ line, line.Is .whitelist 0 ∧
        calculateFeeForOneStageId env ctx builder tollA tollB boo cycleId sid = .ok (0, line)) ∨
    (segmentIsWhitelisted tollB cycleId ctx.whiteList boo.str = false ∧
      ((segmentCoveredBySubscription tollA tollB ctx.subscriptionSet = true ∧
        ∃ line, line.Is .subscription 0 ∧
          calculateFeeForOneStageId env ctx builder tollA tollB boo cycleId sid =
            .ok (0, line)) ∨
      (segmentCoveredBySubscription tollA tollB ctx.subscriptionSet = false ∧
        ((getPriceByStageId env sid (stageVehicleType ctx tollA tollB boo cycleId) = none ∧
          ∃ e, calculateFeeForOneStageId env ctx builder tollA tollB boo cycleId sid = .error e) ∨
        ∃ found, getPriceByStageId env sid (stageVehicleType ctx tollA tollB boo cycleId) =
            some found ∧
          calculateFeeForOneStageId env ctx builder tollA tollB boo cycleId sid =
            feeFromStagePrice env ctx builder tollA tollB
              ((env.tollAbByStage sid).getD (tollA, tollB)) boo cycleId found)))) := by
  generalize result : calculateFeeForOneStageId env ctx builder tollA tollB boo cycleId sid = r
  simp only [calculateFeeForOneStageId] at result
  split at result
  · next white => exact .inl ⟨white, _, ⟨rfl, rfl⟩, result.symm⟩
  · next white =>
    refine .inr ⟨by simpa using white, ?_⟩
    split at result
    · next covered => exact .inl ⟨covered, _, ⟨rfl, rfl⟩, result.symm⟩
    · next covered =>
      refine .inr ⟨by simpa using covered, ?_⟩
      cases price : getPriceByStageId env sid (stageVehicleType ctx tollA tollB boo cycleId) with
      | none =>
        rw [price] at result
        exact .inl ⟨rfl, _, result.symm⟩
      | some found =>
        rw [price] at result
        exact .inr ⟨found, rfl, result.symm⟩

end Cases

/-- What the loop returns: a line for each stage, none of which was refused. -/
theorem addStages_ok {one : Int → Except TollFeeError (Int × FeeLine)} {stageIds : List Int}
    {total t : Int} {lines ls : List FeeLine}
    (returned : addStages one stageIds total lines = .ok (t, ls)) :
    ∃ added, ls = lines ++ added ∧
      (∀ sid ∈ stageIds, ∃ a, ∃ line ∈ added, one sid = .ok (a, line)) ∧
      ∀ line ∈ added, ∃ sid ∈ stageIds, ∃ a, one sid = .ok (a, line) := by
  induction stageIds generalizing total lines with
  | nil =>
    cases returned
    exact ⟨[], (List.append_nil _).symm, by simp, by simp⟩
  | cons sid rest ih =>
    rw [addStages] at returned
    cases outcome : one sid with
    | error e =>
      rw [outcome] at returned
      cases returned
    | ok priced =>
      obtain ⟨a, line⟩ := priced
      rw [outcome] at returned
      obtain ⟨added, rfl, each, only⟩ := ih returned
      refine ⟨line :: added, by simp, fun sid' mem => ?_, fun line' mem => ?_⟩
      · rcases List.mem_cons.mp mem with rfl | later
        · exact ⟨a, line, List.mem_cons_self, outcome⟩
        · obtain ⟨a', line', mem', ok⟩ := each sid' later
          exact ⟨a', line', List.mem_cons_of_mem _ mem', ok⟩
      · rcases List.mem_cons.mp mem with rfl | later
        · exact ⟨sid, List.mem_cons_self, a, outcome⟩
        · obtain ⟨sid', mem', a', ok⟩ := only line' later
          exact ⟨sid', List.mem_cons_of_mem _ mem', a', ok⟩

/-- The loop returns unless a stage is refused. -/
theorem addStages_returns {one : Int → Except TollFeeError (Int × FeeLine)}
    {stageIds : List Int} (priced : ∀ sid ∈ stageIds, ∃ a line, one sid = .ok (a, line))
    (total : Int) (lines : List FeeLine) :
    ∃ t ls, addStages one stageIds total lines = .ok (t, ls) := by
  induction stageIds generalizing total lines with
  | nil => exact ⟨total, lines, rfl⟩
  | cons sid rest ih =>
    obtain ⟨a, line, ok⟩ := priced sid List.mem_cons_self
    obtain ⟨t, ls, returned⟩ := ih (fun sid mem => priced sid (List.mem_cons_of_mem _ mem))
      (toI32 (total + a)) (lines ++ [line])
    refine ⟨t, ls, ?_⟩
    rw [addStages, ok]
    exact returned

/-- A property holds of every line of a fee that is returned exactly when some stage is refused
or it holds of the line of each stage. -/
theorem addStages_forall_iff {one : Int → Except TollFeeError (Int × FeeLine)}
    {good : FeeLine → Prop} {stageIds : List Int} (total : Int) :
    (∀ t ls, addStages one stageIds total [] = .ok (t, ls) → ∀ line ∈ ls, good line) ↔
      (∃ sid ∈ stageIds, ∃ e, one sid = .error e) ∨
        ∀ sid ∈ stageIds, ∀ a line, one sid = .ok (a, line) → good line := by
  constructor
  · intro all
    by_cases refused : ∃ sid ∈ stageIds, ∃ e, one sid = .error e
    · exact .inl refused
    · right
      have priced : ∀ sid ∈ stageIds, ∃ a line, one sid = .ok (a, line) := by
        intro sid mem
        cases outcome : one sid with
        | error e => exact absurd ⟨sid, mem, e, outcome⟩ refused
        | ok priced => exact ⟨priced.1, priced.2, rfl⟩
      obtain ⟨t, ls, returned⟩ := addStages_returns priced total []
      obtain ⟨added, rfl, each, -⟩ := addStages_ok returned
      intro sid mem a line ok
      obtain ⟨a', line', mem', ok'⟩ := each sid mem
      cases ok.symm.trans ok'
      exact all t _ returned line mem'
  · intro cases_ t ls returned line mem
    obtain ⟨added, rfl, each, only⟩ := addStages_ok returned
    rcases cases_ with ⟨sid, here, e, refused⟩ | fine
    · obtain ⟨a, line', -, ok⟩ := each sid here
      cases refused.symm.trans ok
    · obtain ⟨sid, here, a, ok⟩ := only line mem
      exact fine sid here a line ok

/-- `RatingDetailBuilder::new`. -/
def FeeInput.builder (input : FeeInput) : RatingDetailBuilder where
  subscriptionId := input.context.subscriptionId
  vehicleType := input.vehicleType
  ticketType := input.context.ticketType

/-- `calculate_toll_fee`, with the way each line came about. -/
def feeLines (env : FeeEnv) (input : FeeInput) : FeeResult :=
  let ctx := input.context
  let sin := input.stationIn
  let sout := input.stationOut
  if sin = sout then
    handleSameStationWithRoute env ctx input.builder sin (resolveDirectPriceOpt env ctx sin sout)
  else
    match env.segmentsForLeg sin sout with
    | some stageIds =>
        if stageIds = [] then .error (.routeOrPriceConfigNotFound sin sout)
        else calculateFeeForSegmentByStageId env ctx input.builder sin sout stageIds
    | none => .error (.routeOrPriceConfigNotFound sin sout)

/-- `calculate_toll_fee`. -/
def calculateTollFee (env : FeeEnv) (input : FeeInput) :
    Except TollFeeError (Int × List RatingDetail) :=
  (feeLines env input).map fun fee => (fee.1, fee.2.map FeeLine.detail)

section Calculation

variable {env : FeeEnv} {input : FeeInput}

/-- The line of one stage of the leg, given the `BOO` of the exit station. -/
def stageLine (env : FeeEnv) (input : FeeInput) (boo : ParsedBoo) (sid : Int) :
    Except TollFeeError (Int × FeeLine) :=
  calculateFeeForOneStageId env input.context input.builder input.stationIn input.stationOut boo
    (env.segmentCycleId input.stationIn input.stationOut) sid

/-- The `BOO` that the line of a trip at one station is made with. -/
def FeeEnv.booFor (env : FeeEnv) (t : Int) (price : PriceDto) : ParsedBoo :=
  match env.booFromTollBySout t with
  | .ok parsed => parsed
  | .error _ => ParsedBoo.fromPrice price

/-- A trip at one station that has a price. -/
theorem feeLines_of_direct {direct : FoundPrice} (same : input.stationIn = input.stationOut)
    (found : resolveDirectPriceOpt env input.context input.stationIn input.stationOut =
      some direct) :
    feeLines env input =
      .ok ((buildSameStationDetailForDirectPrice env input.context input.builder input.stationIn
          direct (env.booFor input.stationIn direct.price)).2,
        [(buildSameStationDetailForDirectPrice env input.context input.builder input.stationIn
          direct (env.booFor input.stationIn direct.price)).1]) := by
  simp only [feeLines, if_pos same, found]
  rfl

/-- A trip at one station that has no price. -/
theorem feeLines_of_no_direct (same : input.stationIn = input.stationOut)
    (missing : resolveDirectPriceOpt env input.context input.stationIn input.stationOut = none) :
    feeLines env input =
      handleSameStationWithRoute env input.context input.builder input.stationIn none := by
  simp only [feeLines, if_pos same, missing]

/-- A trip between two stations is priced through the stages of its leg. -/
theorem feeLines_eq_ok_of_ne (ne : input.stationIn ≠ input.stationOut) {total : Int}
    {lines : List FeeLine} :
    feeLines env input = .ok (total, lines) ↔
      ∃ boo stageIds, env.booFromTollBySout input.stationOut = .ok boo ∧
        env.segmentsForLeg input.stationIn input.stationOut = some stageIds ∧ stageIds ≠ [] ∧
        addStages (stageLine env input boo) stageIds 0 [] = .ok (total, lines) := by
  simp only [feeLines, if_neg ne]
  cases leg : env.segmentsForLeg input.stationIn input.stationOut with
  | none => simp
  | some stageIds =>
    by_cases empty : stageIds = []
    · simp [empty]
    · simp only [if_neg empty, calculateFeeForSegmentByStageId]
      cases found : env.booFromTollBySout input.stationOut with
      | error e =>
        constructor
        · intro returned
          cases returned
        · rintro ⟨boo, -, eq, -⟩
          cases eq
      | ok boo =>
        constructor
        · intro returned
          exact ⟨boo, stageIds, rfl, rfl, empty, returned⟩
        · rintro ⟨boo', stageIds', eq, eq', -, returned⟩
          cases eq
          cases eq'
          exact returned

/-- A property of the lines of every fee that is returned for a trip between two stations. -/
theorem feeLines_forall_iff_of_ne (ne : input.stationIn ≠ input.stationOut)
    {good : FeeLine → Prop} :
    (∀ total lines, feeLines env input = .ok (total, lines) → ∀ line ∈ lines, good line) ↔
      ∀ boo stageIds, env.booFromTollBySout input.stationOut = .ok boo →
        env.segmentsForLeg input.stationIn input.stationOut = some stageIds → stageIds ≠ [] →
        (∃ sid ∈ stageIds, ∃ e, stageLine env input boo sid = .error e) ∨
          ∀ sid ∈ stageIds, ∀ a line, stageLine env input boo sid = .ok (a, line) →
            good line := by
  constructor
  · intro all boo stageIds found leg nonempty
    refine (addStages_forall_iff 0).mp fun total lines returned => ?_
    exact all total lines
      ((feeLines_eq_ok_of_ne ne).mpr ⟨boo, stageIds, found, leg, nonempty, returned⟩)
  · intro each total lines returned
    obtain ⟨boo, stageIds, found, leg, nonempty, added⟩ := (feeLines_eq_ok_of_ne ne).mp returned
    exact (addStages_forall_iff 0).mpr (each boo stageIds found leg nonempty) total lines added

end Calculation

end TollBackend

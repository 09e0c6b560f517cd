import TollBackend.TollFee.Flow

/-!
# Lines are priced from prices in force

A regular line of a fee should have the amount of a price that is in force. Over the stages of
a segment a price that is not in force is refused. At one station it is not: the amount is
calculated as `0` and the line is returned. Amounts are cast to 32 bits, and a missing amount
counts as `0`.

## Main definitions

* `PricedInForce`: a regular line has the amount of a price in force.
* `Chargeable`: a price in force whose amount is given and fits in 32 bits.
* `PricesInForce`: the prices that regular lines are made from are chargeable.

## Main results

* `pricedInForce_iff`: the lines of a fee are priced in force exactly when those prices are
  chargeable.
-/

namespace TollBackend

/-- If the line was made from a price, that is in force at the time of the transaction, and the
line has its amount. -/
def PricedInForce (env : FeeEnv) (input : FeeInput) (line : FeeLine) : Prop :=
  ∀ found, line.kind = .regular found →
    env.validAt found.price (env.checkTime input.transDatetime .amount) = true ∧
      found.price.priceAmount = some line.detail.priceAmount

/-- The price is in force when the amount is calculated, and has an amount of 32 bits. -/
def Chargeable (env : FeeEnv) (input : FeeInput) (price : PriceDto) : Prop :=
  env.validAt price (env.checkTime input.transDatetime .amount) = true ∧
    ∃ amount, price.priceAmount = some amount ∧ toI32 amount = amount

/-- No list makes a trip at one station free: it is on the black list, or neither on the white
list nor covered by a subscription. -/
def PaysDirectPrice (env : FeeEnv) (input : FeeInput) (price : PriceDto) : Prop :=
  segmentInBlackList input.stationIn (env.segmentCycleId input.stationIn input.stationIn)
    input.context.blackList (env.booFor input.stationIn price).str = true ∨
  (segmentIsWhitelisted input.stationIn (env.segmentCycleId input.stationIn input.stationIn)
      input.context.whiteList (env.booFor input.stationIn price).str = false ∧
    segmentCoveredBySubscription input.stationIn input.stationIn
      input.context.subscriptionSet = false)

/-- The price that a stage is looked up with. -/
def stagePrice (env : FeeEnv) (input : FeeInput) (boo : ParsedBoo) (sid : Int) :
    Option FoundPrice :=
  getPriceByStageId env sid (stageVehicleType input.context input.stationIn input.stationOut boo
    (env.segmentCycleId input.stationIn input.stationOut))

/-- The price of the stage is missing or not in force. -/
def StageRefused (env : FeeEnv) (input : FeeInput) (boo : ParsedBoo) (sid : Int) : Prop :=
  ∀ found, stagePrice env input boo sid = some found →
    env.validAt found.price (env.checkTime input.transDatetime .check) = false

/-- The stage pays its price: by the `BOO` of the price it is neither on the white list nor
subscribed. -/
def PaysStagePrice (env : FeeEnv) (input : FeeInput) (price : PriceDto) : Prop :=
  segmentIsWhitelisted input.stationOut (env.segmentCycleId input.stationIn input.stationOut)
    input.context.whiteList (ParsedBoo.fromPrice price).str = false ∧
  isSubscribedByStageId env input.context price.stageId (ParsedBoo.fromPrice price).str = false

/-- Each price that is to be paid is chargeable, unless the fee is refused for another stage. -/
def PricesInForce (env : FeeEnv) (input : FeeInput) : Prop :=
  (input.stationIn = input.stationOut → ∀ direct,
    resolveDirectPriceOpt env input.context input.stationIn input.stationOut = some direct →
    PaysDirectPrice env input direct.price → Chargeable env input direct.price) ∧
  (input.stationIn ≠ input.stationOut → ∀ boo stageIds,
    env.booFromTollBySout input.stationOut = .ok boo →
    env.segmentsForLeg input.stationIn input.stationOut = some stageIds → stageIds ≠ [] →
    segmentIsWhitelisted input.stationOut (env.segmentCycleId input.stationIn input.stationOut)
      input.context.whiteList boo.str = false →
    segmentCoveredBySubscription input.stationIn input.stationOut
      input.context.subscriptionSet = false →
    (∃ sid ∈ stageIds, StageRefused env input boo sid) ∨
      ∀ sid ∈ stageIds, ∀ found, stagePrice env input boo sid = some found →
        PaysStagePrice env input found.price → Chargeable env input found.price)

section Lines

variable {env : FeeEnv} {input : FeeInput} {boo : ParsedBoo} {line : FeeLine}

/-- A regular line is priced in force exactly when its price is chargeable. -/
theorem pricedInForce_regular_iff {found : FoundPrice}
    (is : line.Is (.regular found) (calculateAmountFromPrice env input.context found.price)) :
    PricedInForce env input line ↔ Chargeable env input found.price := by
  constructor
  · intro priced
    obtain ⟨valid, amount⟩ := priced found is.kind_eq
    refine ⟨valid, line.detail.priceAmount, amount, ?_⟩
    have calculated := is.amount_eq
    rw [calculateAmountFromPrice, FeeInput.context, if_pos valid, amount] at calculated
    exact calculated.symm
  · rintro ⟨valid, amount, given, fits⟩ found' eq
    cases is.kind_eq.symm.trans eq
    refine ⟨valid, ?_⟩
    rw [is.amount_eq, calculateAmountFromPrice, FeeInput.context, if_pos valid, given]
    simp [fits]

theorem pricedInForce_of_free {kind : LineKind} (is : line.Is kind 0)
    (free : ∀ found, kind ≠ .regular found) : PricedInForce env input line := by
  intro found eq
  exact absurd (is.kind_eq.symm.trans eq) (free found)

/-- The line of a trip at one station. -/
theorem direct_pricedInForce_iff {direct : FoundPrice}
    (same : input.stationIn = input.stationOut)
    (found : resolveDirectPriceOpt env input.context input.stationIn input.stationOut =
      some direct) :
    (∀ total lines, feeLines env input = .ok (total, lines) →
      ∀ line ∈ lines, PricedInForce env input line) ↔
    (PaysDirectPrice env input direct.price → Chargeable env input direct.price) := by
  have one : (∀ total lines, feeLines env input = .ok (total, lines) →
      ∀ line ∈ lines, PricedInForce env input line) ↔
      PricedInForce env input (buildSameStationDetailForDirectPrice env input.context
        input.builder input.stationIn direct (env.booFor input.stationIn direct.price)).1 := by
    rw [feeLines_of_direct same found]
    constructor
    · intro all
      exact all _ _ rfl _ List.mem_cons_self
    · intro priced total lines returned line mem
      cases returned
      rw [List.mem_singleton.mp mem]
      exact priced
  rw [one]
  rcases buildSameStationDetailForDirectPrice_cases env input.context input.builder
    (env.booFor input.stationIn direct.price) input.stationIn direct with
    ⟨black, line, is, made⟩ | ⟨black, ⟨white, line, is, made⟩ |
      ⟨white, ⟨covered, line, is, made⟩ | ⟨covered, line, is, made⟩⟩⟩
  · rw [made, pricedInForce_regular_iff is]
    exact ⟨fun chargeable _ => chargeable, fun pays => pays (.inl black)⟩
  · rw [made]
    refine ⟨fun _ pays => ?_, fun _ => pricedInForce_of_free is (by simp)⟩
    rcases pays with listed | ⟨free, -⟩
    · cases black.symm.trans listed
    · cases white.symm.trans free
  · rw [made]
    refine ⟨fun _ pays => ?_, fun _ => pricedInForce_of_free is (by simp)⟩
    rcases pays with listed | ⟨-, free⟩
    · cases black.symm.trans listed
    · cases covered.symm.trans free
  · rw [made, pricedInForce_regular_iff is]
    exact ⟨fun chargeable _ => chargeable, fun pays => pays (.inr ⟨white, covered⟩)⟩

/-- The stage is refused for its price, or has a line that is priced in force exactly when a
price it pays is chargeable. -/
theorem stageLine_pricedInForce
    (white : segmentIsWhitelisted input.stationOut
      (env.segmentCycleId input.stationIn input.stationOut) input.context.whiteList boo.str =
        false)
    (covered : segmentCoveredBySubscription input.stationIn input.stationOut
      input.context.subscriptionSet = false) (sid : Int) :
    (StageRefused env input boo sid ∧ ∃ e, stageLine env input boo sid = .error e) ∨
    ∃ found, stagePrice env input boo sid = some found ∧
      env.validAt found.price (env.checkTime input.transDatetime .check) = true ∧
      ∃ a line, stageLine env input boo sid = .ok (a, line) ∧
        (PricedInForce env input line ↔
          (PaysStagePrice env input found.price → Chargeable env input found.price)) := by
  rcases calculateFeeForOneStageId_cases env input.context input.builder input.stationIn
    input.stationOut boo (env.segmentCycleId input.stationIn input.stationOut) sid with
    ⟨listed, -⟩ | ⟨-, ⟨sub, -⟩ | ⟨-, ⟨missing, refused⟩ | ⟨found, hit, from_price⟩⟩⟩
  · cases white.symm.trans listed
  · cases covered.symm.trans sub
  · refine .inl ⟨fun found eq => ?_, refused⟩
    cases missing.symm.trans eq
  · rcases feeFromStagePrice_cases env input.context input.builder input.stationIn
      input.stationOut boo (env.segmentCycleId input.stationIn input.stationOut)
      ((env.tollAbByStage sid).getD (input.stationIn, input.stationOut)) found with
      ⟨expired, e, refused⟩ | ⟨valid, ⟨listed, line, is, made⟩ |
        ⟨free, ⟨subscribed, line, is, made⟩ | ⟨unsubscribed, line, is, made⟩⟩⟩
    · refine .inl ⟨fun found' eq => ?_, e, from_price.trans refused⟩
      cases hit.symm.trans eq
      exact expired
    · refine .inr ⟨found, hit, valid, 0, line, from_price.trans made, ?_⟩
      refine ⟨fun _ pays => ?_, fun _ => pricedInForce_of_free is (by simp)⟩
      cases listed.symm.trans pays.1
    · refine .inr ⟨found, hit, valid, 0, line, from_price.trans made, ?_⟩
      refine ⟨fun _ pays => ?_, fun _ => pricedInForce_of_free is (by simp)⟩
      cases subscribed.symm.trans pays.2
    · refine .inr ⟨found, hit, valid, _, line, from_price.trans made, ?_⟩
      rw [pricedInForce_regular_iff is]
      exact ⟨fun chargeable _ => chargeable, fun pays => pays ⟨free, unsubscribed⟩⟩

/-- A trip at one station that has no price has no regular line. -/
theorem noDirect_pricedInForce (same : input.stationIn = input.stationOut)
    (missing : resolveDirectPriceOpt env input.context input.stationIn input.stationOut = none)
    {total : Int} {lines : List FeeLine} (returned : feeLines env input = .ok (total, lines)) :
    ∀ line ∈ lines, PricedInForce env input line := by
  rw [feeLines_of_no_direct same missing] at returned
  rcases handleSameStationWithRoute_none_cases env input.context input.builder input.stationIn
    with ⟨e, refused⟩ | ⟨boo, -, -, ⟨-, line, is, made⟩ | ⟨-, -, line, is, made⟩⟩
  · cases refused.symm.trans returned
  · cases made.symm.trans returned
    intro line' mem
    rw [List.mem_singleton.mp mem]
    exact pricedInForce_of_free is (by simp)
  · cases made.symm.trans returned
    intro line' mem
    rw [List.mem_singleton.mp mem]
    exact pricedInForce_of_free is (by simp)

/-- A trip all of whose stages are free by a list has no regular line. -/
theorem stageLine_pricedInForce_of_free
    (free : segmentIsWhitelisted input.stationOut
        (env.segmentCycleId input.stationIn input.stationOut) input.context.whiteList boo.str =
          true ∨
      segmentCoveredBySubscription input.stationIn input.stationOut
        input.context.subscriptionSet = true) {sid a : Int}
    (made : stageLine env input boo sid = .ok (a, line)) : PricedInForce env input line := by
  rcases calculateFeeForOneStageId_cases env input.context input.builder input.stationIn
    input.stationOut boo (env.segmentCycleId input.stationIn input.stationOut) sid with
    ⟨-, line', is, made'⟩ | ⟨unlisted, ⟨-, line', is, made'⟩ | ⟨uncovered, -⟩⟩
  · cases made.symm.trans made'
    exact pricedInForce_of_free is (by simp)
  · cases made.symm.trans made'
    exact pricedInForce_of_free is (by simp)
  · rcases free with listed | covered
    · cases unlisted.symm.trans listed
    · cases uncovered.symm.trans covered

/-- The lines of a trip between two stations. -/
theorem stages_pricedInForce_iff {stageIds : List Int}
    (white : segmentIsWhitelisted input.stationOut
      (env.segmentCycleId input.stationIn input.stationOut) input.context.whiteList boo.str =
        false)
    (covered : segmentCoveredBySubscription input.stationIn input.stationOut
      input.context.subscriptionSet = false) :
    ((∃ sid ∈ stageIds, ∃ e, stageLine env input boo sid = .error e) ∨
      ∀ sid ∈ stageIds, ∀ a line, stageLine env input boo sid = .ok (a, line) →
        PricedInForce env input line) ↔
    ((∃ sid ∈ stageIds, StageRefused env input boo sid) ∨
      ∀ sid ∈ stageIds, ∀ found, stagePrice env input boo sid = some found →
        PaysStagePrice env input found.price → Chargeable env input found.price) := by
  have stage := stageLine_pricedInForce white covered
  constructor
  · rintro (⟨sid, mem, e, refused⟩ | fine)
    · rcases stage sid with ⟨refused', -⟩ | ⟨_, _, _, a, line, made, -⟩
      · exact .inl ⟨sid, mem, refused'⟩
      · cases made.symm.trans refused
    · by_cases some_refused : ∃ sid ∈ stageIds, StageRefused env input boo sid
      · exact .inl some_refused
      · refine .inr fun sid mem found hit => ?_
        rcases stage sid with ⟨refused, -⟩ | ⟨found', hit', -, a, line, made, priced⟩
        · exact absurd ⟨sid, mem, refused⟩ some_refused
        · cases hit.symm.trans hit'
          exact priced.mp (fine sid mem a line made)
  · rintro (⟨sid, mem, refused⟩ | chargeable)
    · rcases stage sid with ⟨-, error⟩ | ⟨found, hit, valid, -⟩
      · exact .inl ⟨sid, mem, error⟩
      · cases valid.symm.trans (refused found hit)
    · refine .inr fun sid mem a line made => ?_
      rcases stage sid with ⟨-, e, refused⟩ | ⟨found, hit, -, a', line', made', priced⟩
      · cases made.symm.trans refused
      · cases made.symm.trans made'
        exact priced.mpr (chargeable sid mem found hit)

end Lines

/-- Every line of a fee that is neither a whitelist nor a subscription line has the amount of a
price in force, exactly when the prices that are to be paid are chargeable. -/
theorem pricedInForce_iff (env : FeeEnv) (input : FeeInput) :
    (∀ total lines, feeLines env input = .ok (total, lines) →
      ∀ line ∈ lines, PricedInForce env input line) ↔ PricesInForce env input := by
  by_cases same : input.stationIn = input.stationOut
  · cases price : resolveDirectPriceOpt env input.context input.stationIn input.stationOut with
    | none =>
      constructor
      · intro _
        refine ⟨fun _ direct found => ?_, fun ne => absurd same ne⟩
        cases price.symm.trans found
      · intro _ total lines returned
        exact noDirect_pricedInForce same price returned
    | some direct =>
      rw [direct_pricedInForce_iff same price]
      constructor
      · intro chargeable
        refine ⟨fun _ direct' found => ?_, fun ne => absurd same ne⟩
        cases price.symm.trans found
        exact chargeable
      · intro inForce
        exact inForce.1 same direct price
  · rw [feeLines_forall_iff_of_ne same]
    constructor
    · intro all
      refine ⟨fun eq => absurd eq same, fun _ boo stageIds found leg nonempty white covered => ?_⟩
      exact (stages_pricedInForce_iff white covered).mp (all boo stageIds found leg nonempty)
    · intro inForce boo stageIds found leg nonempty
      by_cases free : segmentIsWhitelisted input.stationOut
          (env.segmentCycleId input.stationIn input.stationOut) input.context.whiteList boo.str =
            true ∨
        segmentCoveredBySubscription input.stationIn input.stationOut
          input.context.subscriptionSet = true
      · exact .inr fun sid _ a line made => stageLine_pricedInForce_of_free free made
      · rw [not_or, Bool.not_eq_true, Bool.not_eq_true] at free
        exact (stages_pricedInForce_iff free.1 free.2).mpr
          (inForce.2 same boo stageIds found leg nonempty free.1 free.2)

/-- A price that ended with the year 2024. -/
def endedPrice : PriceDto where
  priceId := 9
  priceAmount := some 100
  endDatetime := some "2025-01-01 00:00:00"

/-- A station that has no other price. -/
def expiredPrice : FeeEnv where
  tollBoo _ := some "3"
  price _ _ _ := some endedPrice
  parseDatetime s _ := if s = "2025-01-01 00:00:00" then some ⟨1735689600000000000⟩ else none

/-- A trip at one station, a year later. -/
def aYearLater : FeeInput where
  stationIn := 1
  stationOut := 1
  transDatetime := some ⟨1767225600000000000⟩

/-- The expired price gives a line of amount `0`. -/
theorem expired_price_is_free :
    ¬ ∀ (env : FeeEnv) (input : FeeInput) (total : Int) (lines : List FeeLine),
      feeLines env input = .ok (total, lines) → ∀ line ∈ lines, PricedInForce env input line := by
  intro claim
  have hit : resolveDirectPriceOpt expiredPrice aYearLater.context aYearLater.stationIn
      aYearLater.stationOut = some ⟨endedPrice, toString (1 : Int)⟩ := rfl
  have chargeable := (direct_pricedInForce_iff rfl hit).mp (claim expiredPrice aYearLater)
    (.inr ⟨by decide +kernel, by decide +kernel⟩)
  exact absurd chargeable.1 (by decide +kernel)

end TollBackend

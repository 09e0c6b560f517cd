import TollBackend.TollFee.Flow

/-!
# One subscription rule

A tag that subscribes to a stage should pass it for free, unless a list applies; and it should be
free by subscription only then, whatever the lists say. Over the stages of a segment the dated
history of the tag decides, unless the pair of stations is in the set of subscribed pairs, which
has no dates and is looked at before the black list. At one station the set alone decides: the
history is not looked at.

## Main definitions

* `EntryFor`, `PairEntry`: a subscription to a stage, or to a stage between two stations, that is
  valid at the time of the transaction.
* `FreeBySubscription`: a line is a subscription line if there is an entry for its stage and no
  list applies, and only if there is an entry for its stage or its stations.
* `SubscriptionsAgree`: the set of pairs says what the history says.

## Main results

* `freeBySubscription_iff`: the rule holds of the lines of a trip exactly when the set and the
  history agree.
-/

namespace TollBackend

/-- The history has an entry of the stage that matches the `BOO` and is valid. -/
def EntryFor (env : FeeEnv) (ctx : FeeContext) (stageId : Int) (booStr : String) : Prop :=
  (subscriptionEntryForStage env ctx stageId booStr).isSome = true

/-- The history has a valid entry that matches the `BOO`, of a stage between the two stations. -/
def PairEntry (env : FeeEnv) (ctx : FeeContext) (tollA tollB : Int) (booStr : String) : Prop :=
  ∃ history, ctx.subscriptionHistory = some history ∧ ∃ sub ∈ history, ∃ ab,
    env.tollAbByStage sub.stageId = some ab ∧ segmentKey ab.1 ab.2 = segmentKey tollA tollB ∧
    booMatches sub.stageBoo booStr = true ∧
    env.subscriptionIsValidAtTime sub (env.checkTime ctx.transDatetime .subscription) = true

/-- There is an entry for the stage or for its stations. -/
def Entitled (env : FeeEnv) (ctx : FeeContext) (tollA tollB : Int) (stageId : Option Int)
    (booStr : String) : Prop :=
  (∃ sid, stageId = some sid ∧ EntryFor env ctx sid booStr) ∨ PairEntry env ctx tollA tollB booStr

/-- The rule for a line of a stage: where no list applies it is a subscription line if there is an
entry for the stage; and it is one only if there is an entry for the stage or for its stations,
also where a list applies. -/
structure FreeBySubscription (env : FeeEnv) (ctx : FeeContext) (tollA tollB : Int)
    (stageId : Option Int) (booStr : String) (unlisted : Prop) (line : FeeLine) : Prop where
  if_entry : unlisted → ∀ sid, stageId = some sid → EntryFor env ctx sid booStr →
    line.Is .subscription 0
  only_if : ctx.subscriptionHistory.isSome = true → line.kind = .subscription →
    Entitled env ctx tollA tollB stageId booStr

/-- Neither list applies to the exit of the segment. -/
def Unlisted (env : FeeEnv) (ctx : FeeContext) (tollA tollB : Int) (booStr : String) : Prop :=
  segmentInBlackList tollB (env.segmentCycleId tollA tollB) ctx.blackList booStr = false ∧
    segmentIsWhitelisted tollB (env.segmentCycleId tollA tollB) ctx.whiteList booStr = false

/-- The rule at one station, for a direct price. -/
def DirectRule (env : FeeEnv) (input : FeeInput) (direct : FoundPrice) : Prop :=
  FreeBySubscription env input.context input.stationIn input.stationIn direct.price.stageId
    (ParsedBoo.fromPrice direct.price).str
    (Unlisted env input.context input.stationIn input.stationIn
      (env.booFor input.stationIn direct.price).str)
    (buildSameStationDetailForDirectPrice env input.context input.builder input.stationIn direct
      (env.booFor input.stationIn direct.price)).1

/-- The rule at one station without a price: the line is for the first stage of the station, and
free only if there is an entry. -/
def NoDirectRule (env : FeeEnv) (input : FeeInput) : Prop :=
  input.context.subscriptionHistory.isSome = true →
  ∀ boo, env.booFromTollBySout input.stationIn = .ok boo →
  ∀ total lines, feeLines env input = .ok (total, lines) →
  ∀ line ∈ lines, line.kind = .subscription →
    Entitled env input.context input.stationIn input.stationIn
      (env.stageIdForSegment input.stationIn input.stationIn) boo.str

/-- The rule for a stage of a segment whose pair of stations is subscribed: no price is looked
up, and the `BOO` is that of the exit station. -/
def CoveredStageRule (env : FeeEnv) (input : FeeInput) (boo : ParsedBoo) (sid : Int) : Prop :=
  segmentCoveredBySubscription input.stationIn input.stationOut
    input.context.subscriptionSet = true →
  ∀ a line, stageLine env input boo sid = .ok (a, line) →
    FreeBySubscription env input.context input.stationIn input.stationOut (some sid) boo.str
      (Unlisted env input.context input.stationIn input.stationOut boo.str) line

/-- The rule for a stage of a segment that is priced by its stage: the `BOO` is that of the
price, by which the lists are tried again. -/
def PricedStageRule (env : FeeEnv) (input : FeeInput) (boo : ParsedBoo) (sid : Int) : Prop :=
  segmentCoveredBySubscription input.stationIn input.stationOut
    input.context.subscriptionSet = false →
  ∀ found, getPriceByStageId env sid (stageVehicleType input.context input.stationIn
      input.stationOut boo (env.segmentCycleId input.stationIn input.stationOut)) = some found →
    ∀ a line, stageLine env input boo sid = .ok (a, line) →
      FreeBySubscription env input.context input.stationIn input.stationOut found.price.stageId
        (ParsedBoo.fromPrice found.price).str
        (Unlisted env input.context input.stationIn input.stationOut boo.str ∧
          Unlisted env input.context input.stationIn input.stationOut
            (ParsedBoo.fromPrice found.price).str) line

/-- The rule for a trip: at one station for its direct price, otherwise for each stage of its
leg. -/
def SubscriptionRule (env : FeeEnv) (input : FeeInput) : Prop :=
  (input.stationIn = input.stationOut → ∀ direct,
    resolveDirectPriceOpt env input.context input.stationIn input.stationOut = some direct →
    DirectRule env input direct) ∧
  (input.stationIn = input.stationOut →
    resolveDirectPriceOpt env input.context input.stationIn input.stationOut = none →
    NoDirectRule env input) ∧
  (input.stationIn ≠ input.stationOut → ∀ boo stageIds,
    env.booFromTollBySout input.stationOut = .ok boo →
    env.segmentsForLeg input.stationIn input.stationOut = some stageIds →
    ∀ sid ∈ stageIds, CoveredStageRule env input boo sid ∧ PricedStageRule env input boo sid)

/-- The set of subscribed pairs says of the pair what the history says of the stage. -/
structure SetAgrees (env : FeeEnv) (ctx : FeeContext) (tollA tollB : Int)
    (stageId : Option Int) (booStr : String) : Prop where
  of_entry : ∀ sid, stageId = some sid → EntryFor env ctx sid booStr →
    segmentCoveredBySubscription tollA tollB ctx.subscriptionSet = true
  to_entry : ctx.subscriptionHistory.isSome = true →
    segmentCoveredBySubscription tollA tollB ctx.subscriptionSet = true →
    Entitled env ctx tollA tollB stageId booStr

/-- At one station with a price, to which no list applies, the set of pairs agrees with the
history; without a price, a pair of the set to which no list applies has an entry in the history;
and so has, for each stage of a leg, a pair of the set to which the white list does not apply. -/
def SubscriptionsAgree (env : FeeEnv) (input : FeeInput) : Prop :=
  (input.stationIn = input.stationOut → ∀ direct,
    resolveDirectPriceOpt env input.context input.stationIn input.stationOut = some direct →
    Unlisted env input.context input.stationIn input.stationIn
      (env.booFor input.stationIn direct.price).str →
    SetAgrees env input.context input.stationIn input.stationIn direct.price.stageId
      (ParsedBoo.fromPrice direct.price).str) ∧
  (input.stationIn = input.stationOut →
    resolveDirectPriceOpt env input.context input.stationIn input.stationOut = none →
    input.context.subscriptionHistory.isSome = true →
    ∀ boo, env.booFromTollBySout input.stationIn = .ok boo →
    Unlisted env input.context input.stationIn input.stationIn boo.str →
    segmentCoveredBySubscription input.stationIn input.stationIn
      input.context.subscriptionSet = true →
    Entitled env input.context input.stationIn input.stationIn
      (env.stageIdForSegment input.stationIn input.stationIn) boo.str) ∧
  (input.stationIn ≠ input.stationOut → ∀ boo stageIds,
    env.booFromTollBySout input.stationOut = .ok boo →
    env.segmentsForLeg input.stationIn input.stationOut = some stageIds →
    segmentIsWhitelisted input.stationOut (env.segmentCycleId input.stationIn input.stationOut)
      input.context.whiteList boo.str = false →
    segmentCoveredBySubscription input.stationIn input.stationOut
      input.context.subscriptionSet = true →
    input.context.subscriptionHistory.isSome = true →
    ∀ sid ∈ stageIds, Entitled env input.context input.stationIn input.stationOut (some sid)
      boo.str)

section Lines

variable {env : FeeEnv} {input : FeeInput} {boo : ParsedBoo}

/-- With a history, a stage is subscribed only by an entry of the history. -/
theorem entry_of_isSubscribedByStageId {ctx : FeeContext} {stageId : Option Int} {booStr : String}
    (given : ctx.subscriptionHistory.isSome = true)
    (subscribed : isSubscribedByStageId env ctx stageId booStr = true) :
    ∃ sid, stageId = some sid ∧ EntryFor env ctx sid booStr := by
  obtain ⟨history, eq⟩ := Option.isSome_iff_exists.mp given
  unfold isSubscribedByStageId at subscribed
  rw [eq] at subscribed
  cases stageId with
  | none => simp at subscribed
  | some sid => exact ⟨sid, rfl, subscribed⟩

theorem isSubscribedByStageId_of_entry {ctx : FeeContext} {sid : Int} {booStr : String}
    (entry : EntryFor env ctx sid booStr) :
    isSubscribedByStageId env ctx (some sid) booStr = true := by
  unfold isSubscribedByStageId
  cases history : ctx.subscriptionHistory with
  | none => simp [EntryFor, subscriptionEntryForStage, history] at entry
  | some _ => exact entry

/-- A line that is not made by a subscription follows the rule where a list applies. -/
theorem freeBySubscription_of_listed {ctx : FeeContext} {tollA tollB : Int}
    {stageId : Option Int} {booStr : String} {unlisted : Prop} {line : FeeLine}
    (listed : ¬ unlisted) (other : line.kind ≠ .subscription) :
    FreeBySubscription env ctx tollA tollB stageId booStr unlisted line :=
  ⟨fun none_applies => absurd none_applies listed, fun _ free => absurd free other⟩

/-- The rule at one station says that the set of pairs agrees with the history. -/
theorem directRule_iff (direct : FoundPrice) :
    DirectRule env input direct ↔
      (Unlisted env input.context input.stationIn input.stationIn
        (env.booFor input.stationIn direct.price).str →
      SetAgrees env input.context input.stationIn input.stationIn direct.price.stageId
        (ParsedBoo.fromPrice direct.price).str) := by
  unfold DirectRule
  rcases buildSameStationDetailForDirectPrice_cases env input.context input.builder
    (env.booFor input.stationIn direct.price) input.stationIn direct with
    ⟨black, line, is, made⟩ | ⟨black, ⟨white, line, is, made⟩ |
      ⟨white, ⟨covered, line, is, made⟩ | ⟨uncovered, line, is, made⟩⟩⟩
  · rw [made]
    refine iff_of_true (freeBySubscription_of_listed (fun unlisted => ?_) (by rw [is.kind_eq]; simp))
      fun unlisted => ?_
    · cases unlisted.1.symm.trans black
    · cases unlisted.1.symm.trans black
  · rw [made]
    refine iff_of_true (freeBySubscription_of_listed (fun unlisted => ?_) (by rw [is.kind_eq]; simp))
      fun unlisted => ?_
    · cases unlisted.2.symm.trans white
    · cases unlisted.2.symm.trans white
  · rw [made]
    constructor
    · intro rule _
      exact ⟨fun _ _ _ => covered, fun given _ => rule.only_if given is.kind_eq⟩
    · intro agrees
      exact ⟨fun _ _ _ _ => is, fun given _ => (agrees ⟨black, white⟩).to_entry given covered⟩
  · rw [made]
    constructor
    · intro rule unlisted
      refine ⟨fun sid eq entry => ?_, fun _ listed => ?_⟩
      · have free := (rule.if_entry unlisted sid eq entry).kind_eq
        cases is.kind_eq.symm.trans free
      · cases uncovered.symm.trans listed
    · intro agrees
      refine ⟨fun unlisted sid eq entry => ?_, fun _ free => ?_⟩
      · cases uncovered.symm.trans ((agrees unlisted).of_entry sid eq entry)
      · cases is.kind_eq.symm.trans free

/-- At one station without a price the line is free by the set of pairs alone. -/
theorem noDirectRule_iff (same : input.stationIn = input.stationOut)
    (missing : resolveDirectPriceOpt env input.context input.stationIn input.stationOut = none) :
    NoDirectRule env input ↔
      (input.context.subscriptionHistory.isSome = true →
      ∀ boo, env.booFromTollBySout input.stationIn = .ok boo →
      Unlisted env input.context input.stationIn input.stationIn boo.str →
      segmentCoveredBySubscription input.stationIn input.stationIn
        input.context.subscriptionSet = true →
      Entitled env input.context input.stationIn input.stationIn
        (env.stageIdForSegment input.stationIn input.stationIn) boo.str) := by
  refine forall_congr' fun _ => forall_congr' fun boo => forall_congr' fun found => ?_
  rw [feeLines_of_no_direct same missing]
  rcases handleSameStationWithRoute_none_cases env input.context input.builder input.stationIn
    with ⟨e, refused⟩ | ⟨boo', found', black, ⟨white, line, is, made⟩ |
      ⟨white, covered, line, is, made⟩⟩
  · constructor
    · rintro - ⟨black, white⟩ covered
      -- such a trip is not refused
      simp only [handleSameStationWithRoute, found] at refused
      change (if _ then _ else _) = _ at refused
      rw [if_neg (by simp [black]), if_neg (by simp [white]), if_pos covered] at refused
      cases refused
    · intro _ total lines returned
      cases refused.symm.trans returned
  · cases found.symm.trans found'
    constructor
    · rintro - ⟨-, unlisted⟩
      cases white.symm.trans unlisted
    · intro _ total lines returned line' mem free
      cases made.symm.trans returned
      rw [List.mem_singleton.mp mem] at free
      cases is.kind_eq.symm.trans free
  · cases found.symm.trans found'
    constructor
    · intro rule _ _
      exact rule _ _ made line List.mem_cons_self is.kind_eq
    · intro entitled total lines returned line' mem _
      exact entitled ⟨black, white⟩ covered

/-- A stage of a subscribed pair is free by the set of pairs alone, unless the white list
applies. -/
theorem coveredStageRule_iff (sid : Int) :
    CoveredStageRule env input boo sid ↔
      (segmentIsWhitelisted input.stationOut
        (env.segmentCycleId input.stationIn input.stationOut) input.context.whiteList
        boo.str = false →
      segmentCoveredBySubscription input.stationIn input.stationOut
        input.context.subscriptionSet = true →
      input.context.subscriptionHistory.isSome = true →
      Entitled env input.context input.stationIn input.stationOut (some sid) boo.str) := by
  rcases calculateFeeForOneStageId_cases env input.context input.builder input.stationIn
    input.stationOut boo (env.segmentCycleId input.stationIn input.stationOut) sid with
    ⟨white, line, is, made⟩ | ⟨white, ⟨covered, line, is, made⟩ | ⟨uncovered, -⟩⟩
  · refine iff_of_true (fun _ a line' made' => ?_) fun unlisted => ?_
    · cases made.symm.trans made'
      refine freeBySubscription_of_listed (fun unlisted => ?_) (by rw [is.kind_eq]; simp)
      cases unlisted.2.symm.trans white
    · cases unlisted.symm.trans white
  · constructor
    · intro rule _ _ given
      exact (rule covered 0 line made).only_if given is.kind_eq
    · intro entitled _ a line' made'
      cases made.symm.trans made'
      exact ⟨fun _ _ _ _ => is, fun given _ => entitled white covered given⟩
  · refine iff_of_true (fun covered => ?_) fun _ covered => ?_
    · cases uncovered.symm.trans covered
    · cases uncovered.symm.trans covered

/-- A stage that is priced by its stage follows the rule. -/
theorem pricedStageRule (sid : Int) : PricedStageRule env input boo sid := by
  intro uncovered found hit a line made
  rcases calculateFeeForOneStageId_cases env input.context input.builder input.stationIn
    input.stationOut boo (env.segmentCycleId input.stationIn input.stationOut) sid with
    ⟨white, line', is, made'⟩ | ⟨-, ⟨covered, -⟩ | ⟨-, ⟨-, e, refused⟩ | ⟨found', hit', from_price⟩⟩⟩
  · cases made.symm.trans made'
    refine freeBySubscription_of_listed (fun unlisted => ?_) (by rw [is.kind_eq]; simp)
    cases unlisted.1.2.symm.trans white
  · cases uncovered.symm.trans covered
  · cases made.symm.trans refused
  · cases hit.symm.trans hit'
    replace made := from_price.symm.trans made
    rcases feeFromStagePrice_cases env input.context input.builder input.stationIn
      input.stationOut boo (env.segmentCycleId input.stationIn input.stationOut)
      ((env.tollAbByStage sid).getD (input.stationIn, input.stationOut)) found with
      ⟨-, e, refused⟩ | ⟨-, ⟨white, line', is, made'⟩ |
        ⟨-, ⟨subscribed, line', is, made'⟩ | ⟨unsubscribed, line', is, made'⟩⟩⟩
    · cases made.symm.trans refused
    · cases made.symm.trans made'
      refine freeBySubscription_of_listed (fun unlisted => ?_) (by rw [is.kind_eq]; simp)
      cases unlisted.2.2.symm.trans white
    · cases made.symm.trans made'
      refine ⟨fun _ _ _ _ => is, fun given _ => ?_⟩
      exact .inl (entry_of_isSubscribedByStageId given subscribed)
    · cases made.symm.trans made'
      refine ⟨fun _ sid' eq entry => ?_, fun _ free => ?_⟩
      · rw [eq, isSubscribedByStageId_of_entry entry] at unsubscribed
        cases unsubscribed
      · cases is.kind_eq.symm.trans free

end Lines

/-- The rule holds of the lines of a trip exactly when the set of subscribed pairs agrees with
the history. -/
theorem freeBySubscription_iff (env : FeeEnv) (input : FeeInput) :
    SubscriptionRule env input ↔ SubscriptionsAgree env input := by
  refine and_congr ?_ (and_congr ?_ ?_)
  · exact forall_congr' fun _ => forall_congr' fun direct => forall_congr' fun _ =>
      directRule_iff direct
  · exact forall_congr' fun same => forall_congr' fun missing => noDirectRule_iff same missing
  · refine forall_congr' fun _ => forall₄_congr fun boo stageIds _ _ => ?_
    constructor
    · intro rule unlisted covered given sid mem
      exact (coveredStageRule_iff sid).mp (rule sid mem).1 unlisted covered given
    · intro agree sid mem
      refine ⟨(coveredStageRule_iff sid).mpr fun unlisted covered given => ?_, pricedStageRule sid⟩
      exact agree unlisted covered given sid mem

/-- A station with a price for its stage `7`. -/
def stationWithStage : FeeEnv where
  tollBoo _ := some "3"
  price _ _ _ := some { priceId := 9, priceAmount := some 100, stageId := some 7 }
  parseDatetime s _ := if s = "2025-01-01 00:00:00" then some ⟨1735689600000000000⟩ else none

/-- A trip at the station by a tag that subscribes to the stage. -/
def subscribedTrip : FeeInput where
  stationIn := 1
  stationOut := 1
  subscriptionHistory := some [{ stageId := 7, startDate := some "2025-01-01 00:00:00" }]
  transDatetime := some ⟨1767225600000000000⟩

/-- It pays all the same. -/
theorem subscribed_trip_pays :
    ¬ ∀ (env : FeeEnv) (input : FeeInput), SubscriptionRule env input := by
  intro claim
  have rule := (directRule_iff _).mp ((claim stationWithStage subscribedTrip).1 rfl _ rfl)
    ⟨by decide +kernel, by decide +kernel⟩
  have covered := rule.of_entry 7 rfl (by unfold EntryFor; decide +kernel)
  exact absurd covered (by decide +kernel)

end TollBackend

import TollBackend.TollFee.Accounting

/-!
# Concessions

The white list, the stages a tag subscribes to and its subscriptions are concessions: they make
stages free. The more of them a tag has, the less it pays: no trip becomes dearer by one, and
none that was priced is refused.

## Main definitions

* `FeeInput.ConcededBy`: the same trip with more concessions.
* `Waived`: an amount stays or is waived.

## Main results

* `feeLines_mono`: more concessions waive some of the lines.
-/

namespace TollBackend

/-- The same trip, of a tag that has all the concessions and perhaps more. The black list and
the exceptions, which change prices, are the same. -/
structure FeeInput.ConcededBy (input more : FeeInput) : Prop where
  stationIn : more.stationIn = input.stationIn
  stationOut : more.stationOut = input.stationOut
  vehicleType : more.vehicleType = input.vehicleType
  transDatetime : more.transDatetime = input.transDatetime
  blackList : more.context.blackList = input.context.blackList
  exList : more.context.exList = input.context.exList
  whiteList : input.context.whiteList ⊆ more.context.whiteList
  stages : input.context.subscriptionSet ⊆ more.context.subscriptionSet
  subscriptions : (input.subscriptionHistory = none ∧ more.subscriptionHistory = none ∧
      ∀ ids ∈ input.subscriptionStageIds, ∃ ids' ∈ more.subscriptionStageIds, ids ⊆ ids') ∨
    ∃ history ∈ input.subscriptionHistory, ∃ history' ∈ more.subscriptionHistory,
      history ⊆ history'

/-- The amount of a line stays as it is, or the line is waived. -/
def Waived (line line' : FeeLine) : Prop :=
  line'.detail.priceAmount = line.detail.priceAmount ∨ line'.detail.priceAmount = 0

/-! ### Lists -/

section Lists

theorem segmentInList_mono {tollB : Int} {cycleId : Option Int} {list list' : List WbEntry}
    (more : list ⊆ list') {boo : String} (listed : segmentInList tollB cycleId list boo = true) :
    segmentInList tollB cycleId list' boo = true := by
  obtain ⟨entry, mem, applies⟩ := List.any_eq_true.mp listed
  exact List.any_eq_true.mpr ⟨entry, more mem, applies⟩

theorem segmentCovered_mono {tollA tollB : Int} {stages stages' : List (Int × Int)}
    (more : stages ⊆ stages') (covered : segmentCoveredBySubscription tollA tollB stages = true) :
    segmentCoveredBySubscription tollA tollB stages' = true :=
  List.contains_iff_mem.mpr (more (List.contains_iff_mem.mp covered))

variable {env : FeeEnv} {ctx ctx' : FeeContext}

/-- The `BOO` that the price of a pair of stations is looked up with. -/
def FeeEnv.directBoo (env : FeeEnv) (sout : Int) : String :=
  match env.booFromTollBySout sout with
  | .ok parsed => parsed.str
  | .error _ => "3"

/-- The price of a pair of stations depends on the lists through the black list and the
exceptions only. -/
theorem resolveDirectPriceOpt_eq (env : FeeEnv) (ctx : FeeContext) (sin sout : Int) :
    resolveDirectPriceOpt env ctx sin sout =
      if segmentInBlackList sout (env.segmentCycleId sin sout) ctx.blackList
          (env.directBoo sout) = true ∨
        effectiveVehicleType sin sout ctx.exList (env.directBoo sout) ctx.vehicleType =
          ctx.vehicleType
      then getPrice env sin sout ctx.vehicleType
      else getSegmentPriceWithEx env sin sout ctx.vehicleType ctx.exList (env.directBoo sout) := by
  unfold FeeContext.blackList FeeContext.exList
  cases given : ctx.listCtx with
  | none =>
    -- without lists, no exception applies
    rw [resolveDirectPriceOpt, given]
    exact (if_pos (.inr rfl)).symm
  | some lists =>
    have step : resolveDirectPriceOpt env ctx sin sout =
        if segmentInBlackList sout (env.segmentCycleId sin sout) lists.blackList
            (env.directBoo sout) = true then getPrice env sin sout ctx.vehicleType
        else if effectiveVehicleType sin sout lists.exList (env.directBoo sout) ctx.vehicleType =
          ctx.vehicleType then getPrice env sin sout ctx.vehicleType
        else getSegmentPriceWithEx env sin sout ctx.vehicleType lists.exList
          (env.directBoo sout) := by
      rw [resolveDirectPriceOpt, given]
      rfl
    rw [step, Option.map_some, Option.map_some, Option.getD_some, Option.getD_some]
    by_cases black : segmentInBlackList sout (env.segmentCycleId sin sout) lists.blackList
      (env.directBoo sout) = true
    · rw [if_pos black, if_pos (.inl black)]
    · rw [if_neg black]
      split
      · next same => rw [if_pos (.inr same)]
      · next other => rw [if_neg fun h => h.elim black other]

end Lists

/-! ### One stage -/

section Concessions

variable {env : FeeEnv} {input more : FeeInput} {boo : ParsedBoo}

namespace FeeInput.ConcededBy

theorem whitelisted (concedes : input.ConcededBy more) {tollB : Int} {cycleId : Option Int}
    {boo : String} (listed : segmentIsWhitelisted tollB cycleId input.context.whiteList boo = true) :
    segmentIsWhitelisted tollB cycleId more.context.whiteList boo = true :=
  segmentInList_mono concedes.whiteList listed

theorem covered (concedes : input.ConcededBy more) {tollA tollB : Int}
    (covered : segmentCoveredBySubscription tollA tollB input.context.subscriptionSet = true) :
    segmentCoveredBySubscription tollA tollB more.context.subscriptionSet = true :=
  segmentCovered_mono concedes.stages covered

theorem subscribed (concedes : input.ConcededBy more) {stageId : Option Int} {boo : String}
    (subscribed : isSubscribedByStageId env input.context stageId boo = true) :
    isSubscribedByStageId env more.context stageId boo = true := by
  have time : ∀ i : FeeInput, i.context.transDatetime = i.transDatetime := fun _ => rfl
  have histories : ∀ i : FeeInput, i.context.subscriptionHistory = i.subscriptionHistory :=
    fun _ => rfl
  have stageIds : ∀ i : FeeInput, i.context.subscriptionStageIds = i.subscriptionStageIds :=
    fun _ => rfl
  unfold isSubscribedByStageId at subscribed ⊢
  rcases concedes.subscriptions with ⟨none_, none', ids⟩ | ⟨history, some_, history', some', sub⟩
  · rw [histories, none_, stageIds] at subscribed
    rw [histories, none', stageIds]
    dsimp only at subscribed ⊢
    cases stageId with
    | none => simp at subscribed
    | some sid =>
      cases given : input.subscriptionStageIds with
      | none => simp [given] at subscribed
      | some list =>
        obtain ⟨list', given', sub⟩ := ids list given
        have mem : sid ∈ list := by simpa [given] using subscribed
        simp [Option.mem_def.mp given', sub mem]
  · rw [histories, Option.mem_def.mp some_] at subscribed
    rw [histories, Option.mem_def.mp some']
    cases stageId with
    | none => simp at subscribed
    | some sid =>
      simp only [subscriptionEntryForStage, histories, time, Option.mem_def.mp some_,
        Option.bind_some, List.find?_isSome] at subscribed
      simp only [subscriptionEntryForStage, histories, time, Option.mem_def.mp some',
        Option.bind_some, List.find?_isSome, concedes.transDatetime]
      obtain ⟨entry, mem, valid⟩ := subscribed
      exact ⟨entry, sub mem, valid⟩

theorem stagePrice_eq (concedes : input.ConcededBy more) (sid : Int) :
    stagePrice env more boo sid = stagePrice env input boo sid := by
  have vehicle : more.context.vehicleType = input.context.vehicleType :=
    congrArg toString concedes.vehicleType
  simp only [stagePrice, stageVehicleType, concedes.stationIn, concedes.stationOut,
    concedes.blackList, concedes.exList, vehicle]

theorem exactCharge_eq (concedes : input.ConcededBy more) (price : PriceDto) :
    exactCharge env more price = exactCharge env input price := by
  rw [exactCharge, exactCharge, concedes.transDatetime]

/-- A stage that costs something costs the same with more concessions, or nothing. -/
theorem stageCharge_mono (concedes : input.ConcededBy more) {sid charge : Int}
    (costs : stageCharge env input boo sid = some charge) :
    stageCharge env more boo sid = some charge ∨ stageCharge env more boo sid = some 0 := by
  unfold stageCharge at costs ⊢
  rw [concedes.stationIn, concedes.stationOut, concedes.stagePrice_eq, concedes.transDatetime]
  split at costs
  · next free =>
    -- what makes the stage free before its price is looked up stays
    rw [if_pos]
    · exact .inl costs
    · rcases Bool.or_eq_true_iff.mp free with listed | covered
      · rw [concedes.whitelisted listed, Bool.true_or]
      · rw [concedes.covered covered, Bool.or_true]
  · split
    · exact .inr rfl
    · obtain ⟨found, hit, priced⟩ := Option.bind_eq_some_iff.mp costs
      rw [hit, Option.bind_some]
      split at priced
      · cases priced
      · next valid =>
        rw [if_neg valid]
        split at priced
        · next free =>
          rw [if_pos]
          · exact .inl priced
          · rcases Bool.or_eq_true_iff.mp free with listed | subscribed
            · rw [concedes.whitelisted listed, Bool.true_or]
            · rw [concedes.subscribed subscribed, Bool.or_true]
        · split
          · exact .inr rfl
          · rw [concedes.exactCharge_eq]
            exact .inl priced

/-- The stages of a leg. -/
theorem stageCharges_mono (concedes : input.ConcededBy more) {stageIds charges : List Int}
    (costs : List.Forall₂ (fun sid charge => stageCharge env input boo sid = some charge)
      stageIds charges) :
    ∃ charges', List.Forall₂ (fun sid charge => stageCharge env more boo sid = some charge)
        stageIds charges' ∧
      List.Forall₂ (fun charge charge' => charge' = charge ∨ charge' = 0) charges charges' := by
  induction costs with
  | nil => exact ⟨[], .nil, .nil⟩
  | cons cost _ ih =>
    obtain ⟨charges', costs', waived⟩ := ih
    rcases concedes.stageCharge_mono cost with same | free
    · exact ⟨_ :: charges', .cons same costs', .cons (.inl rfl) waived⟩
    · exact ⟨0 :: charges', .cons free costs', .cons (.inr rfl) waived⟩

theorem directPrice_eq (concedes : input.ConcededBy more) :
    resolveDirectPriceOpt env more.context more.stationIn more.stationOut =
      resolveDirectPriceOpt env input.context input.stationIn input.stationOut := by
  have vehicle : more.context.vehicleType = input.context.vehicleType :=
    congrArg toString concedes.vehicleType
  rw [resolveDirectPriceOpt_eq, resolveDirectPriceOpt_eq, concedes.stationIn, concedes.stationOut,
    concedes.blackList, concedes.exList, vehicle]

end FeeInput.ConcededBy

/-! ### The fee -/

/-- The total of a fee is the sum of its lines, cast to 32 bits. -/
theorem total_eq_of_returned {total : Int} {lines : List FeeLine}
    (returned : feeLines env input = .ok (total, lines)) :
    total = toI32 (lines.map fun line => line.detail.priceAmount).sum := by
  -- a single line, whose amount is the total
  have one : ∀ (line : FeeLine) (a : Int), line.detail.priceAmount = a → toI32 a = a →
      a = toI32 ([line].map fun line => line.detail.priceAmount).sum := by
    intro line a amount fits
    simp [amount, fits]
  have cast : ∀ price, toI32 (calculateAmountFromPrice env input.context price) =
      calculateAmountFromPrice env input.context price := by
    intro price
    rw [calculateAmountFromPrice_eq, toI32_toI32]
  by_cases same : input.stationIn = input.stationOut
  · cases price : resolveDirectPriceOpt env input.context input.stationIn input.stationOut with
    | none =>
      rw [feeLines_of_no_direct same price] at returned
      rcases handleSameStationWithRoute_none_cases env input.context input.builder
        input.stationIn with ⟨e, refused⟩ | ⟨boo, -, -, ⟨-, line, is, made⟩ | ⟨-, -, line, is, made⟩⟩
      · cases refused.symm.trans returned
      · cases made.symm.trans returned
        exact one line 0 is.amount_eq rfl
      · cases made.symm.trans returned
        exact one line 0 is.amount_eq rfl
    | some direct =>
      rw [feeLines_of_direct same price] at returned
      rcases buildSameStationDetailForDirectPrice_cases env input.context input.builder
        (env.booFor input.stationIn direct.price) input.stationIn direct with
        ⟨-, line, is, made⟩ | ⟨-, ⟨-, line, is, made⟩ | ⟨-, ⟨-, line, is, made⟩ | ⟨-, line, is, made⟩⟩⟩
      all_goals
        rw [made] at returned
        cases returned
      · exact one line _ is.amount_eq (cast _)
      · exact one line 0 is.amount_eq rfl
      · exact one line 0 is.amount_eq rfl
      · exact one line _ is.amount_eq (cast _)
  · obtain ⟨boo, stageIds, -, -, -, added⟩ := (feeLines_eq_ok_of_ne same).mp returned
    obtain ⟨priced, each, rfl, rfl⟩ := addStages_priced added
    obtain ⟨charges, -, charged⟩ := stages_charged each
    obtain ⟨amounts, details⟩ := charged_amounts charged
    have sum := foldl_toI32_add (priced.map Prod.fst) 0
    rw [toI32_zero, Int.zero_add] at sum
    rw [sum, List.nil_append, details, amounts]

/-- The line of a trip at one station with more concessions. -/
theorem direct_mono (concedes : input.ConcededBy more) (direct : FoundPrice) (boo : ParsedBoo) :
    Waived
      (buildSameStationDetailForDirectPrice env input.context input.builder input.stationIn direct
        boo).1
      (buildSameStationDetailForDirectPrice env more.context more.builder input.stationIn direct
        boo).1 := by
  have amount : calculateAmountFromPrice env more.context direct.price =
      calculateAmountFromPrice env input.context direct.price := by
    rw [calculateAmountFromPrice_eq, calculateAmountFromPrice_eq, concedes.exactCharge_eq]
  rcases buildSameStationDetailForDirectPrice_cases env more.context more.builder boo
    input.stationIn direct with
    ⟨black', line', is', made'⟩ | ⟨black', ⟨-, line', is', made'⟩ |
      ⟨white', ⟨-, line', is', made'⟩ | ⟨covered', line', is', made'⟩⟩⟩
  · -- on the black list with more concessions too
    rw [made']
    rw [concedes.blackList] at black'
    rcases buildSameStationDetailForDirectPrice_cases env input.context input.builder boo
      input.stationIn direct with ⟨-, line, is, made⟩ | ⟨black, -⟩
    · rw [made]
      exact .inl (is'.amount_eq.trans (amount.trans is.amount_eq.symm))
    · cases black'.symm.trans black
  · rw [made']
    exact .inr is'.amount_eq
  · rw [made']
    exact .inr is'.amount_eq
  · rw [made']
    rcases buildSameStationDetailForDirectPrice_cases env input.context input.builder boo
      input.stationIn direct with
      ⟨-, line, is, made⟩ | ⟨-, ⟨white, -⟩ | ⟨-, ⟨covered, -⟩ | ⟨-, line, is, made⟩⟩⟩
    · rw [made]
      exact .inl (is'.amount_eq.trans (amount.trans is.amount_eq.symm))
    · cases white'.symm.trans (concedes.whitelisted white)
    · cases covered'.symm.trans (concedes.covered covered)
    · rw [made]
      exact .inl (is'.amount_eq.trans (amount.trans is.amount_eq.symm))

/-- A trip at one station without a price. -/
theorem noDirect_mono (concedes : input.ConcededBy more) {total : Int} {lines : List FeeLine}
    (returned : handleSameStationWithRoute env input.context input.builder input.stationIn none =
      .ok (total, lines)) :
    ∃ total' lines', handleSameStationWithRoute env more.context more.builder input.stationIn none =
        .ok (total', lines') ∧ List.Forall₂ Waived lines lines' := by
  rcases handleSameStationWithRoute_none_cases env more.context more.builder input.stationIn
    with ⟨e, refused'⟩ | ⟨boo', -, -, ⟨-, line', is', made'⟩ | ⟨-, -, line', is', made'⟩⟩
  · -- what it was free by makes it free again
    rcases handleSameStationWithRoute_none_cases env input.context input.builder input.stationIn
      with ⟨e, refused⟩ | ⟨boo, found, black, free⟩
    · cases refused.symm.trans returned
    · exfalso
      rw [← concedes.blackList] at black
      simp only [handleSameStationWithRoute, found] at refused'
      change (if _ then _ else _) = _ at refused'
      rw [if_neg (by rw [black]; exact Bool.false_ne_true)] at refused'
      split at refused'
      · cases refused'
      · next white' =>
        split at refused'
        · cases refused'
        · next covered' =>
          rcases free with ⟨white, -⟩ | ⟨-, covered, -⟩
          · exact white' (concedes.whitelisted white)
          · exact covered' (concedes.covered covered)
  all_goals
    have single : ∃ line, lines = [line] := by
      rcases handleSameStationWithRoute_none_cases env input.context input.builder input.stationIn
        with ⟨e, refused⟩ | ⟨boo, -, -, ⟨-, line, -, made⟩ | ⟨-, -, line, -, made⟩⟩
      · cases refused.symm.trans returned
      · cases made.symm.trans returned
        exact ⟨line, rfl⟩
      · cases made.symm.trans returned
        exact ⟨line, rfl⟩
    obtain ⟨line, rfl⟩ := single
    exact ⟨0, [line'], made', .cons (.inr is'.amount_eq) .nil⟩

/-- The lines of a leg with more concessions. -/
theorem stages_mono {charges charges' : List Int}
    {priced priced' : List (Int × FeeLine)}
    (charged : List.Forall₂ (fun charge p => StageCharged env input charge p.1 p.2) charges priced)
    (charged' : List.Forall₂ (fun charge p => StageCharged env more charge p.1 p.2) charges'
      priced')
    (waived : List.Forall₂ (fun charge charge' => charge' = charge ∨ charge' = 0) charges
      charges') :
    List.Forall₂ Waived (priced.map Prod.snd) (priced'.map Prod.snd) := by
  induction waived generalizing priced priced' with
  | nil =>
    cases charged
    cases charged'
    exact .nil
  | cons here _ ih =>
    cases charged with
    | cons first rest =>
      cases charged' with
      | cons first' rest' =>
        refine .cons ?_ (ih rest rest')
        rw [Waived, first.amount_eq, first'.amount_eq, first.cast, first'.cast]
        rcases here with same | free
        · exact .inl (by rw [same])
        · exact .inr (by rw [free]; rfl)

/-- A trip that is priced is priced with more concessions too, line by line, each with the same
amount or none. -/
theorem lines_mono (concedes : input.ConcededBy more) {total : Int} {lines : List FeeLine}
    (returned : feeLines env input = .ok (total, lines)) :
    ∃ total' lines', feeLines env more = .ok (total', lines') ∧
      List.Forall₂ Waived lines lines' := by
  by_cases same : input.stationIn = input.stationOut
  · have same' : more.stationIn = more.stationOut := by
      rw [concedes.stationIn, concedes.stationOut, same]
    cases price : resolveDirectPriceOpt env input.context input.stationIn input.stationOut with
    | none =>
      rw [feeLines_of_no_direct same price] at returned
      rw [feeLines_of_no_direct same' (concedes.directPrice_eq.trans price), concedes.stationIn]
      exact noDirect_mono concedes returned
    | some direct =>
      rw [feeLines_of_direct same price] at returned
      rw [feeLines_of_direct same' (concedes.directPrice_eq.trans price), concedes.stationIn]
      cases returned
      exact ⟨_, _, rfl, .cons (direct_mono concedes direct _) .nil⟩
  · have other : more.stationIn ≠ more.stationOut := by
      rw [concedes.stationIn, concedes.stationOut]
      exact same
    obtain ⟨boo, stageIds, found, leg, nonempty, added⟩ := (feeLines_eq_ok_of_ne same).mp returned
    obtain ⟨priced, each, rfl, -⟩ := addStages_priced added
    obtain ⟨charges, costs, charged⟩ := stages_charged each
    obtain ⟨charges', costs', waived⟩ := concedes.stageCharges_mono costs
    obtain ⟨priced', each', charged'⟩ := stages_priced_of_charges costs'
    refine ⟨_, _, (feeLines_eq_ok_of_ne other).mpr ⟨boo, stageIds, ?_, ?_, nonempty,
      addStages_of_priced each' 0 []⟩, ?_⟩
    · rw [concedes.stationOut, found]
    · rw [concedes.stationIn, concedes.stationOut, leg]
    · rw [List.nil_append, List.nil_append]
      exact stages_mono charged charged' waived

theorem toI32_lt (n : Int) : toI32 n < 2 ^ 31 :=
  Int.bmod_lt (by decide)

/-- Amounts that are not negative do not grow by waiving some. -/
theorem sum_waived {lines lines' : List FeeLine} (waived : List.Forall₂ Waived lines lines')
    (nonneg : ∀ line ∈ lines, 0 ≤ line.detail.priceAmount) :
    0 ≤ (lines'.map fun line => line.detail.priceAmount).sum ∧
      (lines'.map fun line => line.detail.priceAmount).sum ≤
        (lines.map fun line => line.detail.priceAmount).sum := by
  induction waived with
  | nil => exact ⟨le_rfl, le_rfl⟩
  | cons here _ ih =>
    obtain ⟨low, high⟩ := ih fun line mem => nonneg line (List.mem_cons_of_mem _ mem)
    have first := nonneg _ List.mem_cons_self
    simp only [List.map_cons, List.sum_cons]
    rcases here with same | free
    · rw [same]
      exact ⟨Int.add_nonneg first low, Int.add_le_add_left high _⟩
    · rw [free]
      omega

/-- More concessions never make a trip dearer: a trip that is priced is priced with them too,
line by line with the same amount or none, and if no line of it is negative and its total is
their sum, then so is the total with the concessions, which is no greater. -/
theorem feeLines_mono (concedes : input.ConcededBy more) {total : Int} {lines : List FeeLine}
    (returned : feeLines env input = .ok (total, lines)) :
    ∃ total' lines', feeLines env more = .ok (total', lines') ∧
      List.Forall₂ Waived lines lines' ∧
      ((∀ line ∈ lines, 0 ≤ line.detail.priceAmount) →
        total = (lines.map fun line => line.detail.priceAmount).sum →
        total' = (lines'.map fun line => line.detail.priceAmount).sum ∧ total' ≤ total) := by
  obtain ⟨total', lines', returned', waived⟩ := lines_mono concedes returned
  refine ⟨total', lines', returned', waived, fun nonneg sum => ?_⟩
  obtain ⟨low, high⟩ := sum_waived waived nonneg
  have cast := total_eq_of_returned returned
  have cast' := total_eq_of_returned returned'
  -- the greater sum fits in 32 bits, so the smaller one does
  have fits : total < 2 ^ 31 := by
    rw [cast]
    exact toI32_lt _
  have exact' : total' = (lines'.map fun line => line.detail.priceAmount).sum := by
    rw [cast']
    exact toI32_of_mem (by omega) (by omega)
  exact ⟨exact', by omega⟩

end Concessions

/-- Two stages that cost 100 and 200. -/
def twoPricedStages : FeeEnv where
  tollBoo _ := some "3"
  segmentsForLeg _ _ := some [7, 8]
  priceByStageId sid _ := some { priceId := sid, stageId := some sid
                                 priceAmount := some (if sid = 7 then 100 else 200) }
  parseDatetime s _ := if s = "2025-01-01 00:00:00" then some ⟨1735689600000000000⟩ else none

/-- A trip over both, by a tag with these subscriptions. -/
def tripWith (history : List SubscriptionHistoryDto) : FeeInput where
  stationIn := 1
  stationOut := 2
  subscriptionHistory := some history
  transDatetime := some ⟨1767225600000000000⟩

/-- A subscription to the first stage. -/
def firstStageSubscription : SubscriptionHistoryDto where
  stageId := 7
  startDate := some "2025-01-01 00:00:00"

/-- With the subscription the trip is no dearer than without. -/
theorem feeLines_mono_subscription : ∃ total' lines',
    feeLines twoPricedStages (tripWith [firstStageSubscription]) = .ok (total', lines') ∧
      total' = (lines'.map fun line => line.detail.priceAmount).sum ∧ total' ≤ 300 := by
  have concedes : (tripWith []).ConcededBy (tripWith [firstStageSubscription]) :=
    { stationIn := rfl
      stationOut := rfl
      vehicleType := rfl
      transDatetime := rfl
      blackList := rfl
      exList := rfl
      whiteList := fun _ mem => mem
      stages := fun _ mem => mem
      subscriptions := .inr ⟨[], rfl, [firstStageSubscription], rfl, List.nil_subset _⟩ }
  have priced : ((feeLines twoPricedStages (tripWith [])).toOption.map fun fee =>
      (fee.1, fee.2.map fun line => line.detail.priceAmount)) = some (300, [100, 200]) := by
    decide +kernel
  cases fee : feeLines twoPricedStages (tripWith []) with
  | error e =>
    rw [fee] at priced
    cases priced
  | ok fee' =>
    obtain ⟨total, lines⟩ := fee'
    rw [fee] at priced
    obtain ⟨rfl, amounts⟩ := Prod.mk.inj (Option.some.inj priced)
    obtain ⟨total', lines', returned', -, sum⟩ := feeLines_mono concedes fee
    refine ⟨total', lines', returned', sum (fun line mem => ?_) ?_⟩
    · have known : line.detail.priceAmount ∈ [100, 200] := by
        rw [← amounts]
        exact List.mem_map_of_mem mem
      simp only [List.mem_cons, List.not_mem_nil, or_false] at known
      omega
    · rw [amounts]
      rfl

end TollBackend

import TollBackend.TollFee.Flow

/-!
# The black list comes first

A vehicle on the black list of its exit station pays the price of its own type: no white list
makes the passage free, and no exception list gives it another vehicle type. At one station the
code tries the black list first. Over the stages of a segment it tries the white list first,
and once more with the owner of the price, so there a vehicle on both lists passes for free.

## Main definitions

* `ExitBlack`: the exit station is on the black list, by the station's own `BOO`.
* `BlackFirst`: a line that is not whitelisted and is priced for the vehicle's own type.
* `ListsApart`: no white list applies to the stages of a black-listed exit.

## Main results

* `blackFirst_iff`: the lines of a fee respect the black list exactly when the lists are apart.
-/

namespace TollBackend

/-- The exit station, its cycle and its `BOO` match an entry of the black list. -/
def ExitBlack (env : FeeEnv) (input : FeeInput) : Prop :=
  ∃ boo, env.booFromTollBySout input.stationOut = .ok boo ∧
    segmentInBlackList input.stationOut (env.segmentCycleId input.stationIn input.stationOut)
      input.context.blackList boo.str = true

/-- The line is not whitelisted, and if it has a price, that was looked up for the vehicle's own
type. -/
def BlackFirst (input : FeeInput) (line : FeeLine) : Prop :=
  match line.kind with
  | .whitelist => False
  | .subscription => True
  | .regular found => found.vehicleType = input.context.vehicleType

/-- The price of the stage for the vehicle's own type is missing or not in force. -/
def NoValidPrice (env : FeeEnv) (input : FeeInput) (sid : Int) : Prop :=
  ∀ price, env.priceByStageId sid input.context.vehicleType = some price →
    env.validAt price (env.checkTime input.transDatetime .check) = false

/-- Entry and exit are one station; or, where the exit is on the black list, the white list does
not apply by the station's `BOO`, and unless the pair is covered by a subscription or some stage
has no valid price, it does not apply by the `BOO` of any stage's price. -/
def ListsApart (env : FeeEnv) (input : FeeInput) : Prop :=
  input.stationIn = input.stationOut ∨
  ∀ boo stageIds, env.booFromTollBySout input.stationOut = .ok boo →
    segmentInBlackList input.stationOut (env.segmentCycleId input.stationIn input.stationOut)
      input.context.blackList boo.str = true →
    env.segmentsForLeg input.stationIn input.stationOut = some stageIds → stageIds ≠ [] →
    segmentIsWhitelisted input.stationOut (env.segmentCycleId input.stationIn input.stationOut)
      input.context.whiteList boo.str = false ∧
    (segmentCoveredBySubscription input.stationIn input.stationOut
        input.context.subscriptionSet = true ∨
      (∃ sid ∈ stageIds, NoValidPrice env input sid) ∨
      ∀ sid ∈ stageIds, ∀ price,
        env.priceByStageId sid input.context.vehicleType = some price →
        segmentIsWhitelisted input.stationOut
          (env.segmentCycleId input.stationIn input.stationOut) input.context.whiteList
          (ParsedBoo.fromPrice price).str = false)

/-! ### One station -/

section SameStation

variable {env : FeeEnv} {input : FeeInput} {boo : ParsedBoo}

/-- Under the black list the direct price is looked up for the vehicle's own type. -/
theorem resolveDirectPriceOpt_of_black (found : env.booFromTollBySout input.stationOut = .ok boo)
    (black : segmentInBlackList input.stationOut
      (env.segmentCycleId input.stationIn input.stationOut) input.context.blackList boo.str =
        true) :
    resolveDirectPriceOpt env input.context input.stationIn input.stationOut =
      getPrice env input.stationIn input.stationOut input.context.vehicleType := by
  unfold resolveDirectPriceOpt
  cases lists : input.context.listCtx with
  | none => rfl
  | some ctx =>
    rw [FeeContext.blackList, lists] at black
    simp only [found]
    exact if_pos black

/-- A line at one station respects the black list. -/
theorem sameStation_blackFirst (same : input.stationIn = input.stationOut)
    (found : env.booFromTollBySout input.stationOut = .ok boo)
    (black : segmentInBlackList input.stationOut
      (env.segmentCycleId input.stationIn input.stationOut) input.context.blackList boo.str =
        true) {total : Int} {lines : List FeeLine}
    (returned : feeLines env input = .ok (total, lines)) :
    ∀ line ∈ lines, BlackFirst input line := by
  have direct := resolveDirectPriceOpt_of_black found black
  cases price : env.price input.stationIn input.stationOut input.context.vehicleType with
  | none =>
    -- without a price a black-listed trip is refused
    have missing : resolveDirectPriceOpt env input.context input.stationIn input.stationOut =
        none := by rw [direct, getPrice, price]; rfl
    rw [feeLines_of_no_direct same missing] at returned
    rcases handleSameStationWithRoute_none_cases env input.context input.builder input.stationIn
      with ⟨e, refused⟩ | ⟨boo', found', white, -⟩
    · cases refused.symm.trans returned
    · rw [same] at found' white black
      cases found.symm.trans found'
      cases black.symm.trans white
  | some row =>
    have hit : resolveDirectPriceOpt env input.context input.stationIn input.stationOut =
        some ⟨row, input.context.vehicleType⟩ := by rw [direct, getPrice, price]; rfl
    rw [feeLines_of_direct same hit] at returned
    have own : env.booFor input.stationIn row = boo := by rw [FeeEnv.booFor, same, found]
    rcases buildSameStationDetailForDirectPrice_cases env input.context input.builder boo
      input.stationIn ⟨row, input.context.vehicleType⟩ with ⟨-, line, is, made⟩ | ⟨white, -⟩
    · rw [own, made] at returned
      cases returned
      intro line' mem
      rw [List.mem_singleton.mp mem, BlackFirst, is.kind_eq]
    · rw [same] at white black
      cases black.symm.trans white

end SameStation

/-! ### The stages of a segment -/

section Stages

variable {env : FeeEnv} {input : FeeInput} {boo : ParsedBoo}

/-- The stage is refused, or has a valid price, unless it is whitelisted or covered. -/
theorem stageLine_of_black (black : segmentInBlackList input.stationOut
      (env.segmentCycleId input.stationIn input.stationOut) input.context.blackList boo.str =
        true)
    (white : segmentIsWhitelisted input.stationOut
      (env.segmentCycleId input.stationIn input.stationOut) input.context.whiteList boo.str =
        false)
    (covered : segmentCoveredBySubscription input.stationIn input.stationOut
      input.context.subscriptionSet = false) (sid : Int) :
    (NoValidPrice env input sid ∧ ∃ e, stageLine env input boo sid = .error e) ∨
    ∃ price, env.priceByStageId sid input.context.vehicleType = some price ∧
      env.validAt price (env.checkTime input.transDatetime .check) = true ∧
      ∃ a line, stageLine env input boo sid = .ok (a, line) ∧
        (BlackFirst input line ↔ segmentIsWhitelisted input.stationOut
          (env.segmentCycleId input.stationIn input.stationOut) input.context.whiteList
          (ParsedBoo.fromPrice price).str = false) := by
  have own : stageVehicleType input.context input.stationIn input.stationOut boo
      (env.segmentCycleId input.stationIn input.stationOut) = input.context.vehicleType :=
    if_pos black
  rcases calculateFeeForOneStageId_cases env input.context input.builder input.stationIn
    input.stationOut boo (env.segmentCycleId input.stationIn input.stationOut) sid with
    ⟨listed, -⟩ | ⟨-, ⟨sub, -⟩ | ⟨-, ⟨missing, refused⟩ | ⟨found, hit, from_price⟩⟩⟩
  · cases white.symm.trans listed
  · cases covered.symm.trans sub
  · refine .inl ⟨fun price eq => ?_, refused⟩
    rw [own, getPriceByStageId, eq] at missing
    cases missing
  · rw [own, getPriceByStageId, Option.map_eq_some_iff] at hit
    obtain ⟨price, eq, rfl⟩ := hit
    rcases feeFromStagePrice_cases env input.context input.builder input.stationIn
      input.stationOut boo (env.segmentCycleId input.stationIn input.stationOut)
      ((env.tollAbByStage sid).getD (input.stationIn, input.stationOut))
      ⟨price, input.context.vehicleType⟩ with
      ⟨expired, e, refused⟩ | ⟨valid, ⟨listed, line, is, made⟩ |
        ⟨free, ⟨-, line, is, made⟩ | ⟨-, line, is, made⟩⟩⟩
    · refine .inl ⟨fun price' eq' => ?_, e, from_price.trans refused⟩
      cases eq.symm.trans eq'
      exact expired
    · refine .inr ⟨price, eq, valid, 0, line, from_price.trans made, ?_⟩
      simp only [BlackFirst, is.kind_eq, listed]
      simp
    · refine .inr ⟨price, eq, valid, 0, line, from_price.trans made, ?_⟩
      simp only [BlackFirst, is.kind_eq, free]
    · refine .inr ⟨price, eq, valid, _, line, from_price.trans made, ?_⟩
      simp only [BlackFirst, is.kind_eq, free]

/-- The lines of a black-listed trip between two stations respect the black list exactly when
the white list does not apply to it. -/
theorem stages_blackFirst_iff {stageIds : List Int}
    (black : segmentInBlackList input.stationOut
      (env.segmentCycleId input.stationIn input.stationOut) input.context.blackList boo.str =
        true) (nonempty : stageIds ≠ []) :
    ((∃ sid ∈ stageIds, ∃ e, stageLine env input boo sid = .error e) ∨
      ∀ sid ∈ stageIds, ∀ a line, stageLine env input boo sid = .ok (a, line) →
        BlackFirst input line) ↔
    segmentIsWhitelisted input.stationOut (env.segmentCycleId input.stationIn input.stationOut)
      input.context.whiteList boo.str = false ∧
    (segmentCoveredBySubscription input.stationIn input.stationOut
        input.context.subscriptionSet = true ∨
      (∃ sid ∈ stageIds, NoValidPrice env input sid) ∨
      ∀ sid ∈ stageIds, ∀ price,
        env.priceByStageId sid input.context.vehicleType = some price →
        segmentIsWhitelisted input.stationOut
          (env.segmentCycleId input.stationIn input.stationOut) input.context.whiteList
          (ParsedBoo.fromPrice price).str = false) := by
  have cases_ := calculateFeeForOneStageId_cases env input.context input.builder input.stationIn
    input.stationOut boo (env.segmentCycleId input.stationIn input.stationOut)
  cases white : segmentIsWhitelisted input.stationOut
      (env.segmentCycleId input.stationIn input.stationOut) input.context.whiteList boo.str with
  | true =>
    -- every stage is whitelisted, and there is one
    have listed : ∀ sid, ∃ line, line.Is .whitelist 0 ∧
        stageLine env input boo sid = .ok (0, line) := by
      intro sid
      rcases cases_ sid with ⟨-, made⟩ | ⟨none, -⟩
      · exact made
      · cases white.symm.trans none
    constructor
    · rintro (⟨sid, -, e, refused⟩ | fine)
      · obtain ⟨line, -, made⟩ := listed sid
        cases made.symm.trans refused
      · obtain ⟨sid, mem⟩ := List.exists_mem_of_ne_nil _ nonempty
        obtain ⟨line, is, made⟩ := listed sid
        have first := fine sid mem 0 line made
        rw [BlackFirst, is.kind_eq] at first
        exact first.elim
    · rintro ⟨none, -⟩
      cases none
  | false =>
    simp only [true_and]
    cases covered : segmentCoveredBySubscription input.stationIn input.stationOut
        input.context.subscriptionSet with
    | true =>
      refine ⟨fun _ => .inl rfl, fun _ => .inr fun sid _ a line made => ?_⟩
      rcases cases_ sid with ⟨listed, -⟩ | ⟨-, ⟨-, line', is, made'⟩ | ⟨none, -⟩⟩
      · cases white.symm.trans listed
      · cases made.symm.trans made'
        rw [BlackFirst, is.kind_eq]
        trivial
      · cases covered.symm.trans none
    | false =>
      have stage := stageLine_of_black black white covered
      simp only [Bool.false_eq_true, false_or]
      constructor
      · rintro (⟨sid, mem, e, refused⟩ | fine)
        · rcases stage sid with ⟨invalid, -⟩ | ⟨_, _, _, a, line, made, -⟩
          · exact .inl ⟨sid, mem, invalid⟩
          · cases made.symm.trans refused
        · by_cases some_invalid : ∃ sid ∈ stageIds, NoValidPrice env input sid
          · exact .inl some_invalid
          · refine .inr fun sid mem price eq => ?_
            rcases stage sid with ⟨invalid, -⟩ | ⟨price', eq', -, a, line, made, respects⟩
            · exact absurd ⟨sid, mem, invalid⟩ some_invalid
            · cases eq.symm.trans eq'
              exact respects.mp (fine sid mem a line made)
      · rintro (⟨sid, mem, invalid⟩ | none_listed)
        · rcases stage sid with ⟨-, refused⟩ | ⟨price, eq, valid, -⟩
          · exact .inl ⟨sid, mem, refused⟩
          · cases valid.symm.trans (invalid price eq)
        · refine .inr fun sid mem a line made => ?_
          rcases stage sid with ⟨-, e, refused⟩ | ⟨price, eq, -, a', line', made', respects⟩
          · cases made.symm.trans refused
          · cases made.symm.trans made'
            exact respects.mpr (none_listed sid mem price eq)

end Stages

/-- Every line of a fee for an exit on the black list is neither whitelisted nor priced for a
vehicle type of the exception list, exactly when the lists are apart. -/
theorem blackFirst_iff (env : FeeEnv) (input : FeeInput) :
    (ExitBlack env input → ∀ total lines, feeLines env input = .ok (total, lines) →
      ∀ line ∈ lines, BlackFirst input line) ↔ ListsApart env input := by
  by_cases same : input.stationIn = input.stationOut
  · refine ⟨fun _ => .inl same, ?_⟩
    rintro - ⟨boo, found, black⟩ total lines returned
    exact sameStation_blackFirst same found black returned
  · constructor
    · intro respects
      refine .inr fun boo stageIds found black leg nonempty => ?_
      have all := (feeLines_forall_iff_of_ne same).mp (respects ⟨boo, found, black⟩)
      exact (stages_blackFirst_iff black nonempty).mp (all boo stageIds found leg nonempty)
    · rintro (eq | apart) ⟨boo, found, black⟩
      · exact absurd eq same
      · refine (feeLines_forall_iff_of_ne same).mpr fun boo' stageIds found' leg nonempty => ?_
        cases found.symm.trans found'
        exact (stages_blackFirst_iff black nonempty).mpr
          (apart boo stageIds found black leg nonempty)

/-- A vehicle on the nationwide white and black lists that leaves at station `2`. -/
def onBothLists : FeeInput where
  stationIn := 1
  stationOut := 2
  listCtx := some { whiteList := [{}], blackList := [{}] }

/-- Two stations with a stage between them. -/
def oneStage : FeeEnv where
  tollBoo _ := some "3"
  segmentsForLeg _ _ := some [7]

/-- Its passage is free. -/
theorem black_listed_whitelisted :
    ¬ ∀ (env : FeeEnv) (input : FeeInput), ExitBlack env input →
      ∀ total lines, feeLines env input = .ok (total, lines) →
      ∀ line ∈ lines, BlackFirst input line := by
  intro claim
  have found : oneStage.booFromTollBySout onBothLists.stationOut = .ok (.fromStr "3") := by
    decide +kernel
  have black : segmentInBlackList onBothLists.stationOut
      (oneStage.segmentCycleId onBothLists.stationIn onBothLists.stationOut)
      onBothLists.context.blackList (ParsedBoo.fromStr "3").str = true := by decide +kernel
  have different : onBothLists.stationIn ≠ onBothLists.stationOut := by decide
  have lines := (feeLines_forall_iff_of_ne different).mp
    (claim oneStage onBothLists ⟨_, found, black⟩) _ [7] found rfl (by simp)
  have free := ((stages_blackFirst_iff black (by simp)).mp lines).1
  exact absurd free (by decide +kernel)

end TollBackend

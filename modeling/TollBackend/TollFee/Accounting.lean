import TollBackend.TollFee.Validity

/-!
# The total of a fee

The total of a fee should be the sum of its lines, one line for each stage of the leg in order.
Amounts are cast from 64 to 32 bits, and the running total is kept in 32 bits, so both wrap when
a price or a sum is too large.

## Main definitions

* `exactCharge`, `stageCharge`: what is to be paid, as exact integers.
* `Accounted`: the total is the sum of the lines, and there is a line for each stage.
* `AmountsFit`: what is to be paid fits in 32 bits, and so does its sum.

## Main results

* `accounted_iff`: the fee is accounted for exactly when the amounts fit.
-/

namespace TollBackend

/-! ### Running totals -/

theorem toI32_toI32_add (x y : Int) : toI32 (toI32 x + y) = toI32 (x + y) := by
  simp [toI32]

theorem toI32_toI32 (x : Int) : toI32 (toI32 x) = toI32 x := by
  simp [toI32]

/-- A running total in 32 bits is the exact sum, cast once. -/
theorem foldl_toI32_add (amounts : List Int) (total : Int) :
    amounts.foldl (fun t a => toI32 (t + a)) (toI32 total) = toI32 (total + amounts.sum) := by
  induction amounts generalizing total with
  | nil => simp
  | cons a rest ih =>
    rw [List.foldl_cons, toI32_toI32_add, ih, List.sum_cons]
    congr 1
    omega

/-- What the loop returns, stage by stage. -/
theorem addStages_priced {one : Int → Except TollFeeError (Int × FeeLine)} {stageIds : List Int}
    {total t : Int} {lines ls : List FeeLine}
    (returned : addStages one stageIds total lines = .ok (t, ls)) :
    ∃ priced, List.Forall₂ (fun sid p => one sid = .ok p) stageIds priced ∧
      ls = lines ++ priced.map Prod.snd ∧
      t = (priced.map Prod.fst).foldl (fun t a => toI32 (t + a)) total := by
  induction stageIds generalizing total lines with
  | nil =>
    cases returned
    exact ⟨[], .nil, by simp, rfl⟩
  | cons sid rest ih =>
    rw [addStages] at returned
    cases outcome : one sid with
    | error e =>
      rw [outcome] at returned
      cases returned
    | ok first =>
      rw [outcome] at returned
      obtain ⟨priced, each, rfl, rfl⟩ := ih returned
      exact ⟨first :: priced, .cons outcome each, by simp, rfl⟩

theorem addStages_of_priced {one : Int → Except TollFeeError (Int × FeeLine)}
    {stageIds : List Int} {priced : List (Int × FeeLine)}
    (each : List.Forall₂ (fun sid p => one sid = .ok p) stageIds priced) (total : Int)
    (lines : List FeeLine) :
    addStages one stageIds total lines =
      .ok ((priced.map Prod.fst).foldl (fun t a => toI32 (t + a)) total,
        lines ++ priced.map Prod.snd) := by
  induction each generalizing total lines with
  | nil => simp [addStages]
  | cons outcome _ ih =>
    rw [addStages, outcome]
    refine (ih _ _).trans ?_
    simp

/-! ### What is to be paid -/

/-- The amount of a price in force, `0` of any other. -/
def exactCharge (env : FeeEnv) (input : FeeInput) (price : PriceDto) : Int :=
  if env.validAt price (env.checkTime input.transDatetime .amount) then price.priceAmount.getD 0
  else 0

/-- What a stage costs, if it is not refused: nothing when a list or a subscription makes it
free, and the amount of its price otherwise. -/
def stageCharge (env : FeeEnv) (input : FeeInput) (boo : ParsedBoo) (sid : Int) : Option Int :=
  if segmentIsWhitelisted input.stationOut (env.segmentCycleId input.stationIn input.stationOut)
      input.context.whiteList boo.str ||
    segmentCoveredBySubscription input.stationIn input.stationOut
      input.context.subscriptionSet then some 0
  else
    (stagePrice env input boo sid).bind fun found =>
      if env.validAt found.price (env.checkTime input.transDatetime .check) = false then none
      else if segmentIsWhitelisted input.stationOut
          (env.segmentCycleId input.stationIn input.stationOut) input.context.whiteList
          (ParsedBoo.fromPrice found.price).str ||
        isSubscribedByStageId env input.context found.price.stageId
          (ParsedBoo.fromPrice found.price).str then some 0
      else some (exactCharge env input found.price)

/-- A line that was made from a price in force has the amount of the price, and a whitelist or
subscription line has none. -/
def ExactLine (env : FeeEnv) (input : FeeInput) (line : FeeLine) : Prop :=
  match line.kind with
  | .whitelist | .subscription => line.detail.priceAmount = 0
  | .regular found => line.detail.priceAmount = exactCharge env input found.price

/-- The fee that is returned: its total is the sum of its lines, the lines have the exact
amounts, and there is one line at one station, or one for each stage of the leg in order. -/
structure Accounted (env : FeeEnv) (input : FeeInput) (total : Int) (lines : List FeeLine) :
    Prop where
  sum : total = (lines.map fun line => line.detail.priceAmount).sum
  exact_lines : ∀ line ∈ lines, ExactLine env input line
  single : input.stationIn = input.stationOut → lines.length = 1
  stages : input.stationIn ≠ input.stationOut → ∃ boo stageIds,
    env.booFromTollBySout input.stationOut = .ok boo ∧
    env.segmentsForLeg input.stationIn input.stationOut = some stageIds ∧
    List.Forall₂ (fun sid line => ∃ a, stageLine env input boo sid = .ok (a, line)) stageIds lines

/-- What is to be paid fits in 32 bits, each amount and the sum. -/
def AmountsFit (env : FeeEnv) (input : FeeInput) : Prop :=
  (input.stationIn = input.stationOut → ∀ direct,
    resolveDirectPriceOpt env input.context input.stationIn input.stationOut = some direct →
    PaysDirectPrice env input direct.price →
    toI32 (exactCharge env input direct.price) = exactCharge env input direct.price) ∧
  (input.stationIn ≠ input.stationOut → ∀ boo stageIds charges,
    env.booFromTollBySout input.stationOut = .ok boo →
    env.segmentsForLeg input.stationIn input.stationOut = some stageIds → stageIds ≠ [] →
    List.Forall₂ (fun sid charge => stageCharge env input boo sid = some charge) stageIds charges →
    (∀ charge ∈ charges, toI32 charge = charge) ∧ toI32 charges.sum = charges.sum)

section Charges

variable {env : FeeEnv} {input : FeeInput} {boo : ParsedBoo}

theorem calculateAmountFromPrice_eq (price : PriceDto) :
    calculateAmountFromPrice env input.context price = toI32 (exactCharge env input price) := by
  have time : input.context.transDatetime = input.transDatetime := rfl
  rw [calculateAmountFromPrice, exactCharge, time]
  split
  · rfl
  · exact toI32_zero.symm

/-- The line of a stage that costs `charge` has that amount, cast to 32 bits. -/
structure StageCharged (env : FeeEnv) (input : FeeInput) (charge amount : Int) (line : FeeLine) :
    Prop where
  cast : amount = toI32 charge
  amount_eq : line.detail.priceAmount = amount
  exact_iff : ExactLine env input line ↔ toI32 charge = charge

theorem charged_free {line : FeeLine} {kind : LineKind} (is : line.Is kind 0)
    (free : kind = .whitelist ∨ kind = .subscription) : StageCharged env input 0 0 line := by
  refine ⟨rfl, is.amount_eq, ?_⟩
  rw [ExactLine, is.kind_eq]
  rcases free with rfl | rfl <;> simp [is.amount_eq]

theorem charged_regular {line : FeeLine} {found : FoundPrice}
    (is : line.Is (.regular found) (calculateAmountFromPrice env input.context found.price)) :
    StageCharged env input (exactCharge env input found.price)
      (calculateAmountFromPrice env input.context found.price) line := by
  refine ⟨calculateAmountFromPrice_eq found.price, is.amount_eq, ?_⟩
  rw [ExactLine, is.kind_eq]
  simp only [is.amount_eq, calculateAmountFromPrice_eq]

/-- A stage is refused exactly when it costs nothing that can be told, and otherwise its line
has what it costs. -/
theorem stageLine_charge (sid : Int) :
    (stageCharge env input boo sid = none ∧ ∃ e, stageLine env input boo sid = .error e) ∨
    ∃ charge a line, stageCharge env input boo sid = some charge ∧
      stageLine env input boo sid = .ok (a, line) ∧ StageCharged env input charge a line := by
  unfold stageCharge
  rcases calculateFeeForOneStageId_cases env input.context input.builder input.stationIn
    input.stationOut boo (env.segmentCycleId input.stationIn input.stationOut) sid with
    ⟨listed, line, is, made⟩ | ⟨white, ⟨sub, line, is, made⟩ |
      ⟨covered, ⟨missing, refused⟩ | ⟨found, hit, from_price⟩⟩⟩
  · exact .inr ⟨0, 0, line, by simp [listed], made, charged_free is (.inl rfl)⟩
  · exact .inr ⟨0, 0, line, by simp [sub], made, charged_free is (.inr rfl)⟩
  · have none_found : stagePrice env input boo sid = none := missing
    exact .inl ⟨by simp [white, covered, none_found], refused⟩
  · have some_found : stagePrice env input boo sid = some found := hit
    simp only [white, covered, some_found, Bool.or_self, Bool.false_eq_true, if_false,
      Option.bind_some]
    rcases feeFromStagePrice_cases env input.context input.builder input.stationIn
      input.stationOut boo (env.segmentCycleId input.stationIn input.stationOut)
      ((env.tollAbByStage sid).getD (input.stationIn, input.stationOut)) found with
      ⟨expired, e, refused⟩ | ⟨valid, ⟨listed, line, is, made⟩ |
        ⟨free, ⟨subscribed, line, is, made⟩ | ⟨unsubscribed, line, is, made⟩⟩⟩
    · exact .inl ⟨if_pos expired, e, from_price.trans refused⟩
    all_goals rw [if_neg (by rw [show env.validAt found.price
      (env.checkTime input.transDatetime .check) = true from valid]; simp)]
    · exact .inr ⟨0, 0, line, by simp [listed], from_price.trans made,
        charged_free is (.inl rfl)⟩
    · exact .inr ⟨0, 0, line, by simp [subscribed], from_price.trans made,
        charged_free is (.inr rfl)⟩
    · exact .inr ⟨_, _, line, by simp [free, unsubscribed], from_price.trans made,
        charged_regular is⟩

/-- The lines of a leg, stage by stage, from what its stages cost. -/
theorem stages_charged {stageIds : List Int} {priced : List (Int × FeeLine)}
    (each : List.Forall₂ (fun sid p => stageLine env input boo sid = .ok p) stageIds priced) :
    ∃ charges,
      List.Forall₂ (fun sid charge => stageCharge env input boo sid = some charge) stageIds
        charges ∧
      List.Forall₂ (fun charge p => StageCharged env input charge p.1 p.2) charges priced := by
  induction each with
  | nil => exact ⟨[], .nil, .nil⟩
  | @cons sid p _ _ made _ ih =>
    obtain ⟨charges, costs, charged⟩ := ih
    rcases @stageLine_charge env input boo sid with
      ⟨-, e, refused⟩ | ⟨charge, a, line, cost, made', here⟩
    · cases made.symm.trans refused
    · cases made.symm.trans made'
      exact ⟨charge :: charges, .cons cost costs, .cons here charged⟩

theorem stages_priced_of_charges {stageIds charges : List Int}
    (costs : List.Forall₂ (fun sid charge => stageCharge env input boo sid = some charge)
      stageIds charges) :
    ∃ priced, List.Forall₂ (fun sid p => stageLine env input boo sid = .ok p) stageIds priced ∧
      List.Forall₂ (fun charge p => StageCharged env input charge p.1 p.2) charges priced := by
  induction costs with
  | nil => exact ⟨[], .nil, .nil⟩
  | @cons sid charge _ _ cost _ ih =>
    obtain ⟨priced, each, charged⟩ := ih
    rcases @stageLine_charge env input boo sid with
      ⟨none_told, -⟩ | ⟨charge', a, line, cost', made, here⟩
    · cases cost.symm.trans none_told
    · cases cost.symm.trans cost'
      exact ⟨(a, line) :: priced, .cons made each, .cons here charged⟩

theorem charged_amounts {charges : List Int} {priced : List (Int × FeeLine)}
    (charged : List.Forall₂ (fun charge p => StageCharged env input charge p.1 p.2) charges priced) :
    priced.map Prod.fst = charges.map toI32 ∧
      (priced.map Prod.snd).map (fun line => line.detail.priceAmount) = charges.map toI32 := by
  induction charged with
  | nil => exact ⟨rfl, rfl⟩
  | cons here _ ih =>
    simp only [List.map_cons, ih.1, ih.2, here.amount_eq, here.cast, and_self]

theorem charged_exact_iff {charges : List Int} {priced : List (Int × FeeLine)}
    (charged : List.Forall₂ (fun charge p => StageCharged env input charge p.1 p.2) charges priced) :
    (∀ line ∈ priced.map Prod.snd, ExactLine env input line) ↔
      ∀ charge ∈ charges, toI32 charge = charge := by
  induction charged with
  | nil => simp
  | cons here _ ih => simp only [List.map_cons, List.forall_mem_cons, here.exact_iff, ih]

theorem map_toI32_of_fits {charges : List Int} (fits : ∀ charge ∈ charges, toI32 charge = charge) :
    charges.map toI32 = charges :=
  (List.map_congr_left fits).trans (List.map_id _)

/-- The fee of a leg is accounted for exactly when what its stages cost fits. -/
theorem stages_accounted_iff (ne : input.stationIn ≠ input.stationOut) {stageIds charges : List Int}
    {priced : List (Int × FeeLine)} (found : env.booFromTollBySout input.stationOut = .ok boo)
    (leg : env.segmentsForLeg input.stationIn input.stationOut = some stageIds)
    (each : List.Forall₂ (fun sid p => stageLine env input boo sid = .ok p) stageIds priced)
    (charged : List.Forall₂ (fun charge p => StageCharged env input charge p.1 p.2) charges priced) :
    Accounted env input ((priced.map Prod.fst).foldl (fun t a => toI32 (t + a)) 0)
        (priced.map Prod.snd) ↔
      (∀ charge ∈ charges, toI32 charge = charge) ∧ toI32 charges.sum = charges.sum := by
  obtain ⟨amounts, details⟩ := charged_amounts charged
  have total : (priced.map Prod.fst).foldl (fun t a => toI32 (t + a)) 0 =
      toI32 (charges.map toI32).sum := by
    have sum := foldl_toI32_add (priced.map Prod.fst) 0
    rw [toI32_zero, Int.zero_add, amounts] at sum
    rw [amounts, sum]
  rw [total]
  constructor
  · intro accounted
    have fits := (charged_exact_iff charged).mp accounted.exact_lines
    refine ⟨fits, ?_⟩
    have sum := accounted.sum
    rw [details, map_toI32_of_fits fits] at sum
    exact sum
  · rintro ⟨fits, sum_fits⟩
    refine ⟨?_, (charged_exact_iff charged).mpr fits, fun eq => absurd eq ne, fun _ => ?_⟩
    · rw [details, map_toI32_of_fits fits]
      exact sum_fits
    · refine ⟨boo, stageIds, found, leg, ?_⟩
      exact List.forall₂_map_right_iff.mpr (each.imp fun sid p made => ⟨p.1, made⟩)

/-- The line of a trip at one station. -/
theorem direct_accounted_iff {direct : FoundPrice} (same : input.stationIn = input.stationOut)
    (found : resolveDirectPriceOpt env input.context input.stationIn input.stationOut =
      some direct) :
    (∀ total lines, feeLines env input = .ok (total, lines) → Accounted env input total lines) ↔
      (PaysDirectPrice env input direct.price →
        toI32 (exactCharge env input direct.price) = exactCharge env input direct.price) := by
  have one : ∀ charge a line, StageCharged env input charge a line →
      buildSameStationDetailForDirectPrice env input.context input.builder input.stationIn direct
        (env.booFor input.stationIn direct.price) = (line, a) →
      ((∀ total lines, feeLines env input = .ok (total, lines) →
        Accounted env input total lines) ↔ toI32 charge = charge) := by
    intro charge a line charged made
    rw [feeLines_of_direct same found, made]
    constructor
    · intro all
      exact charged.exact_iff.mp ((all _ _ rfl).exact_lines line List.mem_cons_self)
    · intro fits total lines returned
      cases returned
      refine ⟨?_, ?_, fun _ => rfl, fun ne => absurd same ne⟩
      · simp [charged.amount_eq]
      · intro line' mem
        rw [List.mem_singleton.mp mem]
        exact charged.exact_iff.mpr fits
  rcases buildSameStationDetailForDirectPrice_cases env input.context input.builder
    (env.booFor input.stationIn direct.price) input.stationIn direct with
    ⟨black, line, is, made⟩ | ⟨black, ⟨white, line, is, made⟩ |
      ⟨white, ⟨covered, line, is, made⟩ | ⟨covered, line, is, made⟩⟩⟩
  · rw [one _ _ line (charged_regular is) made]
    exact ⟨fun fits _ => fits, fun fits => fits (.inl black)⟩
  · rw [one _ _ line (charged_free is (.inl rfl)) made]
    refine ⟨fun _ pays => ?_, fun _ => toI32_zero⟩
    rcases pays with listed | ⟨free, -⟩
    · cases black.symm.trans listed
    · cases white.symm.trans free
  · rw [one _ _ line (charged_free is (.inr rfl)) made]
    refine ⟨fun _ pays => ?_, fun _ => toI32_zero⟩
    rcases pays with listed | ⟨-, free⟩
    · cases black.symm.trans listed
    · cases covered.symm.trans free
  · rw [one _ _ line (charged_regular is) made]
    exact ⟨fun fits _ => fits, fun fits => fits (.inr ⟨white, covered⟩)⟩

/-- A trip at one station that has no price. -/
theorem noDirect_accounted (same : input.stationIn = input.stationOut)
    (missing : resolveDirectPriceOpt env input.context input.stationIn input.stationOut = none)
    {total : Int} {lines : List FeeLine} (returned : feeLines env input = .ok (total, lines)) :
    Accounted env input total lines := by
  have free : ∀ (kind : LineKind) (line : FeeLine), line.Is kind 0 →
      kind = .whitelist ∨ kind = .subscription → Accounted env input 0 [line] := by
    intro kind line is free
    have charged : StageCharged env input 0 0 line := charged_free is free
    refine ⟨by simp [charged.amount_eq], ?_, fun _ => rfl, fun ne => absurd same ne⟩
    intro line' mem
    rw [List.mem_singleton.mp mem]
    exact charged.exact_iff.mpr toI32_zero
  rw [feeLines_of_no_direct same missing] at returned
  rcases handleSameStationWithRoute_none_cases env input.context input.builder input.stationIn
    with ⟨e, refused⟩ | ⟨boo, -, -, ⟨-, line, is, made⟩ | ⟨-, -, line, is, made⟩⟩
  · cases refused.symm.trans returned
  · cases made.symm.trans returned
    exact free _ line is (.inl rfl)
  · cases made.symm.trans returned
    exact free _ line is (.inr rfl)

end Charges

/-- A fee that is returned is accounted for exactly when what is to be paid fits in 32 bits. -/
theorem accounted_iff (env : FeeEnv) (input : FeeInput) :
    (∀ total lines, feeLines env input = .ok (total, lines) → Accounted env input total lines) ↔
      AmountsFit env input := by
  by_cases same : input.stationIn = input.stationOut
  · cases price : resolveDirectPriceOpt env input.context input.stationIn input.stationOut with
    | none =>
      constructor
      · intro _
        refine ⟨fun _ direct found => ?_, fun ne => absurd same ne⟩
        cases price.symm.trans found
      · intro _ total lines returned
        exact noDirect_accounted same price returned
    | some direct =>
      rw [direct_accounted_iff same price]
      constructor
      · intro fits
        refine ⟨fun _ direct' found => ?_, fun ne => absurd same ne⟩
        cases price.symm.trans found
        exact fits
      · intro fits
        exact fits.1 same direct price
  · constructor
    · intro all
      refine ⟨fun eq => absurd eq same, fun _ boo stageIds charges found leg nonempty costs => ?_⟩
      obtain ⟨priced, each, charged⟩ := stages_priced_of_charges costs
      refine (stages_accounted_iff same found leg each charged).mp (all _ _ ?_)
      exact (feeLines_eq_ok_of_ne same).mpr
        ⟨boo, stageIds, found, leg, nonempty, addStages_of_priced each 0 []⟩
    · intro fits total lines returned
      obtain ⟨boo, stageIds, found, leg, nonempty, added⟩ :=
        (feeLines_eq_ok_of_ne same).mp returned
      obtain ⟨priced, each, rfl, rfl⟩ := addStages_priced added
      obtain ⟨charges, costs, charged⟩ := stages_charged each
      rw [List.nil_append]
      exact (stages_accounted_iff same found leg each charged).mpr
        (fits.2 same boo stageIds charges found leg nonempty costs)

/-- Two stages that cost 1.5 billion each. -/
def twoDearStages : FeeEnv where
  tollBoo _ := some "3"
  segmentsForLeg _ _ := some [7, 8]
  priceByStageId sid _ := some { priceId := sid, priceAmount := some 1500000000
                                 stageId := some sid }

/-- A trip between two stations. -/
def oneToTwo : FeeInput where
  stationIn := 1
  stationOut := 2

/-- The total of the fee is negative. -/
theorem total_overflows :
    ¬ ∀ (env : FeeEnv) (input : FeeInput) (total : Int) (lines : List FeeLine),
      feeLines env input = .ok (total, lines) → Accounted env input total lines := by
  intro claim
  have costs : List.Forall₂ (fun sid charge => stageCharge twoDearStages oneToTwo (.fromStr "3")
      sid = some charge) [7, 8] [1500000000, 1500000000] :=
    .cons (by decide +kernel) (.cons (by decide +kernel) .nil)
  have different : oneToTwo.stationIn ≠ oneToTwo.stationOut := by decide
  have found : twoDearStages.booFromTollBySout oneToTwo.stationOut = .ok (.fromStr "3") := by
    decide +kernel
  obtain ⟨priced, each, charged⟩ := stages_priced_of_charges costs
  have returned := (feeLines_eq_ok_of_ne different).mpr
    ⟨_, [7, 8], found, rfl, by simp, addStages_of_priced each 0 []⟩
  have fits := (stages_accounted_iff different found rfl each charged).mp
    (claim _ _ _ _ returned)
  exact absurd fits.2 (by decide)

end TollBackend

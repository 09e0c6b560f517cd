import TollBackend.Records.Rule

/-!
# The checkout event

The event of a checkout commit is built from the record of the trip, with an override for the
commit time only. The amount has no other source than an override, the ticket type is fixed,
and the fee lines are those of the record, which a reserve does not store. So the event agrees
with the reserve when that was free of charge and had no fee lines.

## Main definitions

* `buildCheckoutPayloadFromEtdr`: the event of a record.
* `reservedFee?`: the fee that a reserve has computed.
* `SendsAsReserved`: an event that is sent agrees with the reserves of its ticket.

## Main results

* `sendsAsReserved_of_reaches`: events agree with reserves that were free of charge.
* `reserved_amount_not_sent`: a fee of 100 is sent as 0.
-/

namespace TollBackend

open Concurrent

/-! ### The payload -/

/-- `CheckoutCommitPayload`. -/
structure CheckoutCommitPayload where
  requestId : Int
  tid : String
  ticketInId : Int
  ticketEtagId : Int
  hubId : Option Int
  ticketOutId : Int
  etag : String
  plate : String
  stationIn : Int
  laneIn : Int
  checkinDatetime : Int
  checkinCommitDatetime : Int
  stationOut : Int
  laneOut : Int
  checkoutDatetime : Int
  checkoutCommitDatetime : Int
  registerVehicleType : String
  seat : Int
  weightGoods : Int
  weightAll : Int
  vehicleType : Int
  ticketType : String
  priceTicketType : Int
  status : Int
  transAmount : Int
  ratingDetail : List BooRatingDetail

/-- `CheckoutPayloadOverrides`: what is given is taken instead of the record's own. -/
structure CheckoutPayloadOverrides where
  requestId : Option Int := none
  tid : Option String := none
  ticketInId : Option Int := none
  ticketOutId : Option Int := none
  hubId : Option Int := none
  etag : Option String := none
  plate : Option String := none
  stationIn : Option Int := none
  laneIn : Option Int := none
  checkinDatetime : Option Int := none
  checkinCommitDatetime : Option Int := none
  stationOut : Option Int := none
  laneOut : Option Int := none
  checkoutDatetime : Option Int := none
  checkoutCommitDatetime : Option Int := none
  registerVehicleType : Option String := none
  seat : Option Int := none
  weightGoods : Option Int := none
  weightAll : Option Int := none
  vehicleType : Option Int := none
  transAmount : Option Int := none
  status : Option Int := none
  ratingDetail : Option (List BooRatingDetail) := none

/-- `build_checkout_payload_from_etdr`. -/
def buildCheckoutPayloadFromEtdr (etdr : Etdr) (overrides : CheckoutPayloadOverrides) :
    CheckoutCommitPayload where
  requestId := overrides.requestId.getD etdr.requestId
  tid := normalizeEtag (overrides.tid.getD etdr.tId)
  ticketInId := overrides.ticketInId.getD etdr.ticketId
  ticketEtagId := etdr.ticketEtagId.getD etdr.refTransId
  hubId := overrides.hubId <|> etdr.hubId
  ticketOutId := overrides.ticketOutId.getD etdr.ticketId
  etag := overrides.etag.getD etdr.etagNumber
  plate := overrides.plate.getD etdr.plate
  stationIn := overrides.stationIn.getD etdr.stationId
  laneIn := overrides.laneIn.getD etdr.laneId
  checkinDatetime := overrides.checkinDatetime.getD etdr.checkinDatetime
  checkinCommitDatetime := overrides.checkinCommitDatetime.getD etdr.checkinCommitDatetime
  stationOut := overrides.stationOut.getD etdr.tollOut
  laneOut := overrides.laneOut.getD etdr.laneOut
  checkoutDatetime := overrides.checkoutDatetime.getD etdr.checkoutDatetime
  checkoutCommitDatetime := overrides.checkoutCommitDatetime.getD etdr.checkoutCommitDatetime
  registerVehicleType := overrides.registerVehicleType.getD etdr.registerVehicleType
  seat := overrides.seat.getD (etdr.seatNum.getD 0)
  weightGoods := overrides.weightGoods.getD (etdr.weightGoods.getD 0)
  weightAll := overrides.weightAll.getD (etdr.weightAll.getD 0)
  vehicleType := overrides.vehicleType.getD ((parseInt 32 etdr.vehicleType).getD 1)
  ticketType := "L"
  priceTicketType := 1
  status := overrides.status.getD etdr.status
  -- "if trans_amount is null then set it to 0"
  transAmount := overrides.transAmount.getD 0
  ratingDetail := overrides.ratingDetail.getD etdr.ratingDetails

/-- The event that `process_checkout_commit_bect` hands to Kafka. -/
def checkoutEvent (etdr : Etdr) (commitDatetime : Int) : CheckoutCommitPayload :=
  buildCheckoutPayloadFromEtdr etdr { checkoutCommitDatetime := some commitDatetime }

/-- `vdtc_rating_details_to_boo`. -/
def vdtcRatingDetailsToBoo (details : List RatingDetail) : List BooRatingDetail :=
  details.map fun d =>
    { boo := d.boo
      tollAId := d.tollAId
      tollBId := d.tollBId
      ticketType := trimEndNul d.ticketType
      subscriptionId := if isBlank d.subscriptionId then none
        else some (trimEndNul d.subscriptionId)
      priceTicketType := d.priceTicketType
      priceAmount := d.priceAmount
      vehicleType := d.vehicleType
      priceId := d.priceId
      botId := d.botId
      stageId := d.stageId }

/-! ### The fee of a reserve -/

/-- What a reserve has computed for a record. -/
structure ReservedFee where
  etdr : Etdr
  transAmount : Int
  ratingDetails : List RatingDetail

/-- The operation saves the record of a reserve. -/
def Op.isReserveSave : Op → Bool
  | .saveEtdr (.checkoutReserved _ _ _ _ _) => true
  | _ => false

/-- The fee that an operation has found. Without one, a reserve that goes on takes `0`. -/
def feeFound? (ev : Event Op Choice Sys) : Option ReservedFee :=
  match ev.op with
  | .ask (.calculateTollFee etdr _) =>
      let fee := ev.choice.fee.getD (0, [])
      some ⟨etdr, fee.1, fee.2⟩
  | _ => none

/-- The fee with which a task has saved the record of a reserve. -/
def reservedFee? (trace : List (Event Op Choice Sys)) : Option ReservedFee :=
  if trace.any fun ev => ev.op.isReserveSave then trace.findSome? feeFound? else none

/-- The event has the amount of the reserve, which is that of its fee lines, and the fee lines
and the ticket type of the reserve. -/
structure AsReserved (event : CheckoutCommitPayload) (fee : ReservedFee) : Prop where
  amount : event.transAmount = fee.transAmount
  sum : event.transAmount = (event.ratingDetail.map (·.priceAmount)).sum
  details : event.ratingDetail = vdtcRatingDetailsToBoo fee.ratingDetails
  ticketType : event.ticketType = ticketTypeI32ToStr fee.etdr.ticketType

/-- The reserve was free of charge, without fee lines, and for a single trip. -/
structure ReservedFee.Free (fee : ReservedFee) : Prop where
  amount : fee.transAmount = 0
  details : fee.ratingDetails = []
  ticketType : ticketTypeI32ToStr fee.etdr.ticketType = "L"

instance : DecidablePred ReservedFee.Free := fun fee =>
  decidable_of_iff (fee.transAmount = 0 ∧ fee.ratingDetails.isEmpty = true ∧
      ticketTypeI32ToStr fee.etdr.ticketType = "L")
    ⟨fun ⟨amount, details, type⟩ => ⟨amount, List.isEmpty_iff.mp details, type⟩,
      fun free => ⟨free.amount, List.isEmpty_iff.mpr free.details, free.ticketType⟩⟩

/-- The event of a record without fee lines agrees with exactly the reserves that are free. -/
theorem asReserved_iff_free {etdr : Etdr} {commitDatetime : Int} {fee : ReservedFee}
    (noLines : etdr.ratingDetails = []) :
    AsReserved (checkoutEvent etdr commitDatetime) fee ↔ fee.Free := by
  have lines : (checkoutEvent etdr commitDatetime).ratingDetail = [] := noLines
  constructor
  · intro agrees
    refine ⟨agrees.amount.symm, ?_, agrees.ticketType.symm⟩
    have empty := agrees.details.symm.trans lines
    exact List.map_eq_nil_iff.mp empty
  · intro free
    refine ⟨free.amount.symm, ?_, ?_, free.ticketType.symm⟩
    · rw [lines]
      rfl
    · rw [lines, free.details]
      rfl

/-! ### Runs -/

/-- The record and the time of the checkout event that a step sends. -/
def sending? (pool : BackendPool) : BackendLabel → Option (Etdr × Int)
  | .start _ => none
  | .act i _ =>
      match pool.tasks[i]? with
      | some ⟨_, _, .op (.sendKafka (.checkout etdr commitDatetime)) _⟩ =>
          some (etdr, commitDatetime)
      | _ => none

/-- A checkout event that the step sends agrees with every reserve of its ticket so far. -/
def SendsAsReserved (pool : BackendPool) (l : BackendLabel) : Prop :=
  ∀ sent ∈ sending? pool l, ∀ task ∈ pool.tasks, ∀ fee ∈ reservedFee? task.trace,
    fee.etdr.ticketId = sent.1.ticketId → AsReserved (checkoutEvent sent.1 sent.2) fee

/-- A check-in commit finds no fee lines, and a ticket whose event is sent was reserved free of
charge. -/
def FreeOfCharge (pool : BackendPool) (l : BackendLabel) : Prop :=
  System.EachAct (fun _ _ o c _ => LinesFound (· = []) o c) pool l ∧
    ∀ sent ∈ sending? pool l, ∀ task ∈ pool.tasks, ∀ fee ∈ reservedFee? task.trace,
      fee.etdr.ticketId = sent.1.ticketId → fee.Free

instance (pool : BackendPool) (l : BackendLabel) : Decidable (FreeOfCharge pool l) := by
  unfold FreeOfCharge; infer_instance

/-- No request adds a fee line to a record, but for a check-in commit that has found some. -/
theorem noLines_rule : RecordRule (fun e => e.ratingDetails = []) (· = []) where
  entered _ subscriberInfo _ _ _ := by cases subscriberInfo <;> rfl
  unsaved _ none := none
  fromStage _ _ := rfl
  filled _ _ _ none := none
  hubId _ _ none := none
  touched _ _ none := none
  noLines := rfl
  committed e now details dbSaved none found := by
    simp only [EtdrWrite.etdr, none, found]
    rfl
  reserved _ _ _ _ _ none := none
  merged a b noneA noneB := by
    unfold mergeEtdrSameTicketId
    by_cases older : b.checkinDatetime ≤ a.checkinDatetime
    · simp only [older, if_true]
      exact noneA
    · simp only [older, if_false]
      exact noneB
  saved _ none := none
  counted _ none := none
  readBack _ none := congrArg (List.map BooRatingDetail.readBack) none

theorem found_of_sending {pool : BackendPool} {i : Nat} {c : Choice} {sent : Etdr × Int}
    (sends : sending? pool (.act i c) = some sent) :
    ∃ req trace next, pool.tasks[i]? =
      some ⟨req, trace, .op (.sendKafka (.checkout sent.1 sent.2)) next⟩ := by
  simp only [sending?] at sends
  split at sends
  · next req trace etdr commitDatetime next found =>
    cases sends
    exact ⟨req, trace, next, found⟩
  · cases sends

/-- In a run in which reserves of committed tickets are free of charge, every checkout event
agrees with them. -/
theorem sendsAsReserved_of_reaches {s : Sys}
    (initial : RecordsIn (fun e => e.ratingDetails = []) s) {pool : BackendPool}
    (reaches : backend.Reaches FreeOfCharge (Pool.init s) pool) {l : BackendLabel}
    (meets : FreeOfCharge pool l) : SendsAsReserved pool l := by
  intro sent sends task mem fee found same
  have linesFound := reaches.mono fun _ _ meets => meets.1
  cases l with
  | start req => cases sends
  | act i c =>
    obtain ⟨req, trace, next, at_i⟩ := found_of_sending sends
    have noLines := noLines_rule.sent_of_reaches linesFound initial at_i
    exact (asReserved_iff_free noLines).mpr (meets.2 sent sends task mem fee found same)

/-- The state before the exit of a trip has no record at all. -/
theorem noLines_beforeExit : RecordsIn (fun e => e.ratingDetails = []) beforeExit where
  cached key e cached := by
    obtain ⟨recs, mem, -⟩ := cached
    cases mem
  keydb key e mem := by cases mem
  spawned write mem := by cases mem

/-- The fee of a trip that costs nothing. -/
def freeTrip : Choice :=
  { charging with fee := some (0, []) }

/-- The fee of a trip that costs 100. -/
def paidTrip : Choice :=
  { charging with fee := some (100, [{ tollAId := 1, tollBId := 3, priceAmount := 100 }]) }

/-- A reserve of ticket 1, and the commit of it up to its event. -/
def reserveAndCommit (fee : Choice) (acts acts' : Nat) : List BackendLabel :=
  .start (.reserve { etag := "BECT01", stationOut := 3 }) :: List.replicate acts (.act 0 fee) ++
    .start (.checkoutCommit { etag := "BECT01", ticketInId := 1 }) ::
      List.replicate acts' (.act 1 fee)

theorem sendsAsReserved_beforeExit :
    ∃ pool : BackendPool, backend.Reaches FreeOfCharge (Pool.init beforeExit) pool ∧
      (sending? pool (.act 1 freeTrip)).isSome ∧ SendsAsReserved pool (.act 1 freeTrip) := by
  obtain ⟨pool, reaches, sends⟩ := backend.exists_reaches FreeOfCharge (Pool.init beforeExit)
    (reserveAndCommit freeTrip 13 4)
    (fun pool => decide ((sending? pool (.act 1 freeTrip)).isSome ∧
      FreeOfCharge pool (.act 1 freeTrip))) (by decide +kernel)
  obtain ⟨sends, meets⟩ := of_decide_eq_true sends
  exact ⟨pool, reaches, sends, sendsAsReserved_of_reaches noLines_beforeExit reaches meets⟩

/-- A reserve of a trip that costs 100, and its commit: the event is sent with the amount
`0`. -/
theorem reserved_amount_not_sent :
    ¬ ∀ (s : Sys) (pool : BackendPool) (l : BackendLabel),
      RecordsIn (fun e => e.ratingDetails = []) s →
      backend.Reaches anyStep (Pool.init s) pool → SendsAsReserved pool l := by
  intro claim
  obtain ⟨pool, reaches, sends⟩ := backend.exists_reaches anyStep (Pool.init beforeExit)
    (reserveAndCommit paidTrip 14 6)
    (fun pool => decide (∃ sent ∈ sending? pool (.act 1 paidTrip), ∃ task ∈ pool.tasks,
      ∃ fee ∈ reservedFee? task.trace, fee.etdr.ticketId = sent.1.ticketId ∧
        fee.transAmount = 100)) (by decide +kernel)
  obtain ⟨sent, sends, task, mem, fee, found, same, paid⟩ := of_decide_eq_true sends
  have agrees := claim beforeExit pool _ noLines_beforeExit reaches sent sends task mem fee found
    same
  have zero : (0 : Int) = 100 := agrees.amount.trans paid
  exact absurd zero (by decide)

end TollBackend

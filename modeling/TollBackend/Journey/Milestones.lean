import TollBackend.Handlers.Checkin
import TollBackend.Handlers.Checkout

/-!
# The milestones of a journey

A journey is one trip of one vehicle: the four messages of its stations, and the ticket it is
given. The row of the trip and the records of the trip in the cache show how far it has got.

## Main definitions

* `Journey`: the messages of a trip.
* `Milestone`: how far a trip has got.
* `Journey.RowAt`, `Journey.RecordAt`: the row, or a record, of a trip that has got there.

## Main results

* `RowAt.record`: a record made from the row shows what the row shows.
* `RowAt.setCheckinCommit`, `RowAt.setCheckoutInfo`, `RowAt.setCheckoutCommit`: each message
  takes the row to the next milestone.
-/

namespace TollBackend

/-- The messages of one vehicle on one trip. They carry one tag, and the exit names no ticket or
the one that the trip has. The trip begins in the second `start` or later. -/
structure Journey where
  call : CheckinCall
  commit : FeCommitIn
  reserve : CheckoutReserveBoo
  checkoutCommit : CheckoutCommitBoo
  ticket : Int
  start : Int
  tagged : normalizeEtag call.req.etag ≠ ""
  plain : '\x00' ∉ (normalizeEtag call.req.etag).toList
  commitTag : normalizeEtag commit.etag = normalizeEtag call.req.etag
  reserveTag : normalizeEtag reserve.etag = normalizeEtag call.req.etag
  exitTag : normalizeEtag checkoutCommit.etag = normalizeEtag call.req.etag
  issued : ticket ≠ 0
  exitTicket : checkoutCommit.ticketInId = 0 ∨ checkoutCommit.ticketInId = ticket
  started : 0 < start

/-- The tag of the vehicle. -/
def Journey.tag (j : Journey) : String :=
  normalizeEtag j.call.req.etag

theorem Journey.normalizeEtag_tag (j : Journey) : normalizeEtag j.tag = j.tag :=
  normalizeEtag_normalizeEtag j.plain

theorem Journey.readString_tag (j : Journey) : (readString (some j.tag)).getD "" = j.tag :=
  readString_getD j.plain (trim_normalizeEtag _)

/-- What a reserve has charged: the fee, and the account transaction, which a positive fee
has. -/
structure Charge where
  amount : Int
  account : Option Int
  covered : 0 < amount → account.isSome = true
  positive : ∀ id ∈ account, 0 < id

/-- Nothing is charged. -/
def Charge.free : Charge where
  amount := 0
  account := none
  covered positive := absurd positive (lt_irrefl 0)
  positive := nofun

/-- What is charged for a fee, before the account transaction is known. -/
def Charge.provisional (amount : Int) : Charge where
  amount := amount
  account := some 1
  covered _ := rfl
  positive id same := by
    cases same
    exact Int.one_pos

/-- How far a trip has got. -/
inductive Milestone : Type
  | entered
  | committed
  | reserved (charge : Charge)
  | left (charge : Charge)

namespace Milestone

/-- The check-in is committed. -/
def hasCommit : Milestone → Bool
  | entered => false
  | committed | reserved _ | left _ => true

/-- The exit is known. -/
def hasExit : Milestone → Bool
  | entered | committed => false
  | reserved _ | left _ => true

/-- The exit is committed. -/
def hasLeft : Milestone → Bool
  | entered | committed | reserved _ => false
  | left _ => true

/-- What is charged. -/
def charge? : Milestone → Option Charge
  | entered | committed => none
  | reserved charge | left charge => some charge

end Milestone

/-- A column is null before a milestone, and a time after it. -/
def Stamped (column : Option DbDatetime) (reached : Bool) : Prop :=
  if reached then millisOrZero column ≠ 0 else column = none

theorem stamped_clock (now : Clock) : Stamped (some now.dbDatetime) true :=
  now.dbDatetime_timestampMillis_ne_zero

theorem Stamped.millisOrZero_ne_zero_iff {column : Option DbDatetime} {reached : Bool}
    (stamped : Stamped column reached) : millisOrZero column ≠ 0 ↔ reached = true := by
  cases reached with
  | false =>
    have null : column = none := stamped
    simp [null]
  | true => exact iff_of_true stamped rfl

/-- The row with what the hub tells about the trip. -/
def TransportTransactionStage.withHub (row : TransportTransactionStage) (hubId : Option Int)
    (lastUpdate : Option DbDatetime) : TransportTransactionStage :=
  { row with hubId := hubId, lastUpdate := lastUpdate }

/-- The record with what the hub tells about the trip. -/
def Etdr.withHub (e : Etdr) (hubId : Option Int) : Etdr :=
  { e with hubId := hubId }

namespace Journey

variable (j : Journey)

/-- The row of a trip that has got to `m`. -/
structure RowAt (m : Milestone) (row : TransportTransactionStage) : Prop where
  etagNumber : row.etagNumber = some j.tag
  ticketInId : row.ticketInId = some j.ticket
  checkin : ∃ d, row.checkinDatetime = some d ∧ j.start ≤ d.epochSeconds
  checkinStatus : row.checkinStatus = some (if m.hasCommit then "2" else "1")
  checkinCommit : Stamped row.checkinCommitDatetime m.hasCommit
  checkout : Stamped row.checkoutDatetime m.hasExit
  checkoutToll : m.hasExit = false → row.checkoutTollId = none
  checkoutCommit : Stamped row.checkoutCommitDatetime m.hasLeft
  accountTransId : row.accountTransId = m.charge?.bind (·.account)
  totalAmount : ∀ charge ∈ m.charge?, row.totalAmount = some charge.amount
  chargeStatus : ∀ charge ∈ m.charge?,
    row.chargeStatus = some (if m.hasLeft then "COMMIT" else "PENDING")

/-- A record of a trip that has got to `m`, but not past its exit. -/
structure RecordAt (m : Milestone) (e : Etdr) : Prop where
  ticket : e.ticketId = j.ticket
  tag : normalizeEtag e.etagId = j.tag
  checkin : j.start * 1000 ≤ e.checkinDatetime
  checkinCommit : e.checkinCommitDatetime ≠ 0 ↔ m.hasCommit = true
  checkout : e.checkoutDatetime ≠ 0 ↔ m.hasExit = true
  tollOut : m.hasExit = false → e.tollOut = 0
  checkoutCommit : e.checkoutCommitDatetime = 0

variable {j} {m : Milestone} {row : TransportTransactionStage} {e : Etdr}

/-! ### Rows -/

theorem RowAt.checkedIn (at_ : j.RowAt m row) : row.CheckedIn := by
  have status := at_.checkinStatus
  cases reached : m.hasCommit with
  | false => exact .inl (by rw [status, reached]; rfl)
  | true => exact .inr (by rw [status, reached]; rfl)

/-- What the hub writes is not what the milestones are seen by. -/
theorem RowAt.withHub (at_ : j.RowAt m row) (hubId : Option Int) (lastUpdate : Option DbDatetime) :
    j.RowAt m (row.withHub hubId lastUpdate) :=
  ⟨at_.etagNumber, at_.ticketInId, at_.checkin, at_.checkinStatus, at_.checkinCommit,
    at_.checkout, at_.checkoutToll, at_.checkoutCommit, at_.accountTransId, at_.totalAmount,
    at_.chargeStatus⟩

theorem rowAt_insertColumns (etdr : Etdr) (subscriberInfo : Option SubscriberInfo) (now : Clock)
    (sysdate : DbDatetime) (later : j.start * 1000 ≤ now.ms) :
    j.RowAt .entered ((createTransportTransactionStageFromBectCheckin j.call.req etdr
      j.call.tollId j.call.tollType j.call.laneCode j.ticket subscriberInfo now).insertColumns
        sysdate) where
  etagNumber := rfl
  ticketInId := rfl
  checkin := by
    refine ⟨now.dbDatetime, rfl, ?_⟩
    show j.start ≤ now.ms / 1000
    omega
  checkinStatus := rfl
  checkinCommit := rfl
  checkout := rfl
  checkoutToll _ := rfl
  checkoutCommit := rfl
  accountTransId := rfl
  totalAmount := nofun
  chargeStatus := nofun

theorem RowAt.setCheckinCommit (at_ : j.RowAt .entered row) (req : FeCommitIn) (now : Clock) :
    j.RowAt .committed (row.setCheckinCommit (checkinCommitColumns req now)) where
  etagNumber := at_.etagNumber
  ticketInId := at_.ticketInId
  checkin := at_.checkin
  checkinStatus := rfl
  checkinCommit := stamped_clock now
  checkout := at_.checkout
  checkoutToll := at_.checkoutToll
  checkoutCommit := at_.checkoutCommit
  accountTransId := at_.accountTransId
  totalAmount := nofun
  chargeStatus := nofun

theorem RowAt.setCheckoutInfo (at_ : j.RowAt .committed row) (req : CheckoutReserveBoo)
    (etdr : Etdr) (charge : Charge) (now : Clock) :
    j.RowAt (.reserved charge)
      (row.setCheckoutInfo (checkoutInfoColumns req etdr charge.amount 0 charge.account now)) where
  etagNumber := at_.etagNumber
  ticketInId := at_.ticketInId
  checkin := at_.checkin
  checkinStatus := at_.checkinStatus
  checkinCommit := at_.checkinCommit
  checkout := stamped_clock now
  checkoutToll := nofun
  checkoutCommit := at_.checkoutCommit
  accountTransId := by
    have none_before : row.accountTransId = none := at_.accountTransId
    show ((charge.account.filter fun id => decide (0 < id)) <|> row.accountTransId) =
      charge.account
    rw [none_before]
    cases account : charge.account with
    | none => rfl
    | some id =>
      have kept : 0 < id := charge.positive id account
      simp [Option.filter, kept]
  totalAmount _ same := by
    cases same
    rfl
  chargeStatus _ _ := rfl

theorem RowAt.setCheckoutCommit {charge : Charge} (at_ : j.RowAt (.reserved charge) row)
    (stage : TransportTransactionStage) (now : Clock) :
    j.RowAt (.left charge) (row.setCheckoutCommit (checkoutCommitColumns stage now)) where
  etagNumber := at_.etagNumber
  ticketInId := at_.ticketInId
  checkin := at_.checkin
  checkinStatus := at_.checkinStatus
  checkinCommit := at_.checkinCommit
  checkout := at_.checkout
  checkoutToll := nofun
  checkoutCommit := stamped_clock now
  accountTransId := at_.accountTransId
  totalAmount := at_.totalAmount
  chargeStatus _ _ := rfl

/-! ### Records -/

/-- A record made from the row shows what the row shows. -/
theorem RowAt.record (at_ : j.RowAt m row) (id : row.transportTransId = j.ticket)
    (inside : m.hasLeft = false) (now : Clock) :
    j.RecordAt m (.fromTransportTransactionStage row.selectRow now) where
  ticket := id
  tag := by
    rw [Etdr.fromTransportTransactionStage_etagId,
      TransportTransactionStage.selectRow_etagNumber, at_.etagNumber, j.readString_tag,
      j.normalizeEtag_tag]
  checkin := by
    obtain ⟨d, column, later⟩ := at_.checkin
    have time : (Etdr.fromTransportTransactionStage row.selectRow now).checkinDatetime =
        d.timestampMillis := by
      show ((row.checkinDatetime <|> row.insertDatetime).map
        DbDatetime.timestampMillis).getD now.ms = d.timestampMillis
      rw [column]
      rfl
    rw [time, DbDatetime.timestampMillis]
    omega
  checkinCommit := at_.checkinCommit.millisOrZero_ne_zero_iff
  checkout := at_.checkout.millisOrZero_ne_zero_iff
  tollOut before := by
    rw [Etdr.fromTransportTransactionStage_tollOut,
      TransportTransactionStage.selectRow_checkoutTollId, at_.checkoutToll before, idOrZero_none]
  checkoutCommit := by
    have null := at_.checkoutCommit
    rw [inside] at null
    have column : row.checkoutCommitDatetime = none := null
    rw [Etdr.fromTransportTransactionStage_checkoutCommitDatetime,
      TransportTransactionStage.selectRow_checkoutCommitDatetime, column, millisOrZero_none]

theorem RecordAt.withHub (at_ : j.RecordAt m e) (hubId : Option Int) :
    j.RecordAt m (e.withHub hubId) :=
  ⟨at_.ticket, at_.tag, at_.checkin, at_.checkinCommit, at_.checkout, at_.tollOut,
    at_.checkoutCommit⟩

theorem recordAt_checkin (subscriberInfo : Option SubscriberInfo) (exVehicleType : Option String)
    {now : Clock} (later : j.start * 1000 ≤ now.ms) :
    j.RecordAt .entered
      { checkinEtdr j.call.req subscriberInfo exVehicleType j.ticket now with dbSaved := true } := by
  cases subscriberInfo with
  | none => exact ⟨rfl, rfl, later, iff_of_false (fun ne => ne rfl) nofun,
      iff_of_false (fun ne => ne rfl) nofun, fun _ => rfl, rfl⟩
  | some sub => exact ⟨rfl, rfl, later, iff_of_false (fun ne => ne rfl) nofun,
      iff_of_false (fun ne => ne rfl) nofun, fun _ => rfl, rfl⟩

theorem RecordAt.checkinCommitted (at_ : j.RecordAt .entered e) (now : Clock)
    (details : List BooRatingDetail) (dbSaved : Bool) :
    j.RecordAt .committed (EtdrWrite.checkinCommitted e now details dbSaved).etdr where
  ticket := at_.ticket
  tag := at_.tag
  checkin := at_.checkin
  checkinCommit := iff_of_true now.ms_ne_zero rfl
  checkout := at_.checkout
  tollOut := at_.tollOut
  checkoutCommit := at_.checkoutCommit

theorem RecordAt.checkoutReserved (at_ : j.RecordAt .committed e) (req : CheckoutReserveBoo)
    (charge : Charge) (priceTicketType : Int) (now : Clock) :
    j.RecordAt (.reserved charge)
      (EtdrWrite.checkoutReserved e req charge.amount priceTicketType now).etdr where
  ticket := at_.ticket
  tag := at_.tag
  checkin := at_.checkin
  checkinCommit := at_.checkinCommit
  checkout := iff_of_true now.ms_ne_zero rfl
  tollOut := nofun
  checkoutCommit := at_.checkoutCommit

/-! ### What the handlers accept -/

theorem RecordAt.checkinDatetime_ne_zero (at_ : j.RecordAt m e) : e.checkinDatetime ≠ 0 := by
  have later := at_.checkin
  have started := j.started
  omega

theorem RecordAt.not_checkinCommitRefused (at_ : j.RecordAt .entered e) :
    ¬ e.CheckinCommitRefused := by
  rintro (commit | checkin | exit | left)
  · cases at_.checkinCommit.mp commit
  · exact at_.checkinDatetime_ne_zero checkin
  · cases at_.checkout.mp exit
  · exact left at_.checkoutCommit

theorem RecordAt.not_reserveRefused (at_ : j.RecordAt .committed e) : ¬ e.ReserveRefused := by
  rintro (toll | exit | commit | left | checkin)
  · exact toll (at_.tollOut rfl)
  · cases at_.checkout.mp exit
  · exact at_.checkinCommit.mpr rfl commit
  · exact left at_.checkoutCommit
  · exact at_.checkinDatetime_ne_zero checkin

theorem RecordAt.not_checkoutCommitRefused {charge : Charge}
    (at_ : j.RecordAt (.reserved charge) e) : ¬ e.CheckoutCommitRefused := by
  rintro (exit | left | commit)
  · exact at_.checkout.mpr rfl exit
  · exact left at_.checkoutCommit
  · exact at_.checkinCommit.mpr rfl commit

end Journey

end TollBackend

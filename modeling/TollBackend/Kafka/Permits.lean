import TollBackend.Kafka.Queue

/-!
# The permits of the Kafka queue

By the rule of the queue, each permit stands for a message in the buffer. But a permit that is
acquired is handed back when it is dropped, and each push adds one, so that the semaphore counts
the messages that were ever put in.

## Main definitions

* `QueueState.PermitsMatch`: there is a permit for each message, and for no other.

## Main results

* `permitsMatch_iff`: while nothing is in progress, the permits match exactly if no message has
  left the buffer.
-/

namespace TollBackend

open Concurrent (Machine)

namespace QueueState

variable {α : Type} {capacity : Nat} {s : QueueState α}

/-- The permits are as many as the messages. A pop that begins on an empty buffer makes no step,
and there are no more permits than the buffer has room for. -/
structure PermitsMatch (capacity : Nat) (s : QueueState α) : Prop where
  equal : s.queue.permits = s.queue.buf.length
  waits : s.queue.buf = [] → (queueMachine α).runUnder (fun _ _ => True)
    [.call .pop, .move s.calls.length] s = none
  bounded : s.queue.permits ≤ max capacity 1

/-- A pop makes no step without a permit. -/
theorem pop_waits (no_permit : s.queue.permits = 0) :
    (queueMachine α).runUnder (fun _ _ => True) [.call .pop, .move s.calls.length] s = none := by
  simp [Machine.runUnder, queueMachine, QueueCall.ofOp, advance, no_permit]

/-- The permits that are too many are those of the messages that have left the buffer. -/
theorem Accounted.permits_eq (inv : s.Accounted capacity) (idle : s.idle = true) :
    s.queue.permits = s.removed.length + s.queue.buf.length := by
  calc s.queue.permits
      = s.messages.length := inv.permits_of_idle idle
    _ = (s.removed.map Removal.msg ++ s.queue.buf).length := congrArg _ inv.fifo
    _ = s.removed.length + s.queue.buf.length := by rw [List.length_append, List.length_map]

end QueueState

open QueueState in
/-- In every run of any number of calls, while no call is in progress, the permits match the
messages exactly if no message has been taken from the buffer or dropped. -/
theorem permitsMatch_iff {α : Type} {capacity : Nat} {s : QueueState α}
    (reaches : (queueMachine α).Reaches (fun _ _ => True) (fresh capacity) s)
    (idle : s.idle = true) : PermitsMatch capacity s ↔ s.removed = [] := by
  have inv := accounted_of_reaches reaches
  have permits := inv.permits_eq idle
  constructor
  · intro sound
    have equal := sound.equal
    exact List.length_eq_zero_iff.mp (by omega)
  · intro nothing
    rw [nothing, List.length_nil, Nat.zero_add] at permits
    refine ⟨permits, fun empty => pop_waits ?_, ?_⟩
    · rw [permits, empty, List.length_nil]
    · rw [permits, ← inv.cap]
      exact inv.bounded

/-- Two pushes, and no pop. -/
theorem permitsMatch_iff_pushed :
    ∃ s : QueueState Nat, s.queue.permits = 2 ∧ (s.PermitsMatch 4 ↔ s.removed = []) := by
  obtain ⟨s, reaches, ends⟩ := (queueMachine Nat).exists_reaches (fun _ _ => True)
    (QueueState.fresh 4) [.call (.push 7), .call (.push 8), .move 1, .move 0, .move 0, .move 1]
    (fun s => s.idle && s.queue.permits == 2) (by decide +kernel)
  rw [Bool.and_eq_true, beq_iff_eq] at ends
  exact ⟨s, ends.2, permitsMatch_iff reaches ends.1⟩

/-- A message is pushed and popped: the buffer is empty, and there is a permit. -/
theorem permit_left_over :
    ¬ ∀ (capacity : Nat) (s : QueueState Nat),
      (queueMachine Nat).Reaches (fun _ _ => True) (.fresh capacity) s → s.idle = true →
        s.PermitsMatch capacity := by
  intro claim
  obtain ⟨s, reaches, ends⟩ := (queueMachine Nat).exists_reaches (fun _ _ => True)
    (QueueState.fresh 4) [.call (.push 7), .move 0, .move 0, .call .pop, .move 1, .move 1, .move 1]
    (fun s => s.idle && s.queue == { buf := [], cap := 4, permits := 1 }) (by decide +kernel)
  rw [Bool.and_eq_true, beq_iff_eq] at ends
  have equal := (claim 4 s reaches ends.1).equal
  rw [ends.2] at equal
  cases equal

end TollBackend

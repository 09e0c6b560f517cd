import TollBackend.Network.Connection

/-!
# What a connection waits for

While the task waits for the next read, no complete ping or frame should be left in its buffer,
and it should never wait for room in the write channel that only it can make. The main loop
drains its buffer, but before authentication one ping is answered for each read; and pongs are
sent from inside the loops that do not receive from the channel.

## Main definitions

* `NothingWaits`: no complete element waits for a read.
* `PingsAlone`: before authentication each ping is read without a complete element behind it.
* `pingsAhead`, `RoomForPongs`: the pongs that a call of the loop sends, and room for them.

## Main results

* `nothingWaits_of_reaches`: with pings alone, no complete element waits for a read.
* `neverStuck_of_reaches`: with room for its pongs, the task never waits for itself.
-/

namespace TollBackend

open Concurrent Wire

variable {decrypt : String → Bytes → Option Bytes}

/-! ### Complete messages -/

/-- While the task waits for a read, no complete ping or frame is at the front of its buffer. In
the main loop there is none further on either, as the loop takes invalid lengths off the buffer as
well: it waits on a part of a ping or frame, or on nothing. Before authentication an invalid length
stays where it is, and what is behind it is not looked for. -/
structure NothingWaits (c : Connection) : Prop where
  preAuth : c.control = .preRead → nextElement c.buf = none
  main : c.control = .select → scan 0 c.buf = .wait

/-- A read before authentication that puts a ping at the front of the buffer leaves no complete
element right behind it. -/
def PingsAlone (label : ConnectionLabel) (c : Connection) : Prop :=
  c.control = .preRead → ∀ bytes, label = .read bytes → isPlainPing (c.buf ++ bytes) = true →
    nextElement ((c.buf ++ bytes).drop 4) = none

instance (label : ConnectionLabel) (c : Connection) : Decidable (PingsAlone label c) :=
  decidable_of_iff (c.control = .preRead → ∀ bytes ∈ label.bytes?,
      isPlainPing (c.buf ++ bytes) = true → nextElement ((c.buf ++ bytes).drop 4) = none)
    (imp_congr_right fun _ => (label.forall_read _).symm)

/-- Where the task waits or is about to wait for a read, its buffer has been looked through. -/
def Settled (c : Connection) : Prop :=
  match c.control with
  | .preRead | .prePong => nextElement c.buf = none
  | .select => scan 0 c.buf = .wait
  | _ => True

theorem settled_step {label : ConnectionLabel} {c c' : Connection} (settled : Settled c)
    (alone : PingsAlone label c) (moves : c.step decrypt label = some c') : Settled c' := by
  cases Connection.moves_of_step moves with
  | closes _ _ control =>
    rw [Settled, control]
    trivial
  | preAuthPing bytes control ping => exact alone control bytes rfl ping
  | preAuthPong control room =>
    rw [Settled, control] at settled
    exact settled
  | selects control short => exact scan_of_short short
  | waits caller errors control front =>
    cases caller with
    | head => exact scan_of_wait front 0
    | read => trivial
  | routes m rest inFlight room isOpen => exact settled
  | notices status rest room isOpen => exact settled
  | unnoticed rest isOpen => exact settled
  | writes m rest control queue =>
    unfold Connection.wrote
    split <;> trivial
  | _ => trivial

/-- If before authentication each ping is read alone, no complete ping and no complete frame waits
whenever the task waits for a read. -/
theorem nothingWaits_of_reaches {c : Connection}
    (reaches : (connectionTask decrypt).Reaches PingsAlone {} c) : NothingWaits c := by
  have settled : Settled c :=
    reaches.invariant (show Settled {} from rfl) fun label a b settled alone moves =>
      settled_step settled alone moves
  unfold Settled at settled
  refine ⟨fun control => ?_, fun control => ?_⟩
  · rw [control] at settled
    exact settled
  · rw [control] at settled
    exact settled

/-- A ping and a request that are read apart before authentication, and both in one segment
later. -/
def pingedTwice : List ConnectionLabel :=
  [.read [112, 105, 110, 103], .go, .read (plainFrame 0x1C), .config ["0123456789abcdef"], .go, .go,
    .go, .answer (.ok [7]), .go, .go, .route, .write, .go, .write, .go,
    .read ([112, 105, 110, 103] ++ plainFrame 0x1C), .go, .go, .go, .go, .answer (.ok [8]), .go, .go,
    .go]

/-- The frame behind the second ping has been taken up, and the task waits for a read. -/
theorem nothingWaits_pingedTwice :
    ∃ c, c.control = .select ∧ c.requests = 2 ∧ c.queue = [.pong] ∧ NothingWaits c := by
  obtain ⟨c, reaches, waits⟩ := (connectionTask unpad).exists_reaches PingsAlone {} pingedTwice
    (fun c => c.control == .select && (c.requests == 2 && c.queue == [.pong]))
    (by decide +kernel)
  rw [Bool.and_eq_true, Bool.and_eq_true, beq_iff_eq, beq_iff_eq, beq_iff_eq] at waits
  exact ⟨c, waits.1, waits.2.1, waits.2.2, nothingWaits_of_reaches reaches⟩

/-- A ping and the first frame in one segment: the frame waits for more input. -/
theorem frame_waits_behind_ping :
    ¬ ∀ (decrypt : String → Bytes → Option Bytes) (c : Connection),
      (connectionTask decrypt).Reaches (fun _ _ => True) {} c → NothingWaits c := by
  intro claim
  obtain ⟨c, reaches, waits⟩ := (connectionTask fun _ _ => none).exists_reaches
    (fun _ _ => True) {} [.read [112, 105, 110, 103, 5, 0, 0, 0, 7], .go]
    (fun c => c.control == .preRead && c.buf == [5, 0, 0, 0, 7]) (by decide +kernel)
  rw [Bool.and_eq_true, beq_iff_eq, beq_iff_eq] at waits
  have nothing := (claim _ c reaches).preAuth waits.1
  rw [waits.2] at nothing
  exact absurd nothing (by decide)

/-! ### Room in the write channel -/

/-- The task waits to send a pong, and there is no room that another task could make. -/
def Connection.Stuck (c : Connection) : Prop :=
  writeCapacity ≤ c.queue.length ∧
    (c.control = .prePong ∨ ∃ caller errors, c.control = .pong caller errors)

/-- The pings that a call of `process_message_buffer` will answer. -/
def pingsAhead (errors : Nat) (buf : Bytes) : Nat :=
  match found : scan errors buf with
  | .wait | .giveUp => 0
  | .ping rest =>
    have := scan_shrinks (found ▸ rfl : (scan errors buf).next = some rest)
    pingsAhead errors rest + 1
  | .skip rest =>
    have := scan_shrinks (found ▸ rfl : (scan errors buf).next = some rest)
    pingsAhead (errors + 1) rest
  | .message _ rest =>
    have := scan_shrinks (found ▸ rfl : (scan errors buf).next = some rest)
    pingsAhead 0 rest
termination_by buf.length

section PingsAhead

variable {errors : Nat} {buf rest payload : Bytes}

theorem pingsAhead_of_ping (front : scan errors buf = .ping rest) :
    pingsAhead errors buf = pingsAhead errors rest + 1 := by
  rw [pingsAhead]
  split <;> simp_all

theorem pingsAhead_of_skip (front : scan errors buf = .skip rest) :
    pingsAhead errors buf = pingsAhead (errors + 1) rest := by
  rw [pingsAhead]
  split <;> simp_all

theorem pingsAhead_of_message (front : scan errors buf = .message payload rest) :
    pingsAhead errors buf = pingsAhead 0 rest := by
  rw [pingsAhead]
  split <;> simp_all

end PingsAhead

/-- The pongs that the task will send before it receives from the write channel again, or reads
again. -/
def Connection.pongsAhead (c : Connection) : Nat :=
  match c.control with
  | .prePong => 1
  | .buffer _ errors => pingsAhead errors c.buf
  | .pong _ errors => pingsAhead errors c.buf + 1
  | .permit _ _ | .request _ _ | .forward _ _ => pingsAhead 0 c.buf
  | .preRead | .config | .head | .select | .closed _ => 0

/-- There is room in the write channel for the pongs of what is read: before authentication for
one, and when the loop starts on the buffer for all its pings. Replies and notices leave room
for the pongs that are still to be sent. -/
structure RoomForPongs (label : ConnectionLabel) (c : Connection) : Prop where
  preAuth : c.control = .preRead → ∀ bytes, label = .read bytes →
    isPlainPing (c.buf ++ bytes) = true → c.queue.length + 1 ≤ writeCapacity
  head : c.control = .head → label = .go → 4 ≤ c.buf.length →
    c.queue.length + pingsAhead 0 c.buf ≤ writeCapacity
  read : c.control = .select → ∀ bytes, label = .read bytes →
    c.queue.length + pingsAhead 0 (c.buf ++ bytes) ≤ writeCapacity
  others : label = .route ∨ label = .notice true →
    c.queue.length + c.pongsAhead + 1 ≤ writeCapacity

instance (label : ConnectionLabel) (c : Connection) : Decidable (RoomForPongs label c) :=
  decidable_of_iff
    ((c.control = .preRead → ∀ bytes ∈ label.bytes?, isPlainPing (c.buf ++ bytes) = true →
        c.queue.length + 1 ≤ writeCapacity) ∧
      (c.control = .head → label = .go → 4 ≤ c.buf.length →
        c.queue.length + pingsAhead 0 c.buf ≤ writeCapacity) ∧
      (c.control = .select → ∀ bytes ∈ label.bytes?,
        c.queue.length + pingsAhead 0 (c.buf ++ bytes) ≤ writeCapacity) ∧
      (label = .route ∨ label = .notice true →
        c.queue.length + c.pongsAhead + 1 ≤ writeCapacity))
    ⟨fun ⟨preAuth, head, read, others⟩ =>
        ⟨fun control => (label.forall_read _).mpr (preAuth control), head,
          fun control => (label.forall_read _).mpr (read control), others⟩,
      fun ⟨preAuth, head, read, others⟩ =>
        ⟨fun control => (label.forall_read _).mp (preAuth control), head,
          fun control => (label.forall_read _).mp (read control), others⟩⟩

/-- The messages in the channel and the pongs to come fit in the channel. -/
def PongsFit (c : Connection) : Prop :=
  c.queue.length + c.pongsAhead ≤ writeCapacity

theorem pongsFit_step {label : ConnectionLabel} {c c' : Connection} (fit : PongsFit c)
    (room : RoomForPongs label c) (moves : c.step decrypt label = some c') : PongsFit c' := by
  unfold PongsFit at fit ⊢
  cases Connection.moves_of_step moves with
  | closes _ _ control queue =>
    simp only [Connection.pongsAhead, control, queue]
    omega
  | preAuthPing bytes control ping => exact room.preAuth control bytes rfl ping
  | preAuthPong control _ =>
    simp only [Connection.pongsAhead, control, List.length_append, List.length_singleton] at fit ⊢
    omega
  | starts control long => exact room.head control rfl long
  | reads bytes control => exact room.read control bytes rfl
  | waits caller errors control front =>
    cases caller <;> exact (Nat.le_add_right _ _).trans fit
  | ping caller errors rest control front =>
    simp only [Connection.pongsAhead, control, pingsAhead_of_ping front] at fit ⊢
    exact fit
  | skips caller errors rest control front =>
    simp only [Connection.pongsAhead, control, pingsAhead_of_skip front] at fit ⊢
    exact fit
  | refuses caller errors payload rest control front =>
    simp only [Connection.pongsAhead, control, pingsAhead_of_message front] at fit ⊢
    exact fit
  | takes caller errors payload rest control front =>
    simp only [Connection.pongsAhead, control, pingsAhead_of_message front] at fit ⊢
    exact fit
  | pong caller errors control _ =>
    simp only [Connection.pongsAhead, control, List.length_append, List.length_singleton] at fit ⊢
    omega
  | routes m rest inFlight _ isOpen =>
    have left := room.others (.inl rfl)
    rw [List.length_append, List.length_singleton, Nat.add_right_comm]
    exact left
  | notices status rest _ isOpen =>
    have left := room.others (.inr rfl)
    rw [List.length_append, List.length_singleton, Nat.add_right_comm]
    exact left
  | unnoticed rest isOpen => exact fit
  | writes m rest control queue =>
    rw [queue, List.length_cons] at fit
    unfold Connection.wrote
    split
    · simp only [Connection.pongsAhead]
      omega
    · simp only [Connection.pongsAhead]
      omega
  | preAuthData _ control | preAuthLeft _ control | configured _ control | selects control
  | readTimeout control | permitted _ _ control | answers _ _ _ control
  | refusesConnect _ _ _ _ control | fails _ _ _ control | forwards _ _ control =>
    simp only [Connection.pongsAhead, control] at fit ⊢
    exact fit

/-- If there is room for its pongs, the task never waits to send a pong into a full channel that
only it receives from. -/
theorem neverStuck_of_reaches {c : Connection}
    (reaches : (connectionTask decrypt).Reaches RoomForPongs {} c) : ¬ c.Stuck := by
  have fit : PongsFit c :=
    reaches.invariant (Nat.zero_le 64 : PongsFit {}) fun label a b fit room moves =>
      pongsFit_step fit room moves
  rintro ⟨full, control | ⟨caller, errors, control⟩⟩
  · simp only [PongsFit, Connection.pongsAhead, control] at fit
    omega
  · simp only [PongsFit, Connection.pongsAhead, control] at fit
    omega

/-- The same connection while its last pong is about to be sent. -/
theorem neverStuck_pingedTwice :
    ∃ c : Connection, c.control = .pong .read 0 ∧ c.requests = 1 ∧ ¬ c.Stuck := by
  obtain ⟨c, reaches, waits⟩ := (connectionTask unpad).exists_reaches RoomForPongs {}
    (pingedTwice.take 17) (fun c => c.control == .pong .read 0 && c.requests == 1)
    (by decide +kernel)
  rw [Bool.and_eq_true, beq_iff_eq, beq_iff_eq] at waits
  exact ⟨c, waits.1, waits.2, neverStuck_of_reaches reaches⟩

/-- A client that sends 65 pings before its first frame: the last pong waits for ever. -/
theorem stuck_before_authentication :
    ¬ ∀ (decrypt : String → Bytes → Option Bytes) (c : Connection),
      (connectionTask decrypt).Reaches (fun _ _ => True) {} c → ¬ c.Stuck := by
  intro claim
  obtain ⟨c, reaches, stuck⟩ := (connectionTask fun _ _ => none).exists_reaches
    (fun _ _ => True) {}
    ((List.replicate 64 [.read [112, 105, 110, 103], .go]).flatten ++
      [.read [112, 105, 110, 103]])
    (fun c => c.control == .prePong && c.queue.length == 64) (by decide +kernel)
  rw [Bool.and_eq_true, beq_iff_eq, beq_iff_eq] at stuck
  exact claim _ c reaches ⟨stuck.2.ge, .inl stuck.1⟩

end TollBackend

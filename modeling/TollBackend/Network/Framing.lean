import TollBackend.Wire.Incremental
import TollBackend.Wire.LittleEndian

/-!
# Framing

`process_message_buffer` takes pings and frames off the front of the buffer of a connection. A
ping is the four letters `ping` in upper or lower case; a frame is a length of 32 bits, which
counts itself, and a payload.

## Main definitions

* `scan`: what one iteration of the loop finds at the front of the buffer.
* `processMessageBuffer`: the loop.
* `nextElement`, `elements`: the pings and frames of a buffer.
* `processReads`: reads that are appended to the buffer, each followed by the loop.

## Main results

* `processMessageBuffer_eq`: a buffer of pings and frames is handled element by element.
* `processReads_of_cut`: the cuts of a stream make no difference.
-/

namespace TollBackend

open Wire

abbrev Bytes := List UInt8

/-- `network::MAX_MESSAGE_SIZE`. -/
def maxMessageSize : Nat :=
  262144

/-- `network::MAX_CONSECUTIVE_ERRORS`. -/
def maxConsecutiveErrors : Nat :=
  3

/-- `is_plain_ping`. -/
def isPlainPing : Bytes → Bool
  | b₀ :: b₁ :: b₂ :: b₃ :: _ =>
    (b₀ == 112 || b₀ == 80) && (b₁ == 105 || b₁ == 73) && (b₂ == 110 || b₂ == 78) &&
      (b₃ == 103 || b₃ == 71)
  | _ => false

/-- What an iteration of the loop does with the buffer. -/
inductive Scan
  | wait
  | ping (rest : Bytes)
  | skip (rest : Bytes)
  | giveUp
  | message (payload rest : Bytes)
deriving DecidableEq, Repr

/-- The front of the buffer, after so many invalid lengths in a row. -/
def scan (consecutiveErrors : Nat) (buf : Bytes) : Scan :=
  if buf.length < 4 then .wait
  else if isPlainPing buf then .ping (buf.drop 4)
  else
    let totalMessageLength := leNat (buf.take 4)
    if ¬ (4 ≤ totalMessageLength ∧ totalMessageLength ≤ maxMessageSize) then
      if maxConsecutiveErrors ≤ consecutiveErrors + 1 then .giveUp else .skip (buf.drop 1)
    else if buf.length < totalMessageLength then .wait
    else .message ((buf.take totalMessageLength).drop 4) (buf.drop totalMessageLength)

/-- What the loop calls, on a state of its own: each call tells whether the connection goes on. -/
structure Handlers (σ : Type) where
  sendPong : σ → Bool × σ
  handleMessage : Bytes → σ → Bool × σ
  sendTerminateResp : σ → σ

section Scan

variable {errors : Nat} {buf rest payload c : Bytes}

theorem scan_of_short (short : buf.length < 4) : scan errors buf = .wait :=
  if_pos short

theorem scan_of_ping (long : 4 ≤ buf.length) (ping : isPlainPing buf = true) :
    scan errors buf = .ping (buf.drop 4) := by
  rw [scan, if_neg (Nat.not_lt.mpr long), if_pos ping]

/-- The length at the front of the buffer is none of a frame. -/
def InvalidLength (buf : Bytes) : Prop :=
  4 ≤ buf.length ∧ isPlainPing buf = false ∧
    ¬ (4 ≤ leNat (buf.take 4) ∧ leNat (buf.take 4) ≤ maxMessageSize)

/-- The buffer begins with the length of a frame. -/
def FrameLength (buf : Bytes) : Prop :=
  4 ≤ buf.length ∧ isPlainPing buf = false ∧
    4 ≤ leNat (buf.take 4) ∧ leNat (buf.take 4) ≤ maxMessageSize

theorem scan_of_invalid (invalid : InvalidLength buf) :
    scan errors buf =
      if maxConsecutiveErrors ≤ errors + 1 then .giveUp else .skip (buf.drop 1) := by
  obtain ⟨long, not_ping, range⟩ := invalid
  rw [scan, if_neg (Nat.not_lt.mpr long), if_neg (by simp [not_ping])]
  exact if_pos range

theorem scan_of_frame (frame : FrameLength buf) :
    scan errors buf =
      if buf.length < leNat (buf.take 4) then .wait
      else .message ((buf.take (leNat (buf.take 4))).drop 4)
        (buf.drop (leNat (buf.take 4))) := by
  obtain ⟨long, not_ping, range⟩ := frame
  rw [scan, if_neg (Nat.not_lt.mpr long), if_neg (by simp [not_ping])]
  exact if_neg (not_not_intro range)

/-- A buffer is short, or begins with a ping, an invalid length or the length of a frame. -/
theorem front_cases (buf : Bytes) :
    buf.length < 4 ∨ (4 ≤ buf.length ∧ isPlainPing buf = true) ∨ InvalidLength buf ∨
      FrameLength buf := by
  by_cases short : buf.length < 4
  · exact .inl short
  · have long := Nat.not_lt.mp short
    cases ping : isPlainPing buf with
    | true => exact .inr (.inl ⟨long, rfl⟩)
    | false =>
      by_cases range : 4 ≤ leNat (buf.take 4) ∧ leNat (buf.take 4) ≤ maxMessageSize
      · exact .inr (.inr (.inr ⟨long, ping, range⟩))
      · exact .inr (.inr (.inl ⟨long, ping, range⟩))

theorem isPlainPing_append (long : 4 ≤ buf.length) (c : Bytes) :
    isPlainPing (buf ++ c) = isPlainPing buf := by
  match buf, long with
  | _ :: _ :: _ :: _ :: _, _ => rfl

theorem InvalidLength.append (invalid : InvalidLength buf) (c : Bytes) :
    InvalidLength (buf ++ c) := by
  obtain ⟨long, not_ping, range⟩ := invalid
  refine ⟨?_, ?_, ?_⟩
  · rw [List.length_append]
    omega
  · rw [isPlainPing_append long, not_ping]
  · rw [List.take_append_of_le_length long]
    exact range

theorem FrameLength.append (frame : FrameLength buf) (c : Bytes) : FrameLength (buf ++ c) := by
  obtain ⟨long, not_ping, range⟩ := frame
  refine ⟨?_, ?_, ?_⟩
  · rw [List.length_append]
    omega
  · rw [isPlainPing_append long, not_ping]
  · rw [List.take_append_of_le_length long]
    exact range

/-- A ping, or a frame with its payload. -/
inductive Element
  | ping
  | frame (payload : Bytes)
deriving DecidableEq, Repr

/-- The complete ping or frame at the front of the buffer. -/
def nextElement (buf : Bytes) : Option (Element × Bytes) :=
  match scan 0 buf with
  | .ping rest => some (.ping, rest)
  | .message payload rest => some (.frame payload, rest)
  | .wait | .skip _ | .giveUp => none

theorem nextElement_of_invalid (invalid : InvalidLength buf) : nextElement buf = none := by
  rw [nextElement, scan_of_invalid invalid]
  split <;> simp_all [maxConsecutiveErrors]

theorem nextElement_of_wait (wait : scan errors buf = .wait) : nextElement buf = none := by
  rcases front_cases buf with short | ⟨long, ping⟩ | invalid | frame
  · rw [nextElement, scan_of_short short]
  · cases (scan_of_ping long ping).symm.trans wait
  · exact nextElement_of_invalid invalid
  · rw [scan_of_frame frame] at wait
    rw [nextElement, scan_of_frame frame, wait]

/-- What `scan` finds does not depend on the errors before it, and shortens the buffer. -/
theorem scan_of_nextElement {e : Element} (found : nextElement buf = some (e, rest)) :
    rest.length < buf.length ∧ ∀ errors, scan errors buf =
      match e with
      | .ping => .ping rest
      | .frame payload => .message payload rest := by
  rcases front_cases buf with short | ⟨long, ping⟩ | invalid | frame
  · rw [nextElement, scan_of_short short] at found
    cases found
  · rw [nextElement, scan_of_ping long ping] at found
    cases found
    refine ⟨?_, fun _ => scan_of_ping long ping⟩
    rw [List.length_drop]
    omega
  · cases (nextElement_of_invalid invalid).symm.trans found
  · rw [nextElement, scan_of_frame frame] at found
    by_cases incomplete : buf.length < leNat (buf.take 4)
    · rw [if_pos incomplete] at found
      cases found
    · rw [if_neg incomplete] at found
      cases found
      refine ⟨?_, fun _ => (scan_of_frame frame).trans (if_neg incomplete)⟩
      have header := frame.2.2.1
      rw [List.length_drop]
      omega

theorem nextElement_append {e : Element} (found : nextElement buf = some (e, rest)) (c : Bytes) :
    nextElement (buf ++ c) = some (e, rest ++ c) := by
  rcases front_cases buf with short | ⟨long, ping⟩ | invalid | frame
  · have wait : scan 0 buf = .wait := scan_of_short short
    cases (nextElement_of_wait wait).symm.trans found
  · have longer : 4 ≤ (buf ++ c).length := by
      rw [List.length_append]
      omega
    rw [nextElement, scan_of_ping long ping] at found
    cases found
    rw [nextElement, scan_of_ping longer (by rwa [isPlainPing_append long]),
      List.drop_append_of_le_length long]
  · cases (nextElement_of_invalid invalid).symm.trans found
  · rw [nextElement, scan_of_frame frame] at found
    by_cases incomplete : buf.length < leNat (buf.take 4)
    · rw [if_pos incomplete] at found
      cases found
    · rw [if_neg incomplete] at found
      cases found
      have complete := Nat.not_lt.mp incomplete
      have longer : ¬ (buf ++ c).length < leNat (buf.take 4) := by
        rw [List.length_append]
        omega
      rw [nextElement, scan_of_frame (frame.append c), List.take_append_of_le_length frame.1,
        if_neg longer, List.take_append_of_le_length complete,
        List.drop_append_of_le_length complete]

/-- The pings and frames of a stream. -/
def elements : Decoder UInt8 Element where
  next := nextElement
  shrinks found := (scan_of_nextElement found).1
  stable found := nextElement_append found

theorem scan_append_of_not_wait (not_wait : scan 0 buf ≠ .wait)
    (none_left : nextElement buf = none) (c : Bytes) :
    scan 0 (buf ++ c) ≠ .wait ∧ nextElement (buf ++ c) = none := by
  rcases front_cases buf with short | ⟨long, ping⟩ | invalid | frame
  · exact absurd (scan_of_short short) not_wait
  · rw [nextElement, scan_of_ping long ping] at none_left
    cases none_left
  · refine ⟨?_, nextElement_of_invalid (invalid.append c)⟩
    rw [scan_of_invalid (invalid.append c)]
    simp [maxConsecutiveErrors]
  · rw [scan_of_frame frame] at not_wait
    rw [nextElement, scan_of_frame frame] at none_left
    split at not_wait
    · exact absurd rfl not_wait
    · next complete =>
      rw [if_neg complete] at none_left
      cases none_left

/-- Whether `scan` waits does not depend on the errors before it. -/
theorem scan_of_wait (wait : scan errors buf = .wait) (errors' : Nat) :
    scan errors' buf = .wait := by
  rcases front_cases buf with short | ⟨long, ping⟩ | invalid | frame
  · exact scan_of_short short
  · cases (scan_of_ping long ping).symm.trans wait
  · rw [scan_of_invalid invalid] at wait
    split at wait <;> cases wait
  · rw [scan_of_frame frame] at wait ⊢
    exact wait

end Scan

/-- The buffer after an iteration that does not end the loop. -/
def Scan.next : Scan → Option Bytes
  | .ping rest | .skip rest | .message _ rest => some rest
  | .wait | .giveUp => none

theorem scan_shrinks {errors : Nat} {buf rest : Bytes}
    (next : (scan errors buf).next = some rest) : rest.length < buf.length := by
  rcases front_cases buf with short | ⟨long, ping⟩ | invalid | frame
  · rw [scan_of_short short] at next
    cases next
  · rw [scan_of_ping long ping] at next
    cases next
    rw [List.length_drop]
    omega
  · have long := invalid.1
    rw [scan_of_invalid invalid] at next
    split at next
    · cases next
    · cases next
      rw [List.length_drop]
      omega
  · have header := frame.2.2.1
    rw [scan_of_frame frame] at next
    split at next
    · cases next
    · cases next
      rw [List.length_drop]
      omega

/-- `process_message_buffer`: whether the connection goes on, and what is left in the buffer. -/
def processMessageBuffer {σ : Type} (h : Handlers σ) (consecutiveErrors : Nat) (buf : Bytes)
    (s : σ) : Bool × Bytes × σ :=
  match found : scan consecutiveErrors buf with
  | .wait => (true, buf, s)
  | .giveUp => (false, [], h.sendTerminateResp s)
  | .skip rest =>
    have := scan_shrinks (found ▸ rfl : (scan consecutiveErrors buf).next = some rest)
    processMessageBuffer h (consecutiveErrors + 1) rest s
  | .ping rest =>
    have := scan_shrinks (found ▸ rfl : (scan consecutiveErrors buf).next = some rest)
    match h.sendPong s with
    | (true, s) => processMessageBuffer h consecutiveErrors rest s
    | (false, s) => (false, rest, s)
  | .message payload rest =>
    have := scan_shrinks (found ▸ rfl : (scan consecutiveErrors buf).next = some rest)
    match h.handleMessage payload s with
    | (true, s) => processMessageBuffer h 0 rest s
    | (false, s) => (false, rest, s)
termination_by buf.length

/-- Reads that are appended to the buffer, each followed by the loop, until the connection is
closed. -/
def processReads {σ : Type} (h : Handlers σ) : Bytes → List Bytes → σ → Bool × Bytes × σ
  | buf, [], s => (true, buf, s)
  | buf, read :: reads, s =>
    match processMessageBuffer h 0 (buf ++ read) s with
    | (true, rest, s) => processReads h rest reads s
    | closed => closed

section Loop

variable {σ : Type} (h : Handlers σ)

/-- An element is answered or handed on. -/
def Handlers.handle : Element → σ → Bool × σ
  | .ping => h.sendPong
  | .frame payload => h.handleMessage payload

/-- Elements are handled in order until the connection is closed. -/
def Handlers.handleAll : List Element → σ → Bool × σ
  | [], s => (true, s)
  | e :: es, s =>
    match h.handle e s with
    | (true, s) => handleAll es s
    | (false, s) => (false, s)

variable {h}
variable {errors : Nat} {buf rest payload : Bytes} {s : σ} {es fs : List Element}

theorem Handlers.handleAll_append :
    h.handleAll (es ++ fs) s =
      match h.handleAll es s with
      | (true, s) => h.handleAll fs s
      | (false, s) => (false, s) := by
  induction es generalizing s with
  | nil => rfl
  | cons e es ih =>
    simp only [List.cons_append, Handlers.handleAll]
    cases h.handle e s with
    | mk goesOn s =>
      cases goesOn with
      | true => exact ih
      | false => rfl

theorem processMessageBuffer_of_wait (wait : scan errors buf = .wait) :
    processMessageBuffer h errors buf s = (true, buf, s) := by
  rw [processMessageBuffer]
  split <;> simp_all

theorem processMessageBuffer_of_found {e : Element} (h : Handlers σ) (errors : Nat) (s : σ)
    (found : nextElement buf = some (e, rest)) :
    ∃ errors', processMessageBuffer h errors buf s =
      match h.handle e s with
      | (true, s) => processMessageBuffer h errors' rest s
      | (false, s) => (false, rest, s) := by
  have eq := (scan_of_nextElement found).2 errors
  cases e with
  | ping =>
    refine ⟨errors, ?_⟩
    rw [processMessageBuffer]
    split <;> simp_all [Handlers.handle]
  | frame payload =>
    refine ⟨0, ?_⟩
    rw [processMessageBuffer]
    split <;> simp_all [Handlers.handle]

/-- The elements of the buffer are handled in order, each once; if the connection goes on, what
is left is the rest without a complete element. -/
def HandlesAll (h : Handlers σ) (buf : Bytes) (s : σ) (result : Bool × Bytes × σ) : Prop :=
  (result.1, result.2.2) = h.handleAll (elements.drain buf).1 s ∧
    (result.1 = true → result.2.1 = (elements.drain buf).2)

/-- The loop handles a buffer that holds pings and frames, and then the beginning of another. -/
theorem processMessageBuffer_eq (errors : Nat) (wait : scan 0 (elements.drain buf).2 = .wait) :
    HandlesAll h buf s (processMessageBuffer h errors buf s) := by
  induction buf using Decoder.drain_induction (d := elements) generalizing errors s with
  | none_left buf none_left =>
    unfold HandlesAll
    rw [Decoder.drain_of_none none_left] at wait ⊢
    rw [processMessageBuffer_of_wait (scan_of_wait wait errors)]
    exact ⟨rfl, fun _ => rfl⟩
  | some_left buf e rest found ih =>
    have drained := Decoder.drain_of_some found
    rw [drained] at wait
    obtain ⟨errors', eq⟩ := processMessageBuffer_of_found h errors s found
    rw [eq]
    unfold HandlesAll at ih ⊢
    rw [drained, Handlers.handleAll]
    cases h.handle e s with
    | mk goesOn s' =>
      cases goesOn with
      | true => exact ih errors' wait
      | false => exact ⟨rfl, fun goes => by cases goes⟩

/-- If the rest of a stream is the beginning of an element, so is the rest of each prefix. -/
theorem wait_of_append {c : Bytes} (wait : scan 0 (elements.drain (buf ++ c)).2 = .wait) :
    scan 0 (elements.drain buf).2 = .wait := by
  by_contra not_wait
  have stuck := scan_append_of_not_wait not_wait (elements.next_drain buf) c
  rw [Decoder.drain_append, Decoder.drain_of_none (d := elements) stuck.2] at wait
  exact stuck.1 wait

/-- However a stream of pings and frames is cut into reads, its elements are handled in order. -/
theorem processReads_eq {reads : List Bytes} (settled : nextElement buf = none)
    (wait : scan 0 (elements.drain (buf ++ reads.flatten)).2 = .wait) :
    HandlesAll h (buf ++ reads.flatten) s (processReads h buf reads s) := by
  induction reads generalizing buf s with
  | nil =>
    unfold HandlesAll
    rw [List.flatten_nil, List.append_nil, Decoder.drain_of_none settled]
    exact ⟨rfl, fun _ => rfl⟩
  | cons read reads ih =>
    rw [List.flatten_cons, ← List.append_assoc] at wait ⊢
    have first := processMessageBuffer_eq (h := h) (s := s) 0 (wait_of_append wait)
    have whole := elements.drain_append (buf ++ read) reads.flatten
    rw [processReads]
    unfold HandlesAll at first ih ⊢
    rw [whole] at wait ⊢
    rw [Handlers.handleAll_append, ← first.1]
    split
    · next rest s' goesOn =>
      -- the loop has left a rest, to which the next read is appended
      rw [goesOn] at first
      cases first.2 rfl
      rw [goesOn]
      exact ih (elements.next_drain _) wait
    · next not_on =>
      generalize processMessageBuffer h 0 (buf ++ read) s = result at not_on
      obtain ⟨goesOn, rest, s'⟩ := result
      cases goesOn with
      | true => exact absurd rfl (not_on rest s')
      | false => exact ⟨rfl, fun goes => by cases goes⟩

end Loop

end TollBackend

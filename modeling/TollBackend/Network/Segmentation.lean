import TollBackend.Network.Framing

/-!
# Framing does not depend on the reads

A client sends pings and frames whose length is in range. However the stream is cut into
reads, each ping is answered once and the payload of each frame is handed on once, in the
order of the stream, and what stays in the buffer is the beginning of the last element.

## Main definitions

* `Sent`: a ping or a frame as a client writes it.
* `Incomplete`: a proper beginning of one.

## Main results

* `framing_of_cut`: every cut of a stream is handled like the stream in one read.
-/

namespace TollBackend

open Wire

/-- A ping in any letter case, or a frame whose length is in range. -/
inductive Sent
  | ping (letters : Bytes) (four : letters.length = 4) (isPing : isPlainPing letters = true)
  | frame (payload : Bytes) (fits : payload.length + 4 ≤ maxMessageSize)

/-- The bytes of an element: the length of a frame counts itself. -/
def Sent.bytes : Sent → Bytes
  | .ping letters _ _ => letters
  | .frame payload _ => leBytes 4 (payload.length + 4) ++ payload

/-- What the element is handled as. -/
def Sent.element : Sent → Element
  | .ping _ _ _ => .ping
  | .frame payload _ => .frame payload

/-- A beginning of an element without its last byte. -/
def Incomplete (tail : Bytes) : Prop :=
  ∃ k : Sent, ∃ missing : Bytes, missing ≠ [] ∧ k.bytes = tail ++ missing

/-- The highest byte of a length in range is zero, and no letter of a ping. -/
theorem isPlainPing_leBytes {n : Nat} (range : n ≤ maxMessageSize) (c : Bytes) :
    isPlainPing (leBytes 4 n ++ c) = false := by
  have small : n / 256 / 256 / 256 = 0 := by
    unfold maxMessageSize at range
    omega
  simp [leBytes, isPlainPing, small]

theorem leNat_take_leBytes {n : Nat} (range : n ≤ maxMessageSize) (c : Bytes) :
    leNat ((leBytes 4 n ++ c).take 4) = n := by
  have width : (leBytes 4 n ++ c).take 4 = leBytes 4 n :=
    List.take_left' (length_leBytes 4 n)
  have fits : n < 256 ^ 4 := by
    unfold maxMessageSize at range
    omega
  rw [width, leNat_leBytes_of_lt fits]

theorem frameLength_leBytes {n : Nat} (low : 4 ≤ n) (high : n ≤ maxMessageSize) (c : Bytes) :
    FrameLength (leBytes 4 n ++ c) := by
  refine ⟨?_, isPlainPing_leBytes high c, ?_, ?_⟩
  · rw [List.length_append, length_leBytes]
    omega
  · rwa [leNat_take_leBytes high]
  · rwa [leNat_take_leBytes high]

/-- The bytes of an element are found as this element, whatever follows. -/
theorem nextElement_bytes (k : Sent) (c : Bytes) :
    nextElement (k.bytes ++ c) = some (k.element, c) := by
  cases k with
  | ping letters four isPing =>
    have long : 4 ≤ letters.length := four.ge
    have longer : 4 ≤ (letters ++ c).length := by
      rw [List.length_append]
      omega
    have ping : isPlainPing (letters ++ c) = true := by rwa [isPlainPing_append long]
    rw [Sent.bytes, nextElement, scan_of_ping longer ping, List.drop_left' four]
    rfl
  | frame payload fits =>
    have frame := frameLength_leBytes (Nat.le_add_left 4 payload.length) fits (payload ++ c)
    have total := leNat_take_leBytes fits (payload ++ c)
    have whole : (leBytes 4 (payload.length + 4) ++ payload).length = payload.length + 4 := by
      rw [List.length_append, length_leBytes, Nat.add_comm]
    have enough : ¬ (leBytes 4 (payload.length + 4) ++ (payload ++ c)).length <
        payload.length + 4 := by
      rw [← List.append_assoc, List.length_append, whole]
      omega
    rw [Sent.bytes, List.append_assoc, nextElement, scan_of_frame frame, total, if_neg enough,
      ← List.append_assoc, List.take_left' whole, List.drop_left' whole,
      List.drop_left' (length_leBytes 4 _)]
    rfl

/-- The beginning of an element is left in the buffer. -/
theorem scan_of_incomplete {tail : Bytes} (incomplete : Incomplete tail) :
    scan 0 tail = .wait := by
  obtain ⟨k, missing, nonempty, eq⟩ := incomplete
  have more : 0 < missing.length := List.length_pos_iff.mpr nonempty
  have length := congrArg List.length eq
  rw [List.length_append] at length
  by_cases short : tail.length < 4
  · exact scan_of_short short
  · have long := Nat.not_lt.mp short
    cases k with
    | ping letters four isPing =>
      rw [Sent.bytes, four] at length
      omega
    | frame payload fits =>
      have whole := frameLength_leBytes (Nat.le_add_left 4 payload.length) fits payload
      have total := leNat_take_leBytes fits payload
      rw [Sent.bytes] at eq length
      rw [eq] at whole total
      rw [List.length_append, length_leBytes] at length
      rw [List.take_append_of_le_length long] at total
      have frame : FrameLength tail := by
        obtain ⟨-, not_ping, range⟩ := whole
        rw [isPlainPing_append long] at not_ping
        rw [List.take_append_of_le_length long] at range
        exact ⟨long, not_ping, range⟩
      rw [scan_of_frame frame, total, if_pos (by omega)]

theorem drain_sent (ks : List Sent) {tail : Bytes} (incomplete : Incomplete tail) :
    elements.drain (ks.flatMap Sent.bytes ++ tail) = (ks.map Sent.element, tail) :=
  Wire.Decoder.drain_encode (d := elements) (fun k _ c => nextElement_bytes k c)
    (nextElement_of_wait (scan_of_incomplete incomplete))

/-- The outcome of a cut of the stream. -/
theorem handlesAll_of_cut {σ : Type} {h : Handlers σ} {ks : List Sent} {tail : Bytes} {s : σ}
    (incomplete : Incomplete tail) {reads : List Bytes}
    (cut : reads.flatten = ks.flatMap Sent.bytes ++ tail) :
    ((processReads h [] reads s).1, (processReads h [] reads s).2.2) =
        h.handleAll (ks.map Sent.element) s ∧
      ((processReads h [] reads s).1 = true → (processReads h [] reads s).2.1 = tail) := by
  have drained := drain_sent ks incomplete
  rw [← cut] at drained
  have wait : scan 0 (elements.drain ([] ++ reads.flatten)).2 = .wait := by
    rw [List.nil_append, drained]
    exact scan_of_incomplete incomplete
  have settled : nextElement [] = none := rfl
  have all := processReads_eq (h := h) (s := s) settled wait
  unfold HandlesAll at all
  rwa [List.nil_append, drained] at all

/-- However a stream of pings and frames is cut into reads, the outcome is that of the whole
stream in one read: its elements are handled once each and in order, and if the connection goes
on, the incomplete end of the stream is left in the buffer. -/
theorem framing_of_cut {σ : Type} (h : Handlers σ) (ks : List Sent) {tail : Bytes}
    (incomplete : Incomplete tail) {reads : List Bytes}
    (cut : reads.flatten = ks.flatMap Sent.bytes ++ tail) (s : σ) :
    let result := processReads h [] reads s
    let whole := processReads h [] [ks.flatMap Sent.bytes ++ tail] s
    (result.1, result.2.2) = (whole.1, whole.2.2) ∧
      (result.1, result.2.2) = h.handleAll (ks.map Sent.element) s ∧
      (result.1 = true → result.2.1 = tail) := by
  have of_cut := handlesAll_of_cut (h := h) (s := s) incomplete cut
  have one : [ks.flatMap Sent.bytes ++ tail].flatten = ks.flatMap Sent.bytes ++ tail := by simp
  have of_whole := handlesAll_of_cut (h := h) (s := s) incomplete one
  exact ⟨of_cut.1.trans of_whole.1.symm, of_cut⟩

/-- Handlers that write down what they are called with. -/
def recorded : Handlers (List Element) where
  sendPong log := (true, log ++ [.ping])
  handleMessage payload log := (true, log ++ [.frame payload])
  sendTerminateResp log := log

/-- A ping and a frame, cut inside the ping and inside the length, and the first byte of
another ping. -/
theorem framing_of_cut_pingFrame :
    (processReads recorded [] [[112, 105], [110, 103, 6, 0], [0, 0, 1, 2, 112]] []).2.2 =
      [.ping, .frame [1, 2]] := by
  have incomplete : Incomplete [112] :=
    ⟨.ping [112, 105, 110, 103] rfl rfl, [105, 110, 103], by decide, rfl⟩
  have cut : [[112, 105], [110, 103, 6, 0], [0, 0, 1, 2, 112]].flatten =
      [.ping [112, 105, 110, 103] rfl rfl, .frame [1, 2] (by decide)].flatMap Sent.bytes ++
        [112] := by decide
  exact (Prod.mk.inj (framing_of_cut recorded _ incomplete cut []).2.1).2

end TollBackend

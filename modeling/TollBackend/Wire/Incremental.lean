import Mathlib.Data.List.Basic

/-!
# Decoding a stream that arrives in pieces

A decoder takes one element at a time off the front of a buffer, or finds none that is
complete. It is stable: what it finds does not change when more input is appended. Then it
does not matter how a stream is cut into the pieces that are appended to the buffer.

## Main definitions

* `Decoder`: a stable decoder.
* `Decoder.drain`: all elements of a buffer, and what is left of it.

## Main results

* `Decoder.drain_append`: draining at once, or in two pieces.
* `Decoder.drain_encode`: a stream of encoded elements is drained to these elements.
-/

namespace Wire

/-- Takes elements off the front of a buffer. -/
structure Decoder (α ε : Type) where
  next : List α → Option (ε × List α)
  shrinks : ∀ {b e r}, next b = some (e, r) → r.length < b.length
  stable : ∀ {b e r}, next b = some (e, r) → ∀ c, next (b ++ c) = some (e, r ++ c)

namespace Decoder

variable {α ε : Type} (d : Decoder α ε)

/-- All elements of the buffer in order, and the rest, which holds none. -/
def drain (b : List α) : List ε × List α :=
  match found : d.next b with
  | none => ([], b)
  | some (e, r) =>
    have := d.shrinks found
    (e :: (drain r).1, (drain r).2)
termination_by b.length

variable {d}
variable {b c r : List α} {e : ε}

theorem drain_of_none (none_left : d.next b = none) : d.drain b = ([], b) := by
  rw [drain]
  split
  · rfl
  · next found => cases none_left.symm.trans found

theorem drain_of_some (found : d.next b = some (e, r)) :
    d.drain b = (e :: (d.drain r).1, (d.drain r).2) := by
  rw [drain]
  split
  · next none_left => cases none_left.symm.trans found
  · next found' =>
    cases found.symm.trans found'
    rfl

/-- An induction along the elements of a buffer. -/
theorem drain_induction {P : List α → Prop} (none_left : ∀ b, d.next b = none → P b)
    (some_left : ∀ b e r, d.next b = some (e, r) → P r → P b) (b : List α) : P b := by
  induction length : b.length using Nat.strongRecOn generalizing b with
  | ind n ih =>
    cases found : d.next b with
    | none => exact none_left b found
    | some p =>
      obtain ⟨e, r⟩ := p
      have shorter : r.length < n := length ▸ d.shrinks found
      exact some_left b e r found (ih r.length shorter r rfl)

/-- A drained buffer holds no complete element. -/
theorem next_drain (b : List α) : d.next (d.drain b).2 = none := by
  induction b using drain_induction (d := d) with
  | none_left b none_left => rw [drain_of_none none_left]; exact none_left
  | some_left b e r found ih => rw [drain_of_some found]; exact ih

/-- Input that is appended to a buffer may as well arrive after the buffer is drained. -/
theorem drain_append (b c : List α) :
    d.drain (b ++ c) =
      ((d.drain b).1 ++ (d.drain ((d.drain b).2 ++ c)).1, (d.drain ((d.drain b).2 ++ c)).2) := by
  induction b using drain_induction (d := d) with
  | none_left b none_left => rw [drain_of_none none_left]; rfl
  | some_left b e r found ih =>
    rw [drain_of_some (d.stable found c), ih, drain_of_some found]
    rfl

/-- A stream of written elements, followed by input without a complete one, is drained to what
these elements are read as. -/
theorem drain_encode {κ : Type} {encode : κ → List α} {read : κ → ε} {ks : List κ}
    (decodes : ∀ k ∈ ks, ∀ c, d.next (encode k ++ c) = some (read k, c))
    (tail : d.next c = none) : d.drain (ks.flatMap encode ++ c) = (ks.map read, c) := by
  induction ks with
  | nil => exact drain_of_none tail
  | cons k ks ih =>
    rw [List.flatMap_cons, List.append_assoc,
      drain_of_some (decodes k List.mem_cons_self _),
      ih fun k' mem => decodes k' (List.mem_cons_of_mem k mem), List.map_cons]

end Decoder

end Wire

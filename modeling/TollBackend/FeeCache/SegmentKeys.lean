import TollBackend.FeeCache.Segments

/-!
# The keys of segments, read back

The fallback to KeyDB has only the texts of the keys, and reads the stations out of them. A number
of 64 bits is read back from its text, so the stations of a key are those of its segment.

## Main definitions

* `FitsI64`: the numbers of 64 bits.

## Main results

* `parseInt_toString`: a written number is read back.
* `parseSegmentText_segmentText`: the stations are read back from the key of their segment.
-/

namespace TollBackend

open SegmentMaps

/-! ### Numbers -/

/-- A text of digits is read as its number. -/
theorem parseDigits_of_digits {cs : List Char} (digits : ∀ c ∈ cs, c.isDigit = true) (acc : Nat) :
    parseDigits cs acc = some (Nat.ofDigitChars 10 cs acc : Nat) := by
  induction cs generalizing acc with
  | nil => rfl
  | cons c cs ih =>
    have digit := digits c List.mem_cons_self
    have range : '0' ≤ c ∧ c ≤ '9' := by
      rw [Char.isDigit, Bool.and_eq_true, decide_eq_true_iff, decide_eq_true_iff] at digit
      exact digit
    rw [parseDigits, if_pos range, Nat.ofDigitChars_cons]
    have next := ih (fun c mem => digits c (List.mem_cons_of_mem _ mem))
      (10 * acc + (c.toNat - '0'.toNat))
    rw [← next]
    congr 1
    push_cast
    ring

theorem parseDigits_toDigits (n : Nat) : parseDigits (Nat.toDigits 10 n) 0 = some (n : Int) := by
  have digits : ∀ c ∈ Nat.toDigits 10 n, c.isDigit = true :=
    fun c mem => Nat.isDigit_of_mem_toDigits (by decide) (by decide) mem
  have read := parseDigits_of_digits digits 0
  rwa [Nat.ofDigitChars_ten_toDigits] at read

/-- The text of a number is read by its sign. -/
theorem parseInt_of_digit {bits : Nat} {s : String} {c : Char} {cs : List Char}
    (text : s.toList = c :: cs) (digit : c.isDigit = true) :
    parseInt bits s = (parseDigits (c :: cs) 0).filter
      fun n => decide (-2 ^ (bits - 1) ≤ n ∧ n < 2 ^ (bits - 1)) := by
  unfold parseInt
  rw [text]
  dsimp only
  split
  · next none => cases none
  · next minus =>
    cases minus
    exact absurd digit (by decide)
  · next plus =>
    cases plus
    exact absurd digit (by decide)
  · rfl

theorem parseInt_of_minus {bits : Nat} {s : String} {c : Char} {cs : List Char}
    (text : s.toList = '-' :: c :: cs) :
    parseInt bits s = ((parseDigits (c :: cs) 0).map (-·)).filter
      fun n => decide (-2 ^ (bits - 1) ≤ n ∧ n < 2 ^ (bits - 1)) := by
  unfold parseInt
  rw [text]
  rfl

/-- A written number is read back. -/
theorem parseInt_toString {bits : Nat} {n : Int} (low : -2 ^ (bits - 1) ≤ n)
    (high : n < 2 ^ (bits - 1)) : parseInt bits (toString n) = some n := by
  have fits : decide (-2 ^ (bits - 1) ≤ n ∧ n < 2 ^ (bits - 1)) = true :=
    decide_eq_true ⟨low, high⟩
  cases n with
  | ofNat m =>
    have text : (toString (Int.ofNat m)).toList = Nat.toDigits 10 m := Nat.toList_repr
    obtain ⟨c, cs, written⟩ := List.exists_cons_of_ne_nil (Nat.toDigits_ne_nil (n := m) (b := 10))
    have digit : c.isDigit = true :=
      Nat.isDigit_of_mem_toDigits (by decide) (by decide) (written ▸ List.mem_cons_self)
    rw [parseInt_of_digit (text.trans written) digit, ← written, parseDigits_toDigits]
    exact Option.filter_some_pos fits
  | negSucc m =>
    have text : (toString (Int.negSucc m)).toList = '-' :: Nat.toDigits 10 (m + 1) := by
      change ("-" ++ (m + 1).repr).toList = _
      rw [String.toList_append, Nat.toList_repr]
      rfl
    obtain ⟨c, cs, written⟩ :=
      List.exists_cons_of_ne_nil (Nat.toDigits_ne_nil (n := m + 1) (b := 10))
    rw [written] at text
    rw [parseInt_of_minus text, ← written, parseDigits_toDigits]
    exact Option.filter_some_pos fits

theorem colon_not_mem_int (n : Int) : ':' ∉ (toString n).toList :=
  not_mem_toString_int (by decide) (by decide) n

/-- A number of 64 bits. -/
def FitsI64 (n : Int) : Prop :=
  -2 ^ 63 ≤ n ∧ n < 2 ^ 63

/-! ### Keys -/

/-- What stands in front of the stations in the key of a segment. -/
theorem colon_not_mem_segmentPrefix : ':' ∉ "7_closed_cycle_transition_stage".toList := by
  simp

theorem toList_segmentText (key : Int × Int) :
    (segmentText key).toList = "7_closed_cycle_transition_stage".toList ++
      ':' :: ((toString key.1).toList ++ ':' :: (toString key.2).toList) := by
  have literal : "7_closed_cycle_transition_stage:".toList =
      "7_closed_cycle_transition_stage".toList ++ [':'] := by
    decide +kernel
  have colon : ":".toList = [':'] := by decide +kernel
  change ("7_closed_cycle_transition_stage:" ++ toString key.1 ++ ":" ++ toString key.2).toList = _
  rw [String.toList_append, String.toList_append, String.toList_append, literal, colon]
  generalize "7_closed_cycle_transition_stage".toList = front
  simp only [List.append_assoc, List.cons_append, List.nil_append]

/-- A key of three parts is split at its colons. -/
theorem splitAtChar_three {key front lo hi : String}
    (written : key.toList = front.toList ++ ':' :: (lo.toList ++ ':' :: hi.toList))
    (first : ':' ∉ front.toList) (second : ':' ∉ lo.toList) (third : ':' ∉ hi.toList) :
    splitAtChar ':' key = [front, lo, hi] := by
  rw [splitAtChar, written, List.splitOn_append_cons_self_of_not_mem first,
    List.splitOn_append_cons_self_of_not_mem second, List.splitOn_eq_singleton third]
  simp only [List.map_cons, List.map_nil, String.ofList_toList]

/-- The stations are read back from the key of their segment. -/
theorem parseSegmentText_segmentText {key : Int × Int} (lo : FitsI64 key.1) (hi : FitsI64 key.2) :
    parseSegmentText (segmentText key) = some key := by
  have parts := splitAtChar_three (toList_segmentText key) colon_not_mem_segmentPrefix
    (colon_not_mem_int _) (colon_not_mem_int _)
  have last : ":".intercalate [toString key.2] = toString key.2 := by simp
  have lo_read : parseInt 64 (toString key.1) = some key.1 := parseInt_toString lo.1 lo.2
  have hi_read : parseInt 64 (toString key.2) = some key.2 := parseInt_toString hi.1 hi.2
  rw [parseSegmentText, parts]
  simp only [last, lo_read, hi_read]
  rfl

end TollBackend

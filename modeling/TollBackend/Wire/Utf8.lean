import Mathlib.Data.List.TakeWhile

/-!
# UTF-8

Texts as bytes, and bytes as texts where what is no UTF-8 is replaced.

## Main definitions

* `encodeUtf8`: the bytes of characters.
* `decodeUtf8`: the characters of bytes; the longest beginning of a character that is not
  completed counts as one replacement character. Decoders differ in what they make of three bytes
  that would mean a surrogate: nothing that belongs together, or one replacement character.
* `cutUtf8`: the characters of a text whose bytes are cut.

## Main results

* `decodeUtf8_encodeUtf8`: decoding gives back what was encoded.
* `decodeUtf8_take`: of cut bytes, all but a replacement character at the end.
-/

namespace Wire

/-- The bytes of characters. -/
def encodeUtf8 (cs : List Char) : List UInt8 :=
  cs.flatMap String.utf8EncodeChar

/-- A byte that continues a character. -/
def isContinuation (b : UInt8) : Bool :=
  0x80 ≤ b && b ≤ 0xBF

/-- How many bytes follow the first one of a character; `none` if no character begins so. -/
def continuations (b : UInt8) : Option Nat :=
  if 0xC2 ≤ b && b ≤ 0xDF then some 1
  else if 0xE0 ≤ b && b ≤ 0xEF then some 2
  else if 0xF0 ≤ b && b ≤ 0xF4 then some 3
  else none

/-- The second byte may follow the first one. -/
def secondFits (surrogates : Bool) (b second : UInt8) : Bool :=
  if b = 0xE0 then 0xA0 ≤ second && second ≤ 0xBF
  else if b = 0xED then
    if surrogates then isContinuation second else 0x80 ≤ second && second ≤ 0x9F
  else if b = 0xF0 then 0x90 ≤ second && second ≤ 0xBF
  else if b = 0xF4 then 0x80 ≤ second && second ≤ 0x8F
  else isContinuation second

/-- The bytes behind a first byte that belong to its character. -/
def continuationOf (surrogates : Bool) (b : UInt8) (more : Nat) : List UInt8 → List UInt8
  | [] => []
  | second :: rest =>
    if secondFits surrogates b second then
      second :: (rest.take (more - 1)).takeWhile isContinuation
    else []

/-- The replacement character. -/
def replacementChar : Char :=
  Char.ofNat 0xFFFD

/-- What is left of the value of a first byte without its mark, by the number of bytes behind
it. -/
def leadModulus : Nat → Nat
  | 1 => 32
  | 2 => 16
  | _ => 8

/-- The character of a first byte and all its continuations. -/
def joinChar (b : UInt8) (tail : List UInt8) : Char :=
  let lead := b.toNat % leadModulus tail.length
  let value := tail.foldl (fun value t => value * 64 + t.toNat % 64) lead
  if 0xD800 ≤ value ∧ value ≤ 0xDFFF then replacementChar else Char.ofNat value

/-- Decodes at most `fuel` characters; each longest beginning of a character that is not
completed is replaced. -/
def decodeUtf8 (surrogates : Bool) : Nat → List UInt8 → List Char
  | 0, _ | _, [] => []
  | fuel + 1, b :: rest =>
    if b < 0x80 then Char.ofNat b.toNat :: decodeUtf8 surrogates fuel rest
    else
      match continuations b with
      | none => replacementChar :: decodeUtf8 surrogates fuel rest
      | some more =>
        let tail := continuationOf surrogates b more rest
        let char := if tail.length = more then joinChar b tail else replacementChar
        char :: decodeUtf8 surrogates fuel (rest.drop tail.length)

/-! ### One character -/

/-- Bytes of a character behind its first byte. -/
structure Continues (surrogates : Bool) (b : UInt8) (tail : List UInt8) : Prop where
  count : continuations b = some tail.length
  second : ∀ s, tail.head? = some s → secondFits surrogates b s = true
  others : ∀ t ∈ tail.tail, isContinuation t = true

section OneChar

variable {surrogates : Bool} {b : UInt8} {tail rest : List UInt8} {fuel : Nat}

theorem not_ascii_of_continuations {more : Nat} (count : continuations b = some more) :
    ¬ b < 0x80 := by
  intro ascii
  have below : b.toNat < 128 := UInt8.lt_iff_toNat_lt.mp ascii
  have none_eq : continuations b = none := by
    simp only [continuations, UInt8.le_iff_toNat_le, Bool.and_eq_true, decide_eq_true_eq]
    rw [if_neg, if_neg, if_neg]
    all_goals
      intro range
      have low := range.1
      simp at low
      omega
  rw [none_eq] at count
  cases count

theorem continuations_pos {more : Nat} (count : continuations b = some more) : 0 < more := by
  unfold continuations at count
  split at count
  · cases count
    decide
  · split at count
    · cases count
      decide
    · split at count
      · cases count
        decide
      · cases count

/-- What continues a character is taken as far as it is there. -/
theorem continuationOf_take (continues : Continues surrogates b tail) (k : Nat)
    (behind : tail.length ≤ k ∨ rest = []) :
    continuationOf surrogates b tail.length (tail.take k ++ rest) = tail.take k := by
  have positive := continuations_pos continues.count
  match tail, k with
  | [], _ => cases positive
  | s :: others, 0 =>
    rcases behind with short | nothing
    · cases short
    · rw [nothing]
      rfl
  | s :: others, k + 1 =>
    have second : secondFits surrogates b s = true := continues.second s rfl
    have all : ∀ t ∈ others.take k, isContinuation t = true := fun t mem =>
      continues.others t (List.mem_of_mem_take mem)
    have inside : (others.take k ++ rest).take others.length = others.take k := by
      rcases behind with short | nothing
      · have whole : others.take k = others :=
          List.take_of_length_le (Nat.le_of_succ_le_succ short)
        rw [whole, List.take_left]
      · rw [nothing, List.append_nil, List.take_take, Nat.min_comm, ← List.take_take,
          List.take_length]
    rw [List.take_succ_cons, List.cons_append, continuationOf, if_pos second, List.length_cons,
      Nat.add_sub_cancel, inside, List.takeWhile_eq_self_iff.mpr all]

/-- A whole character is decoded. -/
theorem decodeUtf8_continued (continues : Continues surrogates b tail) :
    decodeUtf8 surrogates (fuel + 1) (b :: (tail ++ rest)) =
      joinChar b tail :: decodeUtf8 surrogates fuel rest := by
  have taken : continuationOf surrogates b tail.length (tail ++ rest) = tail := by
    have all : continuationOf surrogates b tail.length (tail.take tail.length ++ rest) =
        tail.take tail.length :=
      continuationOf_take continues tail.length (.inl (Nat.le_refl _))
    rw [List.take_length] at all
    exact all
  rw [decodeUtf8, if_neg (not_ascii_of_continuations continues.count), continues.count]
  simp only [taken, List.drop_left, if_pos]

/-- A character that is cut is replaced. -/
theorem decodeUtf8_cut (continues : Continues surrogates b tail) {k : Nat} (cut : k < tail.length) :
    decodeUtf8 surrogates (fuel + 1) (b :: tail.take k) = [replacementChar] := by
  have taken : continuationOf surrogates b tail.length (tail.take k) = tail.take k := by
    have all : continuationOf surrogates b tail.length (tail.take k ++ []) = tail.take k :=
      continuationOf_take continues k (.inr rfl)
    rw [List.append_nil] at all
    exact all
  have short : (tail.take k).length ≠ tail.length := by
    rw [List.length_take]
    omega
  rw [decodeUtf8, if_neg (not_ascii_of_continuations continues.count), continues.count]
  simp only [taken, if_neg short, List.drop_length]
  cases fuel <;> rfl

/-! ### A NUL -/

theorem secondFits_nul : secondFits surrogates b 0 = false := by
  unfold secondFits
  split
  · rfl
  · split
    · cases surrogates <;> rfl
    · split
      · rfl
      · split <;> rfl

theorem length_continuationOf_le (more : Nat) (rest : List UInt8) :
    (continuationOf surrogates b more rest).length ≤ rest.length := by
  cases rest with
  | nil => exact Nat.le_refl 0
  | cons s rest =>
    rw [continuationOf]
    split
    · have taken := (List.takeWhile_sublist isContinuation (l := rest.take (more - 1))).length_le
      rw [List.length_take] at taken
      rw [List.length_cons, List.length_cons]
      omega
    · exact Nat.zero_le _

/-- A NUL continues no character. -/
theorem continuationOf_nul (more : Nat) (before rest : List UInt8) :
    continuationOf surrogates b more (before ++ 0 :: rest) =
      continuationOf surrogates b more before := by
  cases before with
  | nil =>
    rw [List.nil_append]
    exact if_neg (by rw [secondFits_nul]; decide)
  | cons s before =>
    rw [List.cons_append, continuationOf, continuationOf, List.take_append]
    by_cases inside : more - 1 ≤ before.length
    · rw [Nat.sub_eq_zero_of_le inside, List.take_zero, List.append_nil]
    · -- all that is before the NUL is there, and the NUL ends it
      obtain ⟨k, beyond⟩ := Nat.exists_eq_add_of_lt (Nat.not_le.mp inside)
      have room : more - 1 - before.length = k + 1 := by omega
      have ended : (before.take (more - 1) ++ 0 :: rest.take k).takeWhile isContinuation =
          (before.take (more - 1)).takeWhile isContinuation := by
        rw [List.takeWhile_append]
        split
        · next all =>
          rw [List.takeWhile_cons_of_neg (by decide), List.append_nil,
            (List.takeWhile_prefix _).eq_of_length all]
        · rfl
      rw [room, List.take_succ_cons, ended]

theorem length_decodeUtf8_le (fuel : Nat) (bs : List UInt8) :
    (decodeUtf8 surrogates fuel bs).length ≤ fuel := by
  induction fuel generalizing bs with
  | zero => exact Nat.le_refl 0
  | succ fuel ih =>
    cases bs with
    | nil => exact Nat.zero_le _
    | cons b rest =>
      rw [decodeUtf8]
      split
      · exact Nat.succ_le_succ (ih _)
      · split <;> exact Nat.succ_le_succ (ih _)

/-- The text before a NUL does not depend on what is behind the NUL. -/
theorem takeWhile_decodeUtf8_nul {before rest : List UInt8} {fuel fuel' : Nat}
    (enough : before.length < fuel) (enough' : before.length ≤ fuel') :
    (decodeUtf8 surrogates fuel (before ++ 0 :: rest)).takeWhile (· != '\x00') =
      (decodeUtf8 surrogates fuel' before).takeWhile (· != '\x00') := by
  induction fuel generalizing before fuel' with
  | zero => cases enough
  | succ fuel ih =>
    cases before with
    | nil =>
      have nul : decodeUtf8 surrogates (fuel + 1) (0 :: rest) =
          '\x00' :: decodeUtf8 surrogates fuel rest := if_pos (by decide)
      rw [List.nil_append, nul]
      cases fuel' <;> rfl
    | cons b before =>
      obtain ⟨fuel', rfl⟩ := Nat.exists_eq_add_of_le' (Nat.lt_of_lt_of_le (Nat.succ_pos _) enough')
      rw [List.length_cons] at enough enough'
      have step : ∀ k ≤ before.length,
          (decodeUtf8 surrogates fuel ((before ++ 0 :: rest).drop k)).takeWhile (· != '\x00') =
            (decodeUtf8 surrogates fuel' (before.drop k)).takeWhile (· != '\x00') := by
        intro k inside
        rw [List.drop_append_of_le_length inside]
        apply ih <;> rw [List.length_drop] <;> omega
      have here := step 0 (Nat.zero_le _)
      rw [List.drop_zero, List.drop_zero] at here
      rw [List.cons_append, decodeUtf8, decodeUtf8]
      split
      · rw [List.takeWhile_cons, List.takeWhile_cons, here]
      · split
        · rw [List.takeWhile_cons, List.takeWhile_cons, here]
        · next more _ =>
          rw [List.takeWhile_cons, List.takeWhile_cons, continuationOf_nul,
            step _ (length_continuationOf_le more before)]

end OneChar

/-! ### Encoding -/

section Encoding

variable (surrogates : Bool) {c : Char}

theorem toNat_ofNat_of_lt {n : Nat} (small : n < 256) : (UInt8.ofNat n).toNat = n := by
  rw [UInt8.toNat_ofNat']
  omega

theorem isContinuation_ofNat {n : Nat} (range : 128 ≤ n ∧ n ≤ 191) :
    isContinuation (UInt8.ofNat n) = true := by
  have byte : (UInt8.ofNat n).toNat = n := toNat_ofNat_of_lt (by omega)
  simp only [isContinuation, UInt8.le_iff_toNat_le, byte, Bool.and_eq_true, decide_eq_true_eq]
  exact range

theorem continuations_eq (b : UInt8) :
    continuations b =
      if 194 ≤ b.toNat ∧ b.toNat ≤ 223 then some 1
      else if 224 ≤ b.toNat ∧ b.toNat ≤ 239 then some 2
      else if 240 ≤ b.toNat ∧ b.toNat ≤ 244 then some 3
      else none := by
  simp [continuations, UInt8.le_iff_toNat_le]

theorem secondFits_iff (b s : UInt8) :
    secondFits surrogates b s = true ↔
      if b.toNat = 224 then 160 ≤ s.toNat ∧ s.toNat ≤ 191
      else if b.toNat = 237 then
        128 ≤ s.toNat ∧ s.toNat ≤ (if surrogates then 191 else 159)
      else if b.toNat = 240 then 144 ≤ s.toNat ∧ s.toNat ≤ 191
      else if b.toNat = 244 then 128 ≤ s.toNat ∧ s.toNat ≤ 143
      else 128 ≤ s.toNat ∧ s.toNat ≤ 191 := by
  unfold secondFits isContinuation
  have eq (n : UInt8) : b = n ↔ b.toNat = n.toNat := UInt8.toNat_inj.symm
  simp only [eq, UInt8.le_iff_toNat_le]
  split_ifs <;> simp_all

/-- The bytes of a character are a first byte and what continues it. -/
def Encoded (surrogates : Bool) (c : Char) : Prop :=
  ∃ b tail, String.utf8EncodeChar c = b :: tail ∧ Continues surrogates b tail ∧ joinChar b tail = c

/-- A character is joined from its bytes if they have its code. -/
theorem joinChar_of_value {b : UInt8} {tail : List UInt8}
    (value : tail.foldl (fun value t => value * 64 + t.toNat % 64)
      (b.toNat % leadModulus tail.length) = c.toNat) :
    joinChar b tail = c := by
  have valid : c.toNat < 0xD800 ∨ 0xDFFF < c.toNat ∧ c.toNat < 0x110000 := c.valid
  rw [joinChar]
  simp only [value]
  rw [if_neg (by omega), Char.ofNat_toNat]

theorem joinChar_two {b s : UInt8} (value : b.toNat % 32 * 64 + s.toNat % 64 = c.toNat) :
    joinChar b [s] = c :=
  joinChar_of_value value

theorem joinChar_three {b s t : UInt8}
    (value : (b.toNat % 16 * 64 + s.toNat % 64) * 64 + t.toNat % 64 = c.toNat) :
    joinChar b [s, t] = c :=
  joinChar_of_value value

theorem joinChar_four {b s t u : UInt8}
    (value : ((b.toNat % 8 * 64 + s.toNat % 64) * 64 + t.toNat % 64) * 64 + u.toNat % 64 =
      c.toNat) :
    joinChar b [s, t, u] = c :=
  joinChar_of_value value

theorem encoded_two (low : 0x7F < c.toNat) (high : c.toNat ≤ 0x7FF) : Encoded surrogates c := by
  have value : c.val.toNat = c.toNat := rfl
  have first : (UInt8.ofNat (c.toNat / 64 % 32 + 192)).toNat = c.toNat / 64 + 192 := by
    rw [toNat_ofNat_of_lt] <;> omega
  have second : (UInt8.ofNat (c.toNat % 64 + 128)).toNat = c.toNat % 64 + 128 :=
    toNat_ofNat_of_lt (by omega)
  have bytes : String.utf8EncodeChar c =
      [UInt8.ofNat (c.toNat / 64 % 32 + 192), UInt8.ofNat (c.toNat % 64 + 128)] := by
    rw [String.utf8EncodeChar]
    simp only [value]
    rw [if_neg (by omega), if_pos high]
  refine ⟨_, _, bytes, ⟨?_, ?_, ?_⟩, ?_⟩
  · rw [continuations_eq, first, if_pos (by omega)]
    rfl
  · rintro s ⟨⟩
    rw [secondFits_iff, first, second]
    split_ifs <;> omega
  · exact nofun
  · apply joinChar_two
    rw [first, second]
    omega

theorem encoded_three (low : 0x7FF < c.toNat) (high : c.toNat ≤ 0xFFFF) : Encoded surrogates c := by
  have value : c.val.toNat = c.toNat := rfl
  have valid : c.toNat < 0xD800 ∨ 0xDFFF < c.toNat ∧ c.toNat < 0x110000 := c.valid
  have first : (UInt8.ofNat (c.toNat / 4096 % 16 + 224)).toNat = c.toNat / 4096 + 224 := by
    rw [toNat_ofNat_of_lt] <;> omega
  have second : (UInt8.ofNat (c.toNat / 64 % 64 + 128)).toNat = c.toNat / 64 % 64 + 128 :=
    toNat_ofNat_of_lt (by omega)
  have third : (UInt8.ofNat (c.toNat % 64 + 128)).toNat = c.toNat % 64 + 128 :=
    toNat_ofNat_of_lt (by omega)
  have bytes : String.utf8EncodeChar c =
      [UInt8.ofNat (c.toNat / 4096 % 16 + 224), UInt8.ofNat (c.toNat / 64 % 64 + 128),
        UInt8.ofNat (c.toNat % 64 + 128)] := by
    rw [String.utf8EncodeChar]
    simp only [value]
    rw [if_neg (by omega), if_neg (by omega), if_pos high]
  refine ⟨_, _, bytes, ⟨?_, ?_, ?_⟩, ?_⟩
  · rw [continuations_eq, first, if_neg (by omega), if_pos (by omega)]
    rfl
  · rintro s ⟨⟩
    rw [secondFits_iff, first, second]
    split_ifs <;> omega
  · intro t mem
    rw [List.tail_cons, List.mem_singleton] at mem
    rw [mem]
    exact isContinuation_ofNat (by omega)
  · apply joinChar_three
    rw [first, second, third]
    omega

theorem encoded_four (low : 0xFFFF < c.toNat) : Encoded surrogates c := by
  have value : c.val.toNat = c.toNat := rfl
  have valid : c.toNat < 0xD800 ∨ 0xDFFF < c.toNat ∧ c.toNat < 0x110000 := c.valid
  have first : (UInt8.ofNat (c.toNat / 262144 % 8 + 240)).toNat = c.toNat / 262144 + 240 := by
    rw [toNat_ofNat_of_lt] <;> omega
  have second : (UInt8.ofNat (c.toNat / 4096 % 64 + 128)).toNat = c.toNat / 4096 % 64 + 128 :=
    toNat_ofNat_of_lt (by omega)
  have third : (UInt8.ofNat (c.toNat / 64 % 64 + 128)).toNat = c.toNat / 64 % 64 + 128 :=
    toNat_ofNat_of_lt (by omega)
  have fourth : (UInt8.ofNat (c.toNat % 64 + 128)).toNat = c.toNat % 64 + 128 :=
    toNat_ofNat_of_lt (by omega)
  have bytes : String.utf8EncodeChar c =
      [UInt8.ofNat (c.toNat / 262144 % 8 + 240), UInt8.ofNat (c.toNat / 4096 % 64 + 128),
        UInt8.ofNat (c.toNat / 64 % 64 + 128), UInt8.ofNat (c.toNat % 64 + 128)] := by
    rw [String.utf8EncodeChar]
    simp only [value]
    rw [if_neg (by omega), if_neg (by omega), if_neg (by omega)]
  refine ⟨_, _, bytes, ⟨?_, ?_, ?_⟩, ?_⟩
  · rw [continuations_eq, first, if_neg (by omega), if_neg (by omega), if_pos (by omega)]
    rfl
  · rintro s ⟨⟩
    rw [secondFits_iff, first, second]
    split_ifs <;> omega
  · intro t mem
    simp only [List.tail_cons, List.mem_cons, List.not_mem_nil, or_false] at mem
    rcases mem with rfl | rfl
    · exact isContinuation_ofNat (by omega)
    · exact isContinuation_ofNat (by omega)
  · apply joinChar_four
    rw [first, second, third, fourth]
    omega

/-- A character that is no ASCII has a first byte that is continued. -/
theorem encoded_of_not_ascii (low : 0x7F < c.toNat) : Encoded surrogates c := by
  by_cases two : c.toNat ≤ 0x7FF
  · exact encoded_two surrogates low two
  · by_cases three : c.toNat ≤ 0xFFFF
    · exact encoded_three surrogates (by omega) three
    · exact encoded_four surrogates (by omega)

theorem utf8EncodeChar_ascii (ascii : c.toNat < 128) :
    String.utf8EncodeChar c = [UInt8.ofNat c.toNat] :=
  if_pos (Nat.le_of_lt_succ ascii)

theorem decodeUtf8_ascii_cons {fuel : Nat} {rest : List UInt8} (ascii : c.toNat < 128) :
    decodeUtf8 surrogates (fuel + 1) (UInt8.ofNat c.toNat :: rest) =
      c :: decodeUtf8 surrogates fuel rest := by
  have code : (UInt8.ofNat c.toNat).toNat = c.toNat := toNat_ofNat_of_lt (by omega)
  have low : UInt8.ofNat c.toNat < 0x80 := by
    rw [UInt8.lt_iff_toNat_lt, code]
    exact ascii
  rw [decodeUtf8, if_pos low, code, Char.ofNat_toNat]

/-- The bytes of a character are decoded as the character. -/
theorem decodeUtf8_char (c : Char) (fuel : Nat) (rest : List UInt8) :
    decodeUtf8 surrogates (fuel + 1) (String.utf8EncodeChar c ++ rest) =
      c :: decodeUtf8 surrogates fuel rest := by
  by_cases ascii : c.toNat < 128
  · rw [utf8EncodeChar_ascii ascii]
    exact decodeUtf8_ascii_cons surrogates ascii
  · obtain ⟨b, tail, bytes, continues, joined⟩ :=
      encoded_of_not_ascii surrogates (c := c) (by omega)
    rw [bytes, List.cons_append, decodeUtf8_continued continues, joined]

/-- Some but not all bytes of a character are decoded as the replacement character. -/
theorem decodeUtf8_char_take (c : Char) (fuel : Nat) {k : Nat} (some_bytes : 0 < k)
    (cut : k < (String.utf8EncodeChar c).length) :
    decodeUtf8 surrogates (fuel + 1) ((String.utf8EncodeChar c).take k) = [replacementChar] := by
  have wide : ¬ c.toNat < 128 := by
    intro ascii
    rw [utf8EncodeChar_ascii ascii, List.length_singleton] at cut
    omega
  obtain ⟨b, tail, bytes, continues, -⟩ := encoded_of_not_ascii surrogates (c := c) (by omega)
  rw [bytes, List.length_cons] at cut
  obtain ⟨k, rfl⟩ := Nat.exists_eq_succ_of_ne_zero (Nat.pos_iff_ne_zero.mp some_bytes)
  rw [bytes, List.take_succ_cons, decodeUtf8_cut continues (Nat.lt_of_succ_lt_succ cut)]

end Encoding

/-! ### Texts -/

/-- The characters of a text of which only `n` bytes are left. -/
def cutUtf8 : Nat → List Char → List Char
  | _, [] => []
  | n, c :: cs =>
    let size := (String.utf8EncodeChar c).length
    if size ≤ n then c :: cutUtf8 (n - size) cs
    else if n = 0 then [] else [replacementChar]

section Text

variable {surrogates : Bool} {fuel n : Nat} {cs : List Char}

theorem encodeUtf8_cons (c : Char) (cs : List Char) :
    encodeUtf8 (c :: cs) = String.utf8EncodeChar c ++ encodeUtf8 cs :=
  List.flatMap_cons

theorem encodeUtf8_append (cs ds : List Char) :
    encodeUtf8 (cs ++ ds) = encodeUtf8 cs ++ encodeUtf8 ds :=
  List.flatMap_append

theorem length_utf8EncodeChar_pos (c : Char) : 0 < (String.utf8EncodeChar c).length := by
  by_cases ascii : c.toNat < 128
  · rw [utf8EncodeChar_ascii ascii]
    exact Nat.one_pos
  · obtain ⟨b, tail, bytes, -, -⟩ := encoded_of_not_ascii false (c := c) (by omega)
    rw [bytes, List.length_cons]
    omega

theorem length_le_encodeUtf8 (cs : List Char) : cs.length ≤ (encodeUtf8 cs).length := by
  induction cs with
  | nil => exact Nat.le_refl 0
  | cons c cs ih =>
    have positive := length_utf8EncodeChar_pos c
    rw [encodeUtf8_cons, List.length_append, List.length_cons]
    omega

/-- Decoding gives back what was encoded. -/
theorem decodeUtf8_encodeUtf8 (enough : cs.length ≤ fuel) :
    decodeUtf8 surrogates fuel (encodeUtf8 cs) = cs := by
  induction cs generalizing fuel with
  | nil => cases fuel <;> rfl
  | cons c cs ih =>
    obtain ⟨fuel, rfl⟩ := Nat.exists_eq_add_of_le' (Nat.lt_of_lt_of_le (Nat.succ_pos _) enough)
    rw [encodeUtf8_cons, decodeUtf8_char, ih (Nat.le_of_succ_le_succ enough)]

/-- Of cut bytes all characters are decoded, and a replacement character if one was cut. -/
theorem decodeUtf8_take (enough : n ≤ fuel) :
    decodeUtf8 surrogates fuel ((encodeUtf8 cs).take n) = cutUtf8 n cs := by
  induction cs generalizing fuel n with
  | nil =>
    rw [encodeUtf8, List.flatMap_nil, List.take_nil]
    cases fuel <;> rfl
  | cons c cs ih =>
    have positive := length_utf8EncodeChar_pos c
    rw [encodeUtf8_cons, cutUtf8]
    by_cases whole : (String.utf8EncodeChar c).length ≤ n
    · obtain ⟨fuel, rfl⟩ : ∃ k, fuel = k + 1 := ⟨fuel - 1, by omega⟩
      rw [if_pos whole, List.take_append, List.take_of_length_le whole, decodeUtf8_char,
        ih (by omega)]
    · rw [if_neg whole, List.take_append_of_le_length (by omega)]
      by_cases nothing : n = 0
      · rw [if_pos nothing, nothing, List.take_zero]
        cases fuel <;> rfl
      · obtain ⟨fuel, rfl⟩ : ∃ k, fuel = k + 1 := ⟨fuel - 1, by omega⟩
        rw [if_neg nothing, decodeUtf8_char_take surrogates c fuel (by omega) (by omega)]

/-- A text is not cut if all its bytes are left. -/
theorem cutUtf8_of_le (fits : (encodeUtf8 cs).length ≤ n) : cutUtf8 n cs = cs := by
  have whole : decodeUtf8 false n ((encodeUtf8 cs).take n) = cutUtf8 n cs :=
    decodeUtf8_take (Nat.le_refl n)
  rw [List.take_of_length_le fits,
    decodeUtf8_encodeUtf8 (Nat.le_trans (length_le_encodeUtf8 cs) fits)] at whole
  exact whole.symm

theorem length_cutUtf8_le (n : Nat) (cs : List Char) : (cutUtf8 n cs).length ≤ cs.length := by
  induction cs generalizing n with
  | nil => exact Nat.le_refl 0
  | cons c cs ih =>
    rw [cutUtf8]
    split
    · rw [List.length_cons, List.length_cons]
      exact Nat.succ_le_succ (ih _)
    · split
      · exact Nat.zero_le _
      · rw [List.length_singleton, List.length_cons]
        omega

end Text

end Wire

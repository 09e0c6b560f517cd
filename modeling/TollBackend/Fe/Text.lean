import TollBackend.Basic
import TollBackend.Network.Framing
import TollBackend.Wire.Utf8

/-!
# Texts in messages

A text has a field of fixed width: its UTF-8 bytes, cut to the width, and zero bytes behind
them. Readers decode the whole field, replacing what is no UTF-8, so that the zero bytes come
back as NUL characters unless they are trimmed.

## Main definitions

* `utf8Bytes`, `fromUtf8Lossy`: encoding, and decoding with replacement.
* `pad`: the field of a text.
* `FieldText`: an ASCII text that fits its field and that trimming does not change.
* `bare`: a text without white space and NULs at its ends.

## Main results

* `decodeUtf8_pad`: what a reader gets from the field of any text.
* `bare_normalizeEtag`: all trimmed readings of a field have the same bare text.
* `FieldText.normalizeEtag_pad`: after `normalize_etag` it is the text again.
-/

namespace TollBackend

open Wire

/-- `str::as_bytes`, and `getBytes(UTF_8)` of the client. -/
def utf8Bytes (s : String) : Bytes :=
  encodeUtf8 s.toList

/-- `String::from_utf8_lossy`. -/
def fromUtf8Lossy (bs : Bytes) : String :=
  String.ofList (decodeUtf8 false bs.length bs)

example : fromUtf8Lossy [0xE1, 0xBA, 0xA1, 0x41, 0xE1, 0xBA] = "ạA�" := by decide

/-- `FeMessageBuilder.pad`: the bytes of the text, cut or filled up with zeros. -/
def pad (s : String) (len : Nat) : Bytes :=
  (utf8Bytes s).take len ++ List.replicate (len - (utf8Bytes s).length) 0

@[simp] theorem length_pad (s : String) (len : Nat) : (pad s len).length = len := by
  rw [pad, List.length_append, List.length_take, List.length_replicate]
  omega

/-- A reader of the whole field gets the text, cut to the width, and a NUL for each byte that
was filled up. -/
theorem decodeUtf8_pad (surrogates : Bool) (s : String) (n : Nat) :
    decodeUtf8 surrogates n (pad s n) =
      cutUtf8 n s.toList ++ List.replicate (n - (utf8Bytes s).length) '\x00' := by
  have nuls (k : Nat) : encodeUtf8 (List.replicate k '\x00') = List.replicate k 0 := by
    induction k with
    | zero => rfl
    | succ k ih => rw [List.replicate_succ, List.replicate_succ, encodeUtf8_cons, ih]; rfl
  rw [pad]
  by_cases fits : (utf8Bytes s).length ≤ n
  · have enough : (s.toList ++ List.replicate (n - (utf8Bytes s).length) '\x00').length ≤ n := by
      have chars := length_le_encodeUtf8 s.toList
      rw [utf8Bytes] at fits ⊢
      rw [List.length_append, List.length_replicate]
      omega
    rw [List.take_of_length_le fits, cutUtf8_of_le fits, utf8Bytes, ← nuls, ← encodeUtf8_append]
    exact decodeUtf8_encodeUtf8 enough
  · have nothing : n - (utf8Bytes s).length = 0 := by omega
    rw [nothing, List.replicate_zero, List.append_nil, List.replicate_zero, List.append_nil]
    exact decodeUtf8_take (Nat.le_refl n)

/-! ### Texts that survive -/

/-- An ASCII text of at most `n` characters, without NUL and without white space at its ends. -/
structure FieldText (n : Nat) where
  str : String
  short : str.toList.length ≤ n
  ascii : ∀ c ∈ str.toList, 0 < c.toNat ∧ c.toNat < 128
  no_blank_before : ∀ c, str.toList.head? = some c → isWhiteSpace c = false
  no_blank_behind : ∀ c, str.toList.getLast? = some c → isWhiteSpace c = false

section Ascii

/-- The bytes of ASCII characters are their codes. -/
theorem encodeUtf8_ascii {cs : List Char} (ascii : ∀ c ∈ cs, c.toNat < 128) :
    encodeUtf8 cs = cs.map fun c => UInt8.ofNat c.toNat := by
  induction cs with
  | nil => rfl
  | cons c cs ih =>
    rw [encodeUtf8_cons, utf8EncodeChar_ascii (ascii c List.mem_cons_self),
      ih fun c' mem => ascii c' (List.mem_cons_of_mem c mem)]
    rfl

variable {n : Nat} (t : FieldText n)

theorem FieldText.length_utf8Bytes : (utf8Bytes t.str).length = t.str.toList.length := by
  rw [utf8Bytes, encodeUtf8_ascii fun c mem => (t.ascii c mem).2, List.length_map]

/-- A reader of the whole field gets the text and the padding. -/
theorem FieldText.fromUtf8Lossy_pad :
    fromUtf8Lossy (pad t.str n) =
      String.ofList (t.str.toList ++ List.replicate (n - t.str.toList.length) '\x00') := by
  have fits : (encodeUtf8 t.str.toList).length ≤ n := by
    have length := t.length_utf8Bytes
    have short := t.short
    rw [utf8Bytes] at length
    omega
  rw [fromUtf8Lossy, length_pad, decodeUtf8_pad, t.length_utf8Bytes, cutUtf8_of_le fits]

/-- Without the padding it is the text. -/
theorem FieldText.rdropWhile_padded (k : Nat) :
    (t.str.toList ++ List.replicate k '\x00').rdropWhile (· == '\x00') = t.str.toList := by
  induction k with
  | zero =>
    rw [List.replicate_zero, List.append_nil]
    refine List.rdropWhile_eq_self_iff.mpr fun nonempty nul => ?_
    have present := (t.ascii _ (List.getLast_mem nonempty)).1
    rw [beq_iff_eq.mp nul] at present
    cases present
  | succ k ih =>
    rw [List.replicate_succ', ← List.append_assoc, List.rdropWhile_concat_pos _ _ _ (by decide),
      ih]

/-- Trimming does not change the text. -/
theorem FieldText.trim_str : trim t.str = t.str := by
  have before : t.str.toList.dropWhile isWhiteSpace = t.str.toList := by
    cases chars : t.str.toList with
    | nil => rfl
    | cons c cs =>
      have plain := t.no_blank_before c (by rw [chars, List.head?_cons])
      exact List.dropWhile_cons_of_neg (by simp [plain])
  have behind : t.str.toList.rdropWhile isWhiteSpace = t.str.toList := by
    refine List.rdropWhile_eq_self_iff.mpr fun nonempty blank => ?_
    have plain := t.no_blank_behind _ (List.getLast?_eq_some_getLast nonempty)
    cases plain.symm.trans blank
  rw [trim, before, behind, String.ofList_toList]

/-- Without the padding a reader has the text. -/
theorem FieldText.trimEndNul_pad : trimEndNul (fromUtf8Lossy (pad t.str n)) = t.str := by
  rw [t.fromUtf8Lossy_pad, trimEndNul, String.toList_ofList, t.rdropWhile_padded,
    String.ofList_toList]

/-- `normalize_etag` does not change the text. -/
theorem FieldText.normalizeEtag_str : normalizeEtag t.str = t.str := by
  have unpadded := t.rdropWhile_padded 0
  rw [List.replicate_zero, List.append_nil] at unpadded
  rw [normalizeEtag, unpadded, String.ofList_toList, t.trim_str]

/-- After `normalize_etag` a reader has the text. -/
theorem FieldText.normalizeEtag_pad :
    normalizeEtag (fromUtf8Lossy (pad t.str n)) = t.str := by
  rw [t.fromUtf8Lossy_pad, normalizeEtag, String.toList_ofList, t.rdropWhile_padded,
    String.ofList_toList, t.trim_str]

end Ascii

/-! ### Margins -/

section Margins

variable {α : Type} {p q : α → Bool}

/-- What the weaker condition drops first, the stronger one drops as well. -/
theorem dropWhile_dropWhile (weaker : ∀ a, q a = true → p a = true) (l : List α) :
    (l.dropWhile q).dropWhile p = l.dropWhile p := by
  induction l with
  | nil => rfl
  | cons a l ih =>
    by_cases drops : q a = true
    · rw [List.dropWhile_cons_of_pos drops, List.dropWhile_cons_of_pos (weaker a drops), ih]
    · rw [List.dropWhile_cons_of_neg drops]

theorem rdropWhile_rdropWhile (weaker : ∀ a, q a = true → p a = true) (l : List α) :
    (l.rdropWhile q).rdropWhile p = l.rdropWhile p := by
  rw [List.rdropWhile, List.rdropWhile, List.rdropWhile, List.reverse_reverse,
    dropWhile_dropWhile weaker]

/-- Both ends may be dropped in any order. -/
theorem dropWhile_rdropWhile (l : List α) :
    (l.rdropWhile q).dropWhile p = (l.dropWhile p).rdropWhile q := by
  induction l using List.reverseRecOn with
  | nil => rfl
  | append_singleton l a ih =>
    have front : (l ++ [a]).dropWhile p = l.dropWhile p ++ [a] ∨
        l.dropWhile p = [] ∧ ((l ++ [a]).dropWhile p = [] ∨ (l ++ [a]).dropWhile p = [a]) := by
      rw [List.dropWhile_append]
      cases rest : l.dropWhile p with
      | cons c cs => exact .inl rfl
      | nil =>
        refine .inr ⟨rfl, ?_⟩
        by_cases drops : p a = true
        · exact .inl (List.dropWhile_cons_of_pos drops)
        · exact .inr (List.dropWhile_cons_of_neg drops)
    by_cases drops : q a = true
    · rw [List.rdropWhile_concat_pos _ _ _ drops, ih]
      rcases front with longer | ⟨none, nothing | last⟩
      · rw [longer, List.rdropWhile_concat_pos _ _ _ drops]
      · rw [none, nothing]
      · rw [none, last, List.rdropWhile_singleton, if_pos drops, List.rdropWhile_nil]
    · rw [List.rdropWhile_concat_neg _ _ _ drops]
      rcases front with longer | ⟨-, nothing | last⟩
      · rw [longer, List.rdropWhile_concat_neg _ _ _ drops]
      · rw [nothing, List.rdropWhile_nil]
      · rw [last, List.rdropWhile_singleton, if_neg drops]

/-- White space and NULs. -/
def isMargin (c : Char) : Bool :=
  isWhiteSpace c || c == '\x00'

/-- The text without its margins. -/
def bare (s : String) : List Char :=
  (s.toList.dropWhile isMargin).rdropWhile isMargin

theorem bare_trimEndNul (s : String) : bare (trimEndNul s) = bare s := by
  have weaker : ∀ c, (c == '\x00') = true → isMargin c = true := by
    intro c nul
    rw [isMargin, nul, Bool.or_true]
  rw [bare, trimEndNul, String.toList_ofList, dropWhile_rdropWhile, rdropWhile_rdropWhile weaker,
    bare]

theorem bare_trim (s : String) : bare (trim s) = bare s := by
  have weaker : ∀ c, isWhiteSpace c = true → isMargin c = true := by
    intro c blank
    rw [isMargin, blank, Bool.true_or]
  rw [bare, trim, String.toList_ofList, dropWhile_rdropWhile, dropWhile_dropWhile weaker,
    rdropWhile_rdropWhile weaker, bare]

theorem normalizeEtag_eq (s : String) : normalizeEtag s = trim (trimEndNul s) := by
  rw [normalizeEtag, trimEndNul]

theorem bare_normalizeEtag (s : String) : bare (normalizeEtag s) = bare s := by
  rw [normalizeEtag_eq, bare_trim, bare_trimEndNul]

end Margins

end TollBackend

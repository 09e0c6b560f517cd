import Mathlib.Data.List.Basic
import Mathlib.Tactic.Common

/-!
# String literals in statements

A string literal of SQL stands between two single quotes, and a quote in it is written twice. A
statement is put together from pieces: texts of the program, and values between quotes that it
has escaped or not. It can be read back token by token.

## Main definitions

* `scan`: the tokens of a statement.
* `Piece`: the pieces of a statement, with their text and the tokens that are meant.
* `Says`: a statement has the tokens of what is meant.

## Main results

* `says_text`, `says_escaped`, `says_unescaped`: when it does, piece by piece. A value that is not
  escaped is one literal exactly if it has no quote.
-/

namespace Sql

/-- The single quote. -/
def quote : Char :=
  Char.ofNat 39

/-- A character outside of literals, or a literal with its value. -/
inductive Token
  | char (c : Char)
  | literal (value : List Char)
deriving DecidableEq

/-- Where the reader is: outside of literals, in one, or behind a quote that ends it unless a
second one follows. -/
inductive Place
  | outside
  | inside (read : List Char)
  | closing (read : List Char)

/-- The tokens of a statement, unless it ends in a literal. -/
def scan : Place → List Char → Option (List Token)
  | .outside, [] => some []
  | .inside _, [] => none
  | .closing read, [] => some [.literal read]
  | .outside, c :: cs =>
    if c = quote then scan (.inside []) cs else (scan .outside cs).map (.char c :: ·)
  | .inside read, c :: cs =>
    if c = quote then scan (.closing read) cs else scan (.inside (read ++ [c])) cs
  | .closing read, c :: cs =>
    if c = quote then scan (.inside (read ++ [quote])) cs
    else (scan .outside cs).map fun tokens => .literal read :: .char c :: tokens

/-- Every quote is doubled. -/
def escape (value : List Char) : List Char :=
  value.flatMap fun c => if c = quote then [quote, quote] else [c]

/-- The characters outside of literals. -/
def plain (tokens : List Token) : List Char :=
  tokens.filterMap fun
    | .char c => some c
    | .literal _ => none

/-! ### Pieces -/

/-- A text of the program, or a value between quotes, escaped or as it is. -/
inductive Piece
  | text (s : List Char)
  | escaped (value : List Char)
  | unescaped (value : List Char)
deriving DecidableEq

/-- The text of a piece. -/
def Piece.render : Piece → List Char
  | text s => s
  | escaped value => quote :: escape value ++ [quote]
  | unescaped value => quote :: value ++ [quote]

/-- The tokens that a piece is meant to be. -/
def Piece.tokens : Piece → List Token
  | text s => s.map .char
  | escaped value | unescaped value => [.literal value]

/-- The text of a statement. -/
def render (pieces : List Piece) : List Char :=
  pieces.flatMap Piece.render

/-- The tokens that a statement is meant to have. -/
def tokens (pieces : List Piece) : List Token :=
  pieces.flatMap Piece.tokens

/-- The statement has the tokens of what is meant. -/
def Says (pieces meant : List Piece) : Prop :=
  scan .outside (render pieces) = some (tokens meant)

/-- What follows a value begins with no quote. -/
def Follows (rest : List Char) : Prop :=
  rest.head? ≠ some quote

/-! ### Reading -/

section Scan

variable (read cs : List Char) (c : Char)

theorem scan_outside_cons : scan .outside (c :: cs) =
    if c = quote then scan (.inside []) cs else (scan .outside cs).map (.char c :: ·) := rfl

theorem scan_inside_cons : scan (.inside read) (c :: cs) =
    if c = quote then scan (.closing read) cs else scan (.inside (read ++ [c])) cs := rfl

theorem scan_closing_cons : scan (.closing read) (c :: cs) =
    if c = quote then scan (.inside (read ++ [quote])) cs
    else (scan .outside cs).map fun tokens => .literal read :: .char c :: tokens := rfl

end Scan

/-- A text without quotes is read character by character. -/
theorem scan_text {s : List Char} (unquoted : quote ∉ s) (rest : List Char) :
    scan .outside (s ++ rest) = (scan .outside rest).map (s.map .char ++ ·) := by
  induction s with
  | nil => simp
  | cons c s ih =>
    obtain ⟨other, unquoted⟩ := not_or.mp (mt List.mem_cons.mpr unquoted)
    rw [List.cons_append, scan_outside_cons, if_neg (Ne.symm other), ih unquoted, Option.map_map]
    rfl

/-- Behind a closing quote the literal ends. -/
theorem scan_closing {rest : List Char} (follows : Follows rest) (read : List Char) :
    scan (.closing read) rest = (scan .outside rest).map (.literal read :: ·) := by
  cases rest with
  | nil => rfl
  | cons c rest =>
    have other : c ≠ quote := fun same => follows (congrArg some same)
    rw [scan_closing_cons, if_neg other, scan_outside_cons, if_neg other, Option.map_map]
    rfl

/-- An escaped value is read back. -/
theorem scan_escape {rest : List Char} (follows : Follows rest) (read value : List Char) :
    scan (.inside read) (escape value ++ quote :: rest) =
      (scan .outside rest).map (.literal (read ++ value) :: ·) := by
  induction value generalizing read with
  | nil =>
    rw [escape, List.flatMap_nil, List.nil_append, scan_inside_cons, if_pos rfl,
      scan_closing follows, List.append_nil]
  | cons c value ih =>
    have step := ih (read ++ [c])
    rw [List.append_assoc, List.singleton_append] at step
    rw [escape, List.flatMap_cons, ← escape]
    by_cases isQuote : c = quote
    · subst isQuote
      change scan _ (quote :: quote :: (escape value ++ quote :: rest)) = _
      rw [scan_inside_cons, if_pos rfl, scan_closing_cons, if_pos rfl]
      exact step
    · rw [if_neg isQuote, List.singleton_append, List.cons_append, scan_inside_cons,
        if_neg isQuote]
      exact step

/-- Whatever is read in a literal goes on from what was read. -/
theorem exists_of_scan {cs read : List Char} {ts : List Token}
    (scanned : scan (.inside read) cs = some ts ∨ scan (.closing read) cs = some ts) :
    ∃ more rest, ts = .literal (read ++ more) :: rest := by
  induction cs generalizing read with
  | nil =>
    rcases scanned with scanned | scanned
    · cases scanned
    · cases scanned
      exact ⟨[], [], by rw [List.append_nil]⟩
  | cons c cs ih =>
    rcases scanned with scanned | scanned
    · rw [scan_inside_cons] at scanned
      split at scanned
      · exact ih (.inr scanned)
      · obtain ⟨more, rest, rfl⟩ := ih (.inl scanned)
        exact ⟨c :: more, rest, by rw [List.append_assoc, List.singleton_append]⟩
    · rw [scan_closing_cons] at scanned
      split at scanned
      · obtain ⟨more, rest, rfl⟩ := ih (.inl scanned)
        exact ⟨quote :: more, rest, by rw [List.append_assoc, List.singleton_append]⟩
      · obtain ⟨rest, -, rfl⟩ := Option.map_eq_some_iff.mp scanned
        exact ⟨[], .char c :: rest, by rw [List.append_nil]⟩

/-- A value that is read back although it was not escaped has no quote. The induction carries
quotes that were read in excess: each pair of quotes in the text leaves one behind. -/
theorem unquoted_of_scan {rest : List Char} (follows : Follows rest) {value read : List Char}
    {excess : Nat} {ts : List Token}
    (scanned : scan (.inside read) (value ++ quote :: rest) =
      some (.literal (read ++ (List.replicate excess quote ++ value)) :: ts)) :
    excess = 0 ∧ quote ∉ value ∧ scan .outside rest = some ts := by
  induction h : value.length using Nat.strongRecOn generalizing value read excess with
  | ind length ih =>
    subst h
    cases value with
    | nil =>
      rw [List.nil_append, scan_inside_cons, if_pos rfl, scan_closing follows] at scanned
      obtain ⟨ts', outside, eq⟩ := Option.map_eq_some_iff.mp scanned
      simp only [List.cons.injEq, Token.literal.injEq, List.append_nil] at eq
      obtain ⟨same, rfl⟩ := eq
      have none : List.replicate excess quote = [] := List.self_eq_append_right.mp same
      exact ⟨by simpa using none, List.not_mem_nil, outside⟩
    | cons c value =>
      by_cases isQuote : c = quote
      · exfalso
        subst isQuote
        rw [List.cons_append, scan_inside_cons, if_pos rfl] at scanned
        cases value with
        | nil =>
          -- the closing quote was read as the second one of a pair
          rw [List.nil_append, scan_closing_cons, if_pos rfl] at scanned
          cases rest with
          | nil => cases scanned
          | cons c rest =>
            have other : c ≠ quote := fun same => follows (congrArg some same)
            rw [scan_inside_cons, if_neg other] at scanned
            obtain ⟨more, rest', eq⟩ := exists_of_scan (.inl scanned)
            simp only [List.cons.injEq, Token.literal.injEq, List.append_assoc,
              List.append_cancel_left_eq] at eq
            have only : ∀ x ∈ [quote] ++ ([c] ++ more), x = quote := by
              rw [← eq.1]
              intro x mem
              simp only [List.mem_append, List.mem_replicate, List.mem_singleton] at mem
              exact mem.elim (·.2) id
            exact other (only c (by simp))
        | cons c value =>
          rw [List.cons_append, scan_closing_cons] at scanned
          split at scanned
          · next pair =>
            subst pair
            have grown : List.replicate excess quote ++ quote :: quote :: value =
                [quote] ++ (List.replicate (excess + 1) quote ++ value) := by
              rw [List.append_cons, List.append_cons, ← List.replicate_succ',
                ← List.replicate_succ', List.replicate_succ, List.cons_append,
                List.singleton_append]
            rw [grown, ← List.append_assoc read] at scanned
            have shorter : value.length < (quote :: quote :: value).length :=
              Nat.lt_succ_of_lt (Nat.lt_succ_self _)
            exact absurd (ih value.length shorter scanned rfl).1 (Nat.succ_ne_zero _)
          · obtain ⟨ts', -, eq⟩ := Option.map_eq_some_iff.mp scanned
            have same := (List.cons.inj eq).1
            simp at same
      · rw [List.cons_append, scan_inside_cons, if_neg isQuote] at scanned
        obtain ⟨more, rest', eq⟩ := exists_of_scan (.inl scanned)
        cases excess with
        | zero =>
          have regrouped : read ++ (List.replicate 0 quote ++ c :: value) =
              (read ++ [c]) ++ (List.replicate 0 quote ++ value) := by simp
          rw [regrouped] at scanned
          obtain ⟨-, unquoted, outside⟩ := ih value.length (by simp) scanned rfl
          exact ⟨rfl, by simp [unquoted, Ne.symm isQuote], outside⟩
        | succ excess =>
          simp only [List.cons.injEq, Token.literal.injEq, List.append_assoc,
            List.append_cancel_left_eq, List.replicate_succ, List.cons_append] at eq
          exact absurd (by simpa using eq.1.1.symm) isQuote

/-! ### Statements -/

section Statement

variable {pieces meant : List Piece} {value value' s : List Char}

theorem render_cons (piece : Piece) : render (piece :: pieces) = piece.render ++ render pieces :=
  List.flatMap_cons

theorem tokens_cons (piece : Piece) : tokens (piece :: pieces) = piece.tokens ++ tokens pieces :=
  List.flatMap_cons

/-- A text of the program follows a value. -/
theorem follows_text (nonempty : s ≠ []) (unquoted : quote ∉ s) :
    Follows (render (.text s :: pieces)) := by
  cases s with
  | nil => exact absurd rfl nonempty
  | cons c s =>
    rw [render_cons, Piece.render, List.cons_append]
    intro first
    exact unquoted (Option.some.inj first ▸ List.mem_cons_self)

/-- Nothing says nothing. -/
theorem says_nil : Says [] [] := rfl

/-- A text of the program is what it is. -/
theorem says_text (unquoted : quote ∉ s) :
    Says (.text s :: pieces) (.text s :: meant) ↔ Says pieces meant := by
  rw [Says, render_cons, tokens_cons, Piece.render, Piece.tokens, scan_text unquoted, Says]
  cases scan .outside (render pieces) with
  | none => exact iff_of_false (fun h => by cases h) fun h => by cases h
  | some ts =>
    rw [Option.map_some, Option.some.injEq, Option.some.injEq, List.append_cancel_left_eq]

/-- A text of the program is no other text. -/
theorem not_says_text {c c' : Char} {s' : List Char} (noQuote : c ≠ quote) (differ : c ≠ c') :
    ¬ Says (.text (c :: s) :: pieces) (.text (c' :: s') :: meant) := by
  rw [Says, render_cons, tokens_cons, Piece.render, Piece.tokens, List.cons_append,
    scan_outside_cons, if_neg noQuote]
  intro same
  obtain ⟨ts, -, eq⟩ := Option.map_eq_some_iff.mp same
  exact differ (Token.char.inj (List.cons.inj eq).1)

/-- An escaped value is one literal with this value. -/
theorem says_escaped (follows : Follows (render pieces)) :
    Says (.escaped value :: pieces) (.escaped value' :: meant) ↔
      value = value' ∧ Says pieces meant := by
  have text : render (.escaped value :: pieces) =
      quote :: (escape value ++ quote :: render pieces) := by
    rw [render_cons, Piece.render, List.append_assoc, List.cons_append, List.singleton_append]
  rw [Says, text, tokens_cons, Piece.tokens, scan_outside_cons, if_pos rfl, scan_escape follows,
    Says]
  cases scan .outside (render pieces) with
  | none => exact iff_of_false (fun h => by cases h) fun h => by cases h.2
  | some ts => simp

/-- An escaped value with a text behind it. -/
theorem says_escaped_text (nonempty : s ≠ []) (unquoted : quote ∉ s) :
    Says (.escaped value :: .text s :: pieces) (.escaped value' :: .text s :: meant) ↔
      value = value' ∧ Says pieces meant := by
  rw [says_escaped (follows_text nonempty unquoted), says_text unquoted]

/-- A value that is not escaped is one literal exactly if it has no quote. -/
theorem says_unescaped (follows : Follows (render pieces)) :
    Says (.unescaped value :: pieces) (.escaped value :: meant) ↔
      quote ∉ value ∧ Says pieces meant := by
  have text : render (.unescaped value :: pieces) =
      quote :: (value ++ quote :: render pieces) := by
    rw [render_cons, Piece.render, List.append_assoc, List.cons_append, List.singleton_append]
  constructor
  · intro said
    rw [Says, text, scan_outside_cons, if_pos rfl] at said
    have noExcess : scan (.inside []) (value ++ quote :: render pieces) =
        some (.literal ([] ++ (List.replicate 0 quote ++ value)) :: tokens meant) := said
    exact (unquoted_of_scan follows noExcess).2
  · rintro ⟨unquoted, said⟩
    have same : escape value = value := by
      have single : ∀ c ∈ value, (if c = quote then [quote, quote] else [c]) = [c] :=
        fun c mem => if_neg fun isQuote : c = quote => unquoted (isQuote ▸ mem)
      rw [escape, List.flatMap_congr single, List.flatMap_singleton']
    have escaped : Says (.escaped value :: pieces) (.escaped value :: meant) :=
      (says_escaped follows).mpr ⟨rfl, said⟩
    rw [Says, render_cons, Piece.render, same] at escaped
    exact escaped

theorem length_le_escape (value : List Char) : value.length ≤ (escape value).length := by
  induction value with
  | nil => exact Nat.le_refl 0
  | cons c value ih =>
    rw [escape, List.flatMap_cons, ← escape, List.length_append, List.length_cons]
    by_cases isQuote : c = quote <;> simp [isQuote] <;> omega

/-- Escaping leaves a value as it is exactly if it has no quote. -/
theorem escape_eq_self_iff : escape value = value ↔ quote ∉ value := by
  induction value with
  | nil => exact iff_of_true rfl List.not_mem_nil
  | cons c value ih =>
    rw [escape, List.flatMap_cons, ← escape]
    by_cases isQuote : c = quote
    · subst isQuote
      rw [if_pos rfl]
      apply iff_of_false
      · intro same
        have longer := congrArg List.length same
        have kept := length_le_escape value
        simp at longer
        omega
      · simp
    · rw [if_neg isQuote, List.singleton_append, List.cons.injEq, ih]
      simp [Ne.symm isQuote]

theorem plain_tokens_cons (piece : Piece) :
    plain (tokens (piece :: pieces)) = plain piece.tokens ++ plain (tokens pieces) := by
  rw [tokens_cons, plain, List.filterMap_append]
  rfl

theorem plain_tokens_append :
    plain (tokens (pieces ++ meant)) = plain (tokens pieces) ++ plain (tokens meant) := by
  rw [tokens, List.flatMap_append, plain, List.filterMap_append]
  rfl

end Statement

end Sql

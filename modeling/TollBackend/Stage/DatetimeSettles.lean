import TollBackend.Stage.DatetimeText

/-!
# Normalizing twice

A normalized datetime is normalized again, where it is read from one column and written to the
next. It stays as it is unless its first ten bytes are not what they are taken for.

## Main definitions

* `MonthBeforeYear`, `MonthStays`: what may stand in the parts.
* `Settles`: normalizing a text twice is normalizing it once.

## Main results

* `settles_iff`: when it is.
-/

namespace TollBackend

/-! ### The time of a text that is cut -/

section IsoTime

variable {behind : List Char}

/-- The time is a part of the text, or midnight. -/
theorem isoTime_cases (behind : List Char) :
    isoTime behind = "00:00:00".toList ∨ isoTime behind <+: behind.dropWhile isWhiteSpace := by
  unfold isoTime
  by_cases long : 8 ≤ utf8Length (timeText behind)
  · right
    rw [if_pos long]
    unfold timeText
    dsimp only
    by_cases dotted : '.' ∈ behind.dropWhile isWhiteSpace
    · rw [if_pos dotted]
      exact (List.rdropWhile_prefix _ _).trans (List.takeWhile_prefix _)
    · rw [if_neg dotted]
  · left
    rw [if_neg long]

theorem eight_le_isoTime (behind : List Char) : 8 ≤ utf8Length (isoTime behind) := by
  unfold isoTime
  by_cases long : 8 ≤ utf8Length (timeText behind)
  · rw [if_pos long]
    exact long
  · rw [if_neg long]
    decide

theorem isoTime_ne_nil (behind : List Char) : isoTime behind ≠ [] := by
  intro nothing
  have long := eight_le_isoTime behind
  rw [nothing, utf8Length_nil] at long
  omega

theorem dot_not_mem_isoTime (behind : List Char) : '.' ∉ isoTime behind := by
  unfold isoTime
  by_cases long : 8 ≤ utf8Length (timeText behind)
  · rw [if_pos long]
    unfold timeText
    dsimp only
    by_cases dotted : '.' ∈ behind.dropWhile isWhiteSpace
    · rw [if_pos dotted]
      intro mem
      have kept := List.mem_takeWhile_imp ((List.rdropWhile_prefix _ _).subset mem)
      exact absurd kept (by decide)
    · rw [if_neg dotted]
      exact dotted
  · rw [if_neg long]
    decide

theorem head?_isoTime (behind : List Char) :
    ∀ c, (isoTime behind).head? = some c → isWhiteSpace c = false := by
  intro c first
  rcases isoTime_cases behind with midnight | ⟨rest, whole⟩
  · rw [midnight] at first
    obtain rfl := Option.some.inj first
    decide
  · have start : (behind.dropWhile isWhiteSpace).head? = some c := by
      rw [← whole, List.head?_append, first]
      rfl
    exact head_dropWhile start

theorem getLast?_isoTime (last : ∀ c, behind.getLast? = some c → isWhiteSpace c = false) :
    ∀ c, (isoTime behind).getLast? = some c → isWhiteSpace c = false := by
  intro c final
  unfold isoTime at final
  by_cases long : 8 ≤ utf8Length (timeText behind)
  · rw [if_pos long] at final
    unfold timeText at final
    dsimp only at final
    by_cases dotted : '.' ∈ behind.dropWhile isWhiteSpace
    · rw [if_pos dotted] at final
      exact last_rdropWhile final
    · rw [if_neg dotted] at final
      obtain ⟨dropped, whole⟩ := List.dropWhile_suffix (l := behind) isWhiteSpace
      apply last
      rw [← whole, List.getLast?_append, final]
      rfl
  · rw [if_neg long] at final
    obtain rfl := Option.some.inj final
    decide

/-- A time of eight bytes without a dot is taken as it is. -/
theorem isoTime_blank {time : List Char} (long : 8 ≤ utf8Length time) (plain : '.' ∉ time)
    (first : ∀ c, time.head? = some c → isWhiteSpace c = false) :
    isoTime (' ' :: time) = time := by
  have drop : (' ' :: time).dropWhile isWhiteSpace = time := by
    rw [List.dropWhile_cons_of_pos (by decide)]
    exact dropWhile_of_head first
  have text : timeText (' ' :: time) = time := by
    unfold timeText
    dsimp only
    rw [drop, if_neg plain]
  rw [isoTime, text, if_pos long]

/-- Taking the time of what was written gives it again. -/
theorem isoTime_isoTime (behind : List Char) : isoTime (' ' :: isoTime behind) = isoTime behind :=
  isoTime_blank (eight_le_isoTime behind) (dot_not_mem_isoTime behind) (head?_isoTime behind)

end IsoTime

/-! ### Where a month stands -/

/-- A text of which the second part is a month. -/
structure HasMonth (r day month year : List Char) (parts : List (List Char)) : Prop where
  split : r.splitOnP isSeparator = day :: month :: year :: parts
  known : monthNumber month ≠ none

section HasMonth

variable {r day month year : List Char} {parts : List (List Char)}

theorem HasMonth.shape (found : HasMonth r day month year parts) :
    ∃ before a b c after rest, (∀ x ∈ day, isSeparator x = false) ∧ isSeparator before = true ∧
      month = [a, b, c] ∧ isSeparator after = true ∧
      r = day ++ before :: a :: b :: c :: after :: rest ∧
      rest.splitOnP isSeparator = year :: parts := by
  obtain ⟨before, behind, clean, separates, whole, next⟩ := splitOnP_eq_cons_cons.mp found.split
  obtain ⟨after, rest, _, separates', whole', last⟩ := splitOnP_eq_cons_cons.mp next
  obtain ⟨number, known⟩ := Option.ne_none_iff_exists'.mp found.known
  obtain ⟨⟨a, b, c, letters, _⟩, _⟩ := monthNumber_eq_some known
  refine ⟨before, a, b, c, after, rest, clean, separates, letters, separates', ?_, last⟩
  rw [whole, whole', letters]
  rfl

theorem isSeparator_of_letter {x : Char} (code : 64 < x.toNat) : isSeparator x = false := by
  unfold isSeparator
  rw [Bool.or_eq_false_iff, beq_eq_false_iff_ne, beq_eq_false_iff_ne]
  constructor <;> intro same <;> rw [same] at code <;> revert code <;> decide

/-- A letter of a month is behind the digits, so no separator. -/
theorem HasMonth.letter (found : HasMonth r day month year parts) {x : Char} (mem : x ∈ month) :
    x.utf8Size ≤ 2 ∧ 64 < x.toNat ∧ isSeparator x = false := by
  obtain ⟨number, known⟩ := Option.ne_none_iff_exists'.mp found.known
  obtain ⟨⟨a, b, c, _, letters⟩, _⟩ := monthNumber_eq_some known
  obtain ⟨small, code⟩ := letters x mem
  exact ⟨small, code, isSeparator_of_letter code⟩

/-- Each separator is the one before the month, or is behind the month. -/
theorem HasMonth.position (found : HasMonth r day month year parts) {j : Nat} {x : Char}
    (here : r[j]? = some x) (separates : isSeparator x = true) :
    j = day.length ∨ day.length + 4 ≤ j := by
  obtain ⟨before, a, b, c, after, rest, clean, _, letters, _, whole, _⟩ := found.shape
  have letter : ∀ y ∈ [a, b, c], isSeparator y = false := fun y mem =>
    (found.letter (letters ▸ mem)).2.2
  by_contra elsewhere
  rw [not_or, not_le] at elsewhere
  rw [whole] at here
  by_cases inDay : j < day.length
  · rw [List.getElem?_append_left inDay] at here
    have := clean x (List.mem_of_getElem? here)
    rw [separates] at this
    cases this
  · -- one of the three letters
    obtain ⟨i, rfl⟩ : ∃ i, j = day.length + (i + 1) := ⟨j - day.length - 1, by omega⟩
    have three : i < 3 := by omega
    rw [List.getElem?_append_right (by omega), Nat.add_sub_cancel_left,
      List.getElem?_cons_succ] at here
    have inMonth : [a, b, c][i]? = some x := by
      have front : a :: b :: c :: after :: rest = [a, b, c] ++ after :: rest := rfl
      rw [front, List.getElem?_append_left three] at here
      exact here
    have := letter x (List.mem_of_getElem? inMonth)
    rw [separates] at this
    cases this

/-- Two letters behind the separator. -/
theorem HasMonth.letters (found : HasMonth r day month year parts) :
    ∃ a b, r[day.length + 1]? = some a ∧ r[day.length + 2]? = some b ∧
      64 < a.toNat ∧ 64 < b.toNat := by
  obtain ⟨before, a, b, c, after, rest, _, _, rfl, _, whole, _⟩ := found.shape
  refine ⟨a, b, ?_, ?_, (found.letter (by simp)).2.1, (found.letter (by simp)).2.1⟩
  · rw [whole, List.getElem?_append_right (by omega), Nat.add_sub_cancel_left]
    rfl
  · rw [whole, List.getElem?_append_right (by omega), Nat.add_sub_cancel_left]
    rfl

end HasMonth

/-! ### Texts that are cut -/

/-- Ten bytes that do not reach the second `-` start with a month between two of them, and what is
written does not have the second `-` at its place either. -/
def MonthInFront (front behind : List Char) : Prop :=
  ∃ a b c tail, front = '-' :: a :: b :: c :: '-' :: tail ∧ monthNumber [a, b, c] ≠ none ∧
    (tail.length = 2 ∨ tail.length = 1 ∧ (isoTime behind).head? ≠ some '-')

section Cut

variable {dt front behind day month year : List Char} {parts : List (List Char)}

/-- What is written for a text that is cut. -/
def isoResult (front behind : List Char) : List Char :=
  front ++ ' ' :: isoTime behind

theorem getLast?_behind (trimmed : IsTrimmed (front ++ behind)) :
    ∀ c, behind.getLast? = some c → isWhiteSpace c = false := by
  intro c last
  apply trimmed.2
  rw [List.getLast?_append, last]
  rfl

theorem isTrimmed_isoResult (trimmed : IsTrimmed (front ++ behind))
    (ten : utf8Length front = 10) : IsTrimmed (isoResult front behind) := by
  have some_front : front ≠ [] := by
    intro nothing
    rw [nothing] at ten
    cases ten
  obtain ⟨c, cs, rfl⟩ := List.exists_cons_of_ne_nil some_front
  have time := getLast?_isoTime (getLast?_behind trimmed)
  constructor
  · intro d first
    exact trimmed.1 d first
  · intro d last
    rw [isoResult, List.getLast?_append, List.getLast?_cons] at last
    obtain ⟨e, final⟩ := Option.isSome_iff_exists.mp
      (List.getLast?_isSome.mpr (isoTime_ne_nil behind))
    apply time
    rw [final] at last ⊢
    exact last

/-- A long enough front has both `-` at their places. -/
theorem isIso_isoResult (iso : IsIso (front ++ behind)) (ten : utf8Length front = 10)
    (long : 8 ≤ front.length) : IsIso (isoResult front behind) := by
  obtain ⟨_, fourth, seventh⟩ := iso
  rw [List.getElem?_append_left (by omega)] at fourth seventh
  refine ⟨?_, ?_, ?_⟩
  · rw [isoResult, utf8Length_append, ten]
    omega
  · rw [isoResult, List.getElem?_append_left (by omega)]
    exact fourth
  · rw [isoResult, List.getElem?_append_left (by omega)]
    exact seventh

theorem getElem?_isoResult (front behind : List Char) :
    (isoResult front behind)[front.length]? = some ' ' := by
  rw [isoResult, List.getElem?_append_right le_rfl, Nat.sub_self, List.getElem?_cons_zero]

theorem getElem?_isoResult_add (front behind : List Char) (i : Nat) :
    (isoResult front behind)[front.length + (i + 1)]? = (isoTime behind)[i]? := by
  rw [isoResult, List.getElem?_append_right (by omega), Nat.add_sub_cancel_left,
    List.getElem?_cons_succ]

/-- The time does not start with letters if a `-` is among the first two characters. -/
theorem isoTime_not_letters {x y a b : Char} {xs : List Char}
    (first : (isoTime (x :: xs))[0]? = some a) (second : (isoTime (x :: xs))[1]? = some b)
    (dash : x = '-' ∨ xs.head? = some y ∧ y = '-') : a.toNat ≤ 64 ∨ b.toNat ≤ 64 := by
  have visible : isWhiteSpace '-' = false := by decide
  have zero : ("00:00:00".toList)[0]? = some '0' := rfl
  rcases isoTime_cases (x :: xs) with midnight | ⟨rest, whole⟩
  · rw [midnight, zero] at first
    obtain rfl := Option.some.inj first
    exact .inl (by decide)
  · -- the time begins what is left without the white space
    have first' : ((x :: xs).dropWhile isWhiteSpace)[0]? = some a := by
      rw [← whole, List.getElem?_append, first]
      exact if_pos (List.getElem?_eq_some_iff.mp first).1
    have second' : ((x :: xs).dropWhile isWhiteSpace)[1]? = some b := by
      rw [← whole, List.getElem?_append, second]
      exact if_pos (List.getElem?_eq_some_iff.mp second).1
    rcases dash with rfl | ⟨next, rfl⟩
    · rw [List.dropWhile_cons_of_neg (Bool.eq_false_iff.mp visible)] at first'
      obtain rfl := Option.some.inj first'
      exact .inl (by decide)
    · cases xs with
      | nil => cases next
      | cons y ys =>
        obtain rfl := Option.some.inj next
        by_cases blank : isWhiteSpace x = true
        · rw [List.dropWhile_cons_of_pos blank,
            List.dropWhile_cons_of_neg (Bool.eq_false_iff.mp visible)] at first'
          obtain rfl := Option.some.inj first'
          exact .inl (by decide)
        · rw [List.dropWhile_cons_of_neg blank] at second'
          obtain rfl := Option.some.inj second'
          exact .inr (by decide)

/-- A month in what is written stands at the front. -/
theorem HasMonth.day_eq_nil (iso : IsIso (front ++ behind)) (ten : utf8Length front = 10)
    (short : front.length < 8) (found : HasMonth (isoResult front behind) day month year parts) :
    day = [] := by
  have wide := utf8Length_le front
  obtain ⟨_, fourth, _⟩ := iso
  have blank := found.position (getElem?_isoResult front behind) (by decide)
  obtain ⟨a, b, first, second, codeA, codeB⟩ := found.letters
  by_contra later
  have positive := List.length_pos_of_ne_nil later
  by_cases five : 5 ≤ front.length
  · -- both the blank and the `-` would be separators around the same month
    rw [List.getElem?_append_left (by omega)] at fourth
    have dash : (isoResult front behind)[4]? = some '-' := by
      rw [isoResult, List.getElem?_append_left (by omega)]
      exact fourth
    have place := found.position dash (by decide)
    omega
  · -- the month would be in the time
    have same : day.length = front.length := by omega
    rw [same, getElem?_isoResult_add] at first second
    rw [List.getElem?_append_right (by omega)] at fourth
    cases behind with
    | nil => cases fourth
    | cons x xs =>
      have dash : x = '-' ∨ xs.head? = some '-' ∧ '-' = '-' := by
        by_cases four : front.length = 4
        · rw [four] at fourth
          exact .inl (Option.some.inj fourth)
        · have three : front.length = 3 := by omega
          rw [three] at fourth
          right
          rw [List.head?_eq_getElem?]
          exact ⟨fourth, rfl⟩
      rcases isoTime_not_letters first second dash with low | low <;> omega

/-- So that the front is one of those of `MonthInFront`, unless the result is cut again. -/
theorem HasMonth.monthInFront (trimmed : IsTrimmed (front ++ behind))
    (iso : IsIso (front ++ behind)) (ten : utf8Length front = 10)
    (other : ¬ IsIso (isoResult front behind))
    (found : HasMonth (isoResult front behind) day month year parts) :
    MonthInFront front behind := by
  have short : front.length < 8 := by
    by_contra long
    exact other (isIso_isoResult iso ten (not_lt.mp long))
  have wide := utf8Length_le front
  obtain rfl := found.day_eq_nil iso ten short
  have blank := found.position (getElem?_isoResult front behind) (by decide)
  obtain ⟨before, a, b, c, after, rest, _, separates, letters, _, whole, _⟩ := found.shape
  have sizeA := (found.letter (x := a) (by simp [letters])).1
  have sizeB := (found.letter (x := b) (by simp [letters])).1
  have sizeC := (found.letter (x := c) (by simp [letters])).1
  rw [List.nil_append, isoResult] at whole
  rw [List.length_nil] at blank
  -- four characters at least, and the first of them is the `-` before the month
  match front, wide, blank with
  | [], _, _ => cases ten
  | [_], wide, _ | [_, _], wide, _ => rw [ten] at wide; simp at wide
  | [_, _, _], _, blank => simp at blank
  | p :: q₁ :: q₂ :: q₃ :: tail, _, _ =>
    simp only [List.cons_append, List.cons.injEq] at whole
    obtain ⟨rfl, rfl, rfl, rfl, whole⟩ := whole
    have before : p = '-' := by
      have visible := trimmed.1 p rfl
      unfold isSeparator at separates
      rcases Bool.or_eq_true_iff.mp separates with dash | blank
      · exact beq_iff_eq.mp dash
      · rw [beq_iff_eq.mp blank] at visible
        cases visible
    have bytes := ten
    rw [before] at ten
    have dash : '-'.utf8Size = 1 := by decide
    simp only [utf8Length_cons, dash] at ten
    cases tail with
    | nil =>
      simp only [utf8Length_nil] at ten
      omega
    | cons r tail =>
      have after : r = '-' := Option.some.inj iso.2.1
      refine ⟨q₁, q₂, q₃, tail, by rw [before, after], letters ▸ found.known, ?_⟩
      rw [after] at ten
      simp only [utf8Length_cons, dash, List.length_cons] at ten short
      by_cases two : tail.length = 2
      · exact .inl two
      · have one : tail.length = 1 := by
          have := length_le_utf8Length tail
          by_contra none
          have nothing : tail = [] := List.eq_nil_of_length_eq_zero (by omega)
          rw [nothing, utf8Length_nil] at ten
          omega
        refine .inr ⟨one, fun second => other ⟨?_, by rw [after]; rfl, ?_⟩⟩
        · rw [isoResult, utf8Length_append, bytes]
          omega
        · have time := getElem?_isoResult_add (p :: q₁ :: q₂ :: q₃ :: r :: tail) behind 0
          rw [← List.head?_eq_getElem?, second] at time
          simp only [List.length_cons, one] at time
          exact time

theorem MonthInFront.normalize_ne (trimmed : IsTrimmed (front ++ behind))
    (ten : utf8Length front = 10) (opens : MonthInFront front behind) :
    normalizeDatetimeString (String.ofList (isoResult front behind)) ≠
      some (String.ofList (isoResult front behind)) := by
  have same := trim_ofList (isTrimmed_isoResult trimmed ten)
  obtain ⟨a, b, c, tail, rfl, known, place⟩ := opens
  obtain ⟨number, numbered⟩ := Option.ne_none_iff_exists'.mp known
  obtain ⟨⟨_, _, _, _, letters⟩, d, e, digits, _, low, _⟩ := monthNumber_eq_some numbered
  have text : (trim (String.ofList (isoResult ('-' :: a :: b :: c :: '-' :: tail) behind))).toList =
      isoResult ('-' :: a :: b :: c :: '-' :: tail) behind := by
    rw [same, String.toList_ofList]
  have other : ¬ IsIso (isoResult ('-' :: a :: b :: c :: '-' :: tail) behind) := by
    rintro ⟨_, _, seventh⟩
    rcases place with two | ⟨one, first⟩
    · have blank := getElem?_isoResult ('-' :: a :: b :: c :: '-' :: tail) behind
      simp only [List.length_cons, two] at blank
      rw [blank] at seventh
      cases seventh
    · have time := getElem?_isoResult_add ('-' :: a :: b :: c :: '-' :: tail) behind 0
      simp only [List.length_cons, one] at time
      rw [time, ← List.head?_eq_getElem?] at seventh
      exact first seventh
  obtain ⟨year, parts, rest⟩ := List.exists_cons_of_ne_nil
    (List.splitOnP_ne_nil isSeparator (tail ++ ' ' :: isoTime behind))
  have split : (isoResult ('-' :: a :: b :: c :: '-' :: tail) behind).splitOnP isSeparator =
      [] :: [a, b, c] :: year :: parts := by
    have month : ([a, b, c] ++ '-' :: (tail ++ ' ' :: isoTime behind)).splitOnP isSeparator =
        [a, b, c] :: year :: parts := by
      rw [List.splitOnP_append_cons_of_forall_mem _ '-' (by decide), rest]
      intro x mem
      exact isSeparator_of_letter (letters x mem).2
    exact splitOnP_eq_cons_cons.mpr
      ⟨'-', _, fun x mem => absurd mem List.not_mem_nil, by decide, rfl, month⟩
  rw [normalize_month (by rw [text]; exact other) (by rw [text]; exact split) numbered, digits]
  intro equal
  have lists := congrArg String.toList (Option.some.inj equal)
  rw [String.toList_ofList, String.toList_ofList] at lists
  -- the result starts with the year, or with the number of the month
  cases year with
  | nil =>
    have letter := (letters a List.mem_cons_self).2
    have second : d = a := (List.cons.inj (List.cons.inj lists).2).1
    rw [second] at low
    omega
  | cons y ys =>
    have first : y = '-' := (List.cons.inj lists).1
    have clean := clean_of_mem_splitOnP (rest ▸ List.mem_cons_self) y List.mem_cons_self
    rw [first] at clean
    cases clean

theorem normalize_isoResult (trimmed : IsTrimmed (front ++ behind))
    (iso : IsIso (front ++ behind)) (ten : utf8Length front = 10) :
    normalizeDatetimeString (String.ofList (isoResult front behind)) =
      some (String.ofList (isoResult front behind)) ↔ ¬ MonthInFront front behind := by
  constructor
  · intro again opens
    exact opens.normalize_ne trimmed ten again
  · intro plain
    have same := trim_ofList (isTrimmed_isoResult trimmed ten)
    have text : (trim (String.ofList (isoResult front behind))).toList =
        isoResult front behind := by
      rw [same, String.toList_ofList]
    by_cases again : IsIso (isoResult front behind)
    · have cut : splitBytes (trim (String.ofList (isoResult front behind))).toList 10 =
          some (front, ' ' :: isoTime behind) := by
        rw [text]
        exact splitBytes_eq_some_iff.mpr ⟨rfl, ten⟩
      rw [normalize_iso (by rw [text]; exact again) cut, isoTime_isoTime, isoResult]
    · rw [normalize_other (by rw [text]; exact again), same]
      intro day month year parts split
      rw [text] at split
      by_contra known
      have found : HasMonth (isoResult front behind) day month year parts := ⟨split, known⟩
      exact plain (found.monthInFront trimmed iso ten again)

end Cut

/-! ### Texts that are split -/

/-- The year does not start with white space, and if it has four characters, then the tenth byte is
where the day ends, and a time that is cut again stays as it is. -/
def MonthStays (day year : List Char) (parts : List (List Char)) : Prop :=
  (∀ c, year.head? = some c → isWhiteSpace c = false) ∧
    (year.length = 4 → utf8Length year + utf8Length day = 6 ∧
      2 ≤ utf8Length (joinedTime parts) ∧ '.' ∉ joinedTime parts ∧
      ∀ c, (joinedTime parts).head? = some c → isWhiteSpace c = false)

section Time

variable {parts : List (List Char)}

theorem mem_of_mem_intercalate {sep x : Char} {parts : List (List Char)}
    (mem : x ∈ [sep].intercalate parts) : x = sep ∨ ∃ part ∈ parts, x ∈ part := by
  induction parts with
  | nil => exact absurd mem List.not_mem_nil
  | cons part parts ih =>
    cases parts with
    | nil =>
      rw [List.intercalate_singleton] at mem
      exact .inr ⟨part, List.mem_cons_self, mem⟩
    | cons next rest =>
      rw [List.intercalate_cons_cons, List.mem_append, List.mem_append,
        List.mem_singleton] at mem
      rcases mem with (here | same) | later
      · exact .inr ⟨part, List.mem_cons_self, here⟩
      · exact .inl same
      · rcases ih later with same | ⟨other, inRest, inside⟩
        · exact .inl same
        · exact .inr ⟨other, List.mem_cons_of_mem part inRest, inside⟩

theorem clean_midnight : ∀ x ∈ "00:00:00".toList, isSeparator x = false := by
  simp [isSeparator]

/-- The joined time has the characters of the parts and colons. -/
theorem clean_joinedTime (clean : ∀ part ∈ parts, ∀ x ∈ part, isSeparator x = false) :
    ∀ x ∈ joinedTime parts, isSeparator x = false := by
  intro x mem
  unfold joinedTime at mem
  by_cases none : parts = []
  · rw [if_pos none] at mem
    exact clean_midnight x mem
  · rw [if_neg none] at mem
    rcases mem_of_mem_intercalate mem with colon | ⟨part, here, inside⟩
    · rw [colon]
      decide
    · exact clean part here x inside

theorem clean_clockTime (clean : ∀ part ∈ parts, ∀ x ∈ part, isSeparator x = false) :
    ∀ x ∈ clockTime parts, isSeparator x = false := by
  intro x mem
  unfold clockTime at mem
  by_cases long : 8 ≤ utf8Length (joinedTime parts)
  · rw [if_pos long] at mem
    exact clean_joinedTime clean x mem
  · rw [if_neg long] at mem
    have zeros : ∀ y ∈ ":00:00".toList, isSeparator y = false := by
      simp [isSeparator]
    rcases List.mem_append.mp mem with joined | added
    · exact clean_joinedTime clean x joined
    · exact zeros x added

/-- The joined time is the front of the time. -/
theorem joinedTime_begins (parts : List (List Char)) : joinedTime parts <+: clockTime parts := by
  unfold clockTime
  by_cases long : 8 ≤ utf8Length (joinedTime parts)
  · rw [if_pos long]
  · rw [if_neg long]
    exact List.prefix_append _ _

theorem eight_le_clockTime_iff :
    8 ≤ utf8Length (clockTime parts) ↔ 2 ≤ utf8Length (joinedTime parts) := by
  unfold clockTime
  by_cases long : 8 ≤ utf8Length (joinedTime parts)
  · rw [if_pos long]
    omega
  · have zeros : utf8Length ":00:00".toList = 6 := by decide
    rw [if_neg long, utf8Length_append, zeros]
    omega

theorem dot_mem_clockTime_iff : '.' ∈ clockTime parts ↔ '.' ∈ joinedTime parts := by
  constructor
  · intro mem
    unfold clockTime at mem
    by_cases long : 8 ≤ utf8Length (joinedTime parts)
    · rw [if_pos long] at mem
      exact mem
    · rw [if_neg long] at mem
      exact (List.mem_append.mp mem).resolve_right (by decide)
  · intro mem
    exact (joinedTime_begins parts).subset mem

/-- A time that is cut again stays as it is exactly if the joined time has two bytes, no dot and no
white space in front. -/
theorem isoTime_clockTime_iff :
    isoTime (' ' :: clockTime parts) = clockTime parts ↔
      2 ≤ utf8Length (joinedTime parts) ∧ '.' ∉ joinedTime parts ∧
        ∀ c, (joinedTime parts).head? = some c → isWhiteSpace c = false := by
  obtain ⟨added, whole⟩ := joinedTime_begins parts
  constructor
  · intro same
    have long := eight_le_isoTime (' ' :: clockTime parts)
    have plain := dot_not_mem_isoTime (' ' :: clockTime parts)
    have first := head?_isoTime (' ' :: clockTime parts)
    rw [same] at long plain first
    refine ⟨eight_le_clockTime_iff.mp long, mt dot_mem_clockTime_iff.mpr plain, ?_⟩
    intro c joined
    apply first
    rw [← whole, List.head?_append, joined]
    rfl
  · rintro ⟨long, plain, first⟩
    apply isoTime_blank (eight_le_clockTime_iff.mpr long) (mt dot_mem_clockTime_iff.mp plain)
    intro c start
    cases joined : joinedTime parts with
    | nil =>
      rw [joined, utf8Length_nil] at long
      omega
    | cons d ds =>
      rw [← whole, joined] at start
      obtain rfl := Option.some.inj start
      apply first
      rw [joined]
      rfl

/-- The last part of a text ends where the text ends. -/
theorem getLast?_joinedTime {xs : List Char}
    (last : ∀ c, xs.getLast? = some c → isWhiteSpace c = false) :
    ∀ c, (joinedTime (xs.splitOnP isSeparator)).getLast? = some c → isWhiteSpace c = false := by
  intro c final
  rcases splitOnP_cases isSeparator xs with ⟨_, single⟩ | ⟨first, sep, rest, _, _, whole, parts⟩
  · rw [single, joinedTime, if_neg (List.cons_ne_nil _ _), List.intercalate_singleton] at final
    exact last c final
  · have later : ∀ d, rest.getLast? = some d → isWhiteSpace d = false := by
      intro d ends
      apply last
      rw [whole, List.getLast?_append, List.getLast?_cons, ends]
      rfl
    have ih := getLast?_joinedTime later
    have some_rest : rest.splitOnP isSeparator ≠ [] := List.splitOnP_ne_nil isSeparator rest
    rw [joinedTime, if_neg some_rest] at ih
    rw [parts, joinedTime, if_neg (List.cons_ne_nil _ _),
      List.intercalate_cons_of_ne_nil some_rest, List.getLast?_append] at final
    cases tail : ([':'].intercalate (rest.splitOnP isSeparator)).getLast? with
    | none =>
      rw [tail, List.getLast?_append] at final
      obtain rfl := Option.some.inj final
      decide
    | some d =>
      rw [tail] at final
      obtain rfl := Option.some.inj final
      exact ih _ tail
termination_by xs.length
decreasing_by
  rw [whole, List.length_append, List.length_cons]
  omega

theorem getLast?_clockTime
    (last : ∀ c, (joinedTime parts).getLast? = some c → isWhiteSpace c = false) :
    ∀ c, (clockTime parts).getLast? = some c → isWhiteSpace c = false := by
  intro c final
  unfold clockTime at final
  by_cases long : 8 ≤ utf8Length (joinedTime parts)
  · rw [if_pos long] at final
    exact last c final
  · rw [if_neg long, List.getLast?_append] at final
    obtain rfl := Option.some.inj final
    decide

end Time

section Split

variable {dt day month year : List Char} {parts : List (List Char)} {d e : Char}

/-- What is written for a text that is split. -/
def monthResult (year : List Char) (d e : Char) (day : List Char) (parts : List (List Char)) :
    List Char :=
  year ++ '-' :: d :: e :: '-' :: (day ++ ' ' :: clockTime parts)

/-- The two digits of a month. -/
def AreDigits (d e : Char) : Prop :=
  48 ≤ d.toNat ∧ d.toNat ≤ 57 ∧ 48 ≤ e.toNat ∧ e.toNat ≤ 57

theorem AreDigits.clean (digits : AreDigits d e) : ∀ x ∈ [d, e], isSeparator x = false := by
  have clean : ∀ x : Char, 48 ≤ x.toNat → isSeparator x = false := by
    intro x code
    unfold isSeparator
    rw [Bool.or_eq_false_iff, beq_eq_false_iff_ne, beq_eq_false_iff_ne]
    constructor <;> intro same <;> rw [same] at code <;> revert code <;> decide
  intro x mem
  rcases List.mem_cons.mp mem with rfl | mem
  · exact clean x digits.1
  · obtain rfl := List.mem_singleton.mp mem
    exact clean x digits.2.2.1

/-- A text with the number of a month in its second part is not rearranged. -/
theorem not_hasMonth_of_number (digits : AreDigits d e)
    (clean : ∀ x ∈ year, isSeparator x = false) {rest day' month' year' : List Char}
    {parts' : List (List Char)} :
    ¬ HasMonth (year ++ '-' :: d :: e :: '-' :: rest) day' month' year' parts' := by
  intro found
  obtain ⟨_, _, _, _, _, _, _, _, letters, _⟩ := found.shape
  have split : (year ++ '-' :: d :: e :: '-' :: rest).splitOnP isSeparator =
      year :: [d, e] :: rest.splitOnP isSeparator := by
    have second : ([d, e] ++ '-' :: rest).splitOnP isSeparator =
        [d, e] :: rest.splitOnP isSeparator :=
      List.splitOnP_append_cons_of_forall_mem digits.clean '-' (by decide) rest
    rw [List.splitOnP_append_cons_of_forall_mem clean '-' (by decide)]
    exact congrArg (year :: ·) second
  have same := found.split.symm.trans split
  have numbers : month' = [d, e] := (List.cons.inj (List.cons.inj same).2).1
  rw [numbers] at letters
  cases letters

/-- A text without a month is written as it is. -/
theorem normalize_of_no_month {s : String} (other : ¬ IsIso (trim s).toList)
    (none : ¬ ∃ day month year parts, HasMonth (trim s).toList day month year parts) :
    normalizeDatetimeString s = some (trim s) := by
  apply normalize_other other
  intro day month year parts split
  by_contra known
  exact none ⟨day, month, year, parts, split, known⟩

/-- Only a text with a month is rearranged, so that it may start with white space. -/
theorem exists_hasMonth_of_blank {s : String} {x : List Char} {c : Char}
    (written : normalizeDatetimeString s = some (String.ofList x)) (first : x.head? = some c)
    (blank : isWhiteSpace c = true) :
    ∃ day month year parts, HasMonth (trim s).toList day month year parts := by
  have visible := (isTrimmed_trim s).1
  by_cases iso : IsIso (trim s).toList
  · exfalso
    cases cut : splitBytes (trim s).toList 10 with
    | none =>
      rw [normalize_cut iso cut] at written
      cases written
    | some pair =>
      obtain ⟨front, behind⟩ := pair
      obtain ⟨whole, ten⟩ := splitBytes_eq_some_iff.mp cut
      rw [normalize_iso iso cut] at written
      have same := congrArg String.toList (Option.some.inj written)
      rw [String.toList_ofList, String.toList_ofList] at same
      cases front with
      | nil => cases ten
      | cons p ps =>
        rw [← same] at first
        obtain rfl := Option.some.inj first
        rw [whole] at visible
        rw [visible p rfl] at blank
        cases blank
  · by_contra none
    have other := normalize_of_no_month iso none
    have same := congrArg String.toList (Option.some.inj (other.symm.trans written))
    rw [String.toList_ofList] at same
    rw [same] at visible
    rw [visible c first] at blank
    cases blank

theorem HasMonth.clean_day (found : HasMonth dt day month year parts) :
    ∀ x ∈ day, isSeparator x = false :=
  clean_of_mem_splitOnP (by rw [found.split]; simp)

theorem HasMonth.clean_year (found : HasMonth dt day month year parts) :
    ∀ x ∈ year, isSeparator x = false :=
  clean_of_mem_splitOnP (by rw [found.split]; simp)

theorem HasMonth.clean_time (found : HasMonth dt day month year parts) :
    ∀ x ∈ clockTime parts, isSeparator x = false := by
  apply clean_clockTime
  intro part mem
  have here : part ∈ dt.splitOnP isSeparator := by
    rw [found.split]
    simp [mem]
  exact clean_of_mem_splitOnP here

/-- The time ends in what the text ends in, or in zeros. -/
theorem HasMonth.getLast?_time (found : HasMonth dt day month year parts)
    (trimmed : IsTrimmed dt) :
    ∀ c, (clockTime parts).getLast? = some c → isWhiteSpace c = false := by
  apply getLast?_clockTime
  obtain ⟨before, a, b, c, after, rest, _, _, _, _, whole, next⟩ := found.shape
  cases parts with
  | nil =>
    intro c final
    obtain rfl := Option.some.inj final
    decide
  | cons part others =>
    obtain ⟨sep, behind, _, _, tail, last⟩ := splitOnP_eq_cons_cons.mp next
    rw [← last]
    apply getLast?_joinedTime
    intro c final
    apply trimmed.2
    rw [whole, tail]
    simp [List.getLast?_append, List.getLast?_cons, final]

theorem clockTime_ne_nil (parts : List (List Char)) : clockTime parts ≠ [] := by
  intro nothing
  unfold clockTime at nothing
  by_cases long : 8 ≤ utf8Length (joinedTime parts)
  · rw [if_pos long] at nothing
    rw [nothing, utf8Length_nil] at long
    omega
  · rw [if_neg long] at nothing
    exact absurd (List.append_eq_nil_iff.mp nothing).2 (by decide)

theorem HasMonth.getLast?_result (found : HasMonth dt day month year parts)
    (trimmed : IsTrimmed dt) (front : List Char) :
    ∀ c, (monthResult front d e day parts).getLast? = some c → isWhiteSpace c = false := by
  intro c final
  obtain ⟨x, ends⟩ := Option.isSome_iff_exists.mp
    (List.getLast?_isSome.mpr (clockTime_ne_nil parts))
  have last := found.getLast?_time trimmed x ends
  have same : (monthResult front d e day parts).getLast? = some x := by
    simp [monthResult, List.getLast?_append, List.getLast?_cons, ends]
  rw [same] at final
  obtain rfl := Option.some.inj final
  exact last

theorem dropWhile_append_visible {xs rest : List Char} {x : Char}
    (visible : isWhiteSpace x = false) :
    (xs ++ x :: rest).dropWhile isWhiteSpace = xs.dropWhile isWhiteSpace ++ x :: rest := by
  induction xs with
  | nil => exact List.dropWhile_cons_of_neg (Bool.eq_false_iff.mp visible)
  | cons y ys ih =>
    by_cases blank : isWhiteSpace y = true
    · rw [List.cons_append, List.dropWhile_cons_of_pos blank, List.dropWhile_cons_of_pos blank, ih]
    · rw [List.cons_append, List.dropWhile_cons_of_neg blank, List.dropWhile_cons_of_neg blank,
        List.cons_append]

/-- White space before the year is lost. -/
theorem HasMonth.normalize_ne_of_blank (found : HasMonth dt day month year parts)
    (trimmed : IsTrimmed dt) (digits : AreDigits d e) {c : Char} (first : year.head? = some c)
    (blank : isWhiteSpace c = true) :
    normalizeDatetimeString (String.ofList (monthResult year d e day parts)) ≠
      some (String.ofList (monthResult year d e day parts)) := by
  intro again
  have start : (monthResult year d e day parts).head? = some c := by
    rw [monthResult, List.head?_append, first]
    rfl
  obtain ⟨day', month', year', parts', found'⟩ := exists_hasMonth_of_blank again start blank
  have text : (trim (String.ofList (monthResult year d e day parts))).toList =
      monthResult (year.dropWhile isWhiteSpace) d e day parts := by
    have drop : (monthResult year d e day parts).dropWhile isWhiteSpace =
        monthResult (year.dropWhile isWhiteSpace) d e day parts :=
      dropWhile_append_visible (by decide)
    rw [trim, String.toList_ofList, String.toList_ofList, drop]
    exact rdropWhile_of_last (found.getLast?_result trimmed _)
  rw [text] at found'
  refine not_hasMonth_of_number digits ?_ found'
  intro x mem
  exact found.clean_year x ((List.dropWhile_suffix isWhiteSpace).subset mem)

theorem not_dash {x : Char} (clean : isSeparator x = false) : x ≠ '-' := by
  intro same
  rw [same] at clean
  cases clean

theorem not_blank {x : Char} (clean : isSeparator x = false) : x ≠ ' ' := by
  intro same
  rw [same] at clean
  cases clean

/-- The two `-` of the result are around the month. -/
theorem HasMonth.dash_position (found : HasMonth dt day month year parts)
    (digits : AreDigits d e) {j : Nat}
    (dash : (monthResult year d e day parts)[j]? = some '-') :
    j = year.length ∨ j = year.length + 3 := by
  rw [monthResult] at dash
  by_cases inYear : j < year.length
  · rw [List.getElem?_append_left inYear] at dash
    exact absurd rfl (not_dash (found.clean_year _ (List.mem_of_getElem? dash)))
  · obtain ⟨i, rfl⟩ := Nat.exists_eq_add_of_le (not_lt.mp inYear)
    rw [List.getElem?_append_right (Nat.le_add_right _ _), Nat.add_sub_cancel_left] at dash
    match i, dash with
    | 0, _ => exact .inl rfl
    | 1, dash =>
      obtain rfl := Option.some.inj dash
      exact absurd rfl (not_dash (digits.clean _ List.mem_cons_self))
    | 2, dash =>
      obtain rfl := Option.some.inj dash
      exact absurd rfl (not_dash (digits.clean _ (by simp)))
    | 3, _ => exact .inr rfl
    | i + 4, dash =>
      exfalso
      have mem : '-' ∈ day ++ ' ' :: clockTime parts := List.mem_of_getElem? dash
      rcases List.mem_append.mp mem with inDay | later
      · exact not_dash (found.clean_day _ inDay) rfl
      · rcases List.mem_cons.mp later with blank | inTime
        · cases blank
        · exact not_dash (found.clean_time _ inTime) rfl

/-- With four characters the year has both `-` at their places, and only then. -/
theorem HasMonth.isIso_result_iff (found : HasMonth dt day month year parts)
    (digits : AreDigits d e) :
    IsIso (monthResult year d e day parts) ↔ year.length = 4 := by
  constructor
  · rintro ⟨_, fourth, seventh⟩
    have first := found.dash_position digits fourth
    have second := found.dash_position digits seventh
    omega
  · intro four
    refine ⟨?_, ?_, ?_⟩
    · have long := length_le_utf8Length (monthResult year d e day parts)
      have time := List.length_pos_of_ne_nil (clockTime_ne_nil parts)
      simp only [monthResult, List.length_append, List.length_cons] at long
      rw [monthResult]
      omega
    · rw [monthResult, List.getElem?_append_right (by omega), four]
      rfl
    · rw [monthResult, List.getElem?_append_right (by omega), four]
      rfl

theorem HasMonth.isTrimmed_result (found : HasMonth dt day month year parts)
    (trimmed : IsTrimmed dt) (first : ∀ c, year.head? = some c → isWhiteSpace c = false) :
    IsTrimmed (monthResult year d e day parts) := by
  constructor
  · intro c start
    cases year with
    | nil =>
      obtain rfl := Option.some.inj start
      decide
    | cons y ys => exact first c start
  · exact found.getLast?_result trimmed year

/-- Cut again, the result is the same exactly if the cut is behind the day. -/
theorem HasMonth.normalize_four (found : HasMonth dt day month year parts)
    (trimmed : IsTrimmed dt) (digits : AreDigits d e)
    (first : ∀ c, year.head? = some c → isWhiteSpace c = false) (four : year.length = 4) :
    normalizeDatetimeString (String.ofList (monthResult year d e day parts)) =
        some (String.ofList (monthResult year d e day parts)) ↔
      utf8Length year + utf8Length day = 6 ∧ isoTime (' ' :: clockTime parts) = clockTime parts := by
  have iso := (found.isIso_result_iff digits).mpr four
  have text : (trim (String.ofList (monthResult year d e day parts))).toList =
      monthResult year d e day parts := by
    rw [trim_ofList (found.isTrimmed_result trimmed first), String.toList_ofList]
  have parted : monthResult year d e day parts =
      (year ++ '-' :: d :: e :: '-' :: day) ++ ' ' :: clockTime parts := by
    simp [monthResult]
  have bytes : utf8Length (year ++ '-' :: d :: e :: '-' :: day) =
      utf8Length year + utf8Length day + 4 := by
    have dash : '-'.utf8Size = 1 := by decide
    have sizeD := utf8Size_ascii (c := d) (by have := digits.2.1; omega)
    have sizeE := utf8Size_ascii (c := e) (by have := digits.2.2.2; omega)
    simp only [utf8Length_append, utf8Length_cons, dash, sizeD, sizeE]
    omega
  have no_blank : ' ' ∉ year ++ '-' :: d :: e :: '-' :: day := by
    intro mem
    simp only [List.mem_append, List.mem_cons] at mem
    rcases mem with inYear | dash | first | second | dash | inDay
    · exact not_blank (found.clean_year _ inYear) rfl
    · cases dash
    · exact not_blank (digits.clean _ List.mem_cons_self) first.symm
    · exact not_blank (digits.clean _ (by simp)) second.symm
    · cases dash
    · exact not_blank (found.clean_day _ inDay) rfl
  have no_blank' : ' ' ∉ clockTime parts := fun mem => not_blank (found.clean_time _ mem) rfl
  constructor
  · intro again
    cases cut : splitBytes (monthResult year d e day parts) 10 with
    | none =>
      rw [normalize_cut (by rw [text]; exact iso) (by rw [text]; exact cut)] at again
      cases again
    | some pair =>
      obtain ⟨front, behind⟩ := pair
      obtain ⟨whole, ten⟩ := splitBytes_eq_some_iff.mp cut
      rw [normalize_iso (by rw [text]; exact iso) (by rw [text]; exact cut)] at again
      have same := congrArg String.toList (Option.some.inj again)
      rw [String.toList_ofList, String.toList_ofList, parted] at same
      -- the result has one blank only
      obtain ⟨rfl, _, time⟩ :=
        (List.append_cons_inj_of_notMem no_blank no_blank').mp same.symm
      rw [parted] at whole
      obtain rfl := List.append_cancel_left whole
      exact ⟨by omega, time.symm⟩
  · rintro ⟨six, time⟩
    have cut : splitBytes (monthResult year d e day parts) 10 =
        some (year ++ '-' :: d :: e :: '-' :: day, ' ' :: clockTime parts) :=
      splitBytes_eq_some_iff.mpr ⟨parted, by omega⟩
    rw [normalize_iso (by rw [text]; exact iso) (by rw [text]; exact cut), time, parted]

/-- What was rearranged stays as it is exactly if the parts are as `MonthStays` says. -/
theorem HasMonth.normalize_result (found : HasMonth dt day month year parts)
    (trimmed : IsTrimmed dt) (digits : AreDigits d e) :
    normalizeDatetimeString (String.ofList (monthResult year d e day parts)) =
        some (String.ofList (monthResult year d e day parts)) ↔ MonthStays day year parts := by
  by_cases first : ∀ c, year.head? = some c → isWhiteSpace c = false
  · by_cases four : year.length = 4
    · rw [found.normalize_four trimmed digits first four, isoTime_clockTime_iff]
      constructor
      · intro stays
        exact ⟨first, fun _ => stays⟩
      · intro stays
        exact stays.2 four
    · -- the number of the month is no month
      constructor
      · intro _
        exact ⟨first, fun wrong => absurd wrong four⟩
      · intro _
        have same := trim_ofList (found.isTrimmed_result (d := d) (e := e) trimmed first)
        have text : (trim (String.ofList (monthResult year d e day parts))).toList =
            monthResult year d e day parts := by
          rw [same, String.toList_ofList]
        have other := mt (found.isIso_result_iff digits).mp four
        rw [normalize_other (by rw [text]; exact other), same]
        intro day' month' year' parts' split
        rw [text] at split
        by_contra known
        exact not_hasMonth_of_number digits found.clean_year ⟨split, known⟩
  · constructor
    · intro again
      push Not at first
      obtain ⟨c, start, blank⟩ := first
      exact absurd again (found.normalize_ne_of_blank trimmed digits start
        ((Bool.not_eq_false _).mp blank))
    · intro stays
      exact absurd stays.1 first

end Split

/-! ### Normalizing twice -/

theorem HasMonth.normalize {s : String} {day month year : List Char} {parts : List (List Char)}
    (found : HasMonth (trim s).toList day month year parts) (other : ¬ IsIso (trim s).toList) :
    ∃ d e, AreDigits d e ∧
      normalizeDatetimeString s = some (String.ofList (monthResult year d e day parts)) := by
  obtain ⟨number, known⟩ := Option.ne_none_iff_exists'.mp found.known
  obtain ⟨_, d, e, shape, digits⟩ := monthNumber_eq_some known
  refine ⟨d, e, digits, ?_⟩
  rw [normalize_month other found.split known, shape, monthResult]
  simp

/-- What is normalized is normalized again to itself. -/
def Idempotent (s : String) : Prop :=
  ∀ r, normalizeDatetimeString s = some r → normalizeDatetimeString r = some r

/-- When it is: in terms of the text without its white space. -/
structure Settles (dt : List Char) : Prop where
  cut : IsIso dt → ∀ front behind, splitBytes dt 10 = some (front, behind) →
    ¬ MonthInFront front behind
  month : ¬ IsIso dt → ∀ day month year parts, HasMonth dt day month year parts →
    MonthStays day year parts

theorem idempotent_iff (s : String) : Idempotent s ↔ Settles (trim s).toList := by
  have trimmed := isTrimmed_trim s
  constructor
  · intro again
    constructor
    · intro iso front behind cut
      obtain ⟨whole, ten⟩ := splitBytes_eq_some_iff.mp cut
      have written := normalize_iso iso cut
      rw [whole] at trimmed iso
      exact (normalize_isoResult trimmed iso ten).mp (again _ written)
    · intro other day month year parts found
      obtain ⟨d, e, digits, written⟩ := found.normalize other
      exact (found.normalize_result trimmed digits).mp (again _ written)
  · intro settles r written
    by_cases iso : IsIso (trim s).toList
    · cases cut : splitBytes (trim s).toList 10 with
      | none =>
        rw [normalize_cut iso cut] at written
        cases written
      | some pair =>
        obtain ⟨front, behind⟩ := pair
        obtain ⟨whole, ten⟩ := splitBytes_eq_some_iff.mp cut
        rw [normalize_iso iso cut] at written
        obtain rfl := Option.some.inj written
        have plain := settles.cut iso front behind cut
        rw [whole] at trimmed iso
        exact (normalize_isoResult trimmed iso ten).mpr plain
    · by_cases month : ∃ day month year parts, HasMonth (trim s).toList day month year parts
      · obtain ⟨day, month, year, parts, found⟩ := month
        obtain ⟨d, e, digits, result⟩ := found.normalize iso
        rw [result] at written
        obtain rfl := Option.some.inj written
        exact (found.normalize_result trimmed digits).mpr (settles.month iso _ _ _ _ found)
      · rw [normalize_of_no_month iso month] at written
        obtain rfl := Option.some.inj written
        have same := trim_trim s
        rw [← same] at iso month
        rw [normalize_of_no_month iso month, same]

end TollBackend

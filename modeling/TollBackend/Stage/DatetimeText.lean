import TollBackend.Stage.SqlText

/-!
# The parts of a datetime text

`normalize_datetime_string` cuts a text at its tenth byte or splits it at `-` and blanks. This file
says what it makes of the parts.

## Main definitions

* `IsIso`: the text is taken for `YYYY-MM-DD`.
* `timeText`, `isoTime`: what is taken for its time.
* `joinedTime`, `clockTime`: the time of a text that is split.

## Main results

* `splitBytes_eq_some_iff`: cutting at a byte.
* `splitOnP_eq_cons_cons`: the first parts of a text that is split.
* `normalize_iso`, `normalize_month`, `normalize_other`: the three outcomes.
-/

namespace TollBackend

/-! ### Bytes -/

@[simp] theorem utf8Length_nil : utf8Length [] = 0 :=
  rfl

@[simp] theorem utf8Length_cons (c : Char) (cs : List Char) :
    utf8Length (c :: cs) = c.utf8Size + utf8Length cs := by
  rw [utf8Length, List.map_cons, List.sum_cons, utf8Length]

@[simp] theorem utf8Length_append (cs ds : List Char) :
    utf8Length (cs ++ ds) = utf8Length cs + utf8Length ds := by
  rw [utf8Length, List.map_append, List.sum_append, utf8Length, utf8Length]

theorem length_le_utf8Length (cs : List Char) : cs.length ≤ utf8Length cs := by
  induction cs with
  | nil => exact le_rfl
  | cons c cs ih =>
    have size := c.utf8Size_pos
    rw [List.length_cons, utf8Length_cons]
    omega

theorem utf8Length_le (cs : List Char) : utf8Length cs ≤ 4 * cs.length := by
  induction cs with
  | nil => exact le_rfl
  | cons c cs ih =>
    have size := c.utf8Size_le_four
    rw [List.length_cons, utf8Length_cons]
    omega

/-- A text is cut where its first characters have so many bytes. -/
theorem splitBytes_eq_some_iff {cs front behind : List Char} {n : Nat} :
    splitBytes cs n = some (front, behind) ↔ cs = front ++ behind ∧ utf8Length front = n := by
  induction cs generalizing n front with
  | nil =>
    cases n with
    | zero =>
      rw [splitBytes]
      constructor
      · intro cut
        obtain ⟨rfl, rfl⟩ := Prod.mk.inj (Option.some.inj cut)
        exact ⟨rfl, rfl⟩
      · rintro ⟨whole, _⟩
        obtain ⟨rfl, rfl⟩ := List.append_eq_nil_iff.mp whole.symm
        rfl
    | succ n =>
      rw [splitBytes]
      constructor
      · intro cut
        cases cut
      · rintro ⟨whole, length⟩
        obtain ⟨rfl, rfl⟩ := List.append_eq_nil_iff.mp whole.symm
        cases length
  | cons c cs ih =>
    have size := c.utf8Size_pos
    cases n with
    | zero =>
      rw [splitBytes]
      constructor
      · intro cut
        obtain ⟨rfl, rfl⟩ := Prod.mk.inj (Option.some.inj cut)
        exact ⟨rfl, rfl⟩
      · rintro ⟨whole, length⟩
        have none : front = [] := by
          have := length_le_utf8Length front
          exact List.eq_nil_of_length_eq_zero (by omega)
        rw [none] at whole ⊢
        rw [whole, List.nil_append]
    | succ n =>
      rw [splitBytes]
      by_cases fits : c.utf8Size ≤ n + 1
      · rw [if_pos fits, Option.map_eq_some_iff]
        constructor
        · rintro ⟨⟨first, last⟩, cut, eq⟩
          obtain ⟨rfl, rfl⟩ := Prod.mk.inj eq
          obtain ⟨rfl, length⟩ := ih.mp cut
          rw [utf8Length_cons]
          exact ⟨rfl, by omega⟩
        · rintro ⟨whole, length⟩
          cases front with
          | nil => cases length
          | cons d first =>
            obtain ⟨rfl, rfl⟩ := List.cons.inj whole
            rw [utf8Length_cons] at length
            exact ⟨(first, behind), ih.mpr ⟨rfl, by omega⟩, rfl⟩
      · rw [if_neg fits]
        constructor
        · intro cut
          cases cut
        · rintro ⟨whole, length⟩
          cases front with
          | nil => cases length
          | cons d first =>
            obtain ⟨rfl, _⟩ := List.cons.inj whole
            rw [utf8Length_cons] at length
            omega

/-! ### Parts -/

section Parts

variable {α : Type} {p : α → Bool}

/-- A list is one part, or has a first part and goes on behind a separator. -/
theorem splitOnP_cases (p : α → Bool) (xs : List α) :
    (∀ x ∈ xs, p x = false) ∧ xs.splitOnP p = [xs] ∨
      ∃ first sep rest, (∀ x ∈ first, p x = false) ∧ p sep = true ∧
        xs = first ++ sep :: rest ∧ xs.splitOnP p = first :: rest.splitOnP p := by
  induction xs with
  | nil => exact .inl ⟨fun x mem => absurd mem List.not_mem_nil, List.splitOnP_nil⟩
  | cons x xs ih =>
    have nothing : ∀ y ∈ ([] : List α), p y = false := fun y mem => absurd mem List.not_mem_nil
    by_cases separates : p x = true
    · right
      exact ⟨[], x, xs, nothing, separates, rfl,
        List.splitOnP_append_cons_of_forall_mem nothing x separates xs⟩
    · have clean : p x = false := Bool.not_eq_true _ ▸ separates
      rcases ih with ⟨all, _⟩ | ⟨first, sep, rest, all, separates', rfl, _⟩
      · left
        have all' : ∀ y ∈ x :: xs, p y = false := List.forall_mem_cons.mpr ⟨clean, all⟩
        exact ⟨all', List.splitOnP_eq_singleton all'⟩
      · right
        have all' : ∀ y ∈ x :: first, p y = false := List.forall_mem_cons.mpr ⟨clean, all⟩
        exact ⟨x :: first, sep, rest, all', separates', rfl,
          List.splitOnP_append_cons_of_forall_mem all' sep separates' rest⟩

theorem splitOnP_eq_cons_cons {xs first second : List α} {rest : List (List α)} :
    xs.splitOnP p = first :: second :: rest ↔
      ∃ sep behind, (∀ x ∈ first, p x = false) ∧ p sep = true ∧
        xs = first ++ sep :: behind ∧ behind.splitOnP p = second :: rest := by
  constructor
  · intro split
    rcases splitOnP_cases p xs with ⟨_, single⟩ | ⟨head, sep, behind, clean, separates, rfl, parts⟩
    · rw [single] at split
      cases split
    · rw [parts] at split
      obtain ⟨rfl, next⟩ := List.cons.inj split
      exact ⟨sep, behind, clean, separates, rfl, next⟩
  · rintro ⟨sep, behind, clean, separates, rfl, next⟩
    rw [List.splitOnP_append_cons_of_forall_mem clean sep separates, next]

/-- No part has a separator. -/
theorem clean_of_mem_splitOnP {xs part : List α} (mem : part ∈ xs.splitOnP p) :
    ∀ x ∈ part, p x = false := by
  rcases splitOnP_cases p xs with ⟨clean, single⟩ | ⟨first, sep, rest, clean, _, whole, parts⟩
  · rw [single, List.mem_singleton] at mem
    rw [mem]
    exact clean
  · rw [parts] at mem
    rcases List.mem_cons.mp mem with rfl | later
    · exact clean
    · exact clean_of_mem_splitOnP later
termination_by xs.length
decreasing_by
  rw [whole, List.length_append, List.length_cons]
  omega

end Parts

/-! ### Months -/

theorem utf8Size_ascii {c : Char} (ascii : c.toNat ≤ 127) : c.utf8Size = 1 := by
  unfold Char.utf8Size
  rw [if_pos]
  apply UInt32.le_iff_toNat_le.mpr
  exact ascii

/-- A character whose capital is a letter from A to Z has at most two bytes, and is behind the
digits. -/
theorem of_upperChar_capital {c : Char}
    (capital : 65 ≤ (upperChar c).toNat ∧ (upperChar c).toNat ≤ 90) :
    c.utf8Size ≤ 2 ∧ 64 < c.toNat := by
  unfold upperChar at capital
  by_cases longS : c = 'ſ'
  · rw [longS]
    decide
  by_cases dotlessI : c = 'ı'
  · rw [dotlessI]
    decide
  rw [if_neg longS, if_neg dotlessI] at capital
  have ascii : 65 ≤ c.toNat ∧ c.toNat ≤ 122 := by
    unfold Char.toUpper at capital
    split at capital
    case isTrue lower =>
      have above := UInt32.le_iff_toNat_le.mp lower.1
      have below := UInt32.le_iff_toNat_le.mp lower.2
      have code : c.val.toNat = c.toNat := rfl
      have first : 'a'.val.toNat = 97 := rfl
      have last : 'z'.val.toNat = 122 := rfl
      omega
    case isFalse => exact ⟨capital.1, by omega⟩
  have size := utf8Size_ascii (c := c) (by omega)
  omega

/-- What an entry of the table of months is like. -/
theorem monthNumber_eq_some {name : List Char} {number : String}
    (known : monthNumber name = some number) :
    (∃ a b c, name = [a, b, c] ∧
      ∀ x ∈ name, x.utf8Size ≤ 2 ∧ 64 < x.toNat) ∧
      ∃ d e, number.toList = [d, e] ∧ 48 ≤ d.toNat ∧ d.toNat ≤ 57 ∧ 48 ≤ e.toNat ∧
        e.toNat ≤ 57 := by
  unfold monthNumber at known
  obtain ⟨before, after, table, _⟩ := List.lookup_eq_some_iff.mp known
  have entry : (String.ofList (name.map upperChar), number) ∈
      [("JAN", "01"), ("FEB", "02"), ("MAR", "03"), ("APR", "04"), ("MAY", "05"), ("JUN", "06"),
        ("JUL", "07"), ("AUG", "08"), ("SEP", "09"), ("OCT", "10"), ("NOV", "11"),
        ("DEC", "12")] := by
    rw [table]
    exact List.mem_append_right before List.mem_cons_self
  have regular : ∀ month ∈
      [("JAN", "01"), ("FEB", "02"), ("MAR", "03"), ("APR", "04"), ("MAY", "05"), ("JUN", "06"),
        ("JUL", "07"), ("AUG", "08"), ("SEP", "09"), ("OCT", "10"), ("NOV", "11"),
        ("DEC", "12")],
      month.1.toList.length = 3 ∧ (∀ x ∈ month.1.toList, 65 ≤ x.toNat ∧ x.toNat ≤ 90) ∧
        month.2.toList.length = 2 ∧ ∀ x ∈ month.2.toList, 48 ≤ x.toNat ∧ x.toNat ≤ 57 := by
    simp
  obtain ⟨three, capitals, two, digits⟩ := regular _ entry
  rw [String.toList_ofList] at three capitals
  rw [List.length_map] at three
  constructor
  · obtain ⟨a, b, c, rfl⟩ := List.length_eq_three.mp three
    refine ⟨a, b, c, rfl, fun x mem => ?_⟩
    exact of_upperChar_capital (capitals _ (List.mem_map_of_mem mem))
  · obtain ⟨d, e, shape⟩ := List.length_eq_two.mp two
    dsimp only at shape
    rw [shape] at digits
    have first := digits d List.mem_cons_self
    have second := digits e (List.mem_cons_of_mem d List.mem_cons_self)
    exact ⟨d, e, shape, first.1, first.2, second.1, second.2⟩

/-! ### Trimming -/

/-- No white space at the ends. -/
def IsTrimmed (cs : List Char) : Prop :=
  (∀ c, cs.head? = some c → isWhiteSpace c = false) ∧
    ∀ c, cs.getLast? = some c → isWhiteSpace c = false

theorem dropWhile_of_head {cs : List Char}
    (before : ∀ c, cs.head? = some c → isWhiteSpace c = false) :
    cs.dropWhile isWhiteSpace = cs := by
  cases cs with
  | nil => rfl
  | cons c cs => exact List.dropWhile_cons_of_neg (Bool.eq_false_iff.mp (before c rfl))

theorem rdropWhile_of_last {cs : List Char}
    (behind : ∀ c, cs.getLast? = some c → isWhiteSpace c = false) :
    cs.rdropWhile isWhiteSpace = cs := by
  apply List.rdropWhile_eq_self_iff.mpr
  intro nonempty blank
  rw [behind _ (List.getLast?_eq_some_getLast nonempty)] at blank
  cases blank

theorem trim_ofList {cs : List Char} (trimmed : IsTrimmed cs) :
    trim (String.ofList cs) = String.ofList cs := by
  rw [trim, String.toList_ofList, dropWhile_of_head trimmed.1, rdropWhile_of_last trimmed.2]

theorem head_dropWhile {cs : List Char} {c : Char}
    (first : (cs.dropWhile isWhiteSpace).head? = some c) : isWhiteSpace c = false := by
  induction cs with
  | nil => cases first
  | cons d cs ih =>
    by_cases blank : isWhiteSpace d = true
    · rw [List.dropWhile_cons_of_pos blank] at first
      exact ih first
    · rw [List.dropWhile_cons_of_neg blank] at first
      obtain rfl := Option.some.inj first
      exact Bool.not_eq_true _ ▸ blank

theorem last_rdropWhile {cs : List Char} {c : Char}
    (last : (cs.rdropWhile isWhiteSpace).getLast? = some c) : isWhiteSpace c = false := by
  rw [List.rdropWhile, List.getLast?_reverse] at last
  exact head_dropWhile last

theorem head_rdropWhile {cs : List Char} {c : Char}
    (first : (cs.rdropWhile isWhiteSpace).head? = some c) : cs.head? = some c := by
  obtain ⟨behind, whole⟩ := List.rdropWhile_prefix isWhiteSpace cs
  rw [← whole, List.head?_append, first]
  rfl

theorem isTrimmed_trim (s : String) : IsTrimmed (trim s).toList := by
  constructor
  · intro c first
    rw [trim, String.toList_ofList] at first
    exact head_dropWhile (head_rdropWhile first)
  · intro c last
    rw [trim, String.toList_ofList] at last
    exact last_rdropWhile last

/-! ### The outcomes -/

/-- What separates the parts of a text. -/
def isSeparator (c : Char) : Bool :=
  c == '-' || c == ' '

/-- The text is taken for `YYYY-MM-DD`, with or without a time. -/
def IsIso (dt : List Char) : Prop :=
  10 ≤ utf8Length dt ∧ dt[4]? = some '-' ∧ dt[7]? = some '-'

/-- What stands behind the tenth byte, up to the first dot. -/
def timeText (behind : List Char) : List Char :=
  let rest := behind.dropWhile isWhiteSpace
  if '.' ∈ rest then (rest.takeWhile (· != '.')).rdropWhile isWhiteSpace else rest

/-- It is the time if it has eight bytes. -/
def isoTime (behind : List Char) : List Char :=
  if 8 ≤ utf8Length (timeText behind) then timeText behind else "00:00:00".toList

/-- The parts behind the year. -/
def joinedTime (parts : List (List Char)) : List Char :=
  if parts = [] then "00:00:00".toList else [':'].intercalate parts

/-- They are the time if they have eight bytes. -/
def clockTime (parts : List (List Char)) : List Char :=
  if 8 ≤ utf8Length (joinedTime parts) then joinedTime parts
  else joinedTime parts ++ ":00:00".toList

section Outcomes

variable {s : String} {front behind day month year : List Char} {parts : List (List Char)}

theorem normalize_iso (iso : IsIso (trim s).toList)
    (cut : splitBytes (trim s).toList 10 = some (front, behind)) :
    normalizeDatetimeString s = some (String.ofList (front ++ ' ' :: isoTime behind)) := by
  unfold IsIso at iso
  unfold normalizeDatetimeString
  dsimp only
  rw [if_pos iso, cut, Option.map_some]
  congr 1
  obtain ⟨whole, length⟩ := splitBytes_eq_some_iff.mp cut
  rw [whole, utf8Length_append, length]
  by_cases alone : behind = []
  · rw [alone]
    rfl
  · have some_left : utf8Length behind ≠ 0 := by
      have := length_le_utf8Length behind
      have := List.length_pos_of_ne_nil alone
      omega
    rw [if_neg (by omega)]
    change (if 8 ≤ utf8Length (timeText behind) then
        String.ofList (front ++ ' ' :: timeText behind)
      else String.ofList (front ++ " 00:00:00".toList)) = _
    unfold isoTime
    by_cases long : 8 ≤ utf8Length (timeText behind)
    · rw [if_pos long, if_pos long]
    · rw [if_neg long, if_neg long]
      rfl

theorem normalize_cut (iso : IsIso (trim s).toList)
    (inside : splitBytes (trim s).toList 10 = none) : normalizeDatetimeString s = none := by
  unfold IsIso at iso
  unfold normalizeDatetimeString
  dsimp only
  rw [if_pos iso, inside, Option.map_none]

theorem normalize_month (other : ¬ IsIso (trim s).toList)
    (split : (trim s).toList.splitOnP isSeparator = day :: month :: year :: parts)
    {number : String} (known : monthNumber month = some number) :
    normalizeDatetimeString s =
      some (String.ofList
        (year ++ '-' :: number.toList ++ '-' :: day ++ ' ' :: clockTime parts)) := by
  unfold IsIso at other
  unfold normalizeDatetimeString
  dsimp only
  rw [if_neg other]
  have same : (trim s).toList.splitOnP (fun c => c == '-' || c == ' ') =
      day :: month :: year :: parts := split
  rw [same]
  dsimp only
  rw [known]
  rfl

theorem normalize_other (other : ¬ IsIso (trim s).toList)
    (unknown : ∀ day month year parts,
      (trim s).toList.splitOnP isSeparator = day :: month :: year :: parts →
        monthNumber month = none) :
    normalizeDatetimeString s = some (trim s) := by
  unfold IsIso at other
  unfold normalizeDatetimeString
  dsimp only
  rw [if_neg other]
  have same : (trim s).toList.splitOnP (fun c => c == '-' || c == ' ') =
      (trim s).toList.splitOnP isSeparator := rfl
  rw [same]
  cases split : (trim s).toList.splitOnP isSeparator with
  | nil => rfl
  | cons day rest =>
    cases rest with
    | nil => rfl
    | cons month rest =>
      cases rest with
      | nil => rfl
      | cons year parts =>
        dsimp only
        rw [unknown day month year parts split]

end Outcomes

end TollBackend

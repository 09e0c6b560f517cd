import TollBackend.Stage.DatetimeSettles
import Mathlib.Tactic.IntervalCases

/-!
# Datetimes in the supported layouts

`normalize_datetime_string` reads `YYYY-MM-DD` and `DD-MON-YYYY`, alone or with a time of minutes,
of seconds or with a fraction. Times of minutes only are lost or written with a fourth part, and
behind `DD-MON-YYYY` fractions are kept.

## Main definitions

* `WrittenDatetime`: a valid datetime in one of the layouts, with its text and its normal form.
* `WrittenDatetime.KeepsTime`: the layouts that are read as they should be.
* `NormalizesAsClaimed`: right on the layouts, idempotent, and no panic.

## Main results

* `WrittenDatetime.normalize_iff`: which texts become their normal form.
* `normalizesAsClaimed_iff`: when all is as it should be.
-/

namespace TollBackend

/-! ### Digits -/

/-- A character from `0` to `9`. -/
def IsDigit (c : Char) : Prop :=
  48 ≤ c.toNat ∧ c.toNat ≤ 57

theorem isDigit_digitChar {n : Nat} (small : n < 10) : IsDigit (Nat.digitChar n) := by
  interval_cases n <;> exact ⟨by decide, by decide⟩

theorem digitChar_eq_zero {n : Nat} (small : n < 10) (zero : Nat.digitChar n = '0') : n = 0 := by
  revert zero
  interval_cases n <;> decide

section IsDigit

variable {c : Char}

theorem IsDigit.visible (digit : IsDigit c) : isWhiteSpace c = false := by
  obtain ⟨low, high⟩ := digit
  unfold isWhiteSpace
  simp only [Bool.or_eq_false_iff, Bool.and_eq_false_iff, decide_eq_false_iff_not,
    beq_eq_false_iff_ne]
  omega

theorem IsDigit.ne_dot (digit : IsDigit c) : c ≠ '.' := by
  intro same
  rw [same] at digit
  exact absurd digit.1 (by decide)

theorem IsDigit.clean (digit : IsDigit c) : isSeparator c = false := by
  have digits : AreDigits c c := ⟨digit.1, digit.2, digit.1, digit.2⟩
  exact digits.clean c List.mem_cons_self

theorem IsDigit.utf8Size (digit : IsDigit c) : c.utf8Size = 1 := by
  have high := digit.2
  exact utf8Size_ascii (by omega)

end IsDigit

/-- A number below hundred with two digits. -/
def twoDigits (n : Nat) : List Char :=
  [Nat.digitChar (n / 10), Nat.digitChar (n % 10)]

/-- A number below ten thousand with four digits. -/
def fourDigits (n : Nat) : List Char :=
  twoDigits (n / 100) ++ twoDigits (n % 100)

theorem isDigit_twoDigits {n : Nat} (small : n < 100) : ∀ c ∈ twoDigits n, IsDigit c := by
  intro c mem
  rcases List.mem_cons.mp mem with rfl | mem
  · exact isDigit_digitChar (by omega)
  · obtain rfl := List.mem_singleton.mp mem
    exact isDigit_digitChar (by omega)

theorem isDigit_fourDigits {n : Nat} (small : n < 10000) : ∀ c ∈ fourDigits n, IsDigit c := by
  intro c mem
  rcases List.mem_append.mp mem with high | low
  · exact isDigit_twoDigits (by omega) c high
  · exact isDigit_twoDigits (by omega) c low

theorem twoDigits_eq_zero {n : Nat} (small : n < 100) (zero : twoDigits n = ['0', '0']) :
    n = 0 := by
  obtain ⟨tens, rest⟩ := List.cons.inj zero
  obtain ⟨ones, _⟩ := List.cons.inj rest
  have := digitChar_eq_zero (by omega) tens
  have := digitChar_eq_zero (by omega) ones
  omega

/-! ### Layouts -/

/-- The days of a month. -/
def daysInMonth (year month : Nat) : Nat :=
  if month = 2 then
    if year % 4 = 0 ∧ (year % 100 ≠ 0 ∨ year % 400 = 0) then 29 else 28
  else if month = 4 ∨ month = 6 ∨ month = 9 ∨ month = 11 then 30
  else 31

/-- The abbreviation of a month in capitals. -/
def monthName : Nat → String
  | 1 => "JAN" | 2 => "FEB" | 3 => "MAR" | 4 => "APR" | 5 => "MAY" | 6 => "JUN"
  | 7 => "JUL" | 8 => "AUG" | 9 => "SEP" | 10 => "OCT" | 11 => "NOV" | 12 => "DEC"
  | _ => ""

/-- The time behind a date, or none. -/
inductive WrittenTime
  | absent
  | minutes (hour : Fin 24) (minute : Fin 60)
  | seconds (hour : Fin 24) (minute second : Fin 60)
  | fraction (hour : Fin 24) (minute second : Fin 60) (digits : List (Fin 10))
    (some_digit : digits ≠ [])

/-- How the date is written: `YYYY-MM-DD`, or `DD-MON-YYYY` with the name of the month in capital
or small letters. -/
inductive DateLayout (month : Nat)
  | iso
  | named (name : List Char) (spells : name.map Char.toUpper = (monthName month).toList)

/-- A valid date, perhaps with a time, in one of the layouts. -/
structure WrittenDatetime where
  year : Nat
  month : Nat
  day : Nat
  year_lt : year < 10000
  month_mem : 1 ≤ month ∧ month ≤ 12
  day_mem : 1 ≤ day ∧ day ≤ daysInMonth year month
  layout : DateLayout month
  time : WrittenTime

/-- The digits of a fraction. -/
def fractionDigits (digits : List (Fin 10)) : List Char :=
  digits.map fun n : Fin 10 => Nat.digitChar n

/-- `HH:MM:SS`. -/
def clockText (hour minute second : Nat) : List Char :=
  twoDigits hour ++ ':' :: twoDigits minute ++ ':' :: twoDigits second

namespace WrittenTime

/-- The text behind the date. -/
def text : WrittenTime → List Char
  | absent => []
  | minutes hour minute => ' ' :: (twoDigits hour ++ ':' :: twoDigits minute)
  | seconds hour minute second => ' ' :: clockText hour minute second
  | fraction hour minute second digits _ =>
    ' ' :: (clockText hour minute second ++ '.' :: fractionDigits digits)

/-- The time with seconds and without a fraction. -/
def normal : WrittenTime → List Char
  | absent => clockText 0 0 0
  | minutes hour minute => clockText hour minute 0
  | seconds hour minute second => clockText hour minute second
  | fraction hour minute second _ _ => clockText hour minute second

end WrittenTime

namespace WrittenDatetime

/-- The text of a datetime in its layout. -/
def text (w : WrittenDatetime) : List Char :=
  match w.layout with
  | .iso => fourDigits w.year ++ '-' :: twoDigits w.month ++ '-' :: twoDigits w.day ++ w.time.text
  | .named name _ => twoDigits w.day ++ '-' :: name ++ '-' :: fourDigits w.year ++ w.time.text

/-- `YYYY-MM-DD HH:MM:SS`. -/
def normal (w : WrittenDatetime) : List Char :=
  fourDigits w.year ++ '-' :: twoDigits w.month ++ '-' :: twoDigits w.day ++ ' ' :: w.time.normal

/-- The time is absent or has seconds; behind `YYYY-MM-DD` it may have a fraction, or be midnight
in minutes. -/
def KeepsTime (w : WrittenDatetime) : Prop :=
  match w.layout, w.time with
  | .iso, .minutes hour minute => hour = 0 ∧ minute = 0
  | .iso, .absent | .iso, .seconds .. | .iso, .fraction .. => True
  | .named .., .absent | .named .., .seconds .. => True
  | .named .., .minutes .. | .named .., .fraction .. => False

end WrittenDatetime

/-! ### Times -/

/-- A character of a time. -/
def IsClockChar (c : Char) : Prop :=
  IsDigit c ∨ c = ':'

section IsClockChar

variable {c : Char}

theorem IsClockChar.visible (char : IsClockChar c) : isWhiteSpace c = false := by
  rcases char with digit | rfl
  · exact digit.visible
  · decide

theorem IsClockChar.ne_dot (char : IsClockChar c) : c ≠ '.' := by
  rcases char with digit | rfl
  · exact digit.ne_dot
  · decide

theorem IsClockChar.clean (char : IsClockChar c) : isSeparator c = false := by
  rcases char with digit | rfl
  · exact digit.clean
  · decide

theorem IsClockChar.utf8Size (char : IsClockChar c) : c.utf8Size = 1 := by
  rcases char with digit | rfl
  · exact digit.utf8Size
  · decide

end IsClockChar

theorem utf8Length_of_size {cs : List Char} (one : ∀ c ∈ cs, c.utf8Size = 1) :
    utf8Length cs = cs.length := by
  induction cs with
  | nil => rfl
  | cons c cs ih =>
    rw [utf8Length_cons, one c List.mem_cons_self,
      ih fun d mem => one d (List.mem_cons_of_mem c mem), List.length_cons, Nat.add_comm]

section Clock

theorem isClockChar_minutes (hour : Fin 24) (minute : Fin 60) :
    ∀ c ∈ twoDigits hour ++ ':' :: twoDigits minute, IsClockChar c := by
  intro c mem
  rcases List.mem_append.mp mem with inHour | mem
  · exact .inl (isDigit_twoDigits (by omega) c inHour)
  · rcases List.mem_cons.mp mem with colon | inMinute
    · exact .inr colon
    · exact .inl (isDigit_twoDigits (by omega) c inMinute)

theorem isClockChar_clockText (hour : Fin 24) (minute second : Fin 60) :
    ∀ c ∈ clockText hour minute second, IsClockChar c := by
  intro c mem
  rcases List.mem_append.mp mem with early | mem
  · exact isClockChar_minutes hour minute c early
  · rcases List.mem_cons.mp mem with colon | inSecond
    · exact .inr colon
    · exact .inl (isDigit_twoDigits (by omega) c inSecond)

theorem utf8Length_clockText (hour : Fin 24) (minute second : Fin 60) :
    utf8Length (clockText hour minute second) = 8 :=
  utf8Length_of_size fun c mem => (isClockChar_clockText hour minute second c mem).utf8Size

theorem dot_not_mem {cs : List Char} (chars : ∀ c ∈ cs, IsClockChar c) : '.' ∉ cs :=
  fun mem => (chars _ mem).ne_dot rfl

theorem head?_visible {cs : List Char} (chars : ∀ c ∈ cs, IsClockChar c) :
    ∀ c, cs.head? = some c → isWhiteSpace c = false :=
  fun c first => (chars c (List.mem_of_mem_head? first)).visible

theorem timeText_blank {cs : List Char} (chars : ∀ c ∈ cs, IsClockChar c) :
    timeText (' ' :: cs) = cs := by
  unfold timeText
  dsimp only
  rw [List.dropWhile_cons_of_pos (by decide), dropWhile_of_head (head?_visible chars),
    if_neg (dot_not_mem chars)]

/-- A fraction is cut off. -/
theorem timeText_fraction {cs fraction : List Char} (chars : ∀ c ∈ cs, IsClockChar c)
    (some_char : cs ≠ []) : timeText (' ' :: (cs ++ '.' :: fraction)) = cs := by
  have first : ∀ c, (cs ++ '.' :: fraction).head? = some c → isWhiteSpace c = false := by
    intro c start
    cases cs with
    | nil => exact absurd rfl some_char
    | cons d ds =>
      obtain rfl := Option.some.inj start
      exact (chars d List.mem_cons_self).visible
  have front : (cs ++ '.' :: fraction).takeWhile (· != '.') = cs := by
    rw [List.takeWhile_append_of_pos]
    · rw [List.takeWhile_cons_of_neg (by decide), List.append_nil]
    · intro c mem
      exact bne_iff_ne.mpr (chars c mem).ne_dot
  unfold timeText
  dsimp only
  rw [List.dropWhile_cons_of_pos (by decide), dropWhile_of_head first, if_pos (by simp), front]
  apply rdropWhile_of_last
  intro c last
  exact (chars c (List.mem_of_getLast? last)).visible

end Clock

/-- The time that is read behind the tenth byte is the right one unless it has minutes only. -/
theorem isoTime_text_iff (time : WrittenTime) :
    isoTime time.text = time.normal ↔
      ∀ hour minute, time = .minutes hour minute → hour = 0 ∧ minute = 0 := by
  cases time with
  | absent =>
    refine ⟨fun _ _ _ wrong => ?_, fun _ => rfl⟩
    cases wrong
  | minutes hour minute =>
    have chars := isClockChar_minutes hour minute
    have five : utf8Length (twoDigits hour ++ ':' :: twoDigits minute) = 5 :=
      utf8Length_of_size fun c mem => (chars c mem).utf8Size
    have read : isoTime (WrittenTime.minutes hour minute).text = "00:00:00".toList := by
      rw [WrittenTime.text, isoTime, timeText_blank chars, five]
      rfl
    rw [read]
    constructor
    · intro midnight hour' minute' same
      obtain ⟨rfl, rfl⟩ := WrittenTime.minutes.inj same
      have hours : twoDigits hour = ['0', '0'] := (congrArg (List.take 2) midnight).symm
      have minutes : twoDigits minute = ['0', '0'] :=
        (congrArg (fun cs => (cs.drop 3).take 2) midnight).symm
      exact ⟨Fin.ext (twoDigits_eq_zero (by omega) hours),
        Fin.ext (twoDigits_eq_zero (by omega) minutes)⟩
    · intro midnight
      obtain ⟨rfl, rfl⟩ := midnight hour minute rfl
      rfl
  | seconds hour minute second =>
    have chars := isClockChar_clockText hour minute second
    have eight := utf8Length_clockText hour minute second
    constructor
    · intro _ _ _ wrong
      cases wrong
    · intro _
      exact isoTime_blank (by omega) (dot_not_mem chars) (head?_visible chars)
  | fraction hour minute second digits some_digit =>
    have chars := isClockChar_clockText hour minute second
    have eight := utf8Length_clockText hour minute second
    have some_char : clockText hour minute second ≠ [] := by
      intro nothing
      rw [nothing, utf8Length_nil] at eight
      cases eight
    constructor
    · intro _ _ _ wrong
      cases wrong
    · intro _
      rw [WrittenTime.text, isoTime, timeText_fraction chars some_char, if_pos (by omega)]
      rfl

/-- The parts of a time that is split: none, or one. -/
def WrittenTime.parts : WrittenTime → List (List Char)
  | .absent => []
  | .minutes hour minute => [twoDigits hour ++ ':' :: twoDigits minute]
  | .seconds hour minute second => [clockText hour minute second]
  | .fraction hour minute second digits _ =>
    [clockText hour minute second ++ '.' :: fractionDigits digits]

theorem clockTime_single {part : List Char} :
    clockTime [part] = if 8 ≤ utf8Length part then part else part ++ ":00:00".toList := by
  rw [clockTime, joinedTime, if_neg (List.cons_ne_nil _ _), List.intercalate_singleton]

/-- The time that is read behind the year is the right one if there is none, or one of seconds. -/
theorem clockTime_parts_iff (time : WrittenTime) :
    clockTime time.parts = time.normal ↔
      time = .absent ∨ ∃ hour minute second, time = .seconds hour minute second := by
  cases time with
  | absent =>
    constructor
    · intro _
      exact .inl rfl
    · intro _
      rfl
  | minutes hour minute =>
    have chars := isClockChar_minutes hour minute
    have five : utf8Length (twoDigits hour ++ ':' :: twoDigits minute) = 5 :=
      utf8Length_of_size fun c mem => (chars c mem).utf8Size
    constructor
    · intro same
      rw [WrittenTime.parts, clockTime_single, five] at same
      have lengths := congrArg List.length same
      simp [WrittenTime.normal, clockText, twoDigits] at lengths
    · rintro (wrong | ⟨_, _, _, wrong⟩) <;> cases wrong
  | seconds hour minute second =>
    have eight := utf8Length_clockText hour minute second
    constructor
    · intro _
      exact .inr ⟨hour, minute, second, rfl⟩
    · intro _
      rw [WrittenTime.parts, clockTime_single, if_pos (by omega)]
      rfl
  | fraction hour minute second digits some_digit =>
    have eight := utf8Length_clockText hour minute second
    constructor
    · intro same
      rw [WrittenTime.parts, clockTime_single, if_pos (by rw [utf8Length_append]; omega)] at same
      have lengths := congrArg List.length same
      simp [WrittenTime.normal, clockText, twoDigits] at lengths
    · rintro (wrong | ⟨_, _, _, wrong⟩) <;> cases wrong

/-! ### Datetimes -/

namespace WrittenDatetime

variable (w : WrittenDatetime)

theorem day_lt : w.day < 100 := by
  obtain ⟨_, last⟩ := w.day_mem
  unfold daysInMonth at last
  split at last
  · split at last <;> omega
  · split at last <;> omega

theorem mem_of_getLast?_append {xs ys : List Char} {c : Char} (some_char : ys ≠ [])
    (last : (xs ++ ys).getLast? = some c) : c ∈ ys := by
  obtain ⟨d, ends⟩ := Option.isSome_iff_exists.mp (List.getLast?_isSome.mpr some_char)
  rw [List.getLast?_append, ends] at last
  obtain rfl := Option.some.inj last
  exact List.mem_of_getLast? ends

/-- A text that ends in a digit and perhaps a time. -/
theorem getLast?_visible {date : List Char} {n : Nat} (small : n < 100) (time : WrittenTime) :
    ∀ c, (date ++ twoDigits n ++ time.text).getLast? = some c → isWhiteSpace c = false := by
  intro c last
  cases time with
  | absent =>
    rw [WrittenTime.text, List.append_nil] at last
    exact (isDigit_twoDigits small c (mem_of_getLast?_append (by simp [twoDigits]) last)).visible
  | minutes hour minute =>
    have ends : date ++ twoDigits n ++ (WrittenTime.minutes hour minute).text =
        (date ++ twoDigits n ++ ' ' :: (twoDigits hour ++ [':'])) ++ twoDigits minute := by
      simp [WrittenTime.text]
    rw [ends] at last
    exact (isDigit_twoDigits (n := minute) (by omega) c
      (mem_of_getLast?_append (by simp [twoDigits]) last)).visible
  | seconds hour minute second =>
    have ends : date ++ twoDigits n ++ (WrittenTime.seconds hour minute second).text =
        (date ++ twoDigits n ++ ' ' :: (twoDigits hour ++ ':' :: twoDigits minute ++ [':'])) ++
          twoDigits second := by
      simp [WrittenTime.text, clockText]
    rw [ends] at last
    exact (isDigit_twoDigits (n := second) (by omega) c
      (mem_of_getLast?_append (by simp [twoDigits]) last)).visible
  | fraction hour minute second digits some_digit =>
    have ends : date ++ twoDigits n ++ (WrittenTime.fraction hour minute second digits
          some_digit).text =
        (date ++ twoDigits n ++ ' ' :: (clockText hour minute second ++ ['.'])) ++
          fractionDigits digits := by
      simp [WrittenTime.text]
    rw [ends] at last
    have some_char : fractionDigits digits ≠ [] := mt List.map_eq_nil_iff.mp some_digit
    obtain ⟨k, _, rfl⟩ := List.mem_map.mp (mem_of_getLast?_append some_char last)
    exact (isDigit_digitChar k.isLt).visible

theorem head?_fourDigits {n : Nat} (small : n < 10000) {rest : List Char} :
    ∀ c, (fourDigits n ++ rest).head? = some c → isWhiteSpace c = false := by
  intro c first
  obtain rfl := Option.some.inj first
  exact (isDigit_fourDigits small _ List.mem_cons_self).visible

/-- A datetime that starts with the year. -/
theorem normalize_iso_text (iso : w.layout = .iso) :
    normalizeDatetimeString (String.ofList w.text) =
      some (String.ofList (fourDigits w.year ++ '-' :: twoDigits w.month ++
        '-' :: twoDigits w.day ++ ' ' :: isoTime w.time.text)) := by
  have days := w.day_lt
  have months := w.month_mem
  have date : w.text =
      fourDigits w.year ++ '-' :: twoDigits w.month ++ '-' :: twoDigits w.day ++ w.time.text := by
    rw [text, iso]
  have trimmed : IsTrimmed w.text := by
    rw [date]
    constructor
    · intro c first
      rw [List.append_assoc, List.append_assoc] at first
      exact head?_fourDigits w.year_lt c first
    · have ends : fourDigits w.year ++ '-' :: twoDigits w.month ++ '-' :: twoDigits w.day ++
          w.time.text = (fourDigits w.year ++ '-' :: twoDigits w.month ++ ['-']) ++
            twoDigits w.day ++ w.time.text := by simp
      rw [ends]
      exact getLast?_visible days w.time
  have same : (trim (String.ofList w.text)).toList = w.text := by
    rw [trim_ofList trimmed, String.toList_ofList]
  have ten : utf8Length (fourDigits w.year ++ '-' :: twoDigits w.month ++
      '-' :: twoDigits w.day) = 10 := by
    apply utf8Length_of_size
    intro c mem
    simp only [List.mem_append, List.mem_cons] at mem
    rcases mem with (inYear | rfl | inMonth) | rfl | inDay
    · exact (isDigit_fourDigits w.year_lt c inYear).utf8Size
    · decide
    · exact (isDigit_twoDigits (by omega) c inMonth).utf8Size
    · decide
    · exact (isDigit_twoDigits days c inDay).utf8Size
  have cut : splitBytes (trim (String.ofList w.text)).toList 10 =
      some (fourDigits w.year ++ '-' :: twoDigits w.month ++ '-' :: twoDigits w.day,
        w.time.text) := by
    rw [same, date]
    exact splitBytes_eq_some_iff.mpr ⟨rfl, ten⟩
  have isIso : IsIso (trim (String.ofList w.text)).toList := by
    rw [same, date]
    refine ⟨?_, rfl, rfl⟩
    rw [utf8Length_append, ten]
    omega
  exact normalize_iso isIso cut

theorem upperChar_of_capital {c : Char} (capital : c.toUpper.toNat ≤ 90) :
    upperChar c = c.toUpper := by
  unfold upperChar
  by_cases longS : c = 'ſ'
  · rw [longS] at capital
    exact absurd capital (by decide)
  by_cases dotlessI : c = 'ı'
  · rw [dotlessI] at capital
    exact absurd capital (by decide)
  rw [if_neg longS, if_neg dotlessI]

/-- The number of the month that a name spells. -/
theorem monthNumber_of_spells {month : Nat} {name : List Char} (known : 1 ≤ month ∧ month ≤ 12)
    (spells : name.map Char.toUpper = (monthName month).toList) :
    ∃ number, monthNumber name = some number ∧ number.toList = twoDigits month := by
  obtain ⟨first, last⟩ := known
  have capitals : ∀ x ∈ (monthName month).toList, x.toNat ≤ 90 := by
    interval_cases month <;> simp [monthName]
  have upper : name.map upperChar = name.map Char.toUpper := by
    apply List.map_congr_left
    intro c mem
    apply upperChar_of_capital
    apply capitals
    rw [← spells]
    exact List.mem_map_of_mem mem
  unfold monthNumber
  rw [upper, spells, String.ofList_toList]
  interval_cases month <;> exact ⟨_, rfl, rfl⟩

theorem splitOnP_year {year : Nat} (small : year < 10000) (time : WrittenTime) :
    (fourDigits year ++ time.text).splitOnP isSeparator = fourDigits year :: time.parts := by
  have years : ∀ c ∈ fourDigits year, isSeparator c = false := fun c mem =>
    (isDigit_fourDigits small c mem).clean
  have one {rest : List Char} (clean : ∀ c ∈ rest, isSeparator c = false) :
      (fourDigits year ++ ' ' :: rest).splitOnP isSeparator = [fourDigits year, rest] := by
    rw [List.splitOnP_append_cons_of_forall_mem years ' ' (by decide),
      List.splitOnP_eq_singleton clean]
  cases time with
  | absent =>
    rw [WrittenTime.text, List.append_nil]
    exact List.splitOnP_eq_singleton years
  | minutes hour minute =>
    apply one
    intro c mem
    exact (isClockChar_minutes hour minute c mem).clean
  | seconds hour minute second =>
    apply one
    intro c mem
    exact (isClockChar_clockText hour minute second c mem).clean
  | fraction hour minute second digits some_digit =>
    apply one
    intro c mem
    rcases List.mem_append.mp mem with early | later
    · exact (isClockChar_clockText hour minute second c early).clean
    · rcases List.mem_cons.mp later with rfl | inFraction
      · decide
      · obtain ⟨k, _, rfl⟩ := List.mem_map.mp inFraction
        exact (isDigit_digitChar k.isLt).clean

/-- A datetime that starts with the day. -/
theorem normalize_named_text {name : List Char}
    {spells : name.map Char.toUpper = (monthName w.month).toList}
    (named : w.layout = .named name spells) :
    normalizeDatetimeString (String.ofList w.text) =
      some (String.ofList (fourDigits w.year ++ '-' :: twoDigits w.month ++
        '-' :: twoDigits w.day ++ ' ' :: clockTime w.time.parts)) := by
  have days := w.day_lt
  obtain ⟨number, known, digits⟩ := monthNumber_of_spells w.month_mem spells
  obtain ⟨⟨a, b, c, letters, codes⟩, _⟩ := monthNumber_eq_some known
  have date : w.text =
      twoDigits w.day ++ '-' :: name ++ '-' :: fourDigits w.year ++ w.time.text := by
    rw [text, named]
  have trimmed : IsTrimmed w.text := by
    rw [date]
    constructor
    · intro x first
      obtain rfl := Option.some.inj first
      exact (isDigit_twoDigits days _ List.mem_cons_self).visible
    · have ends : twoDigits w.day ++ '-' :: name ++ '-' :: fourDigits w.year ++ w.time.text =
          (twoDigits w.day ++ '-' :: name ++ '-' :: twoDigits (w.year / 100)) ++
            twoDigits (w.year % 100) ++ w.time.text := by simp [fourDigits]
      rw [ends]
      exact getLast?_visible (Nat.mod_lt _ (by decide)) w.time
  have same : (trim (String.ofList w.text)).toList = w.text := by
    rw [trim_ofList trimmed, String.toList_ofList]
  have other : ¬ IsIso (trim (String.ofList w.text)).toList := by
    rw [same, date, letters]
    rintro ⟨_, fourth, _⟩
    have code := (codes b (by simp [letters])).2
    obtain rfl : b = '-' := Option.some.inj fourth
    exact absurd code (by decide)
  have split : (trim (String.ofList w.text)).toList.splitOnP isSeparator =
      twoDigits w.day :: name :: fourDigits w.year :: w.time.parts := by
    have shape : w.text =
        twoDigits w.day ++ '-' :: (name ++ '-' :: (fourDigits w.year ++ w.time.text)) := by
      rw [date]
      simp
    rw [same, shape,
      List.splitOnP_append_cons_of_forall_mem
        (fun x mem => (isDigit_twoDigits days x mem).clean) '-' (by decide),
      List.splitOnP_append_cons_of_forall_mem
        (fun x mem => isSeparator_of_letter (codes x mem).2) '-' (by decide),
      splitOnP_year w.year_lt]
  rw [normalize_month other split known, digits]

theorem written_iff {date time time' : List Char} :
    some (String.ofList (date ++ ' ' :: time)) = some (String.ofList (date ++ ' ' :: time')) ↔
      time = time' := by
  constructor
  · intro same
    have lists := congrArg String.toList (Option.some.inj same)
    rw [String.toList_ofList, String.toList_ofList] at lists
    exact (List.cons.inj (List.append_cancel_left lists)).2
  · intro same
    rw [same]

/-- A text becomes its normal form exactly if its time is kept. -/
theorem normalize_iff :
    normalizeDatetimeString (String.ofList w.text) = some (String.ofList w.normal) ↔
      w.KeepsTime := by
  cases layout : w.layout with
  | iso =>
    rw [normalize_iso_text w layout, normal, written_iff, isoTime_text_iff, KeepsTime, layout]
    cases w.time with
    | minutes hour minute =>
      constructor
      · intro midnight
        exact midnight hour minute rfl
      · intro midnight hour' minute' same
        obtain ⟨rfl, rfl⟩ := WrittenTime.minutes.inj same
        exact midnight
    | absent => simp
    | seconds hour minute second => simp
    | fraction hour minute second digits some_digit => simp
  | named name spells =>
    rw [normalize_named_text w layout, normal, written_iff, clockTime_parts_iff, KeepsTime, layout]
    cases w.time with
    | absent => simp
    | minutes hour minute => simp
    | seconds hour minute second => simp
    | fraction hour minute second digits some_digit => simp

end WrittenDatetime

/-! ### The whole -/

/-- Right on the supported layouts, idempotent on its results, and without a panic. -/
structure NormalizesAsClaimed (s : String) : Prop where
  right : ∀ w : WrittenDatetime, s = String.ofList w.text →
    normalizeDatetimeString s = some (String.ofList w.normal)
  idempotent : Idempotent s
  returns : normalizeDatetimeString s ≠ none

/-- The only panic is a tenth byte inside a character. -/
theorem normalize_ne_none_iff (s : String) :
    normalizeDatetimeString s ≠ none ↔
      (IsIso (trim s).toList → splitBytes (trim s).toList 10 ≠ none) := by
  by_cases iso : IsIso (trim s).toList
  · cases cut : splitBytes (trim s).toList 10 with
    | none =>
      rw [normalize_cut iso cut]
      simp [iso]
    | some pair =>
      rw [normalize_iso iso cut]
      simp
  · have written : ∃ r, normalizeDatetimeString s = some r := by
      by_cases month : ∃ day month year parts, HasMonth (trim s).toList day month year parts
      · obtain ⟨day, month, year, parts, found⟩ := month
        obtain ⟨d, e, _, result⟩ := found.normalize iso
        exact ⟨_, result⟩
      · exact ⟨_, normalize_of_no_month iso month⟩
    obtain ⟨r, result⟩ := written
    rw [result]
    simp [iso]

theorem normalizesAsClaimed_iff (s : String) :
    NormalizesAsClaimed s ↔
      (∀ w : WrittenDatetime, s = String.ofList w.text → w.KeepsTime) ∧
        Settles (trim s).toList ∧
        (IsIso (trim s).toList → splitBytes (trim s).toList 10 ≠ none) := by
  rw [← idempotent_iff, ← normalize_ne_none_iff]
  constructor
  · intro claimed
    refine ⟨?_, claimed.idempotent, claimed.returns⟩
    rintro w rfl
    exact w.normalize_iff.mp (claimed.right w rfl)
  · rintro ⟨keeps, idempotent, returns⟩
    refine ⟨?_, idempotent, returns⟩
    rintro w rfl
    exact w.normalize_iff.mpr (keeps w rfl)

/-- Minutes are dropped behind one layout and become a time of four parts behind the other; a
multi-byte character at the tenth byte is a panic. -/
theorem half_past_ten_lost :
    normalizeDatetimeString "2024-01-15 10:30" = some "2024-01-15 00:00:00" ∧
      normalizeDatetimeString "15-JAN-2024 10:30" = some "2024-01-15 10:30:00:00" ∧
      normalizeDatetimeString "2024-01-1é" = none ∧
      ¬ NormalizesAsClaimed "2024-01-15 10:30" := by
  have dropped : normalizeDatetimeString "2024-01-15 10:30" = some "2024-01-15 00:00:00" := by
    decide +kernel
  refine ⟨dropped, by decide +kernel, by decide +kernel, fun claimed => ?_⟩
  have written := claimed.right
    { year := 2024, month := 1, day := 15, year_lt := by decide, month_mem := by decide,
      day_mem := by decide, layout := .iso, time := .minutes 10 30 } (by decide +kernel)
  rw [dropped] at written
  exact absurd written (by decide +kernel)

end TollBackend

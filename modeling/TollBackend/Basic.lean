import Mathlib

/-!
# Machine integers, etags, and database times

The small vocabulary every other module speaks: the two's complement casts of the
code, the trimming of etags, the `YYYY-MM-DD HH24:MI:SS` columns, and the ticket type
codes.

## Main definitions

* `toI32`, `toI64`: the casts `as i32` and wrapping `i64` arithmetic.
* `trim`, `normalizeEtag`: `str::trim` and `utils::normalize_etag`.
* `DbDatetime`: a datetime column, with a resolution of one second.
* `epochToDatetimeUtc`: the guess between seconds and milliseconds.
-/

namespace TollBackend

/-! ### Machine integers -/

/-- The cast `as i32`: the low 32 bits, read as a signed number. -/
def toI32 (n : Int) : Int :=
  n.bmod (2 ^ 32)

/-- Wrapping `i64` arithmetic: the low 64 bits, read as a signed number. -/
def toI64 (n : Int) : Int :=
  n.bmod (2 ^ 64)

@[simp] theorem toI32_zero : toI32 0 = 0 := rfl

/-- A value that already fits in 32 bits is unchanged by the cast. -/
theorem toI32_of_mem {n : Int} (low : -2 ^ 31 ≤ n) (high : n < 2 ^ 31) : toI32 n = n := by
  unfold toI32
  rw [Int.bmod_eq_of_le_mul_two] <;> omega

/-! ### Strings -/

/-- The Unicode `White_Space` property, which `str::trim` strips. -/
def isWhiteSpace (c : Char) : Bool :=
  let n := c.toNat
  (0x9 ≤ n && n ≤ 0xD) || n == 0x20 || n == 0x85 || n == 0xA0 || n == 0x1680 ||
    (0x2000 ≤ n && n ≤ 0x200A) || n == 0x2028 || n == 0x2029 || n == 0x202F || n == 0x205F ||
    n == 0x3000

/-- `str::trim`. -/
@[irreducible] def trim (s : String) : String :=
  String.ofList ((s.toList.dropWhile isWhiteSpace).rdropWhile isWhiteSpace)

theorem trim_trim (s : String) : trim (trim s) = trim s := by
  unfold trim
  rw [String.toList_ofList]
  -- what is left starts with the first character that is not white space
  have start : ((s.toList.dropWhile isWhiteSpace).rdropWhile isWhiteSpace).dropWhile isWhiteSpace =
      (s.toList.dropWhile isWhiteSpace).rdropWhile isWhiteSpace := by
    refine List.dropWhile_eq_self_iff.mpr fun nonempty => ?_
    have initial := List.rdropWhile_prefix isWhiteSpace (s.toList.dropWhile isWhiteSpace)
    rw [initial.getElem nonempty]
    exact List.dropWhile_get_zero_not _ _ _
  rw [start, List.rdropWhile_idempotent]

/-- `trim_end_matches` of NUL. -/
def trimEndNul (s : String) : String :=
  String.ofList (s.toList.rdropWhile (· == '\x00'))

/-- `s.trim().is_empty()`. -/
@[irreducible] def isBlank (s : String) : Bool :=
  s.toList.all isWhiteSpace

/-- The etag without its trailing NUL padding and the surrounding white space. -/
@[irreducible] def normalizeEtag (s : String) : String :=
  trim (String.ofList (s.toList.rdropWhile (· == '\x00')))

theorem trim_normalizeEtag (s : String) : trim (normalizeEtag s) = normalizeEtag s := by
  rw [normalizeEtag, trim_trim]

/-- A normalized etag without NUL is the same when it is normalized again. -/
theorem normalizeEtag_normalizeEtag {s : String} (plain : '\x00' ∉ (normalizeEtag s).toList) :
    normalizeEtag (normalizeEtag s) = normalizeEtag s := by
  have unpadded : (normalizeEtag s).toList.rdropWhile (· == '\x00') = (normalizeEtag s).toList := by
    refine List.rdropWhile_eq_self_iff.mpr fun nonempty nul => plain ?_
    rw [← beq_iff_eq.mp nul]
    exact List.getLast_mem nonempty
  conv_lhs => rw [normalizeEtag]
  rw [unpadded, String.ofList_toList, trim_normalizeEtag]

/-- The value of a nonempty run of decimal digits. -/
def parseDigits : List Char → Int → Option Int
  | [], acc => some acc
  | c :: cs, acc =>
      if '0' ≤ c ∧ c ≤ '9' then parseDigits cs (acc * 10 + (c.toNat - '0'.toNat : Nat)) else none

/-- `str::parse` at a signed integer type with `bits` bits. -/
@[irreducible] def parseInt (bits : Nat) (s : String) : Option Int :=
  let value := match s.toList with
    | [] => none
    | '-' :: cs => if cs.isEmpty then none else (parseDigits cs 0).map (-·)
    | '+' :: cs => if cs.isEmpty then none else parseDigits cs 0
    | cs => parseDigits cs 0
  value.filter fun n => decide (-2 ^ (bits - 1) ≤ n ∧ n < 2 ^ (bits - 1))

/-- Whether `pat` occurs in `s` as a contiguous piece, as `str::contains` asks. -/
@[irreducible] def containsStr (s pat : String) : Bool :=
  s.toList.tails.any fun rest => pat.toList.isPrefixOf rest

/-! ### Datetime columns -/

/-- A nonnull datetime column, read as `TO_CHAR(.., 'YYYY-MM-DD HH24:MI:SS')`: a whole
number of seconds since the epoch. -/
structure DbDatetime where
  epochSeconds : Int
deriving DecidableEq, Repr

/-- `dt.and_utc().timestamp_millis()`. -/
def DbDatetime.timestampMillis (d : DbDatetime) : Int :=
  d.epochSeconds * 1000

/-- A reading of the system clock in milliseconds since the epoch. The process runs after
the first second of 1970. -/
structure Clock where
  ms : Int
  after_epoch : 1000 ≤ ms

instance : Inhabited Clock :=
  ⟨⟨1000, by decide⟩⟩

/-- `now_utc_db_string`: the clock as a datetime column. -/
def Clock.dbDatetime (now : Clock) : DbDatetime :=
  ⟨now.ms / 1000⟩

theorem Clock.ms_ne_zero (now : Clock) : now.ms ≠ 0 := by
  have := now.after_epoch
  omega

/-- The clock never formats to the epoch itself, so a column written from it does not read
back as zero milliseconds. -/
theorem Clock.dbDatetime_timestampMillis_ne_zero (now : Clock) :
    now.dbDatetime.timestampMillis ≠ 0 := by
  have := now.after_epoch
  simp only [Clock.dbDatetime, DbDatetime.timestampMillis]
  omega

/-- `constants::epoch::MS_THRESHOLD`. -/
def epochMsThreshold : Int := 1000000000000

/-- The last second `chrono` can represent, the end of the year 262142. -/
def chronoMaxSeconds : Int := 8210266876799

/-- An epoch from the threshold on counts milliseconds, below it seconds; a nonpositive or
unrepresentable one is no datetime. -/
def epochToDatetimeUtc (epoch : Int) : Option DbDatetime :=
  if epoch ≤ 0 then none
  else if epochMsThreshold ≤ epoch then
    if epoch / 1000 ≤ chronoMaxSeconds then some ⟨epoch / 1000⟩ else none
  else some ⟨epoch⟩

/-- A nullable datetime column in milliseconds, `0` for null. -/
def millisOrZero (column : Option DbDatetime) : Int :=
  (column.map DbDatetime.timestampMillis).getD 0

@[simp] theorem millisOrZero_none : millisOrZero none = 0 := rfl

@[simp] theorem millisOrZero_some (d : DbDatetime) :
    millisOrZero (some d) = d.timestampMillis := rfl

/-! ### Ticket types -/

/-- The letters `L`, `T`, `Q`, `N` as `1` to `4`, anything else `0`. -/
def ticketTypeStrToI32 (s : String) : Int :=
  match trim s with
  | "L" => 1
  | "T" => 2
  | "Q" => 3
  | "N" => 4
  | _ => 0

/-- `value.unwrap_or(0) as i32` for a nullable number column. -/
def idOrZero (column : Option Int) : Int :=
  toI32 (column.getD 0)

@[simp] theorem idOrZero_none : idOrZero none = 0 := rfl

@[simp] theorem idOrZero_some (n : Int) : idOrZero (some n) = toI32 n := rfl

end TollBackend

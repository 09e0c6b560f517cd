import Mathlib.Data.List.Basic
import Mathlib.Algebra.Order.Ring.Int

/-!
# Little-endian integers

Bytes in order of weight, for naturals and for integers in two's complement.

## Main definitions

* `leNat`, `leBytes`: the value of a list of bytes, and the bytes of a value in a given width.
* `SInt`: a signed integer of a given width, with `SInt.bytes` and `SInt.read`.
* `slice`: a part of a message.

## Main results

* `leNat_leBytes`, `SInt.read_bytes`: what was written is read back.
* `slice_append_left`, `slice_append_right`: where a part of a concatenation lies.
-/

namespace Wire

/-- The value of bytes, the first of which counts least. -/
def leNat : List UInt8 → Nat
  | [] => 0
  | b :: bs => b.toNat + 256 * leNat bs

/-- The lowest `w` bytes of a value. -/
def leBytes : Nat → Nat → List UInt8
  | 0, _ => []
  | w + 1, n => UInt8.ofNat n :: leBytes w (n / 256)

@[simp] theorem length_leBytes (w n : Nat) : (leBytes w n).length = w := by
  induction w generalizing n with
  | zero => rfl
  | succ w ih => rw [leBytes, List.length_cons, ih]

theorem leNat_lt (bs : List UInt8) : leNat bs < 256 ^ bs.length := by
  induction bs with
  | nil => decide
  | cons b bs ih =>
    have byte : b.toNat < 256 := b.toNat_lt
    rw [leNat, List.length_cons, Nat.pow_succ]
    omega

/-- Bytes of one length are known by their value. -/
theorem leNat_inj {bs cs : List UInt8} (same : bs.length = cs.length)
    (eq : leNat bs = leNat cs) : bs = cs := by
  induction bs generalizing cs with
  | nil =>
    cases cs with
    | nil => rfl
    | cons c cs => cases same
  | cons b bs ih =>
    cases cs with
    | nil => cases same
    | cons c cs =>
      have low : b.toNat < 256 := b.toNat_lt
      have low' : c.toNat < 256 := c.toNat_lt
      rw [leNat, leNat] at eq
      have head : b = c := UInt8.toNat_inj.mp (by omega)
      have tail : bs = cs := ih (Nat.succ.inj same) (by omega)
      rw [head, tail]

theorem leNat_leBytes (w n : Nat) : leNat (leBytes w n) = n % 256 ^ w := by
  induction w generalizing n with
  | zero => rw [Nat.pow_zero, Nat.mod_one]; rfl
  | succ w ih =>
    have byte : (UInt8.ofNat n).toNat = n % 256 := UInt8.toNat_ofNat'
    rw [leBytes, leNat, ih, byte, Nat.pow_succ, Nat.mul_comm (256 ^ w), Nat.mod_mul]

theorem leNat_leBytes_of_lt {w n : Nat} (fits : n < 256 ^ w) : leNat (leBytes w n) = n := by
  rw [leNat_leBytes, Nat.mod_eq_of_lt fits]

/-! ### Signed integers -/

/-- `w` bytes have room for the integer. -/
def FitsInt (w : Nat) (i : Int) : Prop :=
  -(256 ^ w : Nat) ≤ 2 * i ∧ 2 * i < (256 ^ w : Nat)

/-- A signed integer of `w` bytes. -/
structure SInt (w : Nat) where
  val : Int
  fits : FitsInt w val

namespace SInt

variable {w : Nat}

@[ext] theorem ext {i j : SInt w} (eq : i.val = j.val) : i = j := by
  cases i
  cases j
  cases eq
  rfl

instance : DecidableEq (SInt w) := fun i j =>
  decidable_of_iff (i.val = j.val) ⟨ext, congrArg val⟩

/-- The integer in two's complement. -/
def bytes (i : SInt w) : List UInt8 :=
  leBytes w (i.val % (256 ^ w : Nat)).toNat

@[simp] theorem length_bytes (i : SInt w) : i.bytes.length = w :=
  length_leBytes w _

theorem fitsInt_bmod (n : Int) : FitsInt w (Int.bmod n (256 ^ w)) := by
  have positive : 0 < 256 ^ w := Nat.pow_pos (by decide)
  have low := Int.le_bmod (x := n) positive
  have high := Int.bmod_lt (x := n) positive
  unfold FitsInt
  omega

/-- The integer that bytes in two's complement mean. -/
def read (w : Nat) (bs : List UInt8) : SInt w :=
  ⟨Int.bmod (leNat bs) (256 ^ w), fitsInt_bmod _⟩

/-- An integer, wrapped to `w` bytes. -/
def wrap (w : Nat) (i : Int) : SInt w :=
  ⟨Int.bmod i (256 ^ w), fitsInt_bmod _⟩

/-- What was written is read back. -/
@[simp] theorem read_bytes (i : SInt w) : read w i.bytes = i := by
  have positive : 0 < 256 ^ w := Nat.pow_pos (by decide)
  have residue : ((i.val % (256 ^ w : Nat)).toNat : Int) = i.val % (256 ^ w : Nat) :=
    Int.toNat_of_nonneg (Int.emod_nonneg _ (by omega))
  have small : (i.val % (256 ^ w : Nat)).toNat < 256 ^ w := by
    have := Int.emod_lt_of_pos i.val (b := (256 ^ w : Nat)) (by omega)
    omega
  apply ext
  change Int.bmod (leNat (leBytes w (i.val % (256 ^ w : Nat)).toNat)) (256 ^ w) = i.val
  rw [leNat_leBytes_of_lt small, residue, Int.emod_bmod]
  obtain ⟨low, high⟩ := i.fits
  apply Int.bmod_eq_of_le_mul_two
  · omega
  · omega

/-- Bytes are known by the integer that they mean. -/
theorem read_inj {bs cs : List UInt8} (left : bs.length = w) (right : cs.length = w) :
    read w bs = read w cs ↔ bs = cs := by
  constructor
  · intro eq
    have low := leNat_lt bs
    have low' := leNat_lt cs
    rw [left] at low
    rw [right] at low'
    have wrapped : Int.bmod (leNat bs) (256 ^ w) = Int.bmod (leNat cs) (256 ^ w) :=
      congrArg val eq
    have mod : (leNat bs : Int) % (256 ^ w : Nat) = (leNat cs : Int) % (256 ^ w : Nat) := by
      rw [← Int.bmod_emod, wrapped, Int.bmod_emod]
    rw [Int.emod_eq_of_lt (by omega) (by omega), Int.emod_eq_of_lt (by omega) (by omega)] at mod
    exact leNat_inj (left.trans right.symm) (by omega)
  · intro eq
    rw [eq]

/-- What was read is written back. -/
theorem bytes_read {bs : List UInt8} (full : bs.length = w) : (read w bs).bytes = bs :=
  (read_inj (length_bytes _) full).mp (read_bytes _)

theorem bytes_inj {i j : SInt w} : i.bytes = j.bytes ↔ i = j := by
  constructor
  · intro eq
    rw [← read_bytes i, eq, read_bytes]
  · intro eq
    rw [eq]

end SInt

/-! ### Parts of a message -/

section Slice

variable {α : Type} {x y : List α} {a b : Nat}

/-- The elements from position `a` up to position `b`. -/
def slice (bs : List α) (a b : Nat) : List α :=
  (bs.take b).drop a

theorem slice_append_left (inside : b ≤ x.length) : slice (x ++ y) a b = slice x a b := by
  rw [slice, slice, List.take_append_of_le_length inside]

theorem slice_append_right (behind : x.length ≤ a) :
    slice (x ++ y) a b = slice y (a - x.length) (b - x.length) := by
  rw [slice, slice, List.take_append, List.drop_append, List.drop_eq_nil_of_le, List.nil_append,
    List.length_take]
  · by_cases long : x.length ≤ b
    · rw [Nat.min_eq_right long]
    · have none_left : b - x.length = 0 := by omega
      rw [none_left, List.take_zero, List.drop_nil, List.drop_nil]
  · rw [List.length_take]
    omega

theorem slice_whole (whole : x.length = b) : slice x 0 b = x := by
  rw [slice, List.drop_zero, ← whole, List.take_length]

/-- Two parts side by side are one part. -/
theorem slice_append_slice {c : Nat} (ordered : a ≤ b) (ordered' : b ≤ c) :
    slice x a b ++ slice x b c = slice x a c := by
  have width : c - a = (b - a) + (c - b) := by omega
  have middle : x.drop b = (x.drop a).drop (b - a) := by
    rw [List.drop_drop, Nat.add_sub_cancel' ordered]
  rw [slice, slice, slice, List.drop_take, List.drop_take, List.drop_take, width, List.take_add,
    middle]

theorem length_slice (ordered : a ≤ b) (inside : b ≤ x.length) : (slice x a b).length = b - a := by
  rw [slice, List.length_drop, List.length_take]
  omega

end Slice

end Wire

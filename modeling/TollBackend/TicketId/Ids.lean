import TollBackend.Basic
import Mathlib.Data.Nat.Log
import Mathlib.Tactic.NormNum

/-!
# Ticket ids

An id comes from a block of the database sequence, as a prefix and a suffix, or is made from a
hash without the database. To both a last digit `1` is appended, unless it does not fit.

## Main definitions

* `TicketIdConfig`: the number of suffixes, and from which one on the next prefix is fetched.
* `TicketIdConfig.blockId`: the id of a prefix and a suffix.
* `generateTicketIdLocal`: the id made from a hash.
* `appendLastDigit1`: the digit that is appended.

## Main results

* `TicketIdConfig.appendLastDigit1_blockId`: the ids of a block, if they fit.
* `TicketIdConfig.appendLastDigit1_local_ne`: no local id is the id of a block.
-/

namespace TollBackend

/-- `TICKET_ID_SUFFIX_MAX` and `TICKET_ID_PREFETCH_THRESHOLD`, as they are clamped. -/
structure TicketIdConfig where
  suffixMax : Int
  prefetchThreshold : Int
  suffixMax_mem : 1 ≤ suffixMax ∧ suffixMax ≤ 9
  prefetchThreshold_mem : 1 ≤ prefetchThreshold ∧ prefetchThreshold ≤ suffixMax

namespace TicketIdConfig

/-- The configuration from the two variables, if they are numbers. -/
def fromEnv (suffixMax prefetchThreshold : Option Int) : TicketIdConfig :=
  let limit := (suffixMax.map fun v => max 1 (min v 9)).getD 9
  have bounds : 1 ≤ limit ∧ limit ≤ 9 := by
    cases suffixMax with
    | none => decide
    | some v => exact ⟨le_max_left _ _, max_le (by decide) (min_le_right _ _)⟩
  { suffixMax := limit
    prefetchThreshold :=
      (prefetchThreshold.map fun v => max 1 (min v limit)).getD (max (limit - 2) 1)
    suffixMax_mem := bounds
    prefetchThreshold_mem := by
      cases prefetchThreshold with
      | none => exact ⟨le_max_right _ _, max_le (by omega) bounds.1⟩
      | some v => exact ⟨le_max_left _ _, max_le bounds.1 (min_le_right _ _)⟩ }

variable (config : TicketIdConfig)

/-- `suffix_multiplier`: a power of ten with as many zeros as `suffix_max` has digits. -/
def suffixMultiplier : Int :=
  10 ^ (Nat.log 10 config.suffixMax.toNat + 1)

theorem suffixMultiplier_eq : config.suffixMultiplier = 10 := by
  have small := config.suffixMax_mem
  have digits : Nat.log 10 config.suffixMax.toNat = 0 :=
    Nat.log_of_lt (by omega)
  rw [suffixMultiplier, digits]
  rfl

/-- The id of a prefix and a suffix, before the last digit. -/
def blockId (prefix' suffix : Int) : Int :=
  toI64 (prefix' * config.suffixMultiplier + suffix)

end TicketIdConfig

/-- `append_last_digit_1`: an id that would leave `i64` is left as it is. -/
def appendLastDigit1 (id : Int) : Int :=
  if -2 ^ 63 ≤ id * 10 ∧ id * 10 < 2 ^ 63 then
    if id * 10 + 1 < 2 ^ 63 then id * 10 + 1 else id
  else id

/-- `generate_ticket_id_local`, from the hash of a UUID: the top bit is set, the last decimal
digit becomes `2`, and the 64 bits are read as a signed number. -/
def generateTicketIdLocal (hash : UInt64) : Int :=
  let withMsb : Nat := hash.toNat ||| 2 ^ 63
  let lastDigitFixed : Nat := withMsb - withMsb % 10 + 2
  toI64 (lastDigitFixed : Int)

namespace TicketIdConfig

variable (config : TicketIdConfig) {prefix' suffix : Int}

/-- All ids of the prefix fit in `i64` with their last digit. -/
def Fits (prefix' : Int) : Prop :=
  (prefix' * config.suffixMultiplier + config.suffixMax) * 10 + 1 < 2 ^ 63

instance (prefix' : Int) : Decidable (config.Fits prefix') :=
  inferInstanceAs (Decidable (_ < _))

/-- The id of a prefix and a suffix with its last digit. -/
def ticketId (prefix' suffix : Int) : Int :=
  (prefix' * config.suffixMultiplier + suffix) * 10 + 1

/-- The ids of a block that fits. -/
theorem appendLastDigit1_blockId (fits : config.Fits prefix') (positive : 0 < prefix')
    (first : 1 ≤ suffix) (last : suffix ≤ config.suffixMax) :
    appendLastDigit1 (config.blockId prefix' suffix) = config.ticketId prefix' suffix := by
  unfold Fits at fits
  unfold appendLastDigit1 blockId ticketId
  rw [suffixMultiplier_eq] at fits ⊢
  have bound : (2 : Int) ^ 63 = 9223372036854775808 := by norm_num
  have exact_id : toI64 (prefix' * 10 + suffix) = prefix' * 10 + suffix := by
    unfold toI64
    rw [Int.bmod_eq_of_le_mul_two] <;> omega
  rw [exact_id]
  rw [bound] at fits ⊢
  rw [if_pos (by omega), if_pos (by omega)]

/-- Larger pairs of prefix and suffix have larger ids. -/
theorem ticketId_lt_ticketId {prefix₂ suffix₂ : Int} (last : suffix ≤ config.suffixMax)
    (first : 1 ≤ suffix₂)
    (later : prefix' < prefix₂ ∨ prefix' = prefix₂ ∧ suffix < suffix₂) :
    config.ticketId prefix' suffix < config.ticketId prefix₂ suffix₂ := by
  have small := config.suffixMax_mem
  unfold ticketId
  rw [suffixMultiplier_eq]
  omega

/-- The id determines both. -/
theorem eq_of_ticketId_eq {prefix₂ suffix₂ : Int} (first : 1 ≤ suffix)
    (last : suffix ≤ config.suffixMax) (first₂ : 1 ≤ suffix₂) (last₂ : suffix₂ ≤ config.suffixMax)
    (same : config.ticketId prefix' suffix = config.ticketId prefix₂ suffix₂) :
    prefix' = prefix₂ ∧ suffix = suffix₂ := by
  have small := config.suffixMax_mem
  unfold ticketId at same
  rw [suffixMultiplier_eq] at same
  omega

theorem ticketId_pos (positive : 0 < prefix') (first : 1 ≤ suffix) :
    0 < config.ticketId prefix' suffix := by
  unfold ticketId
  rw [suffixMultiplier_eq]
  omega

end TicketIdConfig

/-! ### Local ids -/

/-- A local id is negative, but for the two smallest hashes with the top bit. -/
theorem generateTicketIdLocal_cases (hash : UInt64) :
    generateTicketIdLocal hash = 9223372036854775802 ∨
      -9223372036854775808 ≤ generateTicketIdLocal hash ∧ generateTicketIdLocal hash < 0 ∧
        generateTicketIdLocal hash % 10 = 6 := by
  have low : 2 ^ 63 ≤ hash.toNat ||| 2 ^ 63 := Nat.right_le_or
  have high : hash.toNat ||| 2 ^ 63 < 2 ^ 64 :=
    Nat.or_lt_two_pow hash.toNat_lt (by norm_num)
  unfold generateTicketIdLocal toI64
  dsimp only
  generalize hash.toNat ||| 2 ^ 63 = withMsb at low high
  rw [show (2 : Nat) ^ 63 = 9223372036854775808 by norm_num] at low
  rw [show (2 : Nat) ^ 64 = 18446744073709551616 by norm_num] at high
  by_cases smallest : withMsb - withMsb % 10 + 2 < 9223372036854775808
  · left
    have value : withMsb - withMsb % 10 + 2 = 9223372036854775802 := by omega
    rw [value]
    decide
  · right
    have wrapped : ((withMsb - withMsb % 10 + 2 : Nat) : Int).bmod (2 ^ 64) =
        ((withMsb - withMsb % 10 + 2 : Nat) : Int) - 18446744073709551616 := by
      have shifted := Int.sub_bmod_right
        (((withMsb - withMsb % 10 + 2 : Nat) : Int)) (2 ^ 64)
      rw [← shifted, Int.bmod_eq_of_le_mul_two] <;> omega
    rw [wrapped]
    omega

/-- With the last digit appended it is not zero, and not the id of a block. -/
theorem appendLastDigit1_local (hash : UInt64) :
    appendLastDigit1 (generateTicketIdLocal hash) = 9223372036854775802 ∨
      appendLastDigit1 (generateTicketIdLocal hash) < 0 := by
  unfold appendLastDigit1
  have bound : (2 : Int) ^ 63 = 9223372036854775808 := by norm_num
  rw [bound]
  rcases generateTicketIdLocal_cases hash with same | ⟨low, high, -⟩
  · left
    rw [same]
    decide
  · right
    split
    · split
      · omega
      · exact high
    · exact high

theorem appendLastDigit1_cases (id : Int) :
    appendLastDigit1 id = id ∨ appendLastDigit1 id = id * 10 + 1 := by
  unfold appendLastDigit1
  split
  · split
    · exact .inr rfl
    · exact .inl rfl
  · exact .inl rfl

/-- The digit that is appended does not make two local ids equal: it is never their last digit. -/
theorem eq_of_appendLastDigit1_local {hash hash₂ : UInt64}
    (same : appendLastDigit1 (generateTicketIdLocal hash) =
      appendLastDigit1 (generateTicketIdLocal hash₂)) :
    generateTicketIdLocal hash = generateTicketIdLocal hash₂ := by
  have digit : ∀ h, generateTicketIdLocal h % 10 ≠ 1 := by
    intro h
    rcases generateTicketIdLocal_cases h with value | ⟨-, -, last⟩
    · rw [value]
      decide
    · omega
  have digit₁ := digit hash
  have digit₂ := digit hash₂
  rcases appendLastDigit1_cases (generateTicketIdLocal hash) with left | left <;>
    rcases appendLastDigit1_cases (generateTicketIdLocal hash₂) with right | right <;>
    rw [left, right] at same <;> omega

theorem TicketIdConfig.appendLastDigit1_local_ne (config : TicketIdConfig) (hash : UInt64)
    {prefix' suffix : Int} (positive : 0 < prefix') (first : 1 ≤ suffix) :
    appendLastDigit1 (generateTicketIdLocal hash) ≠ config.ticketId prefix' suffix := by
  have block := config.ticketId_pos positive first
  rcases appendLastDigit1_local hash with same | negative
  · rw [same, ticketId, config.suffixMultiplier_eq]
    omega
  · omega

end TollBackend

import Mathlib.Data.List.Basic

/-!
# PKCS7 padding

A message is filled up to whole blocks with bytes that all say how many there are. A block size
is at most 255.

## Main definitions

* `pkcs7Pad`, `pkcs7Unpad`: padding a message, and taking the padding off.

## Main results

* `pkcs7Unpad_pad`: the message comes back.
-/

namespace Wire

/-- The number of bytes that are added to a message of this length, one block if it is whole
already. -/
def pkcs7Missing (block length : Nat) : Nat :=
  block - length % block

/-- The padded message. -/
def pkcs7Pad (block : Nat) (message : List UInt8) : List UInt8 :=
  message ++ List.replicate (pkcs7Missing block message.length)
    (UInt8.ofNat (pkcs7Missing block message.length))

/-- The message without its padding, if that is well formed: the last byte says how many bytes
there are, and they all say so. Only whole blocks have one. -/
def pkcs7Unpad (block : Nat) (bytes : List UInt8) : Option (List UInt8) :=
  if bytes.length % block ≠ 0 then none
  else
    match bytes.getLast? with
    | none => none
    | some last =>
      if last.toNat = 0 ∨ block < last.toNat then none
      else if (bytes.drop (bytes.length - last.toNat)).all (· == last) then
        some (bytes.take (bytes.length - last.toNat))
      else none

section Pad

variable {block : Nat}

theorem pkcs7Missing_pos (positive : 0 < block) (length : Nat) :
    0 < pkcs7Missing block length := by
  have below := Nat.mod_lt length positive
  rw [pkcs7Missing]
  omega

theorem length_pkcs7Pad (positive : 0 < block) (message : List UInt8) :
    (pkcs7Pad block message).length % block = 0 := by
  have below := Nat.mod_lt message.length positive
  have split := Nat.div_add_mod message.length block
  have whole : message.length + pkcs7Missing block message.length =
      block * (message.length / block + 1) := by
    rw [pkcs7Missing, Nat.mul_add, Nat.mul_one]
    omega
  rw [pkcs7Pad, List.length_append, List.length_replicate, whole, Nat.mul_mod_right]

/-- The padding of a message can be taken off again. -/
theorem pkcs7Unpad_pad (positive : 0 < block) (small : block < 256) (message : List UInt8) :
    pkcs7Unpad block (pkcs7Pad block message) = some message := by
  have missing := pkcs7Missing_pos positive message.length
  have fits : pkcs7Missing block message.length ≤ block := Nat.sub_le _ _
  have byte : (UInt8.ofNat (pkcs7Missing block message.length)).toNat =
      pkcs7Missing block message.length :=
    UInt8.toNat_ofNat_of_lt' (Nat.lt_of_le_of_lt fits small)
  have last : (pkcs7Pad block message).getLast? =
      some (UInt8.ofNat (pkcs7Missing block message.length)) := by
    rw [pkcs7Pad, List.getLast?_append, List.getLast?_replicate, if_neg (Nat.ne_of_gt missing)]
    rfl
  have kept : (pkcs7Pad block message).length - pkcs7Missing block message.length =
      message.length := by
    rw [pkcs7Pad, List.length_append, List.length_replicate]
    omega
  rw [pkcs7Unpad, if_neg (by rw [length_pkcs7Pad positive]; decide), last]
  dsimp only
  rw [byte, if_neg (by omega), kept, pkcs7Pad, List.drop_left, List.take_left, if_pos]
  rw [List.all_replicate]
  simp

end Pad

end Wire

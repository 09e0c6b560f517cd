import TollBackend.Fe.Commands
import TollBackend.Fe.Text

/-!
# The protocol of the front end

The lengths and offsets of requests, as in `fe_protocol`. All integers are little-endian; ids
have 64 bits.

## Main definitions

* `minLenForCommand`: the shortest request of each command.
* `parseRequestIdSessionId`, `parseShakeIds`, `parseTerminateIds`: the ids of a request.
* `feBodyOffsets`: where the dispatcher finds station, tag, lane and plate.
-/

namespace TollBackend

open Wire

abbrev I32 := SInt 4

abbrev I64 := SInt 8

/-- `i32::from_le_bytes(data[a..b])`. -/
def i32 (data : Bytes) (a b : Nat) : I32 :=
  .read 4 (slice data a b)

/-- `i64::from_le_bytes(data[a..b])`. -/
def i64 (data : Bytes) (a b : Nat) : I64 :=
  .read 8 (slice data a b)

/-- `String::from_utf8_lossy(&data[a..b])`. -/
def text (data : Bytes) (a b : Nat) : String :=
  fromUtf8Lossy (slice data a b)

namespace Fe

/-- The bytes of a constant of 32 bits. -/
def le32 (i : Int) : Bytes :=
  (SInt.wrap 4 i).bytes

@[simp] theorem length_le32 (i : Int) : (le32 i).length = 4 :=
  SInt.length_bytes _

/-- So many bytes. -/
abbrev Raw (n : Nat) := { bs : Bytes // bs.length = n }

@[simp] theorem length_raw {n : Nat} (raw : Raw n) : raw.val.length = n :=
  raw.property

/-- A command in messages, with two hexadecimal digits at least. -/
def commandHex (command : Int) : String :=
  let digits := (Nat.toDigits 16 (command % 2 ^ 32).toNat).map Char.toUpper
  "0x" ++ String.ofList (List.replicate (2 - digits.length) '0' ++ digits)

/-! ### Lengths -/

namespace Len

def CONNECT : Nat := 44
def HANDSHAKE : Nat := 28
def TERMINATE : Nat := 28
def CHECKIN : Nat := 106
def COMMIT : Nat := 98
def ROLLBACK : Nat := 90
def QUERY_VEHICLE_BOO : Nat := 122
def LOOKUP_VEHICLE : Nat := 110
def CHECKOUT_RESERVE_BOO_MIN : Nat := 203
def CHECKOUT_COMMIT_BOO : Nat := 188
def CHECKOUT_ROLLBACK_BOO : Nat := 178

end Len

/-- `FE_VALID_COMMANDS`. -/
def validCommands : List Int :=
  [CONNECT, HANDSHAKE, CHECKIN, COMMIT, ROLLBACK, TERMINATE, QUERY_VEHICLE_BOO, LOOKUP_VEHICLE,
    CHECKOUT_RESERVE_BOO, CHECKOUT_COMMIT_BOO, CHECKOUT_ROLLBACK_BOO]

/-- `min_len_for_command`. -/
def minLenForCommand (command : Int) : Nat :=
  if command = CONNECT then Len.CONNECT
  else if command = HANDSHAKE then Len.HANDSHAKE
  else if command = TERMINATE then Len.TERMINATE
  else if command = CHECKIN then Len.CHECKIN
  else if command = COMMIT then Len.COMMIT
  else if command = ROLLBACK then Len.ROLLBACK
  else if command = QUERY_VEHICLE_BOO then Len.QUERY_VEHICLE_BOO
  else if command = LOOKUP_VEHICLE then Len.LOOKUP_VEHICLE
  else if command = CHECKOUT_RESERVE_BOO then Len.CHECKOUT_RESERVE_BOO_MIN
  else if command = CHECKOUT_COMMIT_BOO then Len.CHECKOUT_COMMIT_BOO
  else if command = CHECKOUT_ROLLBACK_BOO then Len.CHECKOUT_ROLLBACK_BOO
  else 8

/-! ### Ids -/

/-- `parse_terminate_ids`: version, request and session. -/
def parseTerminateIds (data : Bytes) : Option (I32 × I64 × I64) :=
  if data.length < 28 then none else some (i32 data 8 12, i64 data 12 20, i64 data 20 28)

/-- `parse_request_id_session_id`. -/
def parseRequestIdSessionId (data : Bytes) : Option (I64 × I64) :=
  if data.length < 24 then none else some (i64 data 8 16, i64 data 16 24)

/-- `parse_shake_ids`: version, request and session. -/
def parseShakeIds (data : Bytes) : Option (I32 × I64 × I64) :=
  if data.length < 28 then none else some (i32 data 8 12, i64 data 12 20, i64 data 20 28)

section Ids

variable {data : Bytes}

theorem parseTerminateIds_of_le (long : 28 ≤ data.length) :
    parseTerminateIds data = some (i32 data 8 12, i64 data 12 20, i64 data 20 28) :=
  if_neg (Nat.not_lt.mpr long)

theorem parseShakeIds_of_le (long : 28 ≤ data.length) :
    parseShakeIds data = some (i32 data 8 12, i64 data 12 20, i64 data 20 28) :=
  if_neg (Nat.not_lt.mpr long)

theorem parseRequestIdSessionId_of_le (long : 24 ≤ data.length) :
    parseRequestIdSessionId data = some (i64 data 8 16, i64 data 16 24) :=
  if_neg (Nat.not_lt.mpr long)

end Ids

/-! ### Offsets -/

/-- `FeBodyOffsets`: start and end of each field, `(0, 0)` where there is none. -/
structure FeBodyOffsets where
  toll : Nat × Nat
  etag : Nat × Nat
  lane : Nat × Nat
  plate : Nat × Nat
deriving DecidableEq, Repr

/-- `fe_body_offsets`. -/
def feBodyOffsets (command : Int) : FeBodyOffsets :=
  if command = CONNECT then ⟨(0, 0), (0, 0), (0, 0), (0, 0)⟩
  else if command = CHECKIN then ⟨(48, 52), (24, 48), (52, 56), (56, 66)⟩
  else if command = QUERY_VEHICLE_BOO then ⟨(84, 88), (60, 84), (88, 92), (0, 0)⟩
  else if command = LOOKUP_VEHICLE then ⟨(84, 88), (60, 84), (88, 92), (0, 0)⟩
  else if command = COMMIT ∨ command = ROLLBACK then ⟨(48, 52), (24, 48), (52, 56), (68, 78)⟩
  else if command = CHECKOUT_RESERVE_BOO then ⟨(140, 144), (60, 84), (144, 148), (148, 158)⟩
  else if command = CHECKOUT_COMMIT_BOO then ⟨(124, 128), (60, 84), (128, 132), (132, 152)⟩
  else if command = CHECKOUT_ROLLBACK_BOO then ⟨(124, 128), (60, 84), (128, 132), (132, 142)⟩
  else ⟨(48, 52), (24, 48), (52, 56), (68, 78)⟩

end Fe

end TollBackend

import TollBackend.Fe.Text
import TollBackend.Network.Connection
import TollBackend.Wire.Pkcs7

/-!
# The key of a connection

A connection starts with the candidate keys of its address. The first frame is decrypted with
one after the other, and the first key whose output has a well-formed padding becomes the key of
the connection; nothing else of the output is looked at.

## Main definitions

* `decryptPadded`: AES in CBC mode, of which the padding is taken off.
* `Connection.resolveKey`: the key and the plaintext of a frame.
* `KeepsToKey`: what resolving a key is for.

## Main results

* `Connection.decryptPayload_eq`: `resolveKey` is what the task of the connection does.
* `keepsToKey_iff`: when the key of the frame is found.
-/

namespace TollBackend

open Wire

/-- `decrypt_padded_vec_mut::<Pkcs7>`, where `cbc` is the decryption of whole blocks by AES-128
in CBC mode with an IV of zeros. -/
def decryptPadded (cbc : String → Bytes → Bytes) (key : String) (payload : Bytes) :
    Option Bytes :=
  if payload.length % 16 ≠ 0 then none else pkcs7Unpad 16 (cbc key payload)

/-- `create_decryptor_with_key` panics unless the key has 16 bytes. -/
def isAesKey (key : String) : Bool :=
  (utf8Bytes key).length == 16

/-- What the loop over the candidates comes to. -/
inductive KeyResolution
  | panicked
  | failed
  | resolved (key : String) (data : Bytes)
deriving DecidableEq, Repr

/-- The loop over the candidate keys. -/
def tryKeys (cbc : String → Bytes → Bytes) (payload : Bytes) : List String → KeyResolution
  | [] => .failed
  | key :: keys =>
    if ¬ isAesKey key then .panicked
    else
      match decryptPadded cbc key payload with
      | some data => .resolved key data
      | none => tryKeys cbc payload keys

/-- The payload of a frame is decrypted, and the key of the connection resolved, if it is not
yet. -/
def Connection.resolveKey (cbc : String → Bytes → Bytes) (c : Connection) (payload : Bytes) :
    KeyResolution × Connection :=
  match c.resolvedKey with
  | some key =>
    match decryptPadded cbc key payload with
    | some data => (.resolved key data, c)
    | none => (.failed, c)
  | none =>
    match tryKeys cbc payload c.candidateKeys with
    | .resolved key data =>
      (.resolved key data, { c with resolvedKey := some key, candidateKeys := [] })
    | other => (other, c)

/-! ### What it is for -/

/-- The payload is the message under the key. -/
def EncryptedUnder (cbc : String → Bytes → Bytes) (key : String) (message payload : Bytes) :
    Prop :=
  payload.length % 16 = 0 ∧ cbc key payload = pkcs7Pad 16 message

/-- A frame under one of the candidates resolves the connection to that key, and a frame that no
candidate decrypts leaves the keys as they are. -/
structure KeepsToKey (cbc : String → Bytes → Bytes) (c : Connection) (key : String)
    (payload : Bytes) : Prop where
  resolves : (c.resolveKey cbc payload).2.resolvedKey = some key
  unchanged : ∀ other, (∀ k ∈ c.candidateKeys, decryptPadded cbc k other = none) →
    (c.resolveKey cbc other).2.candidateKeys = c.candidateKeys ∧
      (c.resolveKey cbc other).2.resolvedKey = c.resolvedKey

/-- When that is so: no candidate before the key has another length than 16 bytes or makes
something of the frame that ends in a well-formed padding. -/
def KeyComesFirst (cbc : String → Bytes → Bytes) (keys : List String) (key : String)
    (payload : Bytes) : Prop :=
  isAesKey key = true ∧
    ∀ other ∈ keys.takeWhile (· ≠ key), isAesKey other = true ∧
      decryptPadded cbc other payload = none

section Resolve

variable {cbc : String → Bytes → Bytes} {c : Connection} {key : String}
variable {message payload : Bytes}

/-- The key of a frame decrypts it. -/
theorem EncryptedUnder.decrypts (frame : EncryptedUnder cbc key message payload) :
    decryptPadded cbc key payload = some message := by
  rw [decryptPadded, if_neg (not_not.mpr frame.1), frame.2]
  exact pkcs7Unpad_pad (by decide) (by decide) message

/-- The loop ends at the key exactly if it gets there. -/
theorem tryKeys_iff {keys : List String} (candidate : key ∈ keys)
    (decrypts : decryptPadded cbc key payload = some message) :
    (∃ data, tryKeys cbc payload keys = .resolved key data) ↔
      KeyComesFirst cbc keys key payload := by
  induction keys with
  | nil => cases candidate
  | cons first keys ih =>
    by_cases same : first = key
    · subst same
      by_cases valid : isAesKey first
      · simp [tryKeys, KeyComesFirst, valid, decrypts]
      · simp [tryKeys, KeyComesFirst, valid]
    · have later : key ∈ keys := (List.mem_cons.mp candidate).resolve_left (Ne.symm same)
      have comes : KeyComesFirst cbc (first :: keys) key payload ↔
          (isAesKey first = true ∧ decryptPadded cbc first payload = none) ∧
            KeyComesFirst cbc keys key payload := by
        rw [KeyComesFirst, KeyComesFirst, List.takeWhile_cons_of_pos (by simpa using same),
          List.forall_mem_cons]
        exact and_left_comm
      rw [comes, ← ih later]
      by_cases valid : isAesKey first
      · cases found : decryptPadded cbc first payload with
        | none => simp [tryKeys, valid, found]
        | some data => simp [tryKeys, valid, found, same]
      · simp [tryKeys, valid]

/-- Keys that decrypt nothing resolve nothing. -/
theorem tryKeys_of_none {keys : List String}
    (nothing : ∀ k ∈ keys, decryptPadded cbc k payload = none) (key : String) (data : Bytes) :
    tryKeys cbc payload keys ≠ .resolved key data := by
  induction keys with
  | nil => exact fun found => by cases found
  | cons first keys ih =>
    obtain ⟨head, tail⟩ := List.forall_mem_cons.mp nothing
    by_cases valid : isAesKey first
    · simpa [tryKeys, valid, head] using ih tail
    · simp [tryKeys, valid]

/-- Keys of the right length never panic, and the loop is the one of the connection's task. -/
theorem Connection.decryptPayload_eq (valid : ∀ k ∈ c.candidateKeys, isAesKey k = true) :
    c.decryptPayload (decryptPadded cbc) payload =
      match c.resolveKey cbc payload with
      | (.resolved _ data, c') => some (data, c')
      | _ => none := by
  cases resolved : c.resolvedKey with
  | some key =>
    cases out : decryptPadded cbc key payload <;>
      simp [Connection.decryptPayload, Connection.resolveKey, resolved, out]
  | none =>
    have loop : ∀ keys : List String, (∀ k ∈ keys, isAesKey k = true) →
        (keys.findSome? fun key => (decryptPadded cbc key payload).map fun data => (data, key)) =
          match tryKeys cbc payload keys with
          | .resolved key data => some (data, key)
          | _ => none := by
      intro keys valid
      induction keys with
      | nil => rfl
      | cons first keys ih =>
        obtain ⟨head, tail⟩ := List.forall_mem_cons.mp valid
        rw [List.findSome?_cons, tryKeys, if_neg (not_not.mpr head)]
        cases decryptPadded cbc first payload with
        | some data => rfl
        | none => exact ih tail
    simp only [Connection.decryptPayload, Connection.resolveKey, resolved, loop _ valid]
    cases tryKeys cbc payload c.candidateKeys <;> rfl

/-- When the key of the frame is found. -/
theorem keepsToKey_iff (fresh : c.resolvedKey = none) (candidate : key ∈ c.candidateKeys)
    (frame : EncryptedUnder cbc key message payload) :
    KeepsToKey cbc c key payload ↔ KeyComesFirst cbc c.candidateKeys key payload := by
  have unchanged : ∀ other, (∀ k ∈ c.candidateKeys, decryptPadded cbc k other = none) →
      (c.resolveKey cbc other).2.candidateKeys = c.candidateKeys ∧
        (c.resolveKey cbc other).2.resolvedKey = c.resolvedKey := by
    intro other nothing
    have unresolved := tryKeys_of_none nothing
    rw [Connection.resolveKey, fresh]
    dsimp only
    split
    · next found => exact absurd found (unresolved _ _)
    · exact ⟨rfl, fresh⟩
  have resolves : (c.resolveKey cbc payload).2.resolvedKey = some key ↔
      ∃ data, tryKeys cbc payload c.candidateKeys = .resolved key data := by
    rw [Connection.resolveKey, fresh]
    dsimp only
    cases tryKeys cbc payload c.candidateKeys <;> simp [fresh]
  rw [← tryKeys_iff candidate frame.decrypts, ← resolves]
  exact ⟨fun keeps => keeps.resolves, fun resolved => ⟨resolved, unchanged⟩⟩

end Resolve

/-! ### Two keys of one address -/

/-- A `TERMINATE` of 28 bytes. -/
def terminatePlain : Bytes :=
  [28, 0, 0, 0, 0x70, 0, 0, 0, 1, 0, 0, 0, 7, 0, 0, 0, 0, 0, 0, 0, 9, 0, 0, 0, 0, 0, 0, 0]

/-- The payload that AES makes of it with the key `fedcba9876543210`. -/
def terminatePayload : Bytes :=
  [83, 35, 49, 113, 91, 82, 237, 225, 199, 36, 81, 175, 39, 128, 227, 160, 196, 140, 97, 225, 127,
    102, 13, 38, 80, 227, 70, 215, 212, 140, 93, 230]

/-- What AES makes of the payload with that key and with `0123456789ab0636`, where the last byte
happens to be 1. -/
def cbcSample (key : String) (payload : Bytes) : Bytes :=
  if payload = terminatePayload then
    if key = "fedcba9876543210" then terminatePlain ++ [4, 4, 4, 4]
    else if key = "0123456789ab0636" then
      [112, 104, 135, 230, 24, 97, 198, 77, 194, 48, 177, 40, 197, 93, 33, 105, 89, 41, 109, 214,
        175, 230, 87, 181, 29, 74, 109, 145, 227, 136, 40, 1]
    else payload
  else payload

/-- A connection with both keys, the one of the peer in the given place. -/
def twoKeys (keys : List String) : Connection :=
  { control := .head, candidateKeys := keys }

theorem keepsToKey_iff_first :
    EncryptedUnder cbcSample "fedcba9876543210" terminatePlain terminatePayload ∧
      (KeepsToKey cbcSample (twoKeys ["fedcba9876543210", "0123456789ab0636"])
          "fedcba9876543210" terminatePayload ↔
        KeyComesFirst cbcSample ["fedcba9876543210", "0123456789ab0636"] "fedcba9876543210"
          terminatePayload) := by
  have frame : EncryptedUnder cbcSample "fedcba9876543210" terminatePlain terminatePayload :=
    ⟨by decide, by decide⟩
  exact ⟨frame, keepsToKey_iff rfl List.mem_cons_self frame⟩

/-- The other key comes first, and is taken for the key of the connection. -/
theorem wrong_key_resolved :
    EncryptedUnder cbcSample "fedcba9876543210" terminatePlain terminatePayload ∧
      ¬ KeepsToKey cbcSample (twoKeys ["0123456789ab0636", "fedcba9876543210"])
        "fedcba9876543210" terminatePayload := by
  refine ⟨⟨by decide, by decide⟩, fun keeps => ?_⟩
  have resolved := keeps.resolves
  revert resolved
  decide +kernel

end TollBackend

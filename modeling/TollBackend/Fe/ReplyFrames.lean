import TollBackend.Fe.Responses
import TollBackend.Network.KeyResolution
import TollBackend.Wire.Layout

/-!
# The frames of replies

A reply is the plaintext of a response, padded, encrypted and preceded by the length of the whole
frame. Texts are cut or filled up to the width of their field.

## Main definitions

* `Response.layout`: the fields of a response as they are documented, with their widths.
* `Response.fields`: the same fields with their contents.
* `wrapEncryptedReply`, `reply`: the frame of a response.
* `SelfConsistent`: the lengths and offsets of a frame are right.

## Main results

* `serialize_eq_concat`: a plaintext is the fields one behind the other, and `resize` at the end
  of a serializer neither cuts nor fills.
* `selfConsistent`: all frames are self-consistent.
-/

namespace TollBackend.Fe

open Wire

/-! ### Texts in their fields -/

/-- `extend_from_slice` and `resize` make the field of a text. -/
theorem resize_utf8Bytes (s : String) (len : Nat) : resize (utf8Bytes s) len = pad s len :=
  rfl

/-- `buf[..len].copy_from_slice(&bytes[..len])` with `len = bytes.len().min(buf.len())`. -/
def copyFront (buf bytes : Bytes) : Bytes :=
  bytes.take (min bytes.length buf.length) ++ buf.drop (min bytes.length buf.length)

/-- Copying into an array of zeros makes the same field. -/
theorem copyFront_zeros (s : String) (len : Nat) :
    copyFront (List.replicate len 0) (utf8Bytes s) = pad s len := by
  unfold copyFront pad
  rw [List.length_replicate, List.drop_replicate]
  congr 1
  · rw [← List.take_take]
    apply List.take_of_length_le
    rw [List.length_take]
    exact min_le_right _ _
  · congr 1
    omega

/-! ### Fields -/

/-- A number of `w` bytes. -/
def number {w : Nat} (name : String) (i : SInt w) : FixedField UInt8 :=
  ⟨name, w, i.bytes, SInt.length_bytes i⟩

/-- A constant of 32 bits. -/
def constant (name : String) (i : Int) : FixedField UInt8 :=
  ⟨name, 4, le32 i, length_le32 i⟩

/-- A text in a field of fixed width. -/
def padded (name : String) (width : Nat) (s : String) : FixedField UInt8 :=
  ⟨name, width, pad s width, length_pad s width⟩

/-- A text of which the field has the first character. -/
def letter (name : String) (s : String) : FixedField UInt8 :=
  ⟨name, 1, [ticketTypeByte s], rfl⟩

/-- An array of bytes. -/
def array {n : Nat} (name : String) (bs : Raw n) : FixedField UInt8 :=
  ⟨name, n, bs.val, bs.property⟩

def sessionFields (command : Int) (x : SessionResp) : List (FixedField UInt8) :=
  [constant "message_length" 32, constant "command_id" command, number "version_id" x.versionId,
    number "request_id" x.requestId, number "session_id" x.sessionId, number "status" x.status]

def statusFields (command : Int) (x : StatusResp) : List (FixedField UInt8) :=
  [constant "message_length" 28, constant "command_id" command, number "request_id" x.requestId,
    number "session_id" x.sessionId, number "status" x.status]

def checkinFields (x : CheckinResp) : List (FixedField UInt8) :=
  [constant "message_length" 98, constant "command_id" CHECKIN_RESP,
    number "request_id" x.requestId, number "session_id" x.sessionId, number "status" x.status,
    padded "etag" 24 x.etag, number "station" x.station, number "lane" x.lane,
    number "ticket_id" x.ticketId, number "ticket_type" x.ticketType, number "price" x.price,
    number "vehicle_type" x.vehicleType, padded "plate" 10 x.plate,
    number "plate_type" x.plateType, number "price_ticket_type" x.priceTicketType]

def vehicleFields (length command : Int) (x : VehicleResp) : List (FixedField UInt8) :=
  [constant "message_length" length, constant "command_id" command,
    number "version_id" x.versionId, number "request_id" x.requestId,
    number "session_id" x.sessionId, number "timestamp" x.timestamp,
    number "process_time" x.processTime, padded "etag" 24 x.etag,
    number "vehicle_type" x.vehicleType, letter "ticket_type" x.ticketType,
    padded "register_vehicle_type" 10 x.registerVehicleType, number "seat" x.seat,
    number "weight_goods" x.weightGoods, number "weight_all" x.weightAll,
    padded "plate" 10 x.plate, number "status" x.status,
    number "min_balance_status" x.minBalanceStatus, array "general1" x.general1,
    array "general2" x.general2]

def checkoutReserveBooFields (x : CheckoutReserveBooResp) : List (FixedField UInt8) :=
  [constant "message_length" 100, constant "command_id" CHECKOUT_RESERVE_BOO_RESP,
    number "version_id" x.versionId, number "request_id" x.requestId,
    number "session_id" x.sessionId, number "timestamp" x.timestamp,
    number "process_time" x.processTime, number "ticket_in_id" x.ticketInId,
    number "hub_id" (x.hubId.getD (.wrap 8 0)), number "ticket_eTag_id" x.ticketETagId,
    number "ticket_out_id" x.ticketOutId, number "status" x.status,
    array "general1" x.general1, array "general2" x.general2]

def checkoutBooFields (command : Int) (x : CheckoutBooResp) : List (FixedField UInt8) :=
  [constant "message_length" 96, constant "command_id" command,
    number "version_id" x.versionId, number "request_id" x.requestId,
    number "session_id" x.sessionId, number "timestamp" x.timestamp,
    number "ticket_in_id" x.ticketInId, number "hub_id" x.hubId,
    number "ticket_eTag_id" x.ticketETagId, number "ticket_out_id" x.ticketOutId,
    number "status" x.status, array "general1" x.general1, array "general2" x.general2]

/-- The fields of a response in their order. All handlers set `message_length` and `command_id` to
the constants of the command. -/
def Response.fields : Response → List (FixedField UInt8)
  | .connect x => sessionFields CONNECT_RESP x
  | .shake x => sessionFields SHAKE_RESP x
  | .terminate x => sessionFields TERMINATE_RESP x
  | .checkin x => checkinFields x
  | .commit x => statusFields COMMIT_RESP x
  | .rollback x => statusFields ROLLBACK_RESP x
  | .queryVehicleBoo x => vehicleFields 133 QUERY_VEHICLE_BOO_RESP x
  | .lookupVehicle x extra =>
    vehicleFields 197 LOOKUP_VEHICLE_RESP x ++ [array "extra" extra]
  | .checkoutReserveBoo x => checkoutReserveBooFields x
  | .checkoutCommitBoo x => checkoutBooFields CHECKOUT_COMMIT_BOO_RESP x
  | .checkoutRollbackBoo x => checkoutBooFields CHECKOUT_ROLLBACK_BOO_RESP x

/-! ### The documented layouts -/

/-- The header of all responses that carry a version. -/
def versionedHeader : List (String × Nat) :=
  [("message_length", 4), ("command_id", 4), ("version_id", 4), ("request_id", 8),
    ("session_id", 8)]

def vehicleLayout : List (String × Nat) :=
  versionedHeader ++
    [("timestamp", 8), ("process_time", 4), ("etag", 24), ("vehicle_type", 4),
      ("ticket_type", 1), ("register_vehicle_type", 10), ("seat", 4), ("weight_goods", 4),
      ("weight_all", 4), ("plate", 10), ("status", 4), ("min_balance_status", 4),
      ("general1", 8), ("general2", 16)]

def statusLayout : List (String × Nat) :=
  [("message_length", 4), ("command_id", 4), ("request_id", 8), ("session_id", 8), ("status", 4)]

def checkinLayout : List (String × Nat) :=
  statusLayout ++
    [("etag", 24), ("station", 4), ("lane", 4), ("ticket_id", 8), ("ticket_type", 4),
      ("price", 4), ("vehicle_type", 4), ("plate", 10), ("plate_type", 4),
      ("price_ticket_type", 4)]

def checkoutReserveBooLayout : List (String × Nat) :=
  versionedHeader ++
    [("timestamp", 8), ("process_time", 4), ("ticket_in_id", 8), ("hub_id", 8),
      ("ticket_eTag_id", 8), ("ticket_out_id", 8), ("status", 4), ("general1", 8),
      ("general2", 16)]

def checkoutBooLayout : List (String × Nat) :=
  versionedHeader ++
    [("timestamp", 8), ("ticket_in_id", 8), ("hub_id", 8), ("ticket_eTag_id", 8),
      ("ticket_out_id", 8), ("status", 4), ("general1", 8), ("general2", 16)]

/-- The names and widths of the fields; the contents have no part in it. -/
def Response.layout : Response → List (String × Nat)
  | .connect _ => versionedHeader ++ [("status", 4)]
  | .shake _ => versionedHeader ++ [("status", 4)]
  | .terminate _ => versionedHeader ++ [("status", 4)]
  | .checkin _ => checkinLayout
  | .commit _ => statusLayout
  | .rollback _ => statusLayout
  | .queryVehicleBoo _ => vehicleLayout
  | .lookupVehicle _ _ => vehicleLayout ++ [("extra", 64)]
  | .checkoutReserveBoo _ => checkoutReserveBooLayout
  | .checkoutCommitBoo _ => checkoutBooLayout
  | .checkoutRollbackBoo _ => checkoutBooLayout

theorem Response.fields_layout (r : Response) :
    r.fields.map (fun field => (field.name, field.width)) = r.layout := by
  cases r <;> rfl

/-! ### Frames -/

/-- `wrap_encrypted_reply`. -/
def wrapEncryptedReply (encrypted : Bytes) : Bytes :=
  leBytes 4 (encrypted.length + 4) ++ encrypted

/-- A key of 16 bytes. -/
abbrev AesKey := { key : String // isAesKey key = true }

/-- AES-128 in CBC mode with an IV of zeros, on whole blocks: decryption with the same key inverts
encryption. -/
structure BlockCipher where
  encrypt : String → Bytes → Bytes
  decrypt : String → Bytes → Bytes
  length_encrypt : ∀ key blocks, isAesKey key = true → blocks.length % 16 = 0 →
    (encrypt key blocks).length = blocks.length
  decrypt_encrypt : ∀ key blocks, isAesKey key = true → blocks.length % 16 = 0 →
    decrypt key (encrypt key blocks) = blocks

instance : Inhabited BlockCipher :=
  ⟨{ encrypt := fun _ blocks => blocks
     decrypt := fun _ blocks => blocks
     length_encrypt := fun _ _ _ _ => rfl
     decrypt_encrypt := fun _ _ _ _ => rfl }⟩

/-- `encrypt_padded_vec_mut::<Pkcs7>`. -/
def BlockCipher.encryptPadded (cipher : BlockCipher) (key : AesKey) (message : Bytes) : Bytes :=
  cipher.encrypt key.val (pkcs7Pad 16 message)

/-- The frame of a response. `build_connect_error_response` and `create_terminate_resp_bytes`, which
write their bytes themselves, make the frame of a `CONNECT_RESP` and a `TERMINATE_RESP`. -/
def reply (cipher : BlockCipher) (key : AesKey) (r : Response) : Bytes :=
  wrapEncryptedReply (cipher.encryptPadded key (serialize r))

/-- The lengths and offsets in a response and its frame are right. -/
structure SelfConsistent (cipher : BlockCipher) (key : AesKey) (r : Response) : Prop where
  /-- `message_length` is the length of the plaintext. -/
  message_length : (i32 (serialize r) 0 4).val = (serialize r).length
  /-- A field has its own content, and begins where the layout says. -/
  offset : ∀ before name width after, r.layout = before ++ (name, width) :: after →
    ∃ field ∈ r.fields, field.name = name ∧
      slice (serialize r) (before.map Prod.snd).sum ((before.map Prod.snd).sum + width) =
        field.content
  frame_length : leNat ((reply cipher key r).take 4) = (reply cipher key r).length
  decrypts : decryptPadded cipher.decrypt key.val ((reply cipher key r).drop 4) =
    some (serialize r)

/-! ### All frames -/

/-- The width that a layout documents. -/
def layoutWidth (layout : List (String × Nat)) : Nat :=
  (layout.map Prod.snd).sum

theorem width_eq_layoutWidth (fields : List (FixedField UInt8)) :
    width fields = layoutWidth (fields.map fun field => (field.name, field.width)) := by
  rw [layoutWidth, List.map_map]
  rfl

/-- `resize` changes nothing if the fields are as wide as it says. -/
theorem resize_eq_concat {body : Bytes} {cap : Nat} {fields : List (FixedField UInt8)}
    {layout : List (String × Nat)} (written : body = concat fields)
    (laidOut : fields.map (fun field => (field.name, field.width)) = layout)
    (wide : layoutWidth layout = cap) : resize body cap = concat fields := by
  have full : body.length = cap := by
    rw [written, length_concat, width_eq_layoutWidth, laidOut, wide]
  rw [resize_of_length full, written]

theorem serializeSessionResp_eq (command : Int) (x : SessionResp) :
    serializeSessionResp command x = concat (sessionFields command x) := by
  simp [serializeSessionResp, sessionRespBody, sessionFields, number, constant]

theorem serializeStatusResp_eq (command : Int) (x : StatusResp) :
    serializeStatusResp command x = concat (statusFields command x) := by
  simp [serializeStatusResp, statusFields, number, constant]

theorem serializeCheckinResp_eq (x : CheckinResp) :
    serializeCheckinResp x = concat (checkinFields x) := by
  simp [serializeCheckinResp, checkinFields, number, constant, padded]

theorem vehicleRespBody_eq_concat (length command : Int) (x : VehicleResp) :
    le32 length ++ le32 command ++ vehicleRespBody x =
      concat (vehicleFields length command x) := by
  simp [vehicleRespBody, vehicleFields, number, constant, padded, letter, array]

theorem serializeQueryVehicleBooResp_eq (x : VehicleResp) :
    serializeQueryVehicleBooResp x = concat (vehicleFields 133 QUERY_VEHICLE_BOO_RESP x) := by
  have written := vehicleRespBody_eq_concat 133 QUERY_VEHICLE_BOO_RESP x
  exact resize_eq_concat written (Response.queryVehicleBoo x).fields_layout rfl

theorem serializeLookupVehicleResp_eq (x : VehicleResp) (extra : Raw 64) :
    serializeLookupVehicleResp x extra =
      concat (vehicleFields 197 LOOKUP_VEHICLE_RESP x ++ [array "extra" extra]) := by
  have written :
      le32 197 ++ le32 LOOKUP_VEHICLE_RESP ++ vehicleRespBody x ++ extra.val =
        concat (vehicleFields 197 LOOKUP_VEHICLE_RESP x ++ [array "extra" extra]) := by
    rw [vehicleRespBody_eq_concat, concat_append, concat_cons, concat_nil, List.append_nil, array]
  exact resize_eq_concat written (Response.lookupVehicle x extra).fields_layout rfl

theorem buildCheckoutReserveBooResp_eq (x : CheckoutReserveBooResp) :
    buildCheckoutReserveBooResp x = concat (checkoutReserveBooFields x) := by
  have laidOut : (checkoutReserveBooFields x).map (fun field => (field.name, field.width)) =
      checkoutReserveBooLayout := rfl
  unfold buildCheckoutReserveBooResp
  apply resize_eq_concat _ laidOut rfl
  simp [checkoutReserveBooFields, number, constant, array]

theorem buildCheckoutBooResp_eq (command : Int) (x : CheckoutBooResp) :
    buildCheckoutBooResp command x = concat (checkoutBooFields command x) := by
  have laidOut : (checkoutBooFields command x).map (fun field => (field.name, field.width)) =
      checkoutBooLayout := rfl
  unfold buildCheckoutBooResp
  apply resize_eq_concat _ laidOut rfl
  simp [checkoutBooFields, number, constant, array]

theorem serialize_eq_concat (r : Response) : serialize r = concat r.fields := by
  cases r with
  | connect x => exact serializeSessionResp_eq CONNECT_RESP x
  | shake x => exact serializeSessionResp_eq SHAKE_RESP x
  | terminate x => exact serializeSessionResp_eq TERMINATE_RESP x
  | checkin x => exact serializeCheckinResp_eq x
  | commit x => exact serializeStatusResp_eq COMMIT_RESP x
  | rollback x => exact serializeStatusResp_eq ROLLBACK_RESP x
  | queryVehicleBoo x => exact serializeQueryVehicleBooResp_eq x
  | lookupVehicle x extra => exact serializeLookupVehicleResp_eq x extra
  | checkoutReserveBoo x => exact buildCheckoutReserveBooResp_eq x
  | checkoutCommitBoo x => exact buildCheckoutBooResp_eq CHECKOUT_COMMIT_BOO_RESP x
  | checkoutRollbackBoo x => exact buildCheckoutBooResp_eq CHECKOUT_ROLLBACK_BOO_RESP x

/-- The first field says how wide all fields are. -/
theorem Response.fields_eq_cons (r : Response) :
    ∃ length rest, r.fields = constant "message_length" length :: rest ∧
      length = layoutWidth r.layout ∧ length < 256 := by
  cases r <;> exact ⟨_, _, rfl, rfl, by decide⟩

theorem length_serialize (r : Response) : (serialize r).length = layoutWidth r.layout := by
  rw [serialize_eq_concat, length_concat, width_eq_layoutWidth, r.fields_layout]

/-- A field stands where the layout says. -/
theorem field_at_offset (r : Response) {before after : List (String × Nat)} {name : String}
    {wide : Nat} (documented : r.layout = before ++ (name, wide) :: after) :
    ∃ field ∈ r.fields, field.name = name ∧
      slice (serialize r) (before.map Prod.snd).sum ((before.map Prod.snd).sum + wide) =
        field.content := by
  rw [← r.fields_layout] at documented
  obtain ⟨first, rest, split, left, right⟩ := List.map_eq_append_iff.mp documented
  obtain ⟨field, last, rfl, named, _⟩ := List.map_eq_cons_iff.mp right
  obtain ⟨rfl, rfl⟩ := Prod.mk.inj named
  have start : (before.map Prod.snd).sum = width first := by
    rw [← left, List.map_map]
    rfl
  refine ⟨field, ?_, rfl, ?_⟩
  · rw [split]
    exact List.mem_append_right first List.mem_cons_self
  · rw [start, serialize_eq_concat, split]
    exact slice_concat first field last

theorem message_length_eq (r : Response) :
    (i32 (serialize r) 0 4).val = (serialize r).length := by
  obtain ⟨length, rest, split, documented, small⟩ := r.fields_eq_cons
  have read : slice (serialize r) 0 4 = le32 length := by
    have there := slice_concat [] (constant "message_length" length) rest
    rw [List.nil_append, ← split, ← serialize_eq_concat] at there
    exact there
  have nonneg : 0 ≤ length := by
    rw [documented]
    exact Int.natCast_nonneg _
  rw [i32, read, le32, SInt.read_bytes, length_serialize, ← documented, SInt.wrap]
  apply Int.bmod_eq_of_le_mul_two <;> norm_num <;> omega

theorem length_wrapEncryptedReply (encrypted : Bytes) :
    (wrapEncryptedReply encrypted).length = encrypted.length + 4 := by
  rw [wrapEncryptedReply, List.length_append, length_leBytes, Nat.add_comm]

theorem encryptPadded_spec (cipher : BlockCipher) (key : AesKey) (message : Bytes) :
    (cipher.encryptPadded key message).length = message.length + pkcs7Missing 16 message.length ∧
      decryptPadded cipher.decrypt key.val (cipher.encryptPadded key message) = some message := by
  have whole : (pkcs7Pad 16 message).length % 16 = 0 := length_pkcs7Pad (by decide) message
  have length := cipher.length_encrypt key.val _ key.property whole
  have back := cipher.decrypt_encrypt key.val _ key.property whole
  constructor
  · rw [BlockCipher.encryptPadded, length, pkcs7Pad, List.length_append, List.length_replicate]
  · have encrypted : EncryptedUnder cipher.decrypt key.val message
        (cipher.encryptPadded key message) := by
      constructor
      · rw [BlockCipher.encryptPadded, length, whole]
      · exact back
    exact encrypted.decrypts

theorem selfConsistent (cipher : BlockCipher) (key : AesKey) (r : Response) :
    SelfConsistent cipher key r where
  message_length := message_length_eq r
  offset _ _ _ _ := field_at_offset r
  frame_length := by
    obtain ⟨length, _, _, documented, small⟩ := r.fields_eq_cons
    have encrypted := (encryptPadded_spec cipher key (serialize r)).1
    have missing : pkcs7Missing 16 (serialize r).length ≤ 16 := Nat.sub_le _ _
    rw [length_serialize] at encrypted missing
    rw [reply, length_wrapEncryptedReply, wrapEncryptedReply,
      List.take_left' (length_leBytes 4 _)]
    apply leNat_leBytes_of_lt
    omega
  decrypts := by
    rw [reply, wrapEncryptedReply, List.drop_left' (length_leBytes 4 _)]
    exact (encryptPadded_spec cipher key (serialize r)).2

end TollBackend.Fe

import TollBackend.Fe.Protocol

/-!
# The responses of the server

Each handler writes its response field by field.

## Main definitions

* `Response`: a response of any command with its fields.
* `serialize`: its plaintext.
-/

namespace TollBackend.Fe

open Wire

/-- The fields of a `CONNECT_RESP`, a `SHAKE_RESP` or a `TERMINATE_RESP`. -/
structure SessionResp where
  versionId : I32
  requestId : I64
  sessionId : I64
  status : I32

/-- The fields of a `COMMIT_RESP` or a `ROLLBACK_RESP`. -/
structure StatusResp where
  requestId : I64
  sessionId : I64
  status : I32

/-- The fields of a `CHECKIN_RESP`. -/
structure CheckinResp where
  requestId : I64
  sessionId : I64
  status : I32
  etag : String
  station : I32
  lane : I32
  ticketId : I64
  ticketType : I32
  price : I32
  vehicleType : I32
  plate : String
  plateType : I32
  priceTicketType : I32

/-- The fields of a `QUERY_VEHICLE_BOO_RESP`, which a `LOOKUP_VEHICLE_RESP` has as well. -/
structure VehicleResp where
  versionId : I32
  requestId : I64
  sessionId : I64
  timestamp : I64
  processTime : I32
  etag : String
  vehicleType : I32
  ticketType : String
  registerVehicleType : String
  seat : I32
  weightGoods : I32
  weightAll : I32
  plate : String
  status : I32
  minBalanceStatus : I32
  general1 : Raw 8
  general2 : Raw 16

/-- The fields of a `CHECKOUT_RESERVE_BOO_RESP`. -/
structure CheckoutReserveBooResp where
  versionId : I32
  requestId : I64
  sessionId : I64
  timestamp : I64
  processTime : I32
  ticketInId : I64
  hubId : Option I64
  ticketETagId : I64
  ticketOutId : I64
  status : I32
  general1 : Raw 8
  general2 : Raw 16

/-- The fields of a `CHECKOUT_COMMIT_BOO_RESP` or a `CHECKOUT_ROLLBACK_BOO_RESP`. -/
structure CheckoutBooResp where
  versionId : I32
  requestId : I64
  sessionId : I64
  timestamp : I64
  ticketInId : I64
  hubId : I64
  ticketETagId : I64
  ticketOutId : I64
  status : I32
  general1 : Raw 8
  general2 : Raw 16

/-- A response. -/
inductive Response
  | connect (x : SessionResp)
  | shake (x : SessionResp)
  | terminate (x : SessionResp)
  | checkin (x : CheckinResp)
  | commit (x : StatusResp)
  | rollback (x : StatusResp)
  | queryVehicleBoo (x : VehicleResp)
  | lookupVehicle (x : VehicleResp) (extra : Raw 64)
  | checkoutReserveBoo (x : CheckoutReserveBooResp)
  | checkoutCommitBoo (x : CheckoutBooResp)
  | checkoutRollbackBoo (x : CheckoutBooResp)

/-! ### Writing -/

/-- `resize(cap, 0)`. -/
def resize (bs : Bytes) (cap : Nat) : Bytes :=
  bs.take cap ++ List.replicate (cap - bs.length) 0

theorem resize_of_length {bs : Bytes} {cap : Nat} (full : bs.length = cap) :
    resize bs cap = bs := by
  rw [resize, full, Nat.sub_self, List.replicate_zero, List.append_nil, ← full, List.take_length]

/-- `write_connect_resp_body` and `write_shake_resp_body`, which a `TERMINATE_RESP` has as
well. -/
def sessionRespBody (x : SessionResp) : Bytes :=
  x.versionId.bytes ++ x.requestId.bytes ++ x.sessionId.bytes ++ x.status.bytes

/-- A response of a version, two ids and a status. -/
def serializeSessionResp (command : Int) (x : SessionResp) : Bytes :=
  le32 32 ++ le32 command ++ sessionRespBody x

/-- `serialize_and_encrypt_commit_response` and `serialize_and_encrypt_rollback_response`. -/
def serializeStatusResp (command : Int) (x : StatusResp) : Bytes :=
  le32 28 ++ le32 command ++ x.requestId.bytes ++ x.sessionId.bytes ++ x.status.bytes

/-- `serialize_and_encrypt_response`. -/
def serializeCheckinResp (x : CheckinResp) : Bytes :=
  le32 98 ++ le32 CHECKIN_RESP ++ x.requestId.bytes ++ x.sessionId.bytes ++ x.status.bytes ++
    pad x.etag 24 ++ x.station.bytes ++ x.lane.bytes ++ x.ticketId.bytes ++ x.ticketType.bytes ++
    x.price.bytes ++ x.vehicleType.bytes ++ pad x.plate 10 ++ x.plateType.bytes ++
    x.priceTicketType.bytes

/-- `chars().next().unwrap_or('L') as u8`. -/
def ticketTypeByte (ticketType : String) : UInt8 :=
  UInt8.ofNat (ticketType.toList.head?.getD 'L').toNat

/-- The common part of `QUERY_VEHICLE_BOO_RESP` and `LOOKUP_VEHICLE_RESP`. -/
def vehicleRespBody (x : VehicleResp) : Bytes :=
  x.versionId.bytes ++ x.requestId.bytes ++ x.sessionId.bytes ++ x.timestamp.bytes ++
    x.processTime.bytes ++ pad x.etag 24 ++ x.vehicleType.bytes ++ [ticketTypeByte x.ticketType] ++
    pad x.registerVehicleType 10 ++ x.seat.bytes ++ x.weightGoods.bytes ++ x.weightAll.bytes ++
    pad x.plate 10 ++ x.status.bytes ++ x.minBalanceStatus.bytes ++ x.general1.val ++
    x.general2.val

/-- `serialize_and_encrypt_query_vehicle_boo_resp`. -/
def serializeQueryVehicleBooResp (x : VehicleResp) : Bytes :=
  resize (le32 133 ++ le32 QUERY_VEHICLE_BOO_RESP ++ vehicleRespBody x) 133

/-- `serialize_and_encrypt_lookup_vehicle_resp`. -/
def serializeLookupVehicleResp (x : VehicleResp) (extra : Raw 64) : Bytes :=
  resize (le32 197 ++ le32 LOOKUP_VEHICLE_RESP ++ vehicleRespBody x ++ extra.val) 197

/-- `build_checkout_reserve_boo_resp`. -/
def buildCheckoutReserveBooResp (x : CheckoutReserveBooResp) : Bytes :=
  resize (le32 100 ++ le32 CHECKOUT_RESERVE_BOO_RESP ++ x.versionId.bytes ++ x.requestId.bytes ++
    x.sessionId.bytes ++ x.timestamp.bytes ++ x.processTime.bytes ++ x.ticketInId.bytes ++
    (x.hubId.getD (.wrap 8 0)).bytes ++ x.ticketETagId.bytes ++ x.ticketOutId.bytes ++
    x.status.bytes ++ x.general1.val ++ x.general2.val) 100

/-- `build_checkout_commit_boo_resp` and `build_checkout_rollback_boo_resp`. -/
def buildCheckoutBooResp (command : Int) (x : CheckoutBooResp) : Bytes :=
  resize (le32 96 ++ le32 command ++ x.versionId.bytes ++ x.requestId.bytes ++
    x.sessionId.bytes ++ x.timestamp.bytes ++ x.ticketInId.bytes ++ x.hubId.bytes ++
    x.ticketETagId.bytes ++ x.ticketOutId.bytes ++ x.status.bytes ++ x.general1.val ++
    x.general2.val) 96

/-- The plaintext of a response. -/
def serialize : Response → Bytes
  | .connect x => serializeSessionResp CONNECT_RESP x
  | .shake x => serializeSessionResp SHAKE_RESP x
  | .terminate x => serializeSessionResp TERMINATE_RESP x
  | .checkin x => serializeCheckinResp x
  | .commit x => serializeStatusResp COMMIT_RESP x
  | .rollback x => serializeStatusResp ROLLBACK_RESP x
  | .queryVehicleBoo x => serializeQueryVehicleBooResp x
  | .lookupVehicle x extra => serializeLookupVehicleResp x extra
  | .checkoutReserveBoo x => buildCheckoutReserveBooResp x
  | .checkoutCommitBoo x => buildCheckoutBooResp CHECKOUT_COMMIT_BOO_RESP x
  | .checkoutRollbackBoo x => buildCheckoutBooResp CHECKOUT_ROLLBACK_BOO_RESP x

end TollBackend.Fe

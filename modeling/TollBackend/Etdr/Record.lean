import TollBackend.Basic

/-!
# Entry transaction data records

`Etdr` is the record a check-in leaves in memory and every later message of the trip
updates. This module has the record, the requests it is built and updated from, and the
constructors and updates of `types_impl`.

## Main definitions

* `Etdr`, `BooRatingDetail`: the record and one line of its fee.
* `Etdr.fromCheckinBect`: the record of a fresh check-in.
* `Etdr.updateFromCheckoutLocalBoo`: what a reserve adds to the record.
-/

namespace TollBackend

/-! ### Requests -/

/-- The request `CHECKIN` of the front end. -/
structure FeCheckin where
  commandId : Int := 0x66
  requestId : Int := 0
  etag : String := ""
  station : Int := 0
  lane : Int := 0
  plate : String := ""
  tid : String := ""
  hashValue : String := ""
deriving DecidableEq

/-- The request `COMMIT` of the front end. -/
structure FeCommitIn where
  requestId : Int := 0
  etag : String := ""
  station : Int := 0
  lane : Int := 0
  ticketId : Int := 0
  plate : String := ""
  imageCount : Int := 0
  weight : Int := 0
  reasonId : Int := 0
deriving DecidableEq

/-- The request `CHECKOUT_RESERVE_BOO` of the exit station. -/
structure CheckoutReserveBoo where
  requestId : Int := 0
  etag : String := ""
  ticketInId : Int := 0
  stationOut : Int := 0
  laneOut : Int := 0
  plate : String := ""
deriving DecidableEq

/-- The request `CHECKOUT_COMMIT_BOO` of the exit station. -/
structure CheckoutCommitBoo where
  requestId : Int := 0
  etag : String := ""
  ticketInId : Int := 0
deriving DecidableEq

/-- The request `CHECKOUT_ROLLBACK_BOO` of the exit station. -/
structure CheckoutRollbackBoo where
  requestId : Int := 0
  etag : String := ""
  ticketInId : Int := 0
  hubId : Int := 0
  ticketOutId : Int := 0
  ticketEtagId : Int := 0
deriving DecidableEq

/-! ### Records -/

/-- One line of a fee, shared by the record and the Kafka events. -/
structure BooRatingDetail where
  boo : Int := 0
  tollAId : Int := 0
  tollBId : Int := 0
  ticketType : String := ""
  subscriptionId : Option String := none
  priceTicketType : Int := 0
  priceAmount : Int := 0
  vehicleType : Int := 0
  priceId : Option Int := none
  botId : Option Int := none
  stageId : Option Int := none
deriving DecidableEq, Repr

/-- The line as it is read back after it was serialized: `price_id`, `bot_id` and `stage_id` are
not written. -/
def BooRatingDetail.readBack (detail : BooRatingDetail) : BooRatingDetail :=
  { detail with priceId := none, botId := none, stageId := none }

/-- The entry transaction data record. A time or an id is `0` until the message that sets
it has been handled. -/
structure Etdr where
  timeUpdate : Int := 0
  subId : Int := 0
  etagId : String := ""
  etagKey : Option Int := none
  etagNumber : String := ""
  accountId : Int := 0
  vehicleId : Int := 0
  status : Int := 0
  hashValue : String := ""
  vehicleType : String := ""
  vehicleTypeProfile : String := ""
  plate : String := ""
  plateStatus : Int := 0
  seatNum : Option Int := none
  weight : Int := 0
  weightGoods : Option Int := none
  weightAll : Option Int := none
  registerVehicleType : String := ""
  vehicleLength : Int := 0
  requestId : Int := 0
  ticketId : Int := 0
  refTransId : Int := 0
  commandId : Int := 0
  tId : String := ""
  ticketType : Int := 0
  priceTicketType : Int := 0
  price : Int := 0
  priceId : Option Int := none
  commitAmount : Int := 0
  reasonId : Int := 0
  imageCount : Int := 0
  stationId : Int := 0
  stationType : Int := 0
  laneId : Int := 0
  tollOut : Int := 0
  laneOut : Int := 0
  timeRouteCheckin : Int := 0
  timeRouteCheckinCommit : Int := 0
  timeRouteCheckout : Int := 0
  timeStationCheckin : Int := 0
  checkinDatetime : Int := 0
  checkinCommitDatetime : Int := 0
  checkoutDatetime : Int := 0
  checkoutCommitDatetime : Int := 0
  booTicketId : Int := 0
  booTransAmount : Int := 0
  booTransDatetime : Option Int := none
  booLaneType : Option String := none
  booTollType : Option String := none
  booTicketType : Option String := none
  booSubscriptionIds : Option String := none
  chargeIn : Option String := none
  subChargeIn : Option String := none
  chargeInStatus : Option String := none
  chargeTransId : Option String := none
  chargeDatetime : Option Int := none
  chargeIn104 : Option String := none
  chdType : Option String := none
  chdRefId : Option String := none
  chdReason : Option String := none
  ratingDetails : List BooRatingDetail := []
  tollTurningTimeCode : Option String := none
  check : Int := 0
  freeTurning : Bool := false
  enoughMinBalance : Bool := false
  ratingType : Option String := none
  feTransId : Option String := none
  ticketInId : Option Int := none
  ticketEtagId : Option Int := none
  ticketOutId : Option Int := none
  hubId : Option Int := none
  checkinFromSync : Bool := false
  dbSaved : Bool := false
  dbSaveRetryCount : Int := 0
  syncStatus : Int := 0
deriving Inhabited

namespace Etdr

/-- `ETDR::from_checkin_bect`. The reference id mixes the client's request id with the
clock; `process_checkin` then replaces the ticket id, but not the reference id nor the
`ticketInId`. -/
def fromCheckinBect (feCheckin : FeCheckin) (now : Clock) : Etdr :=
  let refTransId := toI64 (toI64 (feCheckin.requestId * 1000000) + now.ms % 1000000)
  { timeUpdate := now.ms
    etagId := feCheckin.etag
    etagNumber := feCheckin.etag
    hashValue := feCheckin.hashValue
    vehicleType := "1"
    vehicleTypeProfile := "STD"
    plate := feCheckin.plate
    requestId := feCheckin.requestId
    ticketId := refTransId
    refTransId := refTransId
    commandId := feCheckin.commandId
    tId := feCheckin.tid
    ticketType := 1
    priceTicketType := 1
    stationId := feCheckin.station
    stationType := 1
    laneId := feCheckin.lane
    timeRouteCheckin := now.ms
    timeStationCheckin := now.ms
    checkinDatetime := now.ms
    booTicketId := refTransId
    booTransDatetime := some now.ms
    booTicketType := some "L"
    enoughMinBalance := true
    ratingType := some "E"
    feTransId := some (toString feCheckin.requestId)
    ticketInId := some refTransId }

/-- `ETDR::update_from_checkout_local_boo`: the exit station and the fee of a reserve. -/
def updateFromCheckoutLocalBoo (etdr : Etdr) (req : CheckoutReserveBoo) (transAmount : Int)
    (now : Clock) : Etdr :=
  { etdr with
    status := 0
    checkoutDatetime := now.ms
    timeRouteCheckout := now.ms
    timeUpdate := now.ms
    tollOut := req.stationOut
    laneOut := req.laneOut
    price := transAmount
    booTransAmount := transAmount
    booTransDatetime := some now.ms
    booLaneType := some "O"
    plate := if isBlank req.plate then etdr.plate else trim req.plate }

@[simp] theorem updateFromCheckoutLocalBoo_ticketId (etdr : Etdr) (req : CheckoutReserveBoo)
    (transAmount : Int) (now : Clock) :
    (etdr.updateFromCheckoutLocalBoo req transAmount now).ticketId = etdr.ticketId := rfl

@[simp] theorem updateFromCheckoutLocalBoo_etagId (etdr : Etdr) (req : CheckoutReserveBoo)
    (transAmount : Int) (now : Clock) :
    (etdr.updateFromCheckoutLocalBoo req transAmount now).etagId = etdr.etagId := rfl

@[simp] theorem updateFromCheckoutLocalBoo_checkoutDatetime (etdr : Etdr)
    (req : CheckoutReserveBoo) (transAmount : Int) (now : Clock) :
    (etdr.updateFromCheckoutLocalBoo req transAmount now).checkoutDatetime = now.ms := rfl

/-- The record as it is read back from KeyDB. -/
def readBack (etdr : Etdr) : Etdr :=
  { etdr with ratingDetails := etdr.ratingDetails.map BooRatingDetail.readBack }

/-- The record after its check-in commit at `now`, as all three outcomes of
`update_checkin_commit` leave it. -/
def commitCheckin (etdr : Etdr) (now : Clock) : Etdr :=
  { etdr with
    checkinCommitDatetime := now.ms
    timeRouteCheckinCommit := now.ms
    timeUpdate := now.ms }

end Etdr

end TollBackend

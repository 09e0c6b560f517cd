import TollBackend.Handlers.Commit

/-!
# Checkout

The three messages of the exit station. A reserve records the exit and the fee, and charges
the account of the tag provisionally; a commit makes the charge final and forgets the
record; a rollback is only acknowledged.

## Main definitions

* `processCheckoutReserve`: `process_checkout_reserve_bect`.
* `processCheckoutCommit`: `process_checkout_commit_bect`.
* `handleCheckoutRollback`: `handle_checkout_rollback_boo`.
-/

namespace TollBackend

open Concurrent

/-- `bect::NOT_FOUND_PRICE_INFO`. -/
def notFoundPriceInfo : Int := 303

/-- `bect::ACCOUNT_IS_NOT_ACTIVE`. -/
def accountIsNotActive : Int := 102

/-- `bect::SUBSCRIBER_NOT_FOUND`. -/
def subscriberNotFound : Int := 100

/-- `ticket_type_i32_to_str`. -/
def ticketTypeI32ToStr (n : Int) : String :=
  if n = 2 then "T" else if n = 3 then "Q" else if n = 4 then "N" else "L"

/-! ### Reserve -/

/-- The records that a reserve refuses. -/
def Etdr.ReserveRefused (etdr : Etdr) : Prop :=
  etdr.tollOut ≠ 0 ∨ etdr.checkoutDatetime ≠ 0 ∨ etdr.checkinCommitDatetime = 0 ∨
    etdr.checkoutCommitDatetime ≠ 0 ∨ etdr.checkinDatetime = 0

instance : DecidablePred Etdr.ReserveRefused := fun etdr => by
  unfold Etdr.ReserveRefused; infer_instance

/-- `price_ticket_type_for_etdr_from_rating_details`. -/
def priceTicketTypeFor (details : List RatingDetail) (fallback : Int) : Int :=
  ((details.map (·.priceTicketType)).find? fun v => decide (0 < v)).getD fallback

/-- The status that a reserve answers after its fee is known. -/
def reserveErrorStatus (env : Ambient) (subscriberInfo : Option SubscriberInfo) : Int :=
  -- BECT_SKIP_ACCOUNT_CHECK lets every tag pass
  if env.bectSkipAccountCheck then 0
  else
    match subscriberInfo with
    | some sub => if sub.accountId ≤ 0 then accountIsNotActive else 0
    | none => subscriberNotFound

/-- The columns of `update_checkout_info` for a reserve; `etdr` is the updated record. -/
def checkoutInfoColumns (req : CheckoutReserveBoo) (etdr : Etdr) (transAmount : Int)
    (errorStatus : Int) (accountTransId : Option Int) (now : Clock) : CheckoutInfoColumns where
  checkoutTollId := req.stationOut
  checkoutLaneId := req.laneOut
  checkoutPlate := if isBlank req.plate then plateEmptySentinel else trim req.plate
  totalAmount := transAmount
  checkoutDatetime := now.dbDatetime
  lastUpdate := now.dbDatetime
  chargeStatus := if errorStatus = 0 then "PENDING" else "FALL"
  chargeType := ticketTypeI32ToStr etdr.ticketType
  vehicleType := etdr.vehicleType
  turningCode := etdr.tollTurningTimeCode
  checkoutTid := some etdr.tId
  chargeIn := "E"
  accountId := etdr.accountId
  chargeInStatus := etdr.chargeInStatus
  checkoutStatus := some "1"
  accountTransId := accountTransId
  checkoutPlateStatus := some (if errorStatus = 0 then "1" else "0")
  checkoutChannel := some req.laneOut
  checkoutPass := some (if errorStatus = 0 then "P" else "F")
  checkoutPassReasonId := if errorStatus = 0 then none else some ("RT-" ++ toString errorStatus)
  checkoutImgCount := some 0
  status := some (dbStatus etdr.status)

/-- The fee lines of a reserve. -/
def tcdListFromRating (req : CheckoutReserveBoo) (etdr : Etdr) (transAmount : Int)
    (details : List RatingDetail) (now : Clock) : List TransportTransStageTcd :=
  let checkinDatetime := some ((epochToDatetimeUtc etdr.checkinDatetime).getD now.dbDatetime)
  if details.isEmpty then
    [{ transportTransId := etdr.ticketId
       boo := 3
       tollAId := some etdr.stationId
       tollBId := some req.stationOut
       ticketType := some (ticketTypeI32ToStr etdr.ticketType)
       priceTicketType := some (toString etdr.priceTicketType)
       priceAmount := some transAmount
       vehicleType := some ((parseInt 64 etdr.vehicleType).getD 1)
       checkinDatetime := checkinDatetime }]
  else
    details.map fun detail =>
      { transportTransId := etdr.ticketId
        boo := detail.boo
        botId := some (detail.botId.getD 0)
        tollAId := some detail.tollAId
        tollBId := some detail.tollBId
        stageId := detail.stageId
        priceId := detail.priceId
        ticketType := some (if normalizeEtag detail.ticketType = "" then
          ticketTypeI32ToStr etdr.ticketType else normalizeEtag detail.ticketType)
        priceTicketType := some (toString detail.priceTicketType)
        priceAmount := some detail.priceAmount
        subscriptionId := if isBlank detail.subscriptionId then none else some detail.subscriptionId
        vehicleType := some detail.vehicleType
        checkinDatetime := checkinDatetime }

/-- Save the fee lines, or leave them to the retry. -/
def saveTcdOrPending (id : Int) (list : List TransportTransStageTcd) : Program Unit := do
  match ← ask (.saveTcdList id list) with
  | .ok () => return ()
  | .error _ => perform (.setPendingTcd id list)

/-- The provisional charge: the id of the account transaction, if one was inserted. -/
def chargeAccount (accountId transAmount ticketId : Int) (now : Clock) :
    Program (Option Int) := do
  if 0 < accountId ∧ 0 < transAmount then
    match ← perform (.accountInsert ⟨accountId, transAmount, now.dbDatetime, ticketId⟩) with
    | .ok id => return some id
    | .error _ => return none
  else return none

/-- A reserve whose fee is known. The results of all its statements but the charge are
discarded. -/
def reserveEtdr (req : CheckoutReserveBoo) (etdr : Etdr) (transAmount : Int)
    (details : List RatingDetail) : Program Unit := do
  let subscriberInfo ← ask (.subscriberByEtag (normalizeEtag req.etag))
  let env ← ask .observe
  let errorStatus := reserveErrorStatus env subscriberInfo
  -- the exit is saved also when the reserve is going to be refused
  let write := EtdrWrite.checkoutReserved etdr req transAmount
    (priceTicketTypeFor details etdr.priceTicketType) env.now
  perform (.saveEtdr write)
  let env ← ask .observe
  let accountTransId ← chargeAccount ((subscriberInfo.map (·.accountId)).getD 0) transAmount
    etdr.ticketId env.now
  -- `let _ =`: the answer does not depend on the row
  let _ ← perform (.stageUpdateCheckoutInfo etdr.ticketId
    (checkoutInfoColumns req write.etdr transAmount errorStatus accountTransId env.now))
  saveTcdOrPending etdr.ticketId (tcdListFromRating req write.etdr transAmount details env.now)
  perform (.answer (.reserve req errorStatus etdr.ticketId))

/-- `process_checkout_reserve_bect`. -/
def processCheckoutReserve (req : CheckoutReserveBoo) : Program Unit := do
  match ← resolveLatestEtdr (normalizeEtag req.etag) with
  | none => perform (.answer (.reserve req notFoundRouteTransaction 0))
  | some etdr =>
      if etdr.ReserveRefused then
        perform (.answer (.reserve req notFoundRouteTransaction etdr.ticketId))
      else
        match ← ask (.calculateTollFee etdr req) with
        | some (transAmount, details) => reserveEtdr req etdr transAmount details
        | none => do
            let env ← ask .observe
            -- ALLOW_ZERO_FEE_WHEN_NO_PRICE_OR_ROUTE: the trip goes on with a fee of 0
            if env.allowZeroFeeWhenNoPriceOrRoute then reserveEtdr req etdr 0 []
            else perform (.answer (.reserve req notFoundPriceInfo etdr.ticketId))

/-! ### Commit -/

/-- The records that a checkout commit refuses. -/
def Etdr.CheckoutCommitRefused (etdr : Etdr) : Prop :=
  etdr.checkoutDatetime = 0 ∨ etdr.checkoutCommitDatetime ≠ 0 ∨ etdr.checkinCommitDatetime = 0

instance : DecidablePred Etdr.CheckoutCommitRefused := fun etdr => by
  unfold Etdr.CheckoutCommitRefused; infer_instance

/-- `allow_commit_or_rollback`. -/
def allowCommitOrRollback (autocommit autocommitStatus : Option Int) : Bool :=
  autocommitStatus.isNone && autocommit != some 1

/-- Make the charge of a row final. A failure of either statement is discarded. -/
def commitAccount (accountTransId : Option Int) (now : Clock) : Program Unit := do
  match accountTransId with
  | none => return ()
  | some id =>
      if 0 < id then
        match ← ask (.accountTransactionForCommit id) with
        | .ok (some data) =>
            -- a charge that was made final once is left as it is
            if allowCommitOrRollback data.autocommit data.autocommitStatus then do
              let _ ← perform (.accountUpdateCommitStatus id autocommitStatusSuccess now.dbDatetime)
              return ()
            else return ()
        | _ => return ()
      else return ()

/-- The columns of `update_checkout_commit`. -/
def checkoutCommitColumns (stage : TransportTransactionStage) (now : Clock) :
    CheckoutCommitColumns where
  checkoutCommitDatetime := now.dbDatetime
  checkoutImgCount := 0
  lastUpdate := now.dbDatetime
  chargeStatus := "COMMIT"
  checkoutStatus := some "1"
  feReasonId := none
  checkoutDatetime := none
  imgCount := none
  checkoutPlateStatus := some "1"
  checkoutPlate := stage.checkoutPlate
  syncStatus := some 0

/-- `clear_etdr_after_transaction_complete` for one ticket. -/
def clearEtdrAfterTransactionComplete (ticketId : Int) : Program Unit := do
  perform (.cacheRemoveByTicketId ticketId)
  perform (.removePendingTcd ticketId)
  perform (.keydbRemove (.retry ticketId))

/-- The commit of a row. -/
def commitStage (req : CheckoutCommitBoo) (etdr : Etdr) (stage : TransportTransactionStage)
    (ticketId : Int) : Program Unit := do
  let env ← ask .observe
  commitAccount stage.accountTransId env.now
  -- the event is sent and the record is forgotten even if the row was not updated
  let _ ← perform (.stageUpdateCheckoutCommit ticketId (checkoutCommitColumns stage env.now))
  perform (.sendKafka (.checkout etdr env.now.ms))
  clearEtdrAfterTransactionComplete ticketId
  perform (.answer (.checkoutCommit req 0 ticketId))

/-- The commit of a record. -/
def checkoutCommitEtdr (req : CheckoutCommitBoo) (etdr : Etdr) (ticketId : Int) :
    Program Unit := do
  if etdr.CheckoutCommitRefused then
    perform (.answer (.checkoutCommit req notFoundRouteTransaction ticketId))
  else
    match ← ask (.stageFindById ticketId) with
    | .ok (some stage) => commitStage req etdr stage ticketId
    | _ => perform (.answer (.checkoutCommit req notFoundRouteTransaction ticketId))

/-- The ticket that a commit is about. -/
def checkoutCommitTicket (req : CheckoutCommitBoo) : Program Int := do
  if req.ticketInId ≠ 0 then return req.ticketInId
  else do
    let etdr ← resolveLatestEtdr (normalizeEtag req.etag)
    return (etdr.map (·.ticketId)).getD 0

/-- The record of the ticket: of any tag from the cache, or else the latest of the tag. -/
def checkoutCommitRecord (req : CheckoutCommitBoo) (ticketId : Int) : Program (Option Etdr) := do
  -- the tag of the record is not compared with that of the request
  match ← perform (.cacheGetByTicketId ticketId) with
  | some etdr => return some etdr
  | none => do
      let etdr ← resolveLatestEtdr (normalizeEtag req.etag)
      return etdr.filter fun e => e.ticketId == ticketId

/-- `process_checkout_commit_bect`. -/
def processCheckoutCommit (req : CheckoutCommitBoo) : Program Unit := do
  let ticketId ← checkoutCommitTicket req
  if ticketId = 0 then perform (.answer (.checkoutCommit req notFoundRouteTransaction 0))
  else
    match ← checkoutCommitRecord req ticketId with
    | none => perform (.answer (.checkoutCommit req notFoundRouteTransaction ticketId))
    | some etdr => checkoutCommitEtdr req etdr ticketId

/-! ### Rollback -/

/-- `handle_checkout_rollback_boo`: the request is answered with success and nothing is
done. -/
def handleCheckoutRollback (req : CheckoutRollbackBoo) : Program Unit :=
  perform (.answer (.checkoutRollback req 0 req.ticketInId))

end TollBackend

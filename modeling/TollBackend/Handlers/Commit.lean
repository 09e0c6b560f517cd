import TollBackend.Handlers.Lookup

/-!
# Commit of a check-in

`process_commit` on an entry lane. The handler goes by the tag alone: it commits the latest
record of the tag, whichever ticket the request names.

## Main definitions

* `processCommit`: the handler.
-/

namespace TollBackend

open Concurrent

/-- `fe::NOT_FOUND_STATION_LANE`. -/
def notFoundStationLane : Int := 301

/-- `fe::NOT_FOUND_ROUTE_TRANSACTION`. -/
def notFoundRouteTransaction : Int := 202

/-- `fe::DUPLICATE_TRANSACTION`. -/
def duplicateTransaction : Int := 213

/-- `lane_type::IN`. -/
def laneTypeIn : String := "1"

/-- `lane_type::OUT`. -/
def laneTypeOut : String := "2"

/-- The records that a check-in commit refuses. -/
def Etdr.CheckinCommitRefused (etdr : Etdr) : Prop :=
  etdr.checkinCommitDatetime ≠ 0 ∨ etdr.checkinDatetime = 0 ∨ etdr.checkoutDatetime ≠ 0 ∨
    etdr.checkoutCommitDatetime ≠ 0

instance : DecidablePred Etdr.CheckinCommitRefused := fun etdr => by
  unfold Etdr.CheckinCommitRefused; infer_instance

/-- The columns of `update_checkin_commit` for a request. -/
def checkinCommitColumns (req : FeCommitIn) (now : Clock) : CheckinCommitColumns where
  checkinCommitDatetime := now.dbDatetime
  checkinImgCount := req.imageCount
  lastUpdate := now.dbDatetime
  checkinPass := "P"
  feWeight := positive? req.weight
  feReasonId := positive? req.reasonId
  imgCount := some req.imageCount
  checkinStatus := some "2"

/-- `ensure_no_duplicate_ticket_in_id_bect`: whether another row has the same
`TICKET_IN_ID`. -/
def duplicateTicketInId (ticketInId : Option Int) (current : Int) : Program Bool := do
  match ← findByTicketInIdIfSet ticketInId with
  | .ok (some record) => return record.transportTransId != current
  | _ => return false

/-- The fee lines that fill a record without any. -/
def ratingDetailsIfEmpty (etdr : Etdr) : Program (List BooRatingDetail) :=
  if etdr.ratingDetails.isEmpty then ask (.ratingDetailCached etdr.ticketId) else return []

/-- What an `UPDATE` of a check-in commit adds to the record: the time, the fee lines, and
whether it is saved. It counts as committed whatever the outcome; only a success marks it as
saved. -/
def commitOutcome (etdr : Etdr) (updated : DbResult Bool) :
    Program (Clock × List BooRatingDetail × Bool) := do
  let env ← ask .observe
  match updated with
  | .ok true => do
      let details ← ratingDetailsIfEmpty etdr
      return (env.now, details, true)
  | _ => return (env.now, [], etdr.dbSaved)

/-- What follows the `UPDATE` of a check-in commit. -/
def finishCommit (req : FeCommitIn) (etdr : Etdr) (updated : DbResult Bool) : Program Unit := do
  let outcome ← commitOutcome etdr updated
  let write := EtdrWrite.checkinCommitted etdr outcome.1 outcome.2.1 outcome.2.2
  perform (.saveEtdr write)
  perform (.sendKafka (.checkin write.etdr))
  perform (.answer (.commit req 0 etdr.ticketId))

/-- The commit of a record that was not refused; `now` was read before the lookup. -/
def commitEtdr (req : FeCommitIn) (etdr : Etdr) (now : Clock) : Program Unit := do
  match ← ask (.stageFindById etdr.ticketId) with
  | .ok (some stage) =>
      if stage.checkinCommitDatetime.isSome then
        perform (.answer (.commit req notFoundRouteTransaction etdr.ticketId))
      else if ← duplicateTicketInId stage.ticketInId etdr.ticketId then
        perform (.answer (.commit req duplicateTransaction etdr.ticketId))
      else do
        let updated ←
          perform (.stageUpdateCheckinCommit etdr.ticketId (checkinCommitColumns req now))
        finishCommit req etdr updated
  | _ => perform (.answer (.commit req notFoundRouteTransaction etdr.ticketId))

/-- The commit on an entry lane. -/
def commitIn (req : FeCommitIn) : Program Unit := do
  let env ← ask .observe
  match ← resolveLatestEtdr (normalizeEtag req.etag) with
  | none => perform (.answer (.commit req notFoundRouteTransaction 0))
  | some etdr =>
      if etdr.CheckinCommitRefused then
        perform (.answer (.commit req notFoundRouteTransaction etdr.ticketId))
      else commitEtdr req etdr env.now

/-- The commit on a lane that is not known: the latest cached record is saved again. -/
def commitUnknownLane (req : FeCommitIn) : Program Unit := do
  match ← perform (.cacheGetLatestCheckin (normalizeEtag req.etag)) with
  | none => perform (.answer (.commit req notFoundStationLane 0))
  | some etdr => do
      let env ← ask .observe
      perform (.saveEtdr (.touched etdr env.now))
      perform (.answer (.commit req notFoundStationLane etdr.ticketId))

/-- `process_commit`. -/
def processCommit (req : FeCommitIn) : Program Unit := do
  match ← ask (.laneType req.station req.lane) with
  | none => commitUnknownLane req
  | some laneType =>
      if laneType = laneTypeIn then commitIn req
      else if laneType = laneTypeOut then
        perform (.answer (.commit req notFoundRouteTransaction 0))
      else perform (.answer (.commit req notFoundStationLane 0))

end TollBackend

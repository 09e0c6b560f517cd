import TollBackend.Concurrent.Serial
import TollBackend.Effects
import TollBackend.Etdr.Retry
import TollBackend.Handlers.Checkin
import TollBackend.Handlers.Checkout

/-!
# The backend as a system of requests

The requests that share the state: the messages of the stations, lookups of a tag, cycles of
the retry task, writes to KeyDB that were spawned, and hub updates. Any number of them run
together, interleaved between their operations.

## Main definitions

* `Req`, `Req.program`: the requests and their programs.
* `backend`: the system.
* `Req.Performs`: the operations that a request can perform.

## Main results

* `program_only`: a request performs no other operations.
* `performs_of_reaches`: nor does it in a run.
-/

namespace TollBackend

open Concurrent

/-- What the backend serves. -/
inductive Req : Type
  | checkin (call : CheckinCall)
  | commit (req : FeCommitIn)
  | reserve (req : CheckoutReserveBoo)
  | checkoutCommit (req : CheckoutCommitBoo)
  | rollback (req : CheckoutRollbackBoo)
  | lookup (etag : String)
  | retryCycle
  | syncKeydb
  | hubUpdate (ticketId hubId : Int)

/-- The consumer of `CHECKIN_HUB_INFO`. -/
def updateHubId (ticketId hubId : Int) : Program Unit := do
  let _ ← perform (.stageUpdateHubId ticketId hubId)
  perform (.cacheUpdateHubId ticketId hubId)

/-- The program of a request. -/
def Req.program : Req → Program Unit
  | .checkin call => processCheckin call
  | .commit req => processCommit req
  | .reserve req => processCheckoutReserve req
  | .checkoutCommit req => processCheckoutCommit req
  | .rollback req => handleCheckoutRollback req
  | .lookup etag => do
      let _ ← getBestPendingFromSyncOrMainBect etag
      return ()
  | .retryCycle => etdrDbRetryCycle
  | .syncKeydb => syncEtdrToKeydb
  | .hubUpdate ticketId hubId => updateHubId ticketId hubId

/-- The backend. -/
def backend : System Op Op.Res Choice Sys Req where
  exec := Op.exec
  prog := Req.program

@[simp] theorem backend_exec (o : Op) (c : Choice) (s : Sys) :
    backend.exec o c s = o.exec c s := rfl

/-! ### The operations of each request -/

/-- The operations of a check-in. What it stores has no exit. -/
inductive CheckinOp (req : FeCheckin) : Op → Prop
  | ask (q : Query) : CheckinOp req (.ask q)
  | insertRow {stage : TransportTransactionStage} (entering : stage.checkoutDatetime = none) :
      CheckinOp req (.stageInsertRow stage)
  | save {etdr : Etdr} (entering : etdr.checkoutDatetime = 0) :
      CheckinOp req (.saveEtdr (.checkin etdr))
  | answer (status ticketId : Int) : CheckinOp req (.answer (.checkin req status ticketId))

/-- The operations of a check-in commit. -/
inductive CommitOp (req : FeCommitIn) : Op → Prop
  | lookup (o : Op) (op : LookupOp o) : CommitOp req o
  | touch (etdr : Etdr) (now : Clock) : CommitOp req (.saveEtdr (.touched etdr now))
  | update (id : Int) (cols : CheckinCommitColumns) :
      CommitOp req (.stageUpdateCheckinCommit id cols)
  | save (etdr : Etdr) (now : Clock) (details : List BooRatingDetail) (dbSaved : Bool) :
      CommitOp req (.saveEtdr (.checkinCommitted etdr now details dbSaved))
  | kafka (etdr : Etdr) : CommitOp req (.sendKafka (.checkin etdr))
  | answer (status ticketId : Int) : CommitOp req (.answer (.commit req status ticketId))

/-- The operations of a reserve. -/
inductive ReserveOp (req : CheckoutReserveBoo) : Op → Prop
  | lookup (o : Op) (op : LookupOp o) : ReserveOp req o
  | save (etdr : Etdr) (transAmount priceTicketType : Int) (now : Clock)
      (accepted : ¬ etdr.ReserveRefused) :
      ReserveOp req (.saveEtdr (.checkoutReserved etdr req transAmount priceTicketType now))
  | charge (params : InsertAccountTransactionParams) : ReserveOp req (.accountInsert params)
  | update (id : Int) (cols : CheckoutInfoColumns) :
      ReserveOp req (.stageUpdateCheckoutInfo id cols)
  | pending (id : Int) (list : List TransportTransStageTcd) :
      ReserveOp req (.setPendingTcd id list)
  | answer (status ticketId : Int) : ReserveOp req (.answer (.reserve req status ticketId))

/-- The operations of a checkout commit. -/
inductive CheckoutCommitOp (req : CheckoutCommitBoo) : Op → Prop
  | lookup (o : Op) (op : LookupOp o) : CheckoutCommitOp req o
  | getByTicket (ticketId : Int) : CheckoutCommitOp req (.cacheGetByTicketId ticketId)
  | commitAccount (id : Int) (finishDatetime : DbDatetime) :
      CheckoutCommitOp req (.accountUpdateCommitStatus id autocommitStatusSuccess finishDatetime)
  | update (id : Int) (cols : CheckoutCommitColumns) :
      CheckoutCommitOp req (.stageUpdateCheckoutCommit id cols)
  | kafka (etdr : Etdr) (at_ : Int) : CheckoutCommitOp req (.sendKafka (.checkout etdr at_))
  | remove (ticketId : Int) : CheckoutCommitOp req (.cacheRemoveByTicketId ticketId)
  | removePending (id : Int) : CheckoutCommitOp req (.removePendingTcd id)
  | removeKey (key : KeydbKey) : CheckoutCommitOp req (.keydbRemove key)
  | answer (status ticketId : Int) :
      CheckoutCommitOp req (.answer (.checkoutCommit req status ticketId))

/-- The operations of an attempt to save one record. -/
inductive AttemptOp : Op → Prop
  | ask (q : Query) : AttemptOp (.ask q)
  | insertRow (stage : TransportTransactionStage) : AttemptOp (.stageInsertRow stage)
  | update (id : Int) (stage : TransportTransactionStage) : AttemptOp (.stageUpdate id stage)
  | removePending (id : Int) : AttemptOp (.removePendingTcd id)

/-- The operations of a cycle of the retry task. -/
inductive RetryOp : Op → Prop
  | ask (q : Query) : RetryOp (.ask q)
  | insertRow (stage : TransportTransactionStage) : RetryOp (.stageInsertRow stage)
  | update (id : Int) (stage : TransportTransactionStage) : RetryOp (.stageUpdate id stage)
  | removePending (id : Int) : RetryOp (.removePendingTcd id)
  | removeKey (key : KeydbKey) : RetryOp (.keydbRemove key)
  | setKey (key : KeydbKey) (etdr : Etdr) : RetryOp (.keydbSet key etdr)
  | remove (ticketId : Int) : RetryOp (.cacheRemoveByTicketId ticketId)
  | save (etdr : Etdr) : RetryOp (.saveEtdrToMemoryOnly etdr)

/-- The operations of a spawned write to KeyDB. -/
inductive SyncKeydbOp : Op → Prop
  | ask (q : Query) : SyncKeydbOp (.ask q)
  | take : SyncKeydbOp .takeSpawned
  | setKey (key : KeydbKey) (etdr : Etdr) : SyncKeydbOp (.keydbSet key etdr)

/-- The operations of a hub update. -/
inductive HubUpdateOp : Op → Prop
  | updateRow (id hubId : Int) : HubUpdateOp (.stageUpdateHubId id hubId)
  | updateCache (ticketId hubId : Int) : HubUpdateOp (.cacheUpdateHubId ticketId hubId)

/-- The operations that a request can perform. -/
def Req.Performs : Req → Op → Prop
  | .checkin call => CheckinOp call.req
  | .commit req => CommitOp req
  | .reserve req => ReserveOp req
  | .checkoutCommit req => CheckoutCommitOp req
  | .rollback req => fun o => o = .answer (.checkoutRollback req 0 req.ticketInId)
  | .lookup _ => LookupOp
  | .retryCycle => RetryOp
  | .syncKeydb => SyncKeydbOp
  | .hubUpdate _ _ => HubUpdateOp

theorem processCheckin_only (call : CheckinCall) :
    (processCheckin call).Only (CheckinOp call.req) := by
  have entering : ∀ {etdr}, CheckinRecord call etdr → etdr.checkoutDatetime = 0 := by
    rintro _ ⟨subscriberInfo, _, _, _⟩
    cases subscriberInfo <;> rfl
  refine (processCheckin_performs call).mono fun o op => ?_
  cases op with
  | ask q => exact .ask q
  | insertRow own ticketId id subscriberInfo now => exact .insertRow rfl
  | saved own =>
    have zero := entering own
    exact .save zero
  | unsaved own =>
    have zero := entering own
    exact .save zero
  | answer status ticketId => exact .answer status ticketId

theorem commitOutcome_only {P : Op → Prop} (queries : ∀ q, P (.ask q)) (etdr : Etdr)
    (updated : DbResult Bool) : (commitOutcome etdr updated).Only P := by
  refine (only_ask_bind _ _).mpr ⟨queries _, fun env => ?_⟩
  split
  · refine Prog.Only.bind ?_ fun _ => trivial
    unfold ratingDetailsIfEmpty
    split
    · exact (only_ask _).mpr (queries _)
    · trivial
  · trivial

theorem duplicateTicketInId_only {P : Op → Prop} (queries : ∀ q, P (.ask q))
    (ticketInId : Option Int) (current : Int) :
    (duplicateTicketInId ticketInId current).Only P := by
  refine (findByTicketInIdIfSet_only queries _).bind fun r => ?_
  split <;> trivial

theorem processCommit_only (req : FeCommitIn) : (processCommit req).Only (CommitOp req) := by
  have answered : ∀ status t, (perform (.answer (.commit req status t))).Only (CommitOp req) :=
    fun _ _ => (only_perform _).mpr (.answer _ _)
  have queries : ∀ q, CommitOp req (.ask q) := fun q => .lookup _ (.ask q)
  have resolve : (resolveLatestEtdr (normalizeEtag req.etag)).Only (CommitOp req) :=
    (resolveLatestEtdr_only _).mono .lookup
  have finish : ∀ etdr updated, (finishCommit req etdr updated).Only (CommitOp req) := by
    intro etdr updated
    refine (commitOutcome_only queries _ _).bind fun outcome => ?_
    refine (only_perform_bind _ _).mpr ⟨.save _ _ _ _, fun _ => ?_⟩
    exact (only_perform_bind _ _).mpr ⟨.kafka _, fun _ => answered _ _⟩
  refine (only_ask_bind _ _).mpr ⟨queries _, fun laneType => ?_⟩
  split
  · refine (only_perform_bind _ _).mpr ⟨.lookup _ (.getLatest _), fun cached => ?_⟩
    split
    · exact answered _ _
    · refine (only_ask_bind _ _).mpr ⟨queries _, fun env => ?_⟩
      exact (only_perform_bind _ _).mpr ⟨.touch _ _, fun _ => answered _ _⟩
  · split
    · refine (only_ask_bind _ _).mpr ⟨queries _, fun env => resolve.bind fun latest => ?_⟩
      split
      · exact answered _ _
      · split
        · exact answered _ _
        · refine (only_ask_bind _ _).mpr ⟨queries _, fun found => ?_⟩
          split
          · split
            · exact answered _ _
            · refine (duplicateTicketInId_only queries _ _).bind fun isDuplicate => ?_
              split
              · exact answered _ _
              · exact (only_perform_bind _ _).mpr ⟨.update _ _, fun _ => finish _ _⟩
          · exact answered _ _
    · split
      · exact answered _ _
      · exact answered _ _

theorem reserveEtdr_only (req : CheckoutReserveBoo) {etdr : Etdr}
    (accepted : ¬ etdr.ReserveRefused) (transAmount : Int) (details : List RatingDetail) :
    (reserveEtdr req etdr transAmount details).Only (ReserveOp req) := by
  have queries : ∀ q, ReserveOp req (.ask q) := fun q => .lookup _ (.ask q)
  refine (only_ask_bind _ _).mpr ⟨queries _, fun subscriberInfo => ?_⟩
  refine (only_ask_bind _ _).mpr ⟨queries _, fun env => ?_⟩
  refine (only_perform_bind _ _).mpr ⟨.save _ _ _ _ accepted, fun _ => ?_⟩
  refine (only_ask_bind _ _).mpr ⟨queries _, fun env' => ?_⟩
  refine Prog.Only.bind ?_ fun accountTransId => ?_
  · unfold chargeAccount
    split
    · refine (only_perform_bind _ _).mpr ⟨.charge _, fun r => ?_⟩
      split <;> trivial
    · trivial
  · refine (only_perform_bind _ _).mpr ⟨.update _ _, fun _ => ?_⟩
    refine Prog.Only.bind ?_ fun _ => (only_perform _).mpr (.answer _ _)
    refine (only_ask_bind _ _).mpr ⟨queries _, fun saved => ?_⟩
    split
    · trivial
    · exact (only_perform _).mpr (.pending _ _)

theorem processCheckoutReserve_only (req : CheckoutReserveBoo) :
    (processCheckoutReserve req).Only (ReserveOp req) := by
  have answered : ∀ status t, (perform (.answer (.reserve req status t))).Only (ReserveOp req) :=
    fun _ _ => (only_perform _).mpr (.answer _ _)
  have queries : ∀ q, ReserveOp req (.ask q) := fun q => .lookup _ (.ask q)
  have resolve : (resolveLatestEtdr (normalizeEtag req.etag)).Only (ReserveOp req) :=
    (resolveLatestEtdr_only _).mono .lookup
  refine resolve.bind fun latest => ?_
  split
  · exact answered _ _
  · split
    · exact answered _ _
    · next accepted =>
      refine (only_ask_bind _ _).mpr ⟨queries _, fun fee => ?_⟩
      split
      · exact reserveEtdr_only req accepted _ _
      · refine (only_ask_bind _ _).mpr ⟨queries _, fun env => ?_⟩
        split
        · exact reserveEtdr_only req accepted _ _
        · exact answered _ _

theorem commitStage_only (req : CheckoutCommitBoo) (etdr : Etdr)
    (stage : TransportTransactionStage) (ticketId : Int) :
    (commitStage req etdr stage ticketId).Only (CheckoutCommitOp req) := by
  have queries : ∀ q, CheckoutCommitOp req (.ask q) := fun q => .lookup _ (.ask q)
  refine (only_ask_bind _ _).mpr ⟨queries _, fun env => Prog.Only.bind ?_ fun _ => ?_⟩
  · unfold commitAccount
    split
    · trivial
    · split
      · refine (only_ask_bind _ _).mpr ⟨queries _, fun data => ?_⟩
        split
        · split
          · exact (only_perform_bind _ _).mpr ⟨.commitAccount _ _, fun _ => trivial⟩
          · trivial
        · trivial
      · trivial
  · refine (only_perform_bind _ _).mpr ⟨.update _ _, fun _ => ?_⟩
    refine (only_perform_bind _ _).mpr ⟨.kafka _ _, fun _ => ?_⟩
    refine Prog.Only.bind ?_ fun _ => (only_perform _).mpr (.answer _ _)
    refine (only_perform_bind _ _).mpr ⟨.remove _, fun _ => ?_⟩
    exact (only_perform_bind _ _).mpr ⟨.removePending _, fun _ => (only_perform _).mpr (.removeKey _)⟩

theorem processCheckoutCommit_only (req : CheckoutCommitBoo) :
    (processCheckoutCommit req).Only (CheckoutCommitOp req) := by
  have answered : ∀ status t,
      (perform (.answer (.checkoutCommit req status t))).Only (CheckoutCommitOp req) :=
    fun _ _ => (only_perform _).mpr (.answer _ _)
  have resolve : (resolveLatestEtdr (normalizeEtag req.etag)).Only (CheckoutCommitOp req) :=
    (resolveLatestEtdr_only _).mono .lookup
  have ticket : (checkoutCommitTicket req).Only (CheckoutCommitOp req) := by
    unfold checkoutCommitTicket
    split
    · trivial
    · exact resolve.bind fun _ => trivial
  refine ticket.bind fun ticketId => ?_
  split
  · exact answered _ _
  · refine Prog.Only.bind ?_ fun found => ?_
    · refine (only_perform_bind _ _).mpr ⟨.getByTicket _, fun cached => ?_⟩
      split
      · trivial
      · exact resolve.bind fun _ => trivial
    · split
      · exact answered _ _
      · unfold checkoutCommitEtdr
        split
        · exact answered _ _
        · refine (only_ask_bind _ _).mpr ⟨.lookup _ (.ask _), fun stage => ?_⟩
          split
          · exact commitStage_only req _ _ _
          · exact answered _ _

theorem retryPendingTcd_only (id : Int) : (retryPendingTcd id).Only AttemptOp := by
  refine (only_ask_bind _ _).mpr ⟨.ask _, fun list => ?_⟩
  split
  · trivial
  · split
    · trivial
    · refine (only_ask_bind _ _).mpr ⟨.ask _, fun saved => ?_⟩
      split
      · exact (only_perform _).mpr (.removePending _)
      · trivial

theorem retrySaveBect_only (etdr : Etdr) : (retrySaveBect etdr).Only AttemptOp := by
  have pending : ∀ id, (do retryPendingTcd id; return true : Program Bool).Only AttemptOp :=
    fun id => (retryPendingTcd_only id).bind fun _ => trivial
  have merge : ∀ existing id, (retryMerge etdr existing id).Only AttemptOp := by
    intro existing id
    refine (only_ask_bind _ _).mpr ⟨.ask _, fun env => ?_⟩
    refine (only_perform_bind _ _).mpr ⟨.update _ _, fun updated => ?_⟩
    split
    · exact pending _
    · trivial
  have afterFailedSave : ∀ errorMsg, (retryAfterFailedSave etdr errorMsg).Only AttemptOp := by
    intro errorMsg
    unfold retryAfterFailedSave
    split
    · refine (only_ask_bind _ _).mpr ⟨.ask _, fun found => ?_⟩
      split
      · exact pending _
      · refine (findByTicketInIdIfSet_only .ask _).bind fun existing => ?_
        split
        · exact pending _
        · trivial
      · trivial
    · trivial
  have insert : (retryInsert etdr).Only AttemptOp := by
    refine (only_ask_bind _ _).mpr ⟨.ask _, fun env => ?_⟩
    have save := (stageSave_only (buildTransportStageFromEtdr etdr env)).mono
      fun o op => (by cases op <;> constructor : AttemptOp o)
    refine save.bind fun saved => ?_
    split
    · exact pending _
    · exact afterFailedSave _
  have withoutRow : (retryWithoutRow etdr).Only AttemptOp := by
    refine (findByTicketInIdIfSet_only .ask _).bind fun existing => ?_
    split
    · exact merge _ _
    · split
      · trivial
      · exact insert
  refine (only_ask_bind _ _).mpr ⟨.ask _, fun found => ?_⟩
  split
  · exact merge _ _
  · exact withoutRow

/-- An attempt writes only to the database and to the pending fee lines. -/
theorem retrySaveEtdrToDb_only (etdr : Etdr) : (retrySaveEtdrToDb etdr).Only AttemptOp := by
  unfold retrySaveEtdrToDb
  split
  · exact retrySaveBect_only _
  · trivial

theorem retryRecord_only (key : KeydbKey) (etdr : Etdr) : (retryRecord key etdr).Only RetryOp := by
  have attempt : (retrySaveEtdrToDb etdr).Only RetryOp :=
    (retrySaveEtdrToDb_only etdr).mono fun o op => by cases op <;> constructor
  refine attempt.bind fun saved => ?_
  split
  · refine (only_perform_bind _ _).mpr ⟨.removeKey _, fun _ => ?_⟩
    split
    · exact (only_perform_bind _ _).mpr ⟨.remove _, fun _ => (only_perform _).mpr (.removeKey _)⟩
    · exact (only_perform_bind _ _).mpr ⟨.setKey _ _, fun _ => (only_perform _).mpr (.save _)⟩
  · unfold retryFailed
    dsimp only
    split
    · exact (only_perform_bind _ _).mpr ⟨.removeKey _, fun _ => (only_perform _).mpr (.remove _)⟩
    · exact (only_perform _).mpr (.setKey _ _)

theorem etdrDbRetryCycle_only : etdrDbRetryCycle.Only RetryOp := by
  have fromKeydb : etdrsFromKeydbForDbSync.Only RetryOp := by
    refine (only_ask_bind _ _).mpr ⟨.ask _, fun retryKeys => ?_⟩
    split
    · trivial
    · refine (only_ask_bind _ _).mpr ⟨.ask _, fun etagKeys => ?_⟩
      dsimp only
      split
      · trivial
      · refine (only_ask_bind _ _).mpr ⟨.ask _, fun values => ?_⟩
        split <;> trivial
  have first : ∀ toSave, (retryFirstUnlocked toSave).Only RetryOp := by
    intro toSave
    induction toSave with
    | nil => trivial
    | cons kv rest ih =>
      refine (only_ask_bind _ _).mpr ⟨.ask _, fun acquired => ?_⟩
      split
      · exact retryRecord_only _ _
      · exact ih
  refine fromKeydb.bind fun _ => (only_ask_bind _ _).mpr ⟨.ask _, fun _ => ?_⟩
  exact (only_ask_bind _ _).mpr ⟨.ask _, fun _ => first _⟩

theorem syncEtdrToKeydb_only : syncEtdrToKeydb.Only SyncKeydbOp := by
  refine (only_perform_bind _ _).mpr ⟨.take, fun spawned => ?_⟩
  split
  · trivial
  · exact (only_perform _).mpr (.setKey _ _)
  · dsimp only
    split
    · refine (only_ask_bind _ _).mpr ⟨.ask _, fun existing => ?_⟩
      exact (only_perform_bind _ _).mpr ⟨.setKey _ _, fun _ => (only_perform _).mpr (.setKey _ _)⟩
    · exact (only_perform _).mpr (.setKey _ _)

/-- A request performs only the operations that are listed for it. -/
theorem program_only (req : Req) : req.program.Only req.Performs := by
  cases req with
  | checkin call => exact processCheckin_only call
  | commit req => exact processCommit_only req
  | reserve req => exact processCheckoutReserve_only req
  | checkoutCommit req => exact processCheckoutCommit_only req
  | rollback req => exact (only_perform _).mpr rfl
  | lookup etag => exact (getBestPendingFromSyncOrMainBect_only etag).bind fun _ => trivial
  | retryCycle => exact etdrDbRetryCycle_only
  | syncKeydb => exact syncEtdrToKeydb_only
  | hubUpdate ticketId hubId =>
    exact (only_perform_bind _ _).mpr ⟨.updateRow _ _, fun _ =>
      (only_perform _).mpr (.updateCache _ _)⟩

/-! ### The answers of each request -/

/-- The answer is one to the request. -/
def Answer.IsFor (req : Req) : Answer → Prop
  | .checkin r _ _ => ∃ call, req = Req.checkin call ∧ call.req = r
  | .commit r _ _ => req = .commit r
  | .reserve r _ _ => req = .reserve r
  | .checkoutCommit r _ _ => req = .checkoutCommit r
  | .checkoutRollback r _ _ => req = .rollback r

theorem LookupOp.answer?_eq_none {o : Op} (op : LookupOp o) : o.answer? = none := by
  cases op <;> rfl

/-- A request is the only one that answers it. -/
theorem isFor_of_performs {req : Req} {o : Op} {a : Answer} (performs : req.Performs o)
    (answered : o.answer? = some a) : a.IsFor req := by
  have lookup : ∀ {o}, LookupOp o → o.answer? = some a → a.IsFor req := by
    intro o op answered
    rw [op.answer?_eq_none] at answered
    cases answered
  cases req with
  | checkin call =>
    cases performs with
    | answer status ticketId =>
      cases answered
      exact ⟨call, rfl, rfl⟩
    | _ => cases answered
  | commit commit =>
    cases performs with
    | lookup o op => exact lookup op answered
    | answer status ticketId =>
      cases answered
      rfl
    | _ => cases answered
  | reserve reserve =>
    cases performs with
    | lookup o op => exact lookup op answered
    | answer status ticketId =>
      cases answered
      rfl
    | _ => cases answered
  | checkoutCommit commit =>
    cases performs with
    | lookup o op => exact lookup op answered
    | answer status ticketId =>
      cases answered
      rfl
    | _ => cases answered
  | rollback rollback =>
    subst performs
    cases answered
    rfl
  | lookup etag => exact lookup performs answered
  | retryCycle => cases performs <;> cases answered
  | syncKeydb => cases performs <;> cases answered
  | hubUpdate ticketId hubId => cases performs <;> cases answered

/-! ### Runs -/

/-- A pool of the backend. -/
abbrev BackendPool : Type :=
  Pool Op Op.Res Choice Sys Req

/-- A step of the backend. -/
abbrev BackendLabel : Type :=
  Label Choice Req

/-- The steps of any run. -/
def anyStep : BackendPool → BackendLabel → Prop :=
  fun _ _ => True

instance (pool : BackendPool) (l : BackendLabel) : Decidable (anyStep pool l) :=
  isTrue trivial

theorem performs_of_reaches {cond : BackendPool → BackendLabel → Prop} {s : Sys}
    {pool : BackendPool} (reaches : backend.Reaches cond (Pool.init s) pool) {i : Nat} {req : Req}
    {trace : List (Event Op Choice Sys)} {o : Op} {next : o.Res → Program Unit}
    (found : pool.tasks[i]? = some ⟨req, trace, .op o next⟩) : req.Performs o :=
  (System.only_of_reaches program_only reaches found).2.1

/-! ### Small runs -/

/-- A trip that has been entered. -/
def enteredTrip : TransportTransactionStage where
  transportTransId := 1
  etagNumber := some "BECT01"
  checkinDatetime := some ⟨1⟩
  checkinStatus := some "1"

/-- The state before the commit of that check-in. -/
def beforeCommit : Sys where
  stages := { rows := [enteredTrip] }

/-- Every statement succeeds, and the lane is an entry. -/
def entryLane : Choice where
  laneType := some laneTypeIn

/-- A trip whose check-in is committed. -/
def committedTrip : TransportTransactionStage where
  transportTransId := 1
  etagNumber := some "BECT01"
  checkinDatetime := some ⟨1⟩
  checkinCommitDatetime := some ⟨2⟩
  checkinStatus := some "2"

/-- The state before the exit of that trip. -/
def beforeExit : Sys where
  stages := { rows := [committedTrip] }

/-- Every statement succeeds, the fee is 100, and the account of the tag is 5. -/
def charging : Choice where
  fee := some (100, [])
  subscriber := some { accountId := 5 }
  freshId := 9

/-- That trip after a reserve that charged the account. -/
def reservedTrip : TransportTransactionStage where
  transportTransId := 1
  etagNumber := some "BECT01"
  checkinDatetime := some ⟨1⟩
  checkinCommitDatetime := some ⟨2⟩
  checkinStatus := some "2"
  checkoutTollId := some 3
  checkoutDatetime := some ⟨3⟩
  totalAmount := some 100
  accountTransId := some 9

/-- The state before the checkout commit of that trip. -/
def beforeCheckoutCommit : Sys where
  stages := { rows := [reservedTrip] }
  accounts := [(InsertAccountTransactionParams.mk 5 100 ⟨3⟩ 1).row 9]

end TollBackend

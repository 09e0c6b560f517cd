import TollBackend.Concurrent.Pool
import TollBackend.Etdr.Cache
import TollBackend.Stage.Table

/-!
# The state of the backend and its atomic operations

A handler is a program over the operations below: one statement on the database, one call of
the record cache, one command to KeyDB, one message out. Everything between two of them can
be interleaved with other handlers. A `Choice` resolves what the code does not control: the
clock, whether a statement fails, the ids that are drawn, what other services answer, and
the order of a hash map.

## Main definitions

* `Sys`: the database tables, the record cache, KeyDB and what has been sent out.
* `Query`, `Query.reply`: operations that leave the state alone.
* `Op`, `Op.exec`: all operations.
* `EtdrWrite`: a record about to be saved, with where it comes from.
-/

namespace TollBackend

open Concurrent

/-! ### Messages out -/

/-- A reply to a client. `ticketId` is the ticket the reply is about, also where the message
does not carry it. -/
inductive Answer : Type
  | checkin (req : FeCheckin) (status ticketId : Int)
  | commit (req : FeCommitIn) (status ticketId : Int)
  | reserve (req : CheckoutReserveBoo) (status ticketId : Int)
  | checkoutCommit (req : CheckoutCommitBoo) (status ticketId : Int)
  | checkoutRollback (req : CheckoutRollbackBoo) (status ticketId : Int)
deriving DecidableEq

/-- An event handed to the Kafka producer, with the record it is built from. -/
inductive KafkaEvent : Type
  | checkin (etdr : Etdr)
  | checkout (etdr : Etdr) (checkoutCommitDatetime : Int)

/-! ### State -/

/-- The keys of KeyDB that hold records. -/
inductive KeydbKey : Type
  | etag (etag : String)
  | retry (ticketId : Int)
deriving DecidableEq

/-- Whether a key starts with `etdr_retry:`. -/
def KeydbKey.isRetry : KeydbKey → Bool
  | .etag _ => false
  | .retry _ => true

/-- One line of a computed fee. -/
structure RatingDetail where
  boo : Int := 0
  tollAId : Int := 0
  tollBId : Int := 0
  ticketType : String := ""
  subscriptionId : String := ""
  priceTicketType : Int := 0
  priceAmount : Int := 0
  vehicleType : Int := 0
  priceId : Option Int := none
  botId : Option Int := none
  stageId : Option Int := none

/-- A write to KeyDB that was spawned and has not begun. -/
inductive KeydbSync : Type
  /-- The write of `save_etdr`. -/
  | saved (etdr : Etdr)
  /-- The write of `sync_etdr_to_keydb_if_set`. -/
  | hubUpdated (etdr : Etdr)

/-- The state that handlers and background tasks share. `accountCommits` lists the account
transactions that were moved to committed, in order. -/
structure Sys where
  stages : StageTable := {}
  syncs : List TransportTransStageSync := []
  syncDetails : List TransportTransStageSyncDt := []
  accounts : List AccountTransaction := []
  accountCommits : List Int := []
  cache : EtdrCache := {}
  keydb : List (KeydbKey × Etdr) := []
  pendingTcds : List (Int × List TransportTransStageTcd) := []
  spawned : List KeydbSync := []
  kafka : List KafkaEvent := []
  answers : List Answer := []

/-- What resolves one operation. `fault` is the message of the error a statement or command
fails with, if it does. -/
structure Choice where
  env : Ambient := {}
  fault : Option String := none
  seed : String → Nat := fun _ => 0
  rank : Int → Nat := fun _ => 0
  freshId : Int := 0
  sequenceValue : Int := 1
  subscriber : Option SubscriberInfo := none
  balanceTooLow : Bool := false
  vehicleType : Option String := none
  fee : Option (Int × List RatingDetail) := none
  ratingDetails : List BooRatingDetail := []
  laneType : Option String := none
  locked : Bool := false
  index : Nat := 0

instance : Inhabited Choice :=
  ⟨{}⟩

/-- The choice under which the id service hands out `id`. -/
def Choice.drawing (c : Choice) (id : Int) : Choice :=
  { c with freshId := id }

/-! ### Queries -/

/-- The outcome of a statement: a value, or the message of its error. -/
abbrev DbResult (α : Type) : Type :=
  Except String α

/-- Fail with the chosen error, or else return the value. -/
def Choice.orFault {α : Type} (c : Choice) (value : α) : DbResult α :=
  match c.fault with
  | some message => .error message
  | none => .ok value

theorem Choice.orFault_cases {α : Type} (c : Choice) (value : α) :
    c.orFault value = .ok value ∨ ∃ message, c.orFault value = .error message := by
  unfold Choice.orFault
  cases c.fault with
  | some message => exact .inr ⟨message, rfl⟩
  | none => exact .inl rfl

/-- What a read that may fail has found is there. -/
theorem Choice.eq_some_of_orFault {α : Type} {c : Choice} {value : Option α} {a : α}
    (read : (c.orFault value).toOption.getD none = some a) : value = some a := by
  rcases c.orFault_cases value with ok | ⟨message, error⟩
  · rw [ok] at read
    exact read
  · rw [error] at read
    cases read

/-- A read that did not fail returns what is there. -/
theorem Choice.eq_of_ok {α : Type} {c : Choice} {value a : α} (read : c.orFault value = .ok a) :
    value = a := by
  rcases c.orFault_cases value with ok | ⟨message, error⟩
  · exact Except.ok.inj (ok.symm.trans read)
  · cases error.symm.trans read

/-- The operations that leave the state as it is. The table of the fee lines is not part of
the state, so saving them is only an outcome. -/
inductive Query : Type
  | observe
  | connect
  | stageFindById (id : Int)
  | stageFindByTicketInId (ticketInId : Int)
  | stageFindLatestByEtag (etag : String)
  | syncFindLatestByEtag (etag : String)
  | syncDtFindByTransportSyncId (transportSyncId : Int)
  | nextSequenceValue
  | nextTicketId
  | generateTicketId
  | subscriberByEtag (etag : String)
  | balanceTooLow (accountId : Int)
  | vehicleTypeFromExList (etag : String) (tollId : Int)
  | calculateTollFee (etdr : Etdr) (req : CheckoutReserveBoo)
  | accountTransactionForCommit (id : Int)
  | keydbGet (key : KeydbKey)
  | keydbKeys (kind : KeydbKey → Bool)
  | keydbGetMany (keys : List KeydbKey)
  | unsavedFromMemory
  | pendingTcd (transportTransId : Int)
  | saveTcdList (transportTransId : Int) (list : List TransportTransStageTcd)
  | ratingDetailCached (transportTransId : Int)
  | laneType (station lane : Int)
  | retryLock (ticketId : Int)
  | hashOrder

/-- The type of the reply to a query. -/
@[reducible] def Query.Reply : Query → Type
  | .observe => Ambient
  | .connect => DbResult Unit
  | .stageFindById _ => DbResult (Option TransportTransactionStage)
  | .stageFindByTicketInId _ => DbResult (Option TransportTransactionStage)
  | .stageFindLatestByEtag _ => DbResult (Option TransportTransactionStage)
  | .syncFindLatestByEtag _ => DbResult (Option TransportTransStageSync)
  | .syncDtFindByTransportSyncId _ => DbResult (List TransportTransStageSyncDt)
  | .nextSequenceValue => DbResult Int
  | .nextTicketId => Int
  | .generateTicketId => Int
  | .subscriberByEtag _ => Option SubscriberInfo
  | .balanceTooLow _ => Bool
  | .vehicleTypeFromExList _ _ => Option String
  | .calculateTollFee _ _ => Option (Int × List RatingDetail)
  | .accountTransactionForCommit _ => DbResult (Option AccountTransaction)
  | .keydbGet _ => Option Etdr
  | .keydbKeys _ => DbResult (List KeydbKey)
  | .keydbGetMany _ => DbResult (List (Option Etdr))
  | .unsavedFromMemory => List Etdr
  | .pendingTcd _ => Option (List TransportTransStageTcd)
  | .saveTcdList _ _ => DbResult Unit
  | .ratingDetailCached _ => List BooRatingDetail
  | .laneType _ _ => Option String
  | .retryLock _ => Bool
  | .hashOrder => Int → Nat

/-- The stored account transaction with an id. -/
def Sys.account? (s : Sys) (id : Int) : Option AccountTransaction :=
  s.accounts.find? fun account => account.accountTransactionId == id

/-- `get_account_transaction_for_commit`. -/
def Sys.accountForCommit (s : Sys) (id : Int) : Option AccountTransaction :=
  if id ≤ 0 then none else s.account? id

/-- The reply to a query. The identities, prices and lanes come from services that are not
part of the state, so they are part of the choice. -/
def Query.reply : (q : Query) → Choice → Sys → q.Reply
  | .observe, c, _ => c.env
  | .connect, c, _ => c.orFault ()
  | .stageFindById id, c, s => c.orFault (s.stages.findById id)
  | .stageFindByTicketInId tid, c, s => c.orFault (s.stages.findByTicketInId tid c.rank)
  | .stageFindLatestByEtag etag, c, s => c.orFault (s.stages.findLatestByEtag etag c.rank)
  | .syncFindLatestByEtag etag, c, s => c.orFault (TollBackend.syncFindLatestByEtag s.syncs etag)
  | .syncDtFindByTransportSyncId id, c, s =>
      c.orFault (TollBackend.syncDtFindByTransportSyncId s.syncDetails id)
  | .nextSequenceValue, c, _ => c.orFault c.sequenceValue
  | .nextTicketId, c, _ => c.freshId
  | .generateTicketId, c, _ => c.freshId
  | .subscriberByEtag _, c, _ => c.subscriber
  | .balanceTooLow _, c, _ => c.balanceTooLow
  | .vehicleTypeFromExList _ _, c, _ => c.vehicleType
  | .calculateTollFee _ _, c, _ => c.fee
  | .accountTransactionForCommit id, c, s => c.orFault (s.accountForCommit id)
  | .keydbGet key, c, s => if c.fault.isSome then none else s.keydb.lookup key
  | .keydbKeys kind, c, s => c.orFault ((s.keydb.map (·.1)).filter kind)
  | .keydbGetMany keys, c, s => c.orFault (keys.map fun key => s.keydb.lookup key)
  | .unsavedFromMemory, c, s =>
      (s.cache.getAllUnsavedEtdrs c.env.now c.seed).map (·.2)
  | .pendingTcd id, c, s => if c.fault.isSome then none else s.pendingTcds.lookup id
  | .saveTcdList _ _, c, _ => c.orFault ()
  | .ratingDetailCached _, c, _ => c.ratingDetails
  | .laneType _ _, c, _ => c.laneType
  | .retryLock _, c, _ => !c.locked
  | .hashOrder, c, _ => c.rank

/-! ### Operations -/

/-- A record about to be saved by `save_etdr`. -/
inductive EtdrWrite : Type
  /-- The record of a check-in that has just been handled. -/
  | checkin (etdr : Etdr)
  /-- The record of a row of the main table. -/
  | fromStage (stage : TransportTransactionStage) (now : Clock)
  /-- A record read back from the cache after it was filled from a sync record. -/
  | filledFromSync (etdr : Etdr)
  /-- A snapshot whose update time is refreshed. -/
  | touched (etdr : Etdr) (now : Clock)
  /-- A snapshot with its check-in commit; `details` fill an empty fee. -/
  | checkinCommitted (etdr : Etdr) (now : Clock) (details : List BooRatingDetail) (dbSaved : Bool)
  /-- A snapshot with the exit and the fee of a reserve. -/
  | checkoutReserved (etdr : Etdr) (req : CheckoutReserveBoo) (transAmount : Int)
      (priceTicketType : Int) (now : Clock)

/-- The record that is saved. -/
def EtdrWrite.etdr : EtdrWrite → Etdr
  | .checkin etdr => etdr
  | .fromStage stage now => .fromTransportTransactionStage stage now
  | .filledFromSync etdr => etdr
  | .touched etdr now => { etdr with timeUpdate := now.ms }
  | .checkinCommitted etdr now details dbSaved =>
      { etdr.commitCheckin now with
        ratingDetails := if etdr.ratingDetails.isEmpty then details else etdr.ratingDetails
        dbSaved := dbSaved }
  | .checkoutReserved etdr req transAmount priceTicketType now =>
      { etdr with priceTicketType := priceTicketType }.updateFromCheckoutLocalBoo req transAmount now

/-- The arguments of `insert_account_transaction_for_bect_checkout`. -/
structure InsertAccountTransactionParams where
  accountId : Int
  amount : Int
  transDatetime : DbDatetime
  transportTransId : Int

/-- The operations. -/
inductive Op : Type
  | ask (q : Query)
  | stageInsertRow (stage : TransportTransactionStage)
  | stageUpdate (id : Int) (stage : TransportTransactionStage)
  | stageUpdateCheckinCommit (id : Int) (cols : CheckinCommitColumns)
  | stageUpdateCheckoutInfo (id : Int) (cols : CheckoutInfoColumns)
  | stageUpdateCheckoutCommit (id : Int) (cols : CheckoutCommitColumns)
  | stageUpdateHubId (id hubId : Int)
  | accountInsert (params : InsertAccountTransactionParams)
  | accountUpdateCommitStatus (id status : Int) (finishDatetime : DbDatetime)
  | cacheGetLatestCheckin (etag : String)
  | cacheGetAllByEtag (etag : String)
  | cacheGetByTicketId (ticketId : Int)
  | cacheFillFromSync (etag : String) (refTransId : Int) (sync : TransportTransStageSync)
  | saveEtdr (write : EtdrWrite)
  | saveEtdrToMemoryOnly (etdr : Etdr)
  | cacheRemoveByTicketId (ticketId : Int)
  | cacheUpdateHubId (ticketId hubId : Int)
  | takeSpawned
  | keydbSet (key : KeydbKey) (etdr : Etdr)
  | keydbRemove (key : KeydbKey)
  | setPendingTcd (transportTransId : Int) (list : List TransportTransStageTcd)
  | removePendingTcd (transportTransId : Int)
  | sendKafka (event : KafkaEvent)
  | answer (answer : Answer)

/-- The type of the result of an operation. -/
@[reducible] def Op.Res : Op → Type
  | .ask q => q.Reply
  | .stageInsertRow _ => DbResult Unit
  | .stageUpdate _ _ => DbResult Bool
  | .stageUpdateCheckinCommit _ _ => DbResult Bool
  | .stageUpdateCheckoutInfo _ _ => DbResult Bool
  | .stageUpdateCheckoutCommit _ _ => DbResult Bool
  | .stageUpdateHubId _ _ => DbResult Int
  | .accountInsert _ => DbResult Int
  | .accountUpdateCommitStatus _ _ _ => DbResult Bool
  | .cacheGetLatestCheckin _ => Option Etdr
  | .cacheGetAllByEtag _ => List Etdr
  | .cacheGetByTicketId _ => Option Etdr
  | .takeSpawned => Option KeydbSync
  | _ => Unit

/-- A statement that changes the state only when it does not fail. -/
def Choice.statement {α : Type} (c : Choice) (value : α) (s s' : Sys) : DbResult α × Sys :=
  match c.fault with
  | some message => (.error message, s)
  | none => (.ok value, s')

theorem Choice.statement_cases {α : Type} (c : Choice) (value : α) (s s' : Sys) :
    c.statement value s s' = (.ok value, s') ∨
      ∃ message, c.statement value s s' = (.error message, s) := by
  unfold Choice.statement
  cases c.fault with
  | some message => exact .inr ⟨message, rfl⟩
  | none => exact .inl rfl

/-- The error of an `INSERT` whose primary key is taken. -/
def uniqueViolation : String := "The row already exists in a unique index."

/-- Set a key of an association list. -/
def assocSet {κ ν : Type} [DecidableEq κ] (l : List (κ × ν)) (k : κ) (v : ν) : List (κ × ν) :=
  (k, v) :: l.filter fun kv => kv.1 ≠ k

/-- Remove a key of an association list. -/
def assocErase {κ ν : Type} [DecidableEq κ] (l : List (κ × ν)) (k : κ) : List (κ × ν) :=
  l.filter fun kv => kv.1 ≠ k

/-- The row of `insert_account_transaction_for_bect_checkout`: pending commit (`AUTOCOMMIT`
`2`), with no status. -/
def InsertAccountTransactionParams.row (params : InsertAccountTransactionParams) (id : Int) :
    AccountTransaction where
  accountTransactionId := id
  accountId := params.accountId
  amount := params.amount
  transportTransId := params.transportTransId
  transDatetime := some params.transDatetime
  autocommit := some 2

/-- `constants::account_transaction::AUTOCOMMIT_STATUS_SUCCESS`. -/
def autocommitStatusSuccess : Int := 1

/-- `UPDATE ACCOUNT_TRANSACTION SET AUTOCOMMIT_STATUS = status, ..` on one id. -/
def Sys.setAccountStatus (s : Sys) (id status : Int) (finishDatetime : DbDatetime) : Sys :=
  { s with
    accounts := s.accounts.map fun account =>
      if account.accountTransactionId = id then
        { account with autocommitStatus := some status, finishDatetime := some finishDatetime }
      else account
    accountCommits :=
      if status = autocommitStatusSuccess then s.accountCommits ++ [id] else s.accountCommits }

/-- Perform an operation. -/
def Op.exec : (o : Op) → Choice → Sys → o.Res × Sys
  | .ask q, c, s => (q.reply c s, s)
  | .stageInsertRow stage, c, s =>
      match s.stages.insertRow stage c.env.now.dbDatetime with
      | some stages => c.statement () s { s with stages := stages }
      | none => (.error (c.fault.getD uniqueViolation), s)
  | .stageUpdate id stage, c, s =>
      c.statement true s { s with stages := s.stages.update id stage }
  | .stageUpdateCheckinCommit id cols, c, s =>
      c.statement true s { s with stages := s.stages.updateCheckinCommit id cols }
  | .stageUpdateCheckoutInfo id cols, c, s =>
      c.statement true s { s with stages := s.stages.updateCheckoutInfo id cols }
  | .stageUpdateCheckoutCommit id cols, c, s =>
      c.statement true s { s with stages := s.stages.updateCheckoutCommit id cols }
  | .stageUpdateHubId id hubId, c, s =>
      c.statement 1 s { s with stages := s.stages.updateHubId id hubId c.env.now.dbDatetime }
  | .accountInsert params, c, s =>
      c.statement c.freshId s { s with accounts := s.accounts ++ [params.row c.freshId] }
  | .accountUpdateCommitStatus id status finishDatetime, c, s =>
      if id ≤ 0 then (.ok false, s)
      else c.statement true s (s.setAccountStatus id status finishDatetime)
  | .cacheGetLatestCheckin etag, c, s =>
      ((s.cache.getLatestCheckin etag c.env.now).1,
        { s with cache := (s.cache.getLatestCheckin etag c.env.now).2 })
  | .cacheGetAllByEtag etag, c, s =>
      ((s.cache.getAllByEtag etag c.env.now).1,
        { s with cache := (s.cache.getAllByEtag etag c.env.now).2 })
  | .cacheGetByTicketId ticketId, c, s =>
      ((s.cache.getByTicketId ticketId c.env.now c.seed).1,
        { s with cache := (s.cache.getByTicketId ticketId c.env.now c.seed).2 })
  | .cacheFillFromSync etag refTransId sync, c, s =>
      let fill := fun etdr => fillEtdrFromSync etdr sync c.env.now
      ((), { s with cache := s.cache.updateEtdr etag refTransId fill c.env.now })
  | .saveEtdr write, c, s =>
      ((), { s with
        cache := s.cache.put write.etdr c.env.now c.seed
        spawned := s.spawned ++ [.saved write.etdr] })
  | .saveEtdrToMemoryOnly etdr, c, s =>
      ((), { s with cache := s.cache.put etdr c.env.now c.seed })
  | .cacheRemoveByTicketId ticketId, c, s =>
      ((), { s with cache := s.cache.removeByTicketId ticketId c.seed })
  | .cacheUpdateHubId ticketId hubId, c, s =>
      let updated := s.cache.updateHubIdByTicketId ticketId hubId c.env.now c.seed
      ((), { s with
        cache := updated.2
        spawned := s.spawned ++ updated.1.toList.map .hubUpdated })
  | .takeSpawned, c, s =>
      (s.spawned[c.index]?, { s with spawned := s.spawned.eraseIdx c.index })
  | .keydbSet key etdr, c, s =>
      ((), if c.fault.isSome then s else { s with keydb := assocSet s.keydb key etdr.readBack })
  | .keydbRemove key, c, s =>
      ((), if c.fault.isSome then s else { s with keydb := assocErase s.keydb key })
  | .setPendingTcd id list, c, s =>
      ((), if c.fault.isSome then s else { s with pendingTcds := assocSet s.pendingTcds id list })
  | .removePendingTcd id, c, s =>
      ((), if c.fault.isSome then s else { s with pendingTcds := assocErase s.pendingTcds id })
  | .sendKafka event, _, s => ((), { s with kafka := s.kafka ++ [event] })
  | .answer a, _, s => ((), { s with answers := s.answers ++ [a] })

/-- A program of the backend. -/
abbrev Program (α : Type) : Type :=
  Prog Op Op.Res α

/-- Ask a query. -/
def ask (q : Query) : Program q.Reply :=
  Prog.perform (Op.ask q)

/-- Perform an operation. -/
def perform (o : Op) : Program o.Res :=
  Prog.perform o

section Only

variable {α : Type} {P : Op → Prop}

@[simp] theorem only_pure (a : α) : (pure a : Program α).Only P ↔ True := Iff.rfl

@[simp] theorem only_ask (q : Query) : (ask q).Only P ↔ P (.ask q) :=
  and_iff_left fun _ => trivial

@[simp] theorem only_perform (o : Op) : (perform o).Only P ↔ P o :=
  and_iff_left fun _ => trivial

@[simp] theorem only_ask_bind (q : Query) (next : q.Reply → Program α) :
    (ask q >>= next).Only P ↔ P (.ask q) ∧ ∀ r, (next r).Only P := Iff.rfl

@[simp] theorem only_perform_bind (o : Op) (next : o.Res → Program α) :
    (perform o >>= next).Only P ↔ P o ∧ ∀ r, (next r).Only P := Iff.rfl

end Only

end TollBackend

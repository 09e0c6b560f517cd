import TollBackend.Stage.Repository

/-!
# The lookup of the latest trip of a tag

`get_best_pending_from_sync_or_main_bect`: the newest row of the main table and the newest
record of the sync table are compared, and the chosen one becomes a record of the cache. A
sync record the main table does not have yet is inserted there first.

## Main definitions

* `bestPendingRecord`: the choice between the two tables.
* `tryCheckinFromSync`: the insert of a sync record.
* `getBestPendingFromSyncOrMainBect`: the lookup.
* `resolveLatestEtdr`: the record that the handlers go on with.
-/

namespace TollBackend

open Concurrent

/-- A candidate of the lookup. -/
inductive BestPendingRecord : Type
  | sync (sync : TransportTransStageSync) (details : List TransportTransStageSyncDt)
  | bect (stage : TransportTransactionStage)

/-- `etdr::BEST_RECORD_BOO_SYNC_WINDOW_MS`. -/
def bestRecordSyncWindowMs : Int := 5000

/-- The later of the check-in and the insert time, in milliseconds. -/
def recordTimeMs (checkinDatetime insertDatetime : Option DbDatetime) : Int :=
  max (millisOrZero checkinDatetime) (millisOrZero insertDatetime)

/-- The choice between the newest sync record and the newest row of the main table. -/
def bestPendingRecord (syncWithDetails : Option (TransportTransStageSync ×
    List TransportTransStageSyncDt)) (tts : Option TransportTransactionStage) :
    Option BestPendingRecord :=
  let fromSync := syncWithDetails.map fun sd => BestPendingRecord.sync sd.1 sd.2
  match tts with
  | none => fromSync
  | some tts =>
      -- the row was made from that sync record: nothing new
      if syncWithDetails.any fun sd => tts.transportSyncId == some sd.1.transportSyncId then
        some (.bect tts)
      -- a sync record has to be newer by more than the window
      else if (syncWithDetails.map fun sd =>
          recordTimeMs sd.1.checkinDatetime sd.1.insertDatetime).getD 0 <
          recordTimeMs tts.checkinDatetime tts.insertDatetime + bestRecordSyncWindowMs then
        some (.bect tts)
      else fromSync

/-- A row that is chosen is the newest of the main table. -/
theorem eq_some_of_bestPendingRecord {syncWithDetails : Option (TransportTransStageSync ×
    List TransportTransStageSyncDt)} {tts : Option TransportTransactionStage}
    {row : TransportTransactionStage}
    (chosen : bestPendingRecord syncWithDetails tts = some (.bect row)) : tts = some row := by
  have sync : syncWithDetails.map (fun sd => BestPendingRecord.sync sd.1 sd.2) ≠ some (.bect row) := by
    cases syncWithDetails <;> simp
  cases tts with
  | none => exact absurd chosen sync
  | some tts =>
    simp only [bestPendingRecord] at chosen
    split at chosen
    · cases chosen
      rfl
    · split at chosen
      · cases chosen
        rfl
      · exact absurd chosen sync

/-- A sync record that is chosen is the newest of the sync table. -/
theorem eq_some_of_bestPendingRecord_sync {syncWithDetails : Option (TransportTransStageSync ×
    List TransportTransStageSyncDt)} {tts : Option TransportTransactionStage}
    {sync : TransportTransStageSync} {details : List TransportTransStageSyncDt}
    (chosen : bestPendingRecord syncWithDetails tts = some (.sync sync details)) :
    syncWithDetails = some (sync, details) := by
  have fromSync : syncWithDetails.map (fun sd => BestPendingRecord.sync sd.1 sd.2) =
      some (.sync sync details) := by
    cases tts with
    | none => exact chosen
    | some tts =>
      simp only [bestPendingRecord] at chosen
      split at chosen
      · cases chosen
      · split at chosen
        · cases chosen
        · exact chosen
  obtain ⟨sd, found, eq⟩ := Option.map_eq_some_iff.mp fromSync
  cases eq
  exact found

/-- The newest sync record of a tag, with its fee lines. -/
def latestSyncWithDetails (etag : String) :
    Program (Option (TransportTransStageSync × List TransportTransStageSyncDt)) := do
  match ← ask (.syncFindLatestByEtag etag) with
  | .ok (some sync) => do
      let details ← ask (.syncDtFindByTransportSyncId sync.transportSyncId)
      return some (sync, details.toOption.getD [])
  | _ => return none

/-- The candidate that the lookup chooses. -/
def findBestPending (etag : String) : Program (Option BestPendingRecord) := do
  let syncWithDetails ← latestSyncWithDetails etag
  let tts ← ask (.stageFindLatestByEtag etag)
  return bestPendingRecord syncWithDetails (tts.toOption.getD none)

/-- The record of a row, saved to the cache. -/
def saveFromStage (record : TransportTransactionStage) : Program (Option Etdr) := do
  let env ← ask .observe
  perform (.saveEtdr (.fromStage record env.now))
  return some (.fromTransportTransactionStage record env.now)

/-! ### Inserting a sync record -/

/-- `get_existing_pending_ticket_id_for_ticket_in_id_bect`. -/
def existingPendingTicketId (ticketInId : Option Int) : Program (Option Int) := do
  match ← findByTicketInIdIfSet ticketInId with
  | .ok (some record) => return some record.transportTransId
  | _ => return none

/-- The ticket of a sync record: the one that is stored, or else a new one. -/
def ticketIdForSync (existing : Option Int) : Program Int := do
  if existing.getD 0 ≠ 0 then return existing.getD 0
  else do
    let ticketId ← ask .nextTicketId
    if ticketId ≠ 0 then return ticketId else ask .generateTicketId

/-- Whether the insert of a sync record found the trip already stored. -/
def insertWasSkipped (ticketInId existing : Option Int) (ticketId newId : Int) : Bool :=
  -- the insert was given another id by the service, or one that was known before
  (ticketInId.any (· ≠ 0) && newId != ticketId) || (existing.isSome && newId == ticketId)

/-- The fee lines of a sync record. -/
def tcdListFromSync (newId : Int) (details : List TransportTransStageSyncDt) :
    List TransportTransStageTcd :=
  details.map fun dt =>
    { transportTransId := newId
      boo := dt.boo.getD 1
      botId := dt.botId
      tollAId := dt.tollAId
      tollBId := dt.tollBId
      stageId := dt.stageId
      priceId := dt.priceId
      ticketType := dt.ticketType
      priceTicketType := (dt.priceTicketType.filter fun s => !isBlank s) <|> some "0"
      priceAmount := dt.priceAmount
      subscriptionId := dt.subscriptionId
      vehicleType := dt.vehicleType
      checkinDatetime := dt.checkinDatetime }

/-- The fee lines of a sync record that was inserted; a failure is only logged. -/
def saveTcdFromSync (skipped : Bool) (id : Int) (list : List TransportTransStageTcd) :
    Program Unit := do
  if skipped || list.isEmpty then return ()
  else do
    let _ ← ask (.saveTcdList id list)
    return ()

/-- `try_checkin_from_sync_bect_with_preloaded`. -/
def tryCheckinFromSync (sync : TransportTransStageSync)
    (details : List TransportTransStageSyncDt) : Program (Option Etdr) := do
  let existing ← existingPendingTicketId sync.ticketInId
  let ticketId ← ticketIdForSync existing
  let env ← ask .observe
  match ← stageInsert (buildTransportStageFromSync sync env ticketId) with
  | .error _ => return none
  | .ok newId =>
      -- the row is read back, as the insert may have found an older one
      match ← ask (.stageFindById newId) with
      | .ok (some record) => do
          let skipped := insertWasSkipped sync.ticketInId existing ticketId newId
          saveTcdFromSync skipped record.transportTransId (tcdListFromSync newId details)
          saveFromStage record
      | _ => return none

/-! ### The lookup -/

/-- The cached record of the tag that the sync record is about, filled from it. -/
def fillCachedFromSync (etag : String) (sync : TransportTransStageSync) (ticketInId : Int) :
    Program (Option Etdr) := do
  let all ← perform (.cacheGetAllByEtag etag)
  -- records of the tag are told apart by their ticket_in_id, and filled by their ref_trans_id
  match all.find? fun etdr => etdr.ticketInId == some ticketInId with
  | none => return none
  | some existing => do
      perform (.cacheFillFromSync etag existing.refTransId sync)
      let again ← perform (.cacheGetAllByEtag etag)
      return again.find? fun etdr => etdr.refTransId == existing.refTransId

/-- The lookup when the sync record was chosen. -/
def lookupFromSync (etag : String) (sync : TransportTransStageSync)
    (details : List TransportTransStageSyncDt) : Program (Option Etdr) := do
  match sync.ticketInId with
  | none => tryCheckinFromSync sync details
  | some ticketInId =>
      match ← fillCachedFromSync etag sync ticketInId with
      | some etdr => do
          perform (.saveEtdr (.filledFromSync etdr))
          return some etdr
      | none => tryCheckinFromSync sync details

/-- `get_best_pending_from_sync_or_main_bect`. -/
def getBestPendingFromSyncOrMainBect (etag : String) : Program (Option Etdr) := do
  match ← findBestPending (normalizeEtag etag) with
  | none => return none
  | some (.sync sync details) => lookupFromSync (normalizeEtag etag) sync details
  | some (.bect record) => saveFromStage record

/-- The latest record of a tag, from the cache and from the tables. -/
def resolveLatestEtdr (etag : String) : Program (Option Etdr) := do
  let cached ← perform (.cacheGetLatestCheckin etag)
  let stored ← getBestPendingFromSyncOrMainBect etag
  return mergeLatestCheckinEtdr cached stored

/-! ### The operations of a lookup -/

/-- The operations of a lookup. -/
inductive LookupOp : Op → Prop
  | ask (q : Query) : LookupOp (.ask q)
  | insertRow (stage : TransportTransactionStage) : LookupOp (.stageInsertRow stage)
  | getLatest (etag : String) : LookupOp (.cacheGetLatestCheckin etag)
  | getAll (etag : String) : LookupOp (.cacheGetAllByEtag etag)
  | fill (etag : String) (refTransId : Int) (sync : TransportTransStageSync) :
      LookupOp (.cacheFillFromSync etag refTransId sync)
  | saveStage (stage : TransportTransactionStage) (now : Clock) :
      LookupOp (.saveEtdr (.fromStage stage now))
  | saveFilled (etdr : Etdr) : LookupOp (.saveEtdr (.filledFromSync etdr))

theorem saveFromStage_only (record : TransportTransactionStage) :
    (saveFromStage record).Only LookupOp := by
  refine (only_ask_bind _ _).mpr ⟨.ask _, fun env => ?_⟩
  exact (only_perform_bind _ _).mpr ⟨.saveStage _ _, fun _ => trivial⟩

theorem findBestPending_only {P : Op → Prop} (queries : ∀ q, P (.ask q)) (etag : String) :
    (findBestPending etag).Only P := by
  have sync : (latestSyncWithDetails etag).Only P := by
    refine (only_ask_bind _ _).mpr ⟨queries _, fun r => ?_⟩
    split
    · exact (only_ask_bind _ _).mpr ⟨queries _, fun _ => trivial⟩
    · trivial
  exact sync.bind fun r => (only_ask_bind _ _).mpr ⟨queries _, fun _ => trivial⟩

theorem existingPendingTicketId_only {P : Op → Prop} (queries : ∀ q, P (.ask q))
    (ticketInId : Option Int) : (existingPendingTicketId ticketInId).Only P := by
  refine (findByTicketInIdIfSet_only queries ticketInId).bind fun r => ?_
  split <;> trivial

theorem ticketIdForSync_only {P : Op → Prop} (queries : ∀ q, P (.ask q)) (existing : Option Int) :
    (ticketIdForSync existing).Only P := by
  unfold ticketIdForSync
  split
  · trivial
  · refine (only_ask_bind _ _).mpr ⟨queries _, fun r => ?_⟩
    split
    · trivial
    · exact (only_ask _).mpr (queries _)

theorem tryCheckinFromSync_only (sync : TransportTransStageSync)
    (details : List TransportTransStageSyncDt) :
    (tryCheckinFromSync sync details).Only LookupOp := by
  refine (existingPendingTicketId_only .ask _).bind fun existing => ?_
  refine (ticketIdForSync_only .ask existing).bind fun ticketId => ?_
  refine (only_ask_bind _ _).mpr ⟨.ask _, fun env => ?_⟩
  have insert := (stageInsert_only (buildTransportStageFromSync sync env ticketId)).mono
    fun o op => (by cases op <;> constructor : LookupOp o)
  refine insert.bind fun r => ?_
  split
  · trivial
  · refine (only_ask_bind _ _).mpr ⟨.ask _, fun found => ?_⟩
    split
    · refine Prog.Only.bind ?_ fun _ => saveFromStage_only _
      unfold saveTcdFromSync
      split
      · trivial
      · exact (only_ask_bind _ _).mpr ⟨.ask _, fun _ => trivial⟩
    · trivial

theorem fillCachedFromSync_only (etag : String) (sync : TransportTransStageSync)
    (ticketInId : Int) : (fillCachedFromSync etag sync ticketInId).Only LookupOp := by
  refine (only_perform_bind _ _).mpr ⟨.getAll _, fun all => ?_⟩
  split
  · trivial
  · refine (only_perform_bind _ _).mpr ⟨.fill _ _ _, fun _ => ?_⟩
    exact (only_perform_bind _ _).mpr ⟨.getAll _, fun _ => trivial⟩

theorem getBestPendingFromSyncOrMainBect_only (etag : String) :
    (getBestPendingFromSyncOrMainBect etag).Only LookupOp := by
  refine (findBestPending_only .ask _).bind fun best => ?_
  split
  · trivial
  · unfold lookupFromSync
    split
    · exact tryCheckinFromSync_only _ _
    · refine (fillCachedFromSync_only _ _ _).bind fun filled => ?_
      split
      · exact (only_perform_bind _ _).mpr ⟨.saveFilled _, fun _ => trivial⟩
      · exact tryCheckinFromSync_only _ _
  · exact saveFromStage_only _

theorem resolveLatestEtdr_only (etag : String) : (resolveLatestEtdr etag).Only LookupOp :=
  (only_perform_bind _ _).mpr ⟨.getLatest _, fun _ =>
    (getBestPendingFromSyncOrMainBect_only etag).bind fun _ => trivial⟩

end TollBackend

import TollBackend.Stage.Repository

/-!
# The retry of records that are not in the database

`models/ETDR/sync`: `retry_save_etdr_to_db` brings one record to the main table, and the
background task picks one record of each cycle and marks it as saved when that returned
`true`.

## Main definitions

* `retrySaveEtdrToDb`: one attempt.
* `dedupeByTicketId`: one record for each ticket among those found in KeyDB and in memory.
* `etdrDbRetryCycle`: one cycle of the task.
* `AwaitsRetry`, `QueuedFor`: a record waits for the task, whose attempt makes something hold.
* `Recorded`: the main table has a row for the record.

## Main results

* `retrySaveEtdrToDb_recorded_iff`: when an attempt that returns `true` leaves a row.
-/

namespace TollBackend

open Concurrent

/-! ### One attempt -/

/-- `retry_pending_tcd_bect`. -/
def retryPendingTcd (transportTransId : Int) : Program Unit := do
  match ← ask (.pendingTcd transportTransId) with
  | none => return ()
  | some list =>
      if list.isEmpty then return ()
      else
        match ← ask (.saveTcdList transportTransId list) with
        | .ok () => perform (.removePendingTcd transportTransId)
        | .error _ => return ()

/-- Merge the record into a stored row. An `UPDATE` that does not fail counts as saved, also
when it changed no row. -/
def retryMerge (etdr : Etdr) (existing : TransportTransactionStage) (id : Int) :
    Program Bool := do
  let env ← ask .observe
  match ← perform (.stageUpdate id (mergeEtdrIntoTransportStage existing etdr env)) with
  | .ok _ => do
      retryPendingTcd id
      return true
  | .error _ => return false

/-- What is done when the insert of the record failed. -/
def retryAfterFailedSave (etdr : Etdr) (errorMsg : String) : Program Bool := do
  if containsStr errorMsg "duplicate" || containsStr errorMsg "unique" ||
      containsStr errorMsg "already exists" then
    match ← ask (.stageFindById etdr.ticketId) with
    | .ok (some _) => do
        retryPendingTcd etdr.ticketId
        return true
    | .ok none =>
        match ← findByTicketInIdIfSet etdr.ticketInId with
        | .ok (some existing) => do
            retryPendingTcd existing.transportTransId
            return true
        | _ => return false
    | .error _ => return false
  else return false

/-- The insert of a record that has no row. -/
def retryInsert (etdr : Etdr) : Program Bool := do
  let env ← ask .observe
  match ← stageSave (buildTransportStageFromEtdr etdr env) with
  | .ok (id, _) => do
      retryPendingTcd id
      return true
  | .error errorMsg => retryAfterFailedSave etdr errorMsg

/-- `etdr.ticket_in_id.is_some_and(|tid| tid != 0)`. -/
def Etdr.hasTicketInId (etdr : Etdr) : Bool :=
  etdr.ticketInId.any fun tid => decide (tid ≠ 0)

/-- `retry_save_bect` after the row of the ticket was not found. -/
def retryWithoutRow (etdr : Etdr) : Program Bool := do
  match ← findByTicketInIdIfSet etdr.ticketInId with
  | .ok (some existing) => retryMerge etdr existing existing.transportTransId
  | _ =>
      -- "likely saved by another node"
      if etdr.hasTicketInId then return true else retryInsert etdr

/-- `retry_save_bect`. -/
def retrySaveBect (etdr : Etdr) : Program Bool := do
  match ← ask (.stageFindById etdr.ticketId) with
  | .ok (some existing) => retryMerge etdr existing etdr.ticketId
  | _ => retryWithoutRow etdr

/-- Whether the record has what a row needs. -/
def Etdr.Sufficient (etdr : Etdr) : Prop :=
  etdr.ticketId ≠ 0 ∧ etdr.stationId ≠ 0 ∧ etdr.laneId ≠ 0 ∧ trim etdr.etagNumber ≠ ""

instance : DecidablePred Etdr.Sufficient := fun etdr => by
  unfold Etdr.Sufficient; infer_instance

/-- The record with its two tags trimmed. -/
def Etdr.trimTags (etdr : Etdr) : Etdr :=
  { etdr with etagId := trim etdr.etagId, etagNumber := trim etdr.etagNumber }

/-- `retry_save_etdr_to_db`. -/
def retrySaveEtdrToDb (etdr : Etdr) : Program Bool :=
  if etdr.Sufficient then retrySaveBect etdr.trimTags else return false

/-! ### The task -/

/-- `get_all_etdrs_from_keydb_for_db_sync`: the retry keys, then the tag keys, of the records
that are not in the database. -/
def etdrsFromKeydbForDbSync : Program (List (KeydbKey × Etdr)) := do
  match ← ask (.keydbKeys KeydbKey.isRetry) with
  | .error _ => return []
  | .ok retryKeys => do
      let etagKeys ← ask (.keydbKeys fun key => !key.isRetry)
      let keys := retryKeys ++ etagKeys.toOption.getD []
      if keys.isEmpty then return []
      else
        match ← ask (.keydbGetMany keys) with
        | .error _ => return []
        | .ok values =>
            return (keys.zip values).filterMap fun kv =>
              kv.2.bind fun etdr => if etdr.dbSaved then none else some (kv.1, etdr)

/-- The key that stays when two records of a ticket are merged. -/
def dedupeKey (existingKey : KeydbKey) (existing : Etdr) (key : KeydbKey) (etdr : Etdr) :
    KeydbKey :=
  if key = .retry etdr.ticketId ∨ existingKey = .retry etdr.ticketId then .retry etdr.ticketId
  else if existing.checkinDatetime ≤ etdr.checkinDatetime then key
  else existingKey

/-- One step of `dedupe_by_ticket_id`. -/
def dedupeInsert (byTicket : List (KeydbKey × Etdr)) (key : KeydbKey) (etdr : Etdr) :
    List (KeydbKey × Etdr) :=
  if etdr.ticketId = 0 then byTicket
  else if byTicket.any fun kv => kv.2.ticketId == etdr.ticketId then
    byTicket.map fun kv =>
      if kv.2.ticketId = etdr.ticketId then
        (dedupeKey kv.1 kv.2 key etdr, mergeEtdrSameTicketId kv.2 etdr)
      else kv
  else byTicket ++ [(key, etdr)]

/-- `dedupe_by_ticket_id`, in the order in which the records are popped. -/
def dedupeByTicketId (toSave : List (KeydbKey × Etdr)) (order : Int → Nat) :
    List (KeydbKey × Etdr) :=
  (toSave.foldl (fun byTicket kv => dedupeInsert byTicket kv.1 kv.2) []).insertionSort
    fun a b => order a.2.ticketId ≤ order b.2.ticketId

/-- Each step of the merge keeps what merges of records of one ticket keep. -/
theorem dedupeInsert_forall {P : Etdr → Prop}
    (merged : ∀ a b, P a → P b → a.ticketId = b.ticketId → P (mergeEtdrSameTicketId a b))
    {byTicket : List (KeydbKey × Etdr)} {key : KeydbKey} {etdr : Etdr}
    (old : ∀ kv ∈ byTicket, P kv.2) (new : P etdr) :
    ∀ kv ∈ dedupeInsert byTicket key etdr, P kv.2 := by
  intro kv mem
  unfold dedupeInsert at mem
  split at mem
  · exact old kv mem
  · split at mem
    · obtain ⟨kv', inList, rfl⟩ := List.mem_map.mp mem
      split
      · next same => exact merged _ _ (old kv' inList) new same
      · exact old kv' inList
    · rcases List.mem_append.mp mem with before | here
      · exact old kv before
      · rw [List.mem_singleton.mp here]
        exact new

/-- What merges of records of one ticket keep holds of the merged records. -/
theorem dedupeByTicketId_forall {P : Etdr → Prop}
    (merged : ∀ a b, P a → P b → a.ticketId = b.ticketId → P (mergeEtdrSameTicketId a b))
    {toSave : List (KeydbKey × Etdr)} (order : Int → Nat) (all : ∀ kv ∈ toSave, P kv.2) :
    ∀ kv ∈ dedupeByTicketId toSave order, P kv.2 := by
  have folded : ∀ byTicket : List (KeydbKey × Etdr), (∀ kv ∈ byTicket, P kv.2) →
      ∀ kv ∈ toSave.foldl (fun byTicket kv => dedupeInsert byTicket kv.1 kv.2) byTicket,
        P kv.2 := by
    induction toSave with
    | nil => exact fun byTicket good => good
    | cons kv rest ih =>
      intro byTicket good
      exact ih (fun kv' mem => all kv' (List.mem_cons_of_mem kv mem)) _
        (dedupeInsert_forall merged good (all kv List.mem_cons_self))
  intro kv mem
  rw [dedupeByTicketId, List.mem_insertionSort] at mem
  exact folded [] (fun kv mem => absurd mem List.not_mem_nil) kv mem

/-- A record that is not in the database was read from KeyDB. -/
theorem mem_of_unsaved {keys : List KeydbKey} {values : List (Option Etdr)} {kv : KeydbKey × Etdr}
    (mem : kv ∈ (keys.zip values).filterMap fun kv =>
      kv.2.bind fun etdr => if etdr.dbSaved then none else some (kv.1, etdr)) :
    some kv.2 ∈ values := by
  obtain ⟨⟨key, value⟩, inZip, eq⟩ := List.mem_filterMap.mp mem
  obtain ⟨etdr, rfl, kept⟩ := Option.bind_eq_some_iff.mp eq
  split at kept
  · cases kept
  · cases kept
    exact (List.of_mem_zip inZip).2

/-- `ETDR_MAX_DB_SAVE_RETRIES`. -/
def etdrMaxDbSaveRetries : Int := 3

/-- What follows a successful attempt. -/
def retrySucceeded (key : KeydbKey) (etdr : Etdr) : Program Unit := do
  let etdrDone := { etdr with dbSaved := true }
  perform (.keydbRemove (.retry etdr.ticketId))
  if 0 < etdr.checkoutCommitDatetime then do
    perform (.cacheRemoveByTicketId etdr.ticketId)
    perform (.keydbRemove key)
  else do
    perform (.keydbSet (.etag (normalizeEtag etdr.etagId)) etdrDone)
    perform (.saveEtdrToMemoryOnly etdrDone)

/-- What follows a failed attempt. -/
def retryFailed (etdr : Etdr) : Program Unit := do
  let newCount := etdr.dbSaveRetryCount + 1
  if etdrMaxDbSaveRetries ≤ newCount then do
    perform (.keydbRemove (.retry etdr.ticketId))
    perform (.cacheRemoveByTicketId etdr.ticketId)
  else
    perform (.keydbSet (.retry etdr.ticketId) { etdr with dbSaveRetryCount := newCount })

/-- The attempt for one record, which holds the lock of its ticket. -/
def retryRecord (key : KeydbKey) (etdr : Etdr) : Program Unit := do
  if ← retrySaveEtdrToDb etdr then retrySucceeded key etdr else retryFailed etdr

/-- The first record whose lock is free. -/
def retryFirstUnlocked : List (KeydbKey × Etdr) → Program Unit
  | [] => return ()
  | (key, etdr) :: rest => do
      if ← ask (.retryLock etdr.ticketId) then retryRecord key etdr
      else retryFirstUnlocked rest

/-- One cycle of `start_etdr_db_retry_task`. -/
def etdrDbRetryCycle : Program Unit := do
  let fromKeydb ← etdrsFromKeydbForDbSync
  let fromMemory ← ask .unsavedFromMemory
  let order ← ask .hashOrder
  retryFirstUnlocked (dedupeByTicketId
    (fromKeydb ++ fromMemory.map fun etdr => (.etag (trim etdr.etagId), etdr)) order)

/-- The write to KeyDB that `save_etdr` or `sync_etdr_to_keydb_if_set` has spawned. -/
def syncEtdrToKeydb : Program Unit := do
  match ← perform .takeSpawned with
  | none => return ()
  | some (.hubUpdated etdr) => perform (.keydbSet (.etag (trim etdr.etagId)) etdr)
  | some (.saved etdr) =>
      let keyEtag := KeydbKey.etag (normalizeEtag etdr.etagId)
      if !etdr.dbSaved && etdr.ticketId != 0 then do
        let existing ← ask (.keydbGet (.retry etdr.ticketId))
        perform (.keydbSet (.retry etdr.ticketId)
          ((existing.map fun ex => mergeEtdrSameTicketId ex etdr).getD etdr))
        perform (.keydbSet keyEtag etdr)
      else perform (.keydbSet keyEtag etdr)

/-! ### What waits for the task -/

/-- The record is not marked as saved, and is cached, in KeyDB, or about to be written
there. -/
def AwaitsRetry (s : Sys) (e : Etdr) : Prop :=
  e.dbSaved = false ∧
    ((∃ key, s.cache.Cached key e) ∨ (∃ key, (key, e) ∈ s.keydb) ∨ .saved e ∈ s.spawned)

/-- Every record is marked as saved. -/
def AllSaved (s : Sys) : Prop :=
  (∀ kv ∈ s.cache.data, ∀ entry ∈ kv.2, entry.etdr.dbSaved = true) ∧
    (∀ kv ∈ s.keydb, kv.2.dbSaved = true) ∧
    ∀ write ∈ s.spawned, match write with
      | .saved e => e.dbSaved = true
      | .hubUpdated _ => True

instance : DecidablePred AllSaved := fun s => by
  have : DecidablePred fun write : KeydbSync => match write with
      | .saved e => e.dbSaved = true
      | .hubUpdated _ => True := fun write => by cases write <;> infer_instance
  unfold AllSaved; infer_instance

theorem not_awaitsRetry_of_allSaved {s : Sys} (saved : AllSaved s) (e : Etdr) :
    ¬ AwaitsRetry s e := by
  rintro ⟨unsaved, ⟨key, recs, inData, entry, mem, rfl⟩ | ⟨key, mem⟩ | spawned⟩
  · rw [saved.1 _ inData entry mem] at unsaved
    cases unsaved
  · rw [saved.2.1 _ mem] at unsaved
    cases unsaved
  · rw [saved.2.2 _ spawned] at unsaved
    cases unsaved

/-- The retry of the record can succeed, and `Q` holds whenever it has. -/
def RetryWrites (s : Sys) (etdr : Etdr) (Q : Sys → Prop) : Prop :=
  (retrySaveEtdrToDb etdr).Can Op.exec s (fun saved _ => saved = true) ∧
    (retrySaveEtdrToDb etdr).Post Op.exec s fun saved s' => saved = true → Q s'

/-- A record of the ticket waits for a retry that makes `Q` hold. -/
def QueuedFor (s : Sys) (ticketId : Int) (Q : Sys → Prop) : Prop :=
  ∃ e, e.ticketId = ticketId ∧ AwaitsRetry s e ∧ RetryWrites s e Q

theorem not_queuedFor_of_allSaved {s : Sys} (saved : AllSaved s) {ticketId : Int}
    {Q : Sys → Prop} : ¬ QueuedFor s ticketId Q := by
  rintro ⟨e, -, awaits, -⟩
  exact not_awaitsRetry_of_allSaved saved e awaits

/-! ### What an attempt leaves -/

/-- The table has a row with the ticket of the record, or one with its `TICKET_IN_ID`. -/
def Recorded (etdr : Etdr) (table : StageTable) : Prop :=
  ∃ row ∈ table.rows, row.transportTransId = etdr.ticketId ∨
    ∃ tid, etdr.ticketInId = some tid ∧ row.ticketInId = some tid

variable {etdr : Etdr} {s : Sys}

theorem recorded_of_row? {table : StageTable} {row : TransportTransactionStage}
    (found : table.row? etdr.ticketId = some row) : Recorded etdr table :=
  ⟨row, (StageTable.row?_eq_some_iff.mp found).1, .inl (StageTable.transportTransId_of_row? found)⟩

/-- A merge into a row keeps the id and the `TICKET_IN_ID` that the row has. -/
theorem Recorded.update_merge {table : StageTable} {row : TransportTransactionStage} {key : Int}
    {env : Ambient} (recorded : Recorded etdr table) (stored : table.row? key = some row) :
    Recorded etdr (table.update key (mergeEtdrIntoTransportStage row.selectRow etdr env)) := by
  obtain ⟨hit, mem, same⟩ := recorded
  have found := StageTable.row?_eq_some_iff.mpr ⟨mem, rfl⟩
  have after : (table.update key (mergeEtdrIntoTransportStage row.selectRow etdr env)).row?
      hit.transportTransId = _ := StageTable.row?_update key _
  rw [found] at after
  by_cases here : hit.transportTransId = key
  · rw [if_pos here, Option.map_some] at after
    rw [here, stored] at found
    cases found
    refine ⟨_, (StageTable.row?_eq_some_iff.mp after).1, ?_⟩
    refine same.imp (fun eq => eq) fun ⟨tid, column, eq⟩ => ⟨tid, column, ?_⟩
    simp [TransportTransactionStage.updateColumns, mergeEtdrIntoTransportStage, eq]
  · rw [if_neg here] at after
    exact ⟨hit, (StageTable.row?_eq_some_iff.mp after).1, same⟩

theorem retryPendingTcd_post (id : Int) (s : Sys) :
    Prog.Post Op.exec (retryPendingTcd id) s fun _ s' => s'.stages = s.stages := by
  refine post_ask.mpr fun c => ?_
  simp only [Query.reply]
  split
  · exact rfl
  · split
    · exact rfl
    · refine post_ask.mpr fun c' => ?_
      simp only [Query.reply]
      rcases c'.orFault_cases () with ok | ⟨message, error⟩
      · rw [ok]
        intro c''
        simp only [Op.exec]
        split
        · exact rfl
        · exact rfl
      · rw [error]
        exact rfl

/-- An attempt that ends with the pending fee lines of a row returns `true`. -/
theorem retryPendingTcd_true_post {id : Int} (recorded : Recorded etdr s.stages) :
    Prog.Post Op.exec (do retryPendingTcd id; return true) s
      fun saved s' => saved = true → Recorded etdr s'.stages := by
  refine Prog.post_bind.mpr ((retryPendingTcd_post id s).mono fun _ s' same => ?_)
  intro _
  rwa [same]

theorem retryMerge_post {row : TransportTransactionStage} {id : Int}
    (recorded : Recorded etdr s.stages) (stored : s.stages.row? id = some row) :
    Prog.Post Op.exec (retryMerge etdr row.selectRow id) s
      fun saved s' => saved = true → Recorded etdr s'.stages := by
  refine post_ask.mpr fun c => post_perform.mpr fun c' => ?_
  simp only [Op.exec, Query.reply]
  rcases c'.statement_cases true s { s with
    stages := s.stages.update id (mergeEtdrIntoTransportStage row.selectRow etdr c.env) } with
    ok | ⟨message, error⟩
  · rw [ok]
    exact retryPendingTcd_true_post (recorded.update_merge stored)
  · rw [error]
    exact fun impossible => absurd impossible (by decide)

theorem findByTicketInIdIfSet_of_not_hasTicketInId (without : etdr.hasTicketInId = false) :
    findByTicketInIdIfSet etdr.ticketInId = return .ok none := by
  unfold findByTicketInIdIfSet
  split
  · next tid column =>
    have zero : tid = 0 := by simpa [Etdr.hasTicketInId, column] using without
    rw [if_pos zero]
  · rfl

theorem retryAfterFailedSave_post (without : etdr.hasTicketInId = false) (errorMsg : String) :
    Prog.Post Op.exec (retryAfterFailedSave etdr errorMsg) s
      fun saved s' => saved = true → Recorded etdr s'.stages := by
  unfold retryAfterFailedSave
  split
  · refine post_ask.mpr fun c => ?_
    simp only [Query.reply]
    rcases c.orFault_cases (s.stages.findById etdr.ticketId) with ok | ⟨message, error⟩
    · rw [ok]
      cases found : s.stages.findById etdr.ticketId with
      | some read =>
        obtain ⟨row, here, -⟩ := Option.map_eq_some_iff.mp found
        exact retryPendingTcd_true_post (recorded_of_row? here)
      | none =>
        dsimp only
        rw [findByTicketInIdIfSet_of_not_hasTicketInId without]
        exact fun impossible => absurd impossible (by decide)
    · rw [error]
      exact fun impossible => absurd impossible (by decide)
  · exact fun impossible => absurd impossible (by decide)

/-- A record without a `TICKET_IN_ID` is found or inserted under its own ticket. -/
theorem retryInsert_post (ticket : etdr.ticketId ≠ 0) (without : etdr.hasTicketInId = false) :
    Prog.Post Op.exec (retryInsert etdr) s
      fun saved s' => saved = true → Recorded etdr s'.stages := by
  refine post_ask.mpr fun c => Prog.post_bind.mpr (stageSave_post (fun message => ?_) ?_)
  · exact retryAfterFailedSave_post without _
  · intro key s' outcome cached
    refine retryPendingTcd_true_post ?_
    cases outcome with
    | sameTicketInId column nonzero =>
      have set : etdr.hasTicketInId = true := by
        simp [Etdr.hasTicketInId, show etdr.ticketInId = some _ from column, nonzero]
      rw [set] at without
      cases without
    | sameId given stored =>
      rw [given ticket] at stored
      exact recorded_of_row? stored
    | inserted given done =>
      have eq : key = etdr.ticketId := given ticket
      subst eq
      exact recorded_of_row? (StageTable.row?_of_insertRow done)

/-- An attempt whose record is in the table, or can only be looked for under its own ticket. -/
theorem retrySaveBect_post (etdr : Etdr) (ticket : etdr.ticketId ≠ 0)
    (reachable : etdr.hasTicketInId = true → Recorded etdr s.stages) :
    Prog.Post Op.exec (retrySaveBect etdr) s
      fun saved s' => saved = true → Recorded etdr s'.stages := by
  have withoutRow : Prog.Post Op.exec (retryWithoutRow etdr) s
      fun saved s' => saved = true → Recorded etdr s'.stages := by
    refine Prog.post_bind.mpr ?_
    cases without : etdr.hasTicketInId with
    | false =>
      rw [findByTicketInIdIfSet_of_not_hasTicketInId without]
      exact retryInsert_post ticket without
    | true =>
      obtain ⟨tid, column, nonzero⟩ : ∃ tid, etdr.ticketInId = some tid ∧ tid ≠ 0 := by
        simpa [Etdr.hasTicketInId, Option.any_eq_true] using without
      have recorded := reachable without
      simp only [findByTicketInIdIfSet, column, if_neg nonzero]
      intro c
      simp only [Op.exec, Query.reply]
      rcases c.orFault_cases (s.stages.findByTicketInId tid c.rank) with ok | ⟨message, error⟩
      · rw [ok]
        cases found : s.stages.findByTicketInId tid c.rank with
        | some read =>
          obtain ⟨row, stored, -, -, rfl⟩ := StageTable.findByTicketInId_eq_some found
          exact retryMerge_post recorded stored
        | none => exact fun _ => recorded
      · rw [error]
        exact fun _ => recorded
  refine post_ask.mpr fun c => ?_
  simp only [Query.reply]
  rcases c.orFault_cases (s.stages.findById etdr.ticketId) with ok | ⟨message, error⟩
  · rw [ok]
    cases found : s.stages.findById etdr.ticketId with
    | some read =>
      obtain ⟨row, here, rfl⟩ := Option.map_eq_some_iff.mp found
      exact retryMerge_post (recorded_of_row? here) here
    | none => exact withoutRow
  · rw [error]
    exact withoutRow

/-- A record with a `TICKET_IN_ID` that the table knows neither by ticket nor by that column
counts as saved, and nothing is written. -/
theorem retrySaveBect_skips (etdr : Etdr) (set : etdr.hasTicketInId = true)
    (missing : ¬ Recorded etdr s.stages) :
    Prog.Post Op.exec (retrySaveBect etdr) s fun saved s' => saved = true ∧ s' = s := by
  obtain ⟨tid, column, nonzero⟩ : ∃ tid, etdr.ticketInId = some tid ∧ tid ≠ 0 := by
    simpa [Etdr.hasTicketInId, Option.any_eq_true] using set
  have withoutRow : Prog.Post Op.exec (retryWithoutRow etdr) s
      fun saved s' => saved = true ∧ s' = s := by
    refine Prog.post_bind.mpr ?_
    simp only [findByTicketInIdIfSet, column, if_neg nonzero]
    intro c
    simp only [Op.exec, Query.reply]
    rcases c.orFault_cases (s.stages.findByTicketInId tid c.rank) with ok | ⟨message, error⟩
    · rw [ok]
      cases found : s.stages.findByTicketInId tid c.rank with
      | some read =>
        obtain ⟨row, stored, same, -, -⟩ := StageTable.findByTicketInId_eq_some found
        exact absurd ⟨row, (StageTable.row?_eq_some_iff.mp stored).1, .inr ⟨tid, column, same⟩⟩
          missing
      | none =>
        simp only [set, if_true]
        exact ⟨rfl, rfl⟩
    · rw [error]
      simp only [set, if_true]
      exact ⟨rfl, rfl⟩
  refine post_ask.mpr fun c => ?_
  simp only [Query.reply]
  rcases c.orFault_cases (s.stages.findById etdr.ticketId) with ok | ⟨message, error⟩
  · rw [ok]
    cases found : s.stages.findById etdr.ticketId with
    | some read =>
      obtain ⟨row, here, -⟩ := Option.map_eq_some_iff.mp found
      exact absurd (recorded_of_row? here) missing
    | none => exact withoutRow
  · rw [error]
    exact withoutRow

/-- An attempt that returns `true` leaves a row for its record exactly when the record has no
`TICKET_IN_ID` or the table had a row for it before. -/
theorem retrySaveEtdrToDb_recorded_iff (etdr : Etdr) (sufficient : etdr.Sufficient) (s : Sys)
    (choices : Nat → Choice) :
    (((retrySaveEtdrToDb etdr).run Op.exec choices s).1 = true →
        Recorded etdr ((retrySaveEtdrToDb etdr).run Op.exec choices s).2.stages) ↔
      (etdr.hasTicketInId = true → Recorded etdr s.stages) := by
  unfold retrySaveEtdrToDb
  rw [if_pos sufficient]
  constructor
  · intro holds set
    by_contra missing
    have skips := retrySaveBect_skips etdr.trimTags set missing
    obtain ⟨saved, same⟩ := Prog.post_iff_run.mp skips choices
    have recorded := holds saved
    rw [same] at recorded
    exact missing recorded
  · intro reachable
    exact Prog.post_iff_run.mp (retrySaveBect_post etdr.trimTags sufficient.1 reachable) choices

/-- A check-in whose insert failed, as `process_checkin` leaves it in the cache. -/
def unsavedCheckin : Etdr :=
  { Etdr.fromCheckinBect { requestId := 7, etag := "BECT01", station := 1, lane := 2 } default with
    ticketId := 111
    check := 212
    dbSaveRetryCount := 1 }

theorem retrySaveEtdrToDb_unsavedCheckin :
    (((retrySaveEtdrToDb unsavedCheckin).run Op.exec (fun _ => default) {}).1 = true →
        Recorded unsavedCheckin
          ((retrySaveEtdrToDb unsavedCheckin).run Op.exec (fun _ => default) {}).2.stages) ↔
      (unsavedCheckin.hasTicketInId = true → Recorded unsavedCheckin ({} : Sys).stages) :=
  retrySaveEtdrToDb_recorded_iff unsavedCheckin (by decide +kernel) {} fun _ => default

/-- The retry of that check-in on an empty table returns `true` and leaves the table empty. -/
theorem retrySaveEtdrToDb_drops_checkin :
    unsavedCheckin.Sufficient ∧
      ((retrySaveEtdrToDb unsavedCheckin).run Op.exec (fun _ => default) {}).1 = true ∧
      ¬ Recorded unsavedCheckin
        ((retrySaveEtdrToDb unsavedCheckin).run Op.exec (fun _ => default) {}).2.stages := by
  refine ⟨by decide +kernel, by decide +kernel, ?_⟩
  have empty : ((retrySaveEtdrToDb unsavedCheckin).run Op.exec (fun _ => default) {}).2.stages.rows
      = [] := by
    decide +kernel
  rintro ⟨row, mem, -⟩
  rw [empty] at mem
  exact absurd mem (List.not_mem_nil)

end TollBackend

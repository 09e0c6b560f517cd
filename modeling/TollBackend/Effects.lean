import TollBackend.System

/-!
# What an operation does

Each part of the state after an operation, in terms of the operation and the state before
it. Every invariant is proved from these lemmas, without unfolding the operations again.

## Main definitions

* `DatabaseOp`, `KeydbCommand`, `LocalOp`: the three kinds of operations.
* `StageWrite`, `RowWrite`: the ways in which the main table, and a row of it, changes.
* `CacheWrite`: the ways in which a record comes to be cached.

## Main results

* `row?_of_exec`: a stored row stays, or is changed by a `RowWrite`.
* `row?_of_exec_of_none`: a new row comes from an `INSERT`.
* `cached_of_exec`: a cached record was cached before, or comes from a `CacheWrite`.
* `wellFormed_exec`: operations keep the cache well formed.
-/

namespace TollBackend

variable {o : Op} {c : Choice} {s : Sys}

/-- The state that a statement leaves is that of its success or the one before it. -/
theorem statement_snd {α : Type} (c : Choice) (value : α) (s s' : Sys) :
    (c.statement value s s').2 = s' ∨ (c.statement value s s').2 = s := by
  rcases c.statement_cases value s s' with ok | ⟨message, error⟩
  · exact .inl (by rw [ok])
  · exact .inr (by rw [error])

/-! ### Kinds of operations -/

/-- The statements that write to the database. -/
inductive DatabaseOp : Op → Prop
  | insertRow (entity : TransportTransactionStage) : DatabaseOp (.stageInsertRow entity)
  | update (id : Int) (entity : TransportTransactionStage) : DatabaseOp (.stageUpdate id entity)
  | checkinCommit (id : Int) (cols : CheckinCommitColumns) :
      DatabaseOp (.stageUpdateCheckinCommit id cols)
  | checkoutInfo (id : Int) (cols : CheckoutInfoColumns) :
      DatabaseOp (.stageUpdateCheckoutInfo id cols)
  | checkoutCommit (id : Int) (cols : CheckoutCommitColumns) :
      DatabaseOp (.stageUpdateCheckoutCommit id cols)
  | hubId (id hubId : Int) : DatabaseOp (.stageUpdateHubId id hubId)
  | accountInsert (params : InsertAccountTransactionParams) : DatabaseOp (.accountInsert params)
  | accountStatus (id status : Int) (finishDatetime : DbDatetime) :
      DatabaseOp (.accountUpdateCommitStatus id status finishDatetime)

/-- The commands that write to KeyDB. -/
inductive KeydbCommand : Op → Prop
  | set (key : KeydbKey) (etdr : Etdr) : KeydbCommand (.keydbSet key etdr)
  | remove (key : KeydbKey) : KeydbCommand (.keydbRemove key)
  | setPending (id : Int) (list : List TransportTransStageTcd) :
      KeydbCommand (.setPendingTcd id list)
  | removePending (id : Int) : KeydbCommand (.removePendingTcd id)

/-- The operations on what the process holds itself, and the queries. -/
inductive LocalOp : Op → Prop
  | ask (q : Query) : LocalOp (.ask q)
  | getLatest (etag : String) : LocalOp (.cacheGetLatestCheckin etag)
  | getAll (etag : String) : LocalOp (.cacheGetAllByEtag etag)
  | getByTicket (ticketId : Int) : LocalOp (.cacheGetByTicketId ticketId)
  | fill (etag : String) (refTransId : Int) (sync : TransportTransStageSync) :
      LocalOp (.cacheFillFromSync etag refTransId sync)
  | save (write : EtdrWrite) : LocalOp (.saveEtdr write)
  | saveToMemory (etdr : Etdr) : LocalOp (.saveEtdrToMemoryOnly etdr)
  | remove (ticketId : Int) : LocalOp (.cacheRemoveByTicketId ticketId)
  | updateHubId (ticketId hubId : Int) : LocalOp (.cacheUpdateHubId ticketId hubId)
  | takeSpawned : LocalOp .takeSpawned
  | kafka (event : KafkaEvent) : LocalOp (.sendKafka event)
  | answer (answer : Answer) : LocalOp (.answer answer)

theorem Op.kind (o : Op) : DatabaseOp o ∨ KeydbCommand o ∨ LocalOp o := by
  cases o <;> first
    | exact .inl (by constructor)
    | exact .inr (.inl (by constructor))
    | exact .inr (.inr (by constructor))

/-- A statement on the database changes nothing else. -/
theorem DatabaseOp.exec_eq (op : DatabaseOp o) (c : Choice) (s : Sys) :
    ∃ stages accounts commits, (o.exec c s).2 =
      { s with stages := stages, accounts := accounts, accountCommits := commits } := by
  have statement : ∀ {α : Type} (value : α) (s' : Sys),
      (∃ stages accounts commits, s' =
        { s with stages := stages, accounts := accounts, accountCommits := commits }) →
      ∃ stages accounts commits, (c.statement value s s').2 =
        { s with stages := stages, accounts := accounts, accountCommits := commits } := by
    intro α value s' changed
    rcases statement_snd c value s s' with ok | error
    · rw [ok]
      exact changed
    · rw [error]
      exact ⟨_, _, _, rfl⟩
  cases op with
  | insertRow entity =>
    simp only [Op.exec]
    split
    · exact statement _ _ ⟨_, _, _, rfl⟩
    · exact ⟨_, _, _, rfl⟩
  | accountStatus id status finish =>
    simp only [Op.exec]
    split
    · exact ⟨_, _, _, rfl⟩
    · exact statement _ _ ⟨_, _, _, rfl⟩
  | _ => exact statement _ _ ⟨_, _, _, rfl⟩

/-- A command to KeyDB changes nothing else. -/
theorem KeydbCommand.exec_eq (op : KeydbCommand o) (c : Choice) (s : Sys) :
    ∃ keydb pendingTcds, (o.exec c s).2 =
      { s with keydb := keydb, pendingTcds := pendingTcds } := by
  cases op <;> (simp only [Op.exec]; split) <;> exact ⟨_, _, rfl⟩

/-! ### Rows -/

/-- The row that an operation reads by its id. -/
def Op.rowOf? : Op → Option Int
  | .ask (.stageFindById id) => some id
  | _ => none

/-- How an operation changes the main table. -/
inductive StageWrite (table : StageTable) : Op → StageTable → Prop
  | insert {entity : TransportTransactionStage} {sysdate : DbDatetime} {table' : StageTable}
      (done : table.insertRow entity sysdate = some table') :
      StageWrite table (.stageInsertRow entity) table'
  | update (id : Int) (entity : TransportTransactionStage) :
      StageWrite table (.stageUpdate id entity) (table.update id entity)
  | checkinCommit (id : Int) (cols : CheckinCommitColumns) :
      StageWrite table (.stageUpdateCheckinCommit id cols) (table.updateCheckinCommit id cols)
  | checkoutInfo (id : Int) (cols : CheckoutInfoColumns) :
      StageWrite table (.stageUpdateCheckoutInfo id cols) (table.updateCheckoutInfo id cols)
  | checkoutCommit (id : Int) (cols : CheckoutCommitColumns) :
      StageWrite table (.stageUpdateCheckoutCommit id cols) (table.updateCheckoutCommit id cols)
  | hubId (id hubId : Int) (now : DbDatetime) :
      StageWrite table (.stageUpdateHubId id hubId) (table.updateHubId id hubId now)

theorem stages_of_exec (o : Op) (c : Choice) (s : Sys) :
    (o.exec c s).2.stages = s.stages ∨ StageWrite s.stages o (o.exec c s).2.stages := by
  have written : ∀ {α : Type} (value : α) (stages : StageTable), StageWrite s.stages o stages →
      (c.statement value s { s with stages := stages }).2.stages = s.stages ∨
        StageWrite s.stages o (c.statement value s { s with stages := stages }).2.stages := by
    intro α value stages write
    rcases statement_snd c value s { s with stages := stages } with ok | error
    · rw [ok]
      exact .inr write
    · rw [error]
      exact .inl rfl
  rcases o.kind with op | op | op
  · cases op with
    | insertRow entity =>
      simp only [Op.exec]
      cases done : s.stages.insertRow entity c.env.now.dbDatetime with
      | none => exact .inl rfl
      | some stages => exact written () stages (.insert done)
    | update id entity => exact written true _ (.update id entity)
    | checkinCommit id cols => exact written true _ (.checkinCommit id cols)
    | checkoutInfo id cols => exact written true _ (.checkoutInfo id cols)
    | checkoutCommit id cols => exact written true _ (.checkoutCommit id cols)
    | hubId id hubId => exact written (1 : Int) _ (.hubId id hubId _)
    | accountInsert params =>
      simp only [Op.exec]
      rcases statement_snd c c.freshId s
        { s with accounts := s.accounts ++ [params.row c.freshId] } with ok | error
      · exact .inl (by rw [ok])
      · exact .inl (by rw [error])
    | accountStatus id status finish =>
      simp only [Op.exec]
      split
      · exact .inl rfl
      · rcases statement_snd c true s (s.setAccountStatus id status finish) with ok | error
        · exact .inl (by rw [ok]; rfl)
        · exact .inl (by rw [error])
  · obtain ⟨keydb, pendingTcds, eq⟩ := op.exec_eq c s
    exact .inl (by rw [eq])
  · cases op <;> exact .inl rfl

/-- How an operation changes the row of an id. -/
inductive RowWrite (id : Int) (row : TransportTransactionStage) :
    Op → TransportTransactionStage → Prop
  | update (entity : TransportTransactionStage) :
      RowWrite id row (.stageUpdate id entity) (row.updateColumns entity)
  | checkinCommit (cols : CheckinCommitColumns) (waiting : row.checkinStatus = some "1") :
      RowWrite id row (.stageUpdateCheckinCommit id cols) (row.setCheckinCommit cols)
  | checkoutInfo (cols : CheckoutInfoColumns) :
      RowWrite id row (.stageUpdateCheckoutInfo id cols) (row.setCheckoutInfo cols)
  | checkoutCommit (cols : CheckoutCommitColumns) :
      RowWrite id row (.stageUpdateCheckoutCommit id cols) (row.setCheckoutCommit cols)
  | hubId (hubId : Int) (now : DbDatetime) :
      RowWrite id row (.stageUpdateHubId id hubId)
        { row with hubId := some hubId, lastUpdate := some now }

/-- A stored row stays as it is, or changes in one of the known ways. -/
theorem row?_of_exec {id : Int} {row : TransportTransactionStage}
    (stored : s.stages.row? id = some row) :
    ∃ row', (o.exec c s).2.stages.row? id = some row' ∧ (row' = row ∨ RowWrite id row o row') := by
  rcases stages_of_exec o c s with same | write
  · exact ⟨row, by rw [same]; exact stored, .inl rfl⟩
  · generalize (o.exec c s).2.stages = table at write
    cases write with
    | insert done => exact ⟨row, StageTable.row?_insertRow_of_some done stored, .inl rfl⟩
    | update key entity =>
      rw [StageTable.row?_update, stored]
      split
      · next here => exact ⟨_, rfl, .inr (here ▸ .update entity)⟩
      · exact ⟨row, rfl, .inl rfl⟩
    | checkinCommit key cols =>
      rw [StageTable.row?_updateCheckinCommit, stored]
      split
      · next here =>
        rw [Option.map_some]
        split
        · next waiting => exact ⟨_, rfl, .inr (here ▸ .checkinCommit cols waiting)⟩
        · exact ⟨row, rfl, .inl rfl⟩
      · exact ⟨row, rfl, .inl rfl⟩
    | checkoutInfo key cols =>
      rw [StageTable.row?_updateCheckoutInfo, stored]
      split
      · next here => exact ⟨_, rfl, .inr (here ▸ .checkoutInfo cols)⟩
      · exact ⟨row, rfl, .inl rfl⟩
    | checkoutCommit key cols =>
      rw [StageTable.row?_updateCheckoutCommit, stored]
      split
      · next here => exact ⟨_, rfl, .inr (here ▸ .checkoutCommit cols)⟩
      · exact ⟨row, rfl, .inl rfl⟩
    | hubId key hubId now =>
      rw [StageTable.row?_updateHubId, stored]
      split
      · next here => exact ⟨_, rfl, .inr (here ▸ .hubId hubId now)⟩
      · exact ⟨row, rfl, .inl rfl⟩

/-- A row that was not stored before comes from an `INSERT`. -/
theorem row?_of_exec_of_none {id : Int} {row : TransportTransactionStage}
    (absent : s.stages.row? id = none) (stored : (o.exec c s).2.stages.row? id = some row) :
    ∃ entity sysdate, o = .stageInsertRow entity ∧ entity.transportTransId = id ∧
      row = entity.insertColumns sysdate := by
  rcases stages_of_exec o c s with same | write
  · rw [same, absent] at stored
    cases stored
  · generalize (o.exec c s).2.stages = table at write stored
    cases write with
    | @insert entity sysdate _ done =>
      rw [(StageTable.row?_insertRow done).2] at stored
      split at stored
      · next here => exact ⟨entity, sysdate, rfl, here.symm, (Option.some.inj stored).symm⟩
      · rw [absent] at stored
        cases stored
    | update key entity => simp [absent] at stored
    | checkinCommit key cols => simp [absent] at stored
    | checkoutInfo key cols => simp [absent] at stored
    | checkoutCommit key cols => simp [absent] at stored
    | hubId key hubId now => simp [absent] at stored

/-! ### Account transactions -/

/-- How an operation changes the account transactions, and the list of those that became
final. -/
inductive AccountWrite (s : Sys) : Op → Sys → Prop
  | insert (params : InsertAccountTransactionParams) (id : Int) {s' : Sys}
      (accounts : s'.accounts = s.accounts ++ [params.row id])
      (commits : s'.accountCommits = s.accountCommits) :
      AccountWrite s (.accountInsert params) s'
  | status (id status : Int) (finishDatetime : DbDatetime) {s' : Sys}
      (accounts : s'.accounts = (s.setAccountStatus id status finishDatetime).accounts)
      (commits : s'.accountCommits = (s.setAccountStatus id status finishDatetime).accountCommits) :
      AccountWrite s (.accountUpdateCommitStatus id status finishDatetime) s'

theorem accounts_of_exec (o : Op) (c : Choice) (s : Sys) :
    ((o.exec c s).2.accounts = s.accounts ∧ (o.exec c s).2.accountCommits = s.accountCommits) ∨
      AccountWrite s o (o.exec c s).2 := by
  have unchanged : ∀ {α : Type} (value : α) (s' : Sys), s'.accounts = s.accounts →
      s'.accountCommits = s.accountCommits →
      (c.statement value s s').2.accounts = s.accounts ∧
        (c.statement value s s').2.accountCommits = s.accountCommits := by
    intro α value s' accounts commits
    rcases statement_snd c value s s' with ok | error
    · rw [ok]
      exact ⟨accounts, commits⟩
    · rw [error]
      exact ⟨rfl, rfl⟩
  rcases o.kind with op | op | op
  · cases op with
    | insertRow entity =>
      simp only [Op.exec]
      split
      · exact .inl (unchanged _ _ rfl rfl)
      · exact .inl ⟨rfl, rfl⟩
    | accountInsert params =>
      simp only [Op.exec]
      rcases statement_snd c c.freshId s
        { s with accounts := s.accounts ++ [params.row c.freshId] } with ok | error
      · rw [ok]
        exact .inr (.insert params c.freshId rfl rfl)
      · rw [error]
        exact .inl ⟨rfl, rfl⟩
    | accountStatus id status finish =>
      simp only [Op.exec]
      split
      · exact .inl ⟨rfl, rfl⟩
      · rcases statement_snd c true s (s.setAccountStatus id status finish) with ok | error
        · rw [ok]
          exact .inr (.status id status finish rfl rfl)
        · rw [error]
          exact .inl ⟨rfl, rfl⟩
    | _ => exact .inl (unchanged _ _ rfl rfl)
  · obtain ⟨keydb, pendingTcds, eq⟩ := op.exec_eq c s
    exact .inl (by rw [eq]; exact ⟨rfl, rfl⟩)
  · cases op <;> exact .inl ⟨rfl, rfl⟩

/-- The account transaction of an id after the status of one is set. -/
theorem account?_setAccountStatus (s : Sys) (id status : Int) (finish : DbDatetime) (id' : Int) :
    (s.setAccountStatus id status finish).account? id' = (s.account? id').map fun account =>
      if account.accountTransactionId = id then
        { account with autocommitStatus := some status, finishDatetime := some finish }
      else account := by
  rw [Sys.account?, Sys.setAccountStatus, List.find?_map]
  congr 2
  funext account
  simp only [Function.comp]
  split <;> rfl

/-! ### Cached records -/

/-- How a record comes to be cached under a tag. -/
inductive CacheWrite (s : Sys) : Op → Choice → String → Etdr → Prop
  | save (write : EtdrWrite) (c : Choice) :
      CacheWrite s (.saveEtdr write) c (normalizeEtag write.etdr.etagId) write.etdr
  | saveToMemory (etdr : Etdr) (c : Choice) :
      CacheWrite s (.saveEtdrToMemoryOnly etdr) c (normalizeEtag etdr.etagId) etdr
  | fill (etag : String) (sync : TransportTransStageSync) (c : Choice) {e : Etdr}
      (old : s.cache.Cached (normalizeEtag etag) e) :
      CacheWrite s (.cacheFillFromSync etag e.refTransId sync) c (normalizeEtag etag)
        (fillEtdrFromSync e sync c.env.now)
  | hubId (hubId : Int) (c : Choice) {k : String} {e : Etdr} (old : s.cache.Cached k e) :
      CacheWrite s (.cacheUpdateHubId e.ticketId hubId) c k { e with hubId := some hubId }

/-- A cached record was cached before, or has just been written. -/
theorem cached_of_exec {k : String} {e : Etdr} (cached : (o.exec c s).2.cache.Cached k e) :
    s.cache.Cached k e ∨ CacheWrite s o c k e := by
  rcases o.kind with op | op | op
  · obtain ⟨stages, accounts, commits, eq⟩ := op.exec_eq c s
    rw [eq] at cached
    exact .inl cached
  · obtain ⟨keydb, pendingTcds, eq⟩ := op.exec_eq c s
    rw [eq] at cached
    exact .inl cached
  · cases op with
    | getLatest etag => exact .inl (EtdrCache.getLatestCheckin_snd_cached cached)
    | getAll etag => exact .inl (EtdrCache.getAllByEtag_snd_cached cached)
    | getByTicket ticketId => exact .inl (EtdrCache.getByTicketId_snd_cached cached)
    | fill etag refTransId sync =>
      rcases EtdrCache.updateEtdr_cached cached with old | ⟨e, rfl, old, rfl, rfl⟩
      · exact .inl old
      · exact .inr (.fill etag sync c old)
    | save write =>
      rcases EtdrCache.put_cached cached with ⟨rfl, rfl⟩ | old
      · exact .inr (.save write c)
      · exact .inl old
    | saveToMemory etdr =>
      rcases EtdrCache.put_cached cached with ⟨rfl, rfl⟩ | old
      · exact .inr (.saveToMemory e c)
      · exact .inl old
    | remove ticketId => exact .inl (EtdrCache.removeByTicketId_cached cached)
    | updateHubId ticketId hubId =>
      rcases EtdrCache.updateHubIdByTicketId_cached cached with old | ⟨e, old, rfl, rfl⟩
      · exact .inl old
      · exact .inr (.hubId hubId c old)
    | _ => exact .inl cached

/-- Operations keep the cache well formed. -/
theorem wellFormed_exec (wf : s.cache.WellFormed) : (o.exec c s).2.cache.WellFormed := by
  rcases o.kind with op | op | op
  · obtain ⟨stages, accounts, commits, eq⟩ := op.exec_eq c s
    rw [eq]
    exact wf
  · obtain ⟨keydb, pendingTcds, eq⟩ := op.exec_eq c s
    rw [eq]
    exact wf
  · cases op with
    | getLatest etag => exact wf.getLatestCheckin _ _
    | getAll etag => exact wf.getAllByEtag _ _
    | getByTicket ticketId => exact wf.getByTicketId _ _ _
    | fill etag refTransId sync =>
      exact wf.updateEtdr (fun e => fillEtdrFromSync_ticketId e sync c.env.now)
        (fun e => fillEtdrFromSync_etagId e sync c.env.now) _ _ _
    | save write => exact wf.put _ _ _
    | saveToMemory etdr => exact wf.put _ _ _
    | remove ticketId => exact wf.removeByTicketId _ _
    | updateHubId ticketId hubId => exact wf.updateHubIdByTicketId _ _ _ _
    | _ => exact wf

/-! ### Records outside the cache -/

theorem mem_keydb_of_lookup {key : KeydbKey} {e : Etdr} (found : s.keydb.lookup key = some e) :
    (key, e) ∈ s.keydb := by
  obtain ⟨before, after, split, -⟩ := List.lookup_eq_some_iff.mp found
  rw [split]
  exact List.mem_append_right _ List.mem_cons_self

/-- A value that is read for a list of keys is stored in KeyDB. -/
theorem mem_keydb_of_getMany {keys : List KeydbKey} {values : List (Option Etdr)} {e : Etdr}
    (read : (Query.keydbGetMany keys).reply c s = .ok values) (mem : some e ∈ values) :
    ∃ key, (key, e) ∈ s.keydb := by
  have looked_up : keys.map (fun key => s.keydb.lookup key) = values := Choice.eq_of_ok read
  rw [← looked_up] at mem
  obtain ⟨key, -, found⟩ := List.mem_map.mp mem
  exact ⟨key, mem_keydb_of_lookup found⟩

/-- A record of KeyDB was there before, or has just been set. -/
theorem keydb_of_exec {key : KeydbKey} {e : Etdr} (mem : (key, e) ∈ (o.exec c s).2.keydb) :
    (key, e) ∈ s.keydb ∨ ∃ etdr, o = .keydbSet key etdr ∧ e = etdr.readBack := by
  rcases o.kind with op | op | op
  · obtain ⟨stages, accounts, commits, eq⟩ := op.exec_eq c s
    rw [eq] at mem
    exact .inl mem
  · cases op with
    | set key' e' =>
      simp only [Op.exec] at mem
      split at mem
      · exact .inl mem
      · rcases List.mem_cons.mp mem with here | old
        · cases here
          exact .inr ⟨e', rfl, rfl⟩
        · exact .inl (List.mem_filter.mp old).1
    | remove key' =>
      simp only [Op.exec] at mem
      split at mem
      · exact .inl mem
      · exact .inl (List.mem_filter.mp mem).1
    | setPending id list =>
      simp only [Op.exec] at mem
      split at mem <;> exact .inl mem
    | removePending id =>
      simp only [Op.exec] at mem
      split at mem <;> exact .inl mem
  · cases op <;> exact .inl mem

/-- How a write to KeyDB comes to be spawned. -/
inductive SpawnWrite (s : Sys) : Op → KeydbSync → Prop
  | save (write : EtdrWrite) : SpawnWrite s (.saveEtdr write) (.saved write.etdr)
  | hubId (ticketId hubId : Int) {k : String} {e : Etdr} (old : s.cache.Cached k e) :
      SpawnWrite s (.cacheUpdateHubId ticketId hubId) (.hubUpdated { e with hubId := some hubId })

/-- A spawned write was there before, or has just been spawned. -/
theorem spawned_of_exec {write : KeydbSync} (mem : write ∈ (o.exec c s).2.spawned) :
    write ∈ s.spawned ∨ SpawnWrite s o write := by
  rcases o.kind with op | op | op
  · obtain ⟨stages, accounts, commits, eq⟩ := op.exec_eq c s
    rw [eq] at mem
    exact .inl mem
  · obtain ⟨keydb, pendingTcds, eq⟩ := op.exec_eq c s
    rw [eq] at mem
    exact .inl mem
  · cases op with
    | save saved =>
      rcases List.mem_append.mp mem with old | new
      · exact .inl old
      · cases List.mem_singleton.mp new
        exact .inr (.save saved)
    | updateHubId ticketId hubId =>
      rcases List.mem_append.mp mem with old | new
      · exact .inl old
      · obtain ⟨updated, returned, rfl⟩ := List.mem_map.mp new
        obtain ⟨k, e, cached, rfl⟩ :=
          EtdrCache.updateHubIdByTicketId_fst (Option.mem_toList.mp returned)
        exact .inr (.hubId ticketId hubId cached)
    | takeSpawned => exact .inl (List.mem_of_mem_eraseIdx mem)
    | _ => exact .inl mem

/-- The ticket that a reserve records. -/
def Op.reserved? : Op → Option Int
  | .saveEtdr (.checkoutReserved etdr _ _ _ _) => some etdr.ticketId
  | _ => none

/-! ### Answers -/

/-- The ticket of a checkout commit that was answered with success. -/
def Answer.checkoutCommitOf? : Answer → Option Int
  | .checkoutCommit _ status ticketId => if status = 0 then some ticketId else none
  | _ => none

/-- The answer that an operation gives. -/
def Op.answer? : Op → Option Answer
  | .answer a => some a
  | _ => none

theorem Op.eq_answer_of_answer? {a : Answer} (answered : o.answer? = some a) : o = .answer a := by
  cases o <;> simp [Op.answer?] at answered
  rw [answered]

theorem answers_of_exec (o : Op) (c : Choice) (s : Sys) :
    (o.exec c s).2.answers = s.answers ++ o.answer?.toList := by
  rcases o.kind with op | op | op
  · obtain ⟨stages, accounts, commits, eq⟩ := op.exec_eq c s
    rw [eq]
    cases op <;> exact (List.append_nil _).symm
  · obtain ⟨keydb, pendingTcds, eq⟩ := op.exec_eq c s
    rw [eq]
    cases op <;> exact (List.append_nil _).symm
  · cases op with
    | answer a => rfl
    | _ => exact (List.append_nil _).symm

theorem mem_answers_of_exec {a : Answer} (mem : a ∈ (o.exec c s).2.answers) :
    a ∈ s.answers ∨ o = .answer a := by
  rw [answers_of_exec, List.mem_append, Option.mem_toList] at mem
  exact mem.imp_right Op.eq_answer_of_answer?

end TollBackend

import TollBackend.Concurrent.Local
import TollBackend.Backend

/-!
# The trip that a commit is about

A `COMMIT` names a ticket, but the handler goes by the tag: it commits the trip that the
cache and the tables hold as the latest of the tag. It changes the ticket that the request
names only where that trip is the latest one.

## Main definitions

* `ChangesOnly`: an operation changes rows and cached records of one ticket and tag only.
* `NamesLatest`: what the handler reads as the latest trip is the one that the request names.
* `CommitsNamed`: a commit that was answered with success changed nothing but its ticket.

## Main results

* `commitsNamed_of_reaches`: commits that name the latest trip change nothing else.
* `commit_changes_newer`: a commit of an older trip commits the newer one.
-/

namespace TollBackend

open Concurrent

/-- Of the rows and the cached records, only those of one ticket and tag are changed. -/
structure ChangesOnly (ticketId : Int) (etag : String) (s s' : Sys) : Prop where
  rows : ∀ id, id ≠ ticketId → s'.stages.row? id = s.stages.row? id
  tag : ∀ row ∈ s'.stages.row? ticketId, s.stages.row? ticketId = some row ∨
    normalizeEtag (row.etagNumber.getD "") = etag
  cached : ∀ key e, s'.cache.Cached key e →
    s.cache.Cached key e ∨ key = etag ∧ e.ticketId = ticketId

/-- If the commit was answered with success, then for the ticket that it names, and it has
changed nothing else. -/
def CommitsNamed (commit : FeCommitIn) (trace : List (Event Op Choice Sys)) : Prop :=
  ∀ ticketId, (∃ ev ∈ trace, ev.op = .answer (.commit commit 0 ticketId)) →
    ticketId = commit.ticketId ∧ ∀ ev ∈ trace,
      ChangesOnly commit.ticketId (normalizeEtag commit.etag) ev.pre
        (ev.op.exec ev.choice ev.pre).2

/-! ### The latest trip -/

/-- The row of a candidate from the main table. -/
def BestPendingRecord.row? : BestPendingRecord → Option TransportTransactionStage
  | .sync _ _ => none
  | .bect row => some row

/-- What an operation read from the sync table. -/
def syncRead? (ev : Event Op Choice Sys) : Option (Option TransportTransStageSync) :=
  match ev.op with
  | .ask (.syncFindLatestByEtag etag) =>
      some ((ev.choice.orFault (syncFindLatestByEtag ev.pre.syncs etag)).toOption.getD none)
  | _ => none

/-- What a task last read from the sync table. -/
def lastSyncRead (trace : List (Event Op Choice Sys)) : Option TransportTransStageSync :=
  (trace.reverse.findSome? syncRead?).getD none

/-- The cached record, the candidate from the tables, and the row that is updated are of the
ticket and the tag that the request names. -/
def NamesLatest (commit : FeCommitIn) (trace : List (Event Op Choice Sys)) (o : Op) (c : Choice)
    (s : Sys) : Prop :=
  match o with
  | .cacheGetLatestCheckin etag => ∀ e ∈ (s.cache.getLatestCheckin etag c.env.now).1,
      e.ticketId = commit.ticketId ∧ normalizeEtag e.etagId = normalizeEtag commit.etag
  | .ask (.stageFindLatestByEtag etag) =>
      ∀ best ∈ bestPendingRecord ((lastSyncRead trace).map (·, []))
        ((c.orFault (s.stages.findLatestByEtag etag c.rank)).toOption.getD none),
        ∃ row ∈ best.row?, row.transportTransId = commit.ticketId ∧
          normalizeEtag (row.etagNumber.getD "") = normalizeEtag commit.etag
  | .stageUpdateCheckinCommit id _ => ∀ row ∈ s.stages.row? id,
      normalizeEtag (row.etagNumber.getD "") = normalizeEtag commit.etag
  | _ => True

instance (commit : FeCommitIn) (trace : List (Event Op Choice Sys)) (o : Op) (c : Choice)
    (s : Sys) : Decidable (NamesLatest commit trace o c s) := by
  induction o using Op.casesOn with
  | ask q => induction q using Query.casesOn <;> (unfold NamesLatest; infer_instance)
  | _ => unfold NamesLatest; infer_instance

theorem lastSyncRead_concat (trace : List (Event Op Choice Sys)) (ev : Event Op Choice Sys) :
    lastSyncRead (trace ++ [ev]) = (syncRead? ev).getD (lastSyncRead trace) := by
  unfold lastSyncRead
  rw [List.reverse_append, List.reverse_singleton, List.singleton_append, List.findSome?_cons]
  cases syncRead? ev <;> rfl

/-- The fee lines play no part in the choice between the two tables. -/
theorem bestPendingRecord_row? (sync : Option TransportTransStageSync)
    (details details' : List TransportTransStageSyncDt) (tts : Option TransportTransactionStage) :
    (bestPendingRecord (sync.map (·, details)) tts).map (·.row?) =
      (bestPendingRecord (sync.map (·, details')) tts).map (·.row?) := by
  cases sync with
  | none => rfl
  | some sync =>
    cases tts with
    | none => rfl
    | some tts =>
      simp only [bestPendingRecord, Option.map_some, Option.any_some, Option.getD_some]
      split
      · rfl
      · split <;> rfl

/-! ### The operations of a commit -/

/-- The record is of the ticket and the tag that the request names. -/
def Etdr.NamedBy (commit : FeCommitIn) (etdr : Etdr) : Prop :=
  etdr.ticketId = commit.ticketId ∧ normalizeEtag etdr.etagId = normalizeEtag commit.etag

/-- The operation changes nothing but the ticket that the request names, and answers for no
other one. -/
def ChangesNamed (commit : FeCommitIn) (o : Op) (c : Choice) (s : Sys) : Prop :=
  ChangesOnly commit.ticketId (normalizeEtag commit.etag) s (o.exec c s).2 ∧
    ∀ ticketId, o.answer? = some (.commit commit 0 ticketId) → ticketId = commit.ticketId

variable {commit : FeCommitIn} {o : Op} {c : Choice} {s s' : Sys}

theorem ChangesOnly.of_same {ticketId : Int} {etag : String} (stages : s'.stages = s.stages)
    (cached : ∀ key e, s'.cache.Cached key e → s.cache.Cached key e) :
    ChangesOnly ticketId etag s s' where
  rows id _ := by rw [stages]
  tag row found := .inl (by rw [← stages]; exact found)
  cached key e new := .inl (cached key e new)

theorem changesNamed_ask (q : Query) : ChangesNamed commit (.ask q) c s :=
  ⟨.of_same rfl fun _ _ => id, fun _ now => by cases now⟩

theorem changesNamed_getLatest (etag : String) :
    ChangesNamed commit (.cacheGetLatestCheckin etag) c s :=
  ⟨.of_same rfl fun _ _ => EtdrCache.getLatestCheckin_snd_cached, fun _ now => by cases now⟩

theorem changesNamed_kafka (event : KafkaEvent) : ChangesNamed commit (.sendKafka event) c s :=
  ⟨.of_same rfl fun _ _ => id, fun _ now => by cases now⟩

theorem changesNamed_answer {status ticketId : Int}
    (named : status = 0 → ticketId = commit.ticketId) :
    ChangesNamed commit (.answer (.commit commit status ticketId)) c s :=
  ⟨.of_same rfl fun _ _ => id, fun _ now => by cases now; exact named rfl⟩

theorem changesNamed_save {write : EtdrWrite} (named : write.etdr.NamedBy commit) :
    ChangesNamed commit (.saveEtdr write) c s := by
  refine ⟨⟨fun _ _ => rfl, fun row found => .inl found, fun key e cached => ?_⟩,
    fun _ now => by cases now⟩
  rcases EtdrCache.put_cached cached with ⟨rfl, rfl⟩ | old
  · exact .inr ⟨named.2, named.1⟩
  · exact .inl old

theorem changesNamed_update {cols : CheckinCommitColumns} {trace : List (Event Op Choice Sys)}
    (latest : NamesLatest commit trace (.stageUpdateCheckinCommit commit.ticketId cols) c s) :
    ChangesNamed commit (.stageUpdateCheckinCommit commit.ticketId cols) c s := by
  refine ⟨⟨fun id ne => ?_, fun row found => ?_, fun key e cached => .inl ?_⟩,
    fun _ now => by cases now⟩
  · rcases stages_of_exec (.stageUpdateCheckinCommit commit.ticketId cols) c s with same | write
    · rw [same]
    · generalize ((Op.stageUpdateCheckinCommit commit.ticketId cols).exec c s).2.stages = table
        at write
      cases write
      rw [StageTable.row?_updateCheckinCommit, if_neg ne]
  · cases stored : s.stages.row? commit.ticketId with
    | none =>
      obtain ⟨entity, _, insert, -, -⟩ := row?_of_exec_of_none stored found
      cases insert
    | some old =>
      obtain ⟨new, found', write⟩ := row?_of_exec (o := .stageUpdateCheckinCommit commit.ticketId cols)
        (c := c) stored
      cases found.symm.trans found'
      rcases write with rfl | write
      · exact .inl rfl
      · cases write with
        | checkinCommit _ _ => exact .inr (latest old stored)
  · rcases cached_of_exec cached with old | write
    · exact old
    · cases write

/-! ### The program -/

/-- A commit that reads the trip it names as the latest changes nothing else. -/
def targetContract (commit : FeCommitIn) : Contract backend :=
  .standalone backend (fun _ => True) (fun _ => NamesLatest commit)
    fun _ _ => ChangesNamed commit

variable {req : Req} {trace : List (Event Op Choice Sys)} {α : Type}

theorem targetSafe_perform {next : o.Res → Program α}
    {post : α → List (Event Op Choice Sys) → Sys → Prop}
    (own : ∀ c s, NamesLatest commit trace o c s → ChangesNamed commit o c s ∧
      (targetContract commit).Safe req (next (o.exec c s).1) post (trace ++ [⟨o, c, s⟩])
        (o.exec c s).2) :
    (targetContract commit).Safe req (perform o >>= next) post trace s :=
  Contract.standalone_safe_op (fun _ _ _ _ => trivial) fun c s _ => own c s

theorem targetSafe_ask {q : Query} {next : q.Reply → Program α}
    {post : α → List (Event Op Choice Sys) → Sys → Prop}
    (rest : ∀ c s, NamesLatest commit trace (.ask q) c s →
      (targetContract commit).Safe req (next (q.reply c s)) post (trace ++ [⟨.ask q, c, s⟩]) s) :
    (targetContract commit).Safe req (ask q >>= next) post trace s :=
  targetSafe_perform fun c s latest => ⟨changesNamed_ask q, rest c s latest⟩

theorem targetSafe_of_only {p : Program α} (only : p.Only fun o => ∀ c s, ChangesNamed commit o c s) :
    (targetContract commit).Safe req p (fun _ _ _ => True) trace s :=
  Contract.safe_of_only only trivial (fun _ _ _ _ _ _ => trivial)
    fun _ s _ c named _ _ _ => ⟨named c s, trivial, trivial⟩

theorem latestSyncWithDetails_target (etag : String) :
    (targetContract commit).Safe req (latestSyncWithDetails etag)
      (fun read tr _ => ∃ details, read = (lastSyncRead tr).map (·, details)) trace s := by
  refine targetSafe_ask fun c s _ => ?_
  have read : lastSyncRead (trace ++ [⟨.ask (.syncFindLatestByEtag etag), c, s⟩]) =
      (c.orFault (syncFindLatestByEtag s.syncs etag)).toOption.getD none :=
    lastSyncRead_concat _ _
  simp only [Query.reply]
  split
  · next sync found =>
    refine targetSafe_ask fun c' s' _ => ?_
    refine ⟨((Query.syncDtFindByTransportSyncId sync.transportSyncId).reply c' s').toOption.getD [],
      ?_⟩
    rw [lastSyncRead_concat, syncRead?, Option.getD_none, read, found]
    rfl
  · next missing =>
    refine ⟨[], ?_⟩
    rw [read]
    rcases Choice.orFault_cases c (syncFindLatestByEtag s.syncs etag) with ok | ⟨message, error⟩
    · rw [ok]
      cases found : syncFindLatestByEtag s.syncs etag with
      | none => rfl
      | some sync => exact absurd (by rw [ok, found]) (missing sync)
    · rw [error]
      rfl

/-- The candidate that the lookup chooses, if any, is the row that the request names. -/
theorem findBestPending_target (etag : String) :
    (targetContract commit).Safe req (findBestPending etag)
      (fun best _ _ => ∀ b ∈ best, ∃ row, b = .bect row ∧ row.transportTransId = commit.ticketId ∧
        normalizeEtag (row.etagNumber.getD "") = normalizeEtag commit.etag) trace s := by
  refine Contract.safe_bind.mpr ((latestSyncWithDetails_target etag).mono ?_)
  rintro read tr s ⟨details, rfl⟩
  refine targetSafe_ask fun c s latest best chosen => ?_
  have rows := bestPendingRecord_row? (lastSyncRead tr) details []
    (((Query.stageFindLatestByEtag etag).reply c s).toOption.getD none)
  rw [Option.mem_def.mp chosen, Option.map_some] at rows
  obtain ⟨best', chosen', same⟩ := Option.map_eq_some_iff.mp rows.symm
  obtain ⟨row, found, named⟩ := latest best' chosen'
  rw [same] at found
  cases best with
  | sync sync details => cases found
  | bect record =>
    cases found
    exact ⟨_, rfl, named⟩

/-- The lookup returns a record that the request names, if any. -/
theorem getBestPending_target (etag : String) :
    (targetContract commit).Safe req (getBestPendingFromSyncOrMainBect etag)
      (fun stored _ _ => ∀ e ∈ stored, e.NamedBy commit) trace s := by
  refine Contract.safe_bind.mpr ((findBestPending_target _).mono ?_)
  intro best tr s chosen
  cases best with
  | none =>
    refine Contract.safe_pure.mpr fun e returned => ?_
    cases returned
  | some best =>
    obtain ⟨row, rfl, named⟩ := chosen best rfl
    refine targetSafe_ask fun c s _ => ?_
    refine targetSafe_perform fun c' s _ => ⟨changesNamed_save named, fun e returned => ?_⟩
    cases returned
    exact named

theorem resolveLatestEtdr_target (etag : String) :
    (targetContract commit).Safe req (resolveLatestEtdr etag)
      (fun latest _ _ => ∀ e ∈ latest, e.NamedBy commit) trace s := by
  refine targetSafe_perform fun c s latest => ⟨changesNamed_getLatest etag, ?_⟩
  refine Contract.safe_bind.mpr ((getBestPending_target etag).mono fun stored tr s named => ?_)
  intro e merged
  rcases mergeLatestCheckinEtdr_mem merged with cached | found
  · exact latest e cached
  · exact named e found

theorem finishCommit_target {etdr : Etdr} (named : etdr.NamedBy commit)
    (updated : DbResult Bool) :
    (targetContract commit).Safe req (finishCommit commit etdr updated) (fun _ _ _ => True)
      trace s := by
  refine targetSafe_of_only ?_
  refine (commitOutcome_only (fun q _ _ => changesNamed_ask q) _ _).bind fun outcome => ?_
  refine (only_perform_bind _ _).mpr ⟨fun _ _ => changesNamed_save named, fun _ => ?_⟩
  refine (only_perform_bind _ _).mpr ⟨fun _ _ => changesNamed_kafka _, fun _ => ?_⟩
  exact (only_perform _).mpr fun _ _ => changesNamed_answer fun _ => named.1

theorem commitEtdr_target {etdr : Etdr} (named : etdr.NamedBy commit) (now : Clock) :
    (targetContract commit).Safe req (commitEtdr commit etdr now) (fun _ _ _ => True) trace s := by
  have refused : ∀ {status} tr s, status ≠ 0 → (targetContract commit).Safe req
      (perform (.answer (.commit commit status etdr.ticketId))) (fun _ _ _ => True) tr s :=
    fun _ _ ne => targetSafe_of_only ((only_perform _).mpr fun _ _ =>
      changesNamed_answer fun zero => absurd zero ne)
  refine targetSafe_ask fun c s _ => ?_
  split
  · split
    · exact refused _ _ (by decide)
    · refine Contract.safe_bind.mpr ((targetSafe_of_only
        (duplicateTicketInId_only (fun q _ _ => changesNamed_ask q) _ _)).mono ?_)
      intro isDuplicate tr s _
      split
      · exact refused _ _ (by decide)
      · obtain ⟨ticket, -⟩ := id named
        rw [ticket]
        exact targetSafe_perform fun c s latest => ⟨changesNamed_update latest, finishCommit_target named _⟩
  · exact refused _ _ (by decide)

theorem processCommit_target :
    (targetContract commit).Safe req (processCommit commit) (fun _ _ _ => True) trace s := by
  have refused : ∀ {status t} tr s, status ≠ 0 → (targetContract commit).Safe req
      (perform (.answer (.commit commit status t))) (fun _ _ _ => True) tr s :=
    fun _ _ ne => targetSafe_of_only ((only_perform _).mpr fun _ _ =>
      changesNamed_answer fun zero => absurd zero ne)
  refine targetSafe_ask fun c s _ => ?_
  split
  · refine targetSafe_perform fun c s latest => ⟨changesNamed_getLatest _, ?_⟩
    split
    · exact refused _ _ (by decide)
    · next etdr cached =>
      refine targetSafe_ask fun c s _ => ?_
      refine targetSafe_perform fun c s _ => ⟨changesNamed_save (latest etdr cached), ?_⟩
      exact refused _ _ (by decide)
  · split
    · refine targetSafe_ask fun c s _ => ?_
      refine Contract.safe_bind.mpr ((resolveLatestEtdr_target _).mono fun latest tr s named => ?_)
      split
      · exact refused _ _ (by decide)
      · next etdr =>
        split
        · exact refused _ _ (by decide)
        · exact commitEtdr_target (named etdr rfl) _
    · split
      · exact refused _ _ (by decide)
      · exact refused _ _ (by decide)

/-! ### Runs -/

/-- In any run, a commit that reads the trip it names as the latest changes nothing else. -/
theorem commitsNamed_of_reaches {s : Sys} {pool : BackendPool}
    (reaches : backend.Reaches anyStep (Pool.init s) pool) {i : Nat} {commit : FeCommitIn}
    {trace : List (Event Op Choice Sys)} {rest : Program Unit}
    (found : pool.tasks[i]? = some ⟨.commit commit, trace, rest⟩)
    (latest : Along (NamesLatest commit) trace) : CommitsNamed commit trace := by
  have safe : ∀ s, (Contract.standalone backend (fun _ => True) (fun _ => NamesLatest commit)
      fun _ _ => ChangesNamed commit).Safe (.commit commit) (backend.prog (.commit commit))
      (fun _ _ _ => True) [] s := fun s => processCommit_target
  have changes : Along (fun _ => ChangesNamed commit) trace :=
    Contract.along_of_reaches (fun _ _ _ _ => trivial) safe trivial reaches found latest
  rintro ticketId ⟨ev, mem, answer⟩
  refine ⟨?_, fun ev mem => ?_⟩
  · obtain ⟨before, -, answered⟩ := changes.of_mem mem
    exact answered ticketId (by rw [answer]; rfl)
  · obtain ⟨before, only, -⟩ := changes.of_mem mem
    exact only

/-- A commit that names the only trip of its tag. -/
theorem commitsNamed_beforeCommit :
    ∃ (pool : BackendPool) (trace : List (Event Op Choice Sys)) (rest : Program Unit),
      backend.Reaches anyStep (Pool.init beforeCommit) pool ∧
      pool.tasks[0]? = some ⟨.commit { etag := "BECT01", ticketId := 1 }, trace, rest⟩ ∧
      .commit { etag := "BECT01", ticketId := 1 } 0 1 ∈ pool.state.answers ∧
      CommitsNamed { etag := "BECT01", ticketId := 1 } trace := by
  obtain ⟨pool, reaches, test⟩ := backend.exists_reaches anyStep (Pool.init beforeCommit)
    (.start (.commit { etag := "BECT01", ticketId := 1 }) :: List.replicate 14 (.act 0 entryLane))
    (fun pool => match pool.tasks with
      | [⟨.commit commit, trace, _⟩] =>
          decide (commit = { etag := "BECT01", ticketId := 1 } ∧
            .commit { etag := "BECT01", ticketId := 1 } 0 1 ∈ pool.state.answers ∧
            Along (NamesLatest commit) trace)
      | _ => false) (by decide +kernel)
  split at test
  · next commit trace rest tasks =>
    obtain ⟨rfl, answered, latest⟩ := of_decide_eq_true test
    have found : pool.tasks[0]? =
        some ⟨.commit { etag := "BECT01", ticketId := 1 }, trace, rest⟩ := by rw [tasks]; rfl
    exact ⟨pool, trace, rest, reaches, found, answered,
      commitsNamed_of_reaches reaches found latest⟩
  · cases test

/-- A trip of the same tag that was entered later. -/
def newerTrip : TransportTransactionStage where
  transportTransId := 2
  etagNumber := some "BECT01"
  checkinDatetime := some ⟨5⟩
  checkinStatus := some "1"

/-- The state with both trips. -/
def twoTrips : Sys where
  stages := { rows := [enteredTrip, newerTrip], primaryKey := by decide }

/-- The commit time of a row. -/
def commitTime? (s : Sys) (id : Int) : Option DbDatetime :=
  (s.stages.row? id).bind (·.checkinCommitDatetime)

/-- A commit that names the older trip of a tag commits the newer one. -/
theorem commit_changes_newer :
    ¬ ∀ (s : Sys) (pool : BackendPool) (i : Nat) (commit : FeCommitIn)
      (trace : List (Event Op Choice Sys)) (rest : Program Unit), commit.ticketId ≠ 0 →
      backend.Reaches anyStep (Pool.init s) pool →
      pool.tasks[i]? = some ⟨.commit commit, trace, rest⟩ → CommitsNamed commit trace := by
  intro claim
  obtain ⟨pool, reaches, test⟩ := backend.exists_reaches anyStep (Pool.init twoTrips)
    (.start (.commit { etag := "BECT01", ticketId := 1 }) :: List.replicate 14 (.act 0 entryLane))
    (fun pool => match pool.tasks with
      | [⟨.commit commit, trace, _⟩] => decide (commit.ticketId = 1) &&
          (trace.any fun ev => decide (ev.op.answer? = some (.commit commit 0 2))) &&
          trace.any fun ev => decide (commitTime? (ev.op.exec ev.choice ev.pre).2 2 ≠
            commitTime? ev.pre 2)
      | _ => false) (by decide +kernel)
  split at test
  · next commit trace rest tasks =>
    simp only [Bool.and_eq_true, decide_eq_true_eq, List.any_eq_true] at test
    obtain ⟨⟨named, ev, mem, answer⟩, ev', mem', changed⟩ := test
    have found : pool.tasks[0]? = some ⟨.commit commit, trace, rest⟩ := by rw [tasks]; rfl
    have only := (claim _ pool 0 commit trace rest (by rw [named]; decide) reaches found 2
      ⟨ev, mem, Op.eq_answer_of_answer? answer⟩).2 ev' mem'
    exact changed (by rw [commitTime?, only.rows 2 (by rw [named]; decide)]; rfl)
  · cases test

end TollBackend

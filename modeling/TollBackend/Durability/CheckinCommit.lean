import TollBackend.Backend

/-!
# Durability of a committed check-in

A commit on an entry lane is answered with success whatever its `UPDATE` did: the statement
may fail, and it may match no row, because it asks for `CHECKIN_STATUS = '1'` while rows that
come from the sync table or from the retry already have `'2'`. The record is then not marked
for the retry either.

## Main definitions

* `CommitsDurable`, `CommitsStored`: every commit that was answered with success is stored or
  queued for a retry that stores it; it is stored.
* `CommitStored`: an operation under which commits are stored.

## Main results

* `commitsStored_of_reaches`: runs of such operations store the commits.
* `commit_answered_unstored`: a commit of a row with `CHECKIN_STATUS = '2'` is lost.
-/

namespace TollBackend

open Concurrent

/-- The row of the ticket has the time of its check-in commit. -/
def CheckinCommitted (s : Sys) (ticketId : Int) : Prop :=
  ∃ row ∈ s.stages.row? ticketId, row.checkinCommitDatetime.isSome

instance (s : Sys) (ticketId : Int) : Decidable (CheckinCommitted s ticketId) := by
  unfold CheckinCommitted; infer_instance

/-- A commit that was answered with success has its time in the row, or a record waits for a
retry that writes it there. -/
def CommitsDurable (s : Sys) : Prop :=
  ∀ req ticketId, .commit req 0 ticketId ∈ s.answers →
    CheckinCommitted s ticketId ∨ QueuedFor s ticketId fun s' => CheckinCommitted s' ticketId

/-- A commit that was answered with success has its time in the row. -/
def CommitsStored (s : Sys) : Prop :=
  ∀ req ticketId, .commit req 0 ticketId ∈ s.answers → CheckinCommitted s ticketId

theorem CommitsStored.durable {s : Sys} (stored : CommitsStored s) : CommitsDurable s :=
  fun req ticketId answered => .inl (stored req ticketId answered)

/-- The `UPDATE` of a commit succeeds on a row that waits for it, or the row is committed
already; and no full-row `UPDATE` clears a commit time. -/
def CommitStored (s : Sys) (c : Choice) : Op → Prop
  | .stageUpdateCheckinCommit id _ =>
      (c.fault = none ∧ ∃ row ∈ s.stages.row? id, row.checkinStatus = some "1") ∨
        CheckinCommitted s id
  | .stageUpdate id entity => CheckinCommitted s id → entity.checkinCommitDatetime.isSome
  | _ => True

instance (s : Sys) (c : Choice) : DecidablePred (CommitStored s c) := fun o => by
  induction o using Op.casesOn <;> (unfold CommitStored; infer_instance)

/-- The steps of a run under which commits are stored. -/
def CommitStoredCond : BackendPool → BackendLabel → Prop :=
  System.EachAct fun _ _ o c s => CommitStored s c o

instance (pool : BackendPool) (l : BackendLabel) : Decidable (CommitStoredCond pool l) := by
  unfold CommitStoredCond; infer_instance

/-! ### One operation -/

variable {s : Sys} {o : Op} {c : Choice} {t : Int}

/-- A stored commit stays. -/
theorem checkinCommitted_exec (stored : CommitStored s c o) (committed : CheckinCommitted s t) :
    CheckinCommitted (o.exec c s).2 t := by
  obtain ⟨row, found, time⟩ := id committed
  obtain ⟨row', found', rfl | write⟩ := row?_of_exec (o := o) (c := c) found
  · exact ⟨row', found', time⟩
  · refine ⟨row', found', ?_⟩
    cases write with
    | update entity => exact stored committed
    | checkinCommit cols _ => rfl
    | checkoutInfo cols => exact time
    | checkoutCommit cols => exact time
    | hubId hubId now => exact time

/-- The `UPDATE` of a commit stores it. -/
theorem checkinCommitted_update {cols : CheckinCommitColumns}
    (stored : CommitStored s c (.stageUpdateCheckinCommit t cols)) :
    CheckinCommitted ((Op.stageUpdateCheckinCommit t cols).exec c s).2 t := by
  rcases id stored with ⟨ok, row, found, waiting⟩ | committed
  · have executed : ((Op.stageUpdateCheckinCommit t cols).exec c s).2.stages =
        s.stages.updateCheckinCommit t cols := by
      simp only [Op.exec, Choice.statement, ok]
    refine ⟨row.setCheckinCommit cols, ?_, rfl⟩
    rw [executed, Option.mem_def, StageTable.row?_updateCheckinCommit, if_pos rfl,
      Option.mem_def.mp found, Option.map_some, if_pos waiting]
  · exact checkinCommitted_exec stored committed

/-! ### The contract of a commit -/

/-- The operation does not answer a commit with success. -/
def CommitSilent (o : Op) : Prop :=
  ∀ req ticketId, o.answer? ≠ some (.commit req 0 ticketId)

/-- Answered commits are stored; the tasks leave stored commits alone, and answer a commit
only when it is stored. -/
def commitContract : Contract backend where
  inv := CommitsStored
  rely _ _ s s' := ∀ t, CheckinCommitted s t → CheckinCommitted s' t
  may _ _ o c s := CommitStored s c o
  must _ _ o c s := ∀ t, CheckinCommitted s t → CheckinCommitted (o.exec c s).2 t
  rely_refl _ _ _ _ committed := committed
  rely_trans _ _ _ _ _ first second t committed := second t (first t committed)

variable {req : Req} {trace : List (Event Op Choice Sys)}

/-- Operations that answer no commit, or one that is stored, keep the contract. -/
theorem commitContract_own (inv : commitContract.inv s)
    (may : commitContract.may req trace o c s)
    (answers : ∀ commit t, o.answer? = some (.commit commit 0 t) → CheckinCommitted s t) :
    commitContract.must req trace o c s ∧ commitContract.inv (o.exec c s).2 := by
  refine ⟨fun t => checkinCommitted_exec may, fun commit t answered => ?_⟩
  refine checkinCommitted_exec may ?_
  rcases mem_answers_of_exec answered with old | now
  · exact inv commit t old
  · exact answers commit t (now ▸ rfl)

variable {α : Type}

/-- A program that answers no commit with success is safe. -/
theorem commitSafe_of_silent {p : Program α} (silent : p.Only CommitSilent) :
    commitContract.Safe req p (fun _ _ _ => True) trace s := by
  refine Contract.safe_of_only silent trivial (fun _ _ _ _ _ _ => trivial) ?_
  intro tr s o c silent _ inv may
  obtain ⟨must, inv'⟩ := commitContract_own inv may fun commit t now => absurd now (silent _ _)
  exact ⟨must, inv', trivial⟩

theorem commitSafe_bind {β : Type} {p : Program α} {f : α → Program β}
    (silent : p.Only CommitSilent)
    (rest : ∀ a tr s, commitContract.Safe req (f a) (fun _ _ _ => True) tr s) :
    commitContract.Safe req (p >>= f) (fun _ _ _ => True) trace s :=
  Contract.safe_bind.mpr ((commitSafe_of_silent silent).mono fun a tr s _ => rest a tr s)

/-! ### The programs -/

theorem commitSilent_of_none (silent : o.answer? = none) : CommitSilent o := by
  intro commit t answered
  rw [silent] at answered
  cases answered

theorem commitSilent_ask (q : Query) : CommitSilent (.ask q) :=
  commitSilent_of_none rfl

theorem commitSilent_lookup (op : LookupOp o) : CommitSilent o :=
  commitSilent_of_none op.answer?_eq_none

theorem commitSilent_answer (commit : FeCommitIn) {status : Int} (refused : status ≠ 0) :
    (perform (.answer (.commit commit status t))).Only CommitSilent := by
  refine (only_perform _).mpr fun _ _ eq => ?_
  cases eq
  exact refused rfl

/-- What follows the `UPDATE` is safe once the commit is stored. -/
theorem finishCommit_safe (commit : FeCommitIn) (etdr : Etdr) (updated : DbResult Bool)
    (committed : CheckinCommitted s etdr.ticketId) :
    commitContract.Safe req (finishCommit commit etdr updated) (fun _ _ _ => True) trace s := by
  have only : (finishCommit commit etdr updated).Only fun o =>
      CommitSilent o ∨ o = .answer (.commit commit 0 etdr.ticketId) := by
    refine (commitOutcome_only (fun q => .inl (commitSilent_ask q)) _ _).bind fun outcome => ?_
    refine (only_perform_bind _ _).mpr ⟨.inl (commitSilent_of_none rfl), fun _ => ?_⟩
    exact (only_perform_bind _ _).mpr ⟨.inl (commitSilent_of_none rfl), fun _ =>
      (only_perform _).mpr (.inr rfl)⟩
  have others : ∀ (tr : List (Event Op Choice Sys)) (s s' : Sys),
      CheckinCommitted s etdr.ticketId → commitContract.rely req tr s s' →
      commitContract.inv s' → CheckinCommitted s' etdr.ticketId :=
    fun _ _ _ committed rely _ => rely _ committed
  refine (Contract.safe_of_only (J := fun _ s => CheckinCommitted s etdr.ticketId) only committed
    others ?_).mono fun _ _ _ _ => trivial
  intro tr s o c allowed committed inv may
  obtain ⟨must, inv'⟩ := commitContract_own inv may fun commit' t now => by
    rcases allowed with silent | rfl
    · exact absurd now (silent _ _)
    · cases now
      exact committed
  exact ⟨must, inv', must _ committed⟩

theorem commitEtdr_safe (commit : FeCommitIn) (etdr : Etdr) (now : Clock) :
    commitContract.Safe req (commitEtdr commit etdr now) (fun _ _ _ => True) trace s := by
  have refused : ∀ {status} tr s, status ≠ 0 → commitContract.Safe req
      (perform (.answer (.commit commit status etdr.ticketId))) (fun _ _ _ => True) tr s :=
    fun _ _ ne => commitSafe_of_silent (commitSilent_answer commit ne)
  refine commitSafe_bind ((only_ask _).mpr (commitSilent_ask _)) fun found tr s => ?_
  split
  · split
    · exact refused _ _ (by decide)
    · refine commitSafe_bind (duplicateTicketInId_only commitSilent_ask _ _)
        fun isDuplicate tr s => ?_
      split
      · exact refused _ _ (by decide)
      · intro s' _ inv c may
        obtain ⟨must, inv'⟩ := commitContract_own inv may fun _ _ now => by cases now
        exact ⟨must, inv', finishCommit_safe commit etdr _ (checkinCommitted_update may)⟩
  · exact refused _ _ (by decide)

theorem processCommit_safe (commit : FeCommitIn) :
    commitContract.Safe req (processCommit commit) (fun _ _ _ => True) trace s := by
  have refused : ∀ {status t} tr s, status ≠ 0 → commitContract.Safe req
      (perform (.answer (.commit commit status t))) (fun _ _ _ => True) tr s :=
    fun _ _ ne => commitSafe_of_silent (commitSilent_answer commit ne)
  refine commitSafe_bind ((only_ask _).mpr (commitSilent_ask _)) fun laneType tr s => ?_
  split
  · refine commitSafe_bind ((only_perform _).mpr (commitSilent_of_none rfl)) fun cached tr s => ?_
    split
    · exact refused _ _ (by decide)
    · refine commitSafe_bind ((only_ask _).mpr (commitSilent_ask _)) fun env tr s => ?_
      exact commitSafe_bind ((only_perform _).mpr (commitSilent_of_none rfl))
        fun _ tr s => refused _ _ (by decide)
  · split
    · refine commitSafe_bind ((only_ask _).mpr (commitSilent_ask _)) fun env tr s => ?_
      refine commitSafe_bind ((resolveLatestEtdr_only _).mono fun _ => commitSilent_lookup)
        fun latest tr s => ?_
      split
      · exact refused _ _ (by decide)
      · split
        · exact refused _ _ (by decide)
        · exact commitEtdr_safe commit _ _
    · split
      · exact refused _ _ (by decide)
      · exact refused _ _ (by decide)

/-! ### Runs -/

theorem commitContract_sound : commitContract.Sound CommitStoredCond where
  start pool req inv _ := by
    by_cases commit : ∃ commit, req = .commit commit
    · obtain ⟨commit, rfl⟩ := commit
      exact processCommit_safe commit
    · refine commitSafe_of_silent ((program_only req).mono fun o performs commit' t answered => ?_)
      exact commit ⟨commit', isFor_of_performs performs answered⟩
  own pool i c req trace o next meets found := meets req trace o next found
  others pool i c req trace o next j req' trace' o' next' meets found inv must ne other := must

/-- In a run of such operations, every commit that was answered with success is in its row. -/
theorem commitsStored_of_reaches {s : Sys} (unanswered : s.answers = []) {pool : BackendPool}
    (reaches : backend.Reaches CommitStoredCond (Pool.init s) pool) :
    CommitsStored pool.state := by
  have initial : CommitsStored s := fun _ _ answered => by
    rw [unanswered] at answered
    exact absurd answered List.not_mem_nil
  exact (commitContract_sound.holds_of_reaches initial reaches).1

/-- A commit of a row that waits for it. -/
theorem commitsStored_beforeCommit :
    ∃ pool : BackendPool, backend.Reaches CommitStoredCond (Pool.init beforeCommit) pool ∧
      .commit { etag := "BECT01" } 0 1 ∈ pool.state.answers ∧ CommitsDurable pool.state := by
  obtain ⟨pool, reaches, answered⟩ := backend.exists_reaches CommitStoredCond
    (Pool.init beforeCommit)
    (.start (.commit { etag := "BECT01" }) :: List.replicate 14 (.act 0 entryLane))
    (fun pool => decide (.commit { etag := "BECT01" } 0 1 ∈ pool.state.answers))
    (by decide +kernel)
  exact ⟨pool, reaches, of_decide_eq_true answered, (commitsStored_of_reaches rfl reaches).durable⟩

/-- The row of a trip that came from the sync table: `CHECKIN_STATUS` is `'2'`, and there is
no commit time. -/
def syncedTrip : TransportTransactionStage where
  transportTransId := 1
  etagNumber := some "BECT01"
  checkinDatetime := some ⟨1⟩
  checkinStatus := some "2"

/-- A commit of that trip is answered with success, but neither stored nor queued. -/
theorem commit_answered_unstored :
    ¬ ∀ (s : Sys) (pool : BackendPool), s.answers = [] →
      backend.Reaches anyStep (Pool.init s) pool → CommitsDurable pool.state := by
  intro claim
  obtain ⟨pool, reaches, lost⟩ := backend.exists_reaches anyStep
    (Pool.init { stages := { rows := [syncedTrip] } })
    (.start (.commit { etag := "BECT01" }) :: List.replicate 14 (.act 0 entryLane))
    (fun pool => decide (.commit { etag := "BECT01" } 0 1 ∈ pool.state.answers ∧
      ¬ CheckinCommitted pool.state 1 ∧ AllSaved pool.state)) (by decide +kernel)
  obtain ⟨answered, unstored, saved⟩ := of_decide_eq_true lost
  rcases claim _ pool rfl reaches _ _ answered with stored | queued
  · exact unstored stored
  · exact not_queuedFor_of_allSaved saved queued

end TollBackend

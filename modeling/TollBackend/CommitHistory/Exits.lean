import TollBackend.LookupKept

/-!
# Where the exit of a trip comes from

A checkout commit goes by the exit time in the record of a trip. A reserve sets it before it
answers, also when it answers with an error; a sync record can bring one along, and the retry
can copy the exit of one ticket to the row of another. Where the last two happen only to tickets
of a given set, every exit in the table, in the cache and in KeyDB belongs to a ticket of the set
or to one that a reserve has recorded.

## Main definitions

* `ExitsIn`: every exit belongs to a ticket of a given set.
* `ExitEarned`: an operation brings exits from elsewhere only to tickets of the set.
* `exitContract`: what requests do to exits.

## Main results

* `exitContract_sound`: all requests keep the contract.
-/

namespace TollBackend

open Concurrent

/-- The record has no exit, or its ticket is in `D`. -/
def Etdr.ExitIn (D : Int → Prop) (e : Etdr) : Prop :=
  e.checkoutDatetime ≠ 0 → D e.ticketId

/-- The row has no exit, or its ticket is in `D`. -/
def TransportTransactionStage.ExitIn (D : Int → Prop) (row : TransportTransactionStage) : Prop :=
  millisOrZero row.checkoutDatetime ≠ 0 → D row.transportTransId

/-- The record of a spawned write. -/
def KeydbSync.etdr : KeydbSync → Etdr
  | .saved etdr => etdr
  | .hubUpdated etdr => etdr

/-- A record may stand under a key: under that of a retry, only one of its ticket. -/
def KeydbKey.Fits (key : KeydbKey) (e : Etdr) : Prop :=
  ∀ t, key = .retry t → e.ticketId = t

/-- Every exit belongs to a ticket in `D`. -/
structure ExitsIn (D : Int → Prop) (s : Sys) : Prop where
  row : ∀ id row, s.stages.row? id = some row → row.ExitIn D
  cached : ∀ key e, s.cache.Cached key e → e.ExitIn D
  keydb : ∀ key e, (key, e) ∈ s.keydb → e.ExitIn D ∧ key.Fits e
  spawned : ∀ write ∈ s.spawned, write.etdr.ExitIn D

/-- An exit that a new row has, or that a sync record fills into cached records, belongs to a
ticket in `D`, and one that a full-row `UPDATE` writes too, unless it goes to a row that was
looked up by its id. -/
def ExitEarned (D : Int → Prop) (trace : List (Event Op Choice Sys)) (o : Op) (s : Sys) : Prop :=
  match o with
  | .stageInsertRow entity => entity.ExitIn D
  | .cacheFillFromSync etag _ sync => millisOrZero sync.checkoutDatetime ≠ 0 →
      ∀ e, s.cache.Cached (normalizeEtag etag) e → D e.ticketId
  | .stageUpdate id entity => millisOrZero entity.checkoutDatetime ≠ 0 →
      D id ∨ ∃ ev ∈ trace, ev.op.rowOf? = some id
  | _ => True

instance (D : Int → Prop) [DecidablePred D] (row : TransportTransactionStage) :
    Decidable (row.ExitIn D) := by
  unfold TransportTransactionStage.ExitIn; infer_instance

instance (D : Int → Prop) [DecidablePred D] (trace : List (Event Op Choice Sys)) (o : Op)
    (s : Sys) : Decidable (ExitEarned D trace o s) := by
  induction o using Op.casesOn <;> (unfold ExitEarned; infer_instance)

theorem ExitEarned.mono {D D' : Int → Prop} {trace : List (Event Op Choice Sys)} {o : Op} {s : Sys}
    (earned : ExitEarned D trace o s) (imp : ∀ t, D t → D' t) : ExitEarned D' trace o s := by
  cases o with
  | stageInsertRow entity => exact fun exit => imp _ (earned exit)
  | cacheFillFromSync etag refTransId sync =>
    exact fun exit e cached => imp _ (earned exit e cached)
  | stageUpdate id entity => exact fun exit => (earned exit).imp_left (imp id)
  | _ => trivial

/-! ### One operation -/

/-- What the operation writes has its exits in `D`; what it fills from a sync record is seen to
elsewhere, as it depends on what is cached. -/
def Op.ExitIn (D : Int → Prop) : Op → Prop
  | .stageInsertRow entity => entity.ExitIn D
  | .stageUpdate id entity => millisOrZero entity.checkoutDatetime ≠ 0 → D id
  | .stageUpdateCheckoutInfo id _ => D id
  | .stageUpdateCheckoutCommit id cols => millisOrZero cols.checkoutDatetime ≠ 0 → D id
  | .saveEtdr write => write.etdr.ExitIn D
  | .saveEtdrToMemoryOnly etdr => etdr.ExitIn D
  | .keydbSet key etdr => etdr.ExitIn D ∧ key.Fits etdr
  | _ => True

variable {D : Int → Prop} {s : Sys} {o : Op} {c : Choice} {trace : List (Event Op Choice Sys)}

theorem millisOrZero_orElse_ne_zero {a b : Option DbDatetime} (set : millisOrZero (a <|> b) ≠ 0) :
    millisOrZero a ≠ 0 ∨ millisOrZero b ≠ 0 := by
  cases a with
  | none => exact .inr set
  | some d => exact .inl set

theorem rowExitIn_of_write {id : Int} {row row' : TransportTransactionStage}
    (stored : row.transportTransId = id) (write : RowWrite id row o row') (old : row.ExitIn D)
    (written : o.ExitIn D) : row'.ExitIn D := by
  cases write with
  | update entity =>
    intro exit
    rw [show (row.updateColumns entity).transportTransId = row.transportTransId from rfl, stored]
    exact written exit
  | checkinCommit cols _ => exact old
  | checkoutInfo cols =>
    intro _
    rw [show (row.setCheckoutInfo cols).transportTransId = row.transportTransId from rfl, stored]
    exact written
  | checkoutCommit cols =>
    intro exit
    -- COALESCE keeps the exit of the row where the statement gives none
    rcases millisOrZero_orElse_ne_zero exit with new | kept
    · rw [show (row.setCheckoutCommit cols).transportTransId = row.transportTransId from rfl,
        stored]
      exact written new
    · exact old kept
  | hubId hubId now => exact old

theorem cachedExitIn_of_write {k : String} {e : Etdr} (write : CacheWrite s o c k e)
    (exits : ExitsIn D s) (written : o.ExitIn D) (earned : ExitEarned D trace o s) :
    e.ExitIn D := by
  cases write with
  | save write c => exact written
  | saveToMemory etdr c => exact written
  | @fill etag sync c e old =>
    intro exit
    -- a sync record without an exit leaves the record's own or clears it
    by_cases brings : millisOrZero sync.checkoutDatetime = 0
    · refine exits.cached _ e old fun none_before => exit ?_
      cases time : sync.checkoutDatetime with
      | none => simp [fillEtdrFromSync, time, none_before]
      | some d =>
        rw [time] at brings
        simpa [fillEtdrFromSync, time] using brings
    · exact earned brings e old
  | @hubId hubId c k e old =>
    have before : e.ExitIn D := exits.cached k e old
    exact before

/-- Operations keep exits in `D`. -/
theorem ExitsIn.exec (exits : ExitsIn D s) (written : o.ExitIn D)
    (earned : ExitEarned D trace o s) : ExitsIn D (o.exec c s).2 where
  row id row found := by
    cases stored : s.stages.row? id with
    | some old =>
      obtain ⟨row', found', same⟩ := row?_of_exec (o := o) (c := c) stored
      cases found.symm.trans found'
      rcases same with rfl | write
      · exact exits.row id row stored
      · exact rowExitIn_of_write (StageTable.transportTransId_of_row? stored) write
          (exits.row id old stored) written
    | none =>
      obtain ⟨entity, sysdate, rfl, -, rfl⟩ := row?_of_exec_of_none stored found
      exact written
  cached key e cached := by
    rcases cached_of_exec cached with old | write
    · exact exits.cached key e old
    · exact cachedExitIn_of_write write exits written earned
  keydb key e mem := by
    rcases keydb_of_exec mem with old | ⟨etdr, rfl, rfl⟩
    · exact exits.keydb key e old
    · exact written
  spawned write mem := by
    rcases spawned_of_exec mem with old | new
    · exact exits.spawned write old
    · cases new with
      | save write => exact written
      | @hubId ticketId hubId k e old =>
        have before : e.ExitIn D := exits.cached k e old
        exact before

/-! ### The contract -/

/-- Requests write only exits of tickets in `D`, and commit only such tickets, if `D` has the
tickets that reserves record and those that get an exit from elsewhere. -/
def exitContract (D : Int → Prop) : Contract backend where
  inv := ExitsIn D
  rely _ _ _ _ := True
  may _ trace o _ s := ExitEarned D trace o s ∧ ∀ t ∈ o.reserved?, D t
  must _ _ o _ _ := ∀ commit t, o.answer? = some (.checkoutCommit commit 0 t) → D t
  rely_refl _ _ _ := trivial
  rely_trans _ _ _ _ _ _ _ := trivial

/-- The operation writes only exits in `D`, and does not commit a checkout. -/
def ExitSilent (D : Int → Prop) (o : Op) : Prop :=
  o.ExitIn D ∧ ∀ commit t, o.answer? ≠ some (.checkoutCommit commit 0 t)

variable {req : Req} {α β : Type}

theorem exitSilent_of_none (written : o.ExitIn D) (silent : o.answer? = none) :
    ExitSilent D o := by
  refine ⟨written, fun commit t answered => ?_⟩
  rw [silent] at answered
  cases answered

theorem exitSilent_ask (q : Query) : ExitSilent D (.ask q) :=
  exitSilent_of_none trivial rfl

theorem ExitSilent.must (silent : ExitSilent D o) : (exitContract D).must req trace o c s :=
  fun commit t answered => absurd answered (silent.2 commit t)

theorem exitSafe_of_silent {p : Program α} (silent : p.Only (ExitSilent D)) :
    (exitContract D).Safe req p (fun _ _ _ => True) trace s :=
  Contract.safe_of_only silent trivial (fun _ _ _ _ _ _ => trivial) fun _ _ _ _ silent _ inv may =>
    ⟨silent.must, inv.exec silent.1 may.1, trivial⟩

/-- One operation that does not commit, and what follows it. -/
theorem exitSafe_perform {next : o.Res → Program α}
    {post : α → List (Event Op Choice Sys) → Sys → Prop}
    (own : ∀ c s, ExitsIn D s → ExitEarned D trace o s → (∀ t ∈ o.reserved?, D t) →
      ExitSilent D o ∧ (exitContract D).Safe req (next (o.exec c s).1) post (trace ++ [⟨o, c, s⟩])
        (o.exec c s).2) :
    (exitContract D).Safe req (perform o >>= next) post trace s := by
  refine Contract.safe_perform_bind.mpr fun s' _ inv c may => ?_
  obtain ⟨silent, rest⟩ := own c s' inv may.1 may.2
  exact ⟨silent.must, inv.exec silent.1 may.1, rest⟩

theorem exitSafe_ask {q : Query} {next : q.Reply → Program α}
    {post : α → List (Event Op Choice Sys) → Sys → Prop}
    (rest : ∀ c s, ExitsIn D s →
      (exitContract D).Safe req (next (q.reply c s)) post (trace ++ [⟨.ask q, c, s⟩]) s) :
    (exitContract D).Safe req (ask q >>= next) post trace s :=
  exitSafe_perform fun c s exits _ _ => ⟨exitSilent_ask q, rest c s exits⟩

theorem exitSafe_answer {a : Answer} (other : ∀ commit t, a ≠ .checkoutCommit commit 0 t) :
    (perform (.answer a)).Only (ExitSilent D) := by
  refine (only_perform _).mpr ⟨trivial, fun commit t answered => ?_⟩
  cases answered
  exact other commit t rfl

/-! ### Lookups -/

/-- For a lookup, rows and records have their exits in `D`. -/
def exitGoals (D : Int → Prop) : LookupGoals where
  tag _ := True
  sync _ := True
  row row := row.ExitIn D
  etdr e := e.ExitIn D

theorem exitSilent_lookup (read : LookupRead (exitGoals D).toLookupScope o)
    (earned : ExitEarned D trace o s) : ExitSilent D o := by
  cases read with
  | insertRow _ env ticketId id => exact exitSilent_of_none earned rfl
  | _ => exact exitSilent_of_none trivial rfl

theorem exitKept : LookupKept (exitContract D) req (ExitsIn D) (exitGoals D) where
  others _ _ _ _ _ inv := inv
  read tr s o c read exits _ may := by
    have silent := exitSilent_lookup read may.1
    exact ⟨silent.must, exits.exec silent.1 may.1, exits.exec silent.1 may.1⟩
  save tr s write c ok exits _ may := by
    have silent : ExitSilent D (.saveEtdr write) := exitSilent_of_none ok rfl
    exact ⟨silent.must, exits.exec ok may.1, exits.exec ok may.1⟩
  normalized _ _ := trivial
  sync _ _ _ _ _ _ _ _ _ := trivial
  latest s etag row _ exits found _ := exits.row _ row found
  byId tr s c id row exits _ found := exits.row id row found
  record row now ok := ok
  cached s key e _ exits cached := exits.cached key e cached

/-! ### Requests -/

theorem checkin_exit (call : CheckinCall) :
    (exitContract D).Safe req (processCheckin call) (fun _ _ _ => True) trace s := by
  refine exitSafe_of_silent ((processCheckin_only call).mono fun o op => ?_)
  cases op with
  | ask q => exact exitSilent_ask q
  | insertRow entering =>
    refine exitSilent_of_none (fun exit => absurd ?_ exit) rfl
    rw [entering]
    rfl
  | save entering => exact exitSilent_of_none (fun exit => absurd entering exit) rfl
  | answer status ticketId => exact ⟨trivial, fun _ _ answered => by cases answered⟩

/-- A record with its check-in commit has the exit that it had before. -/
theorem finishCommit_exit (commit : FeCommitIn) {etdr : Etdr} (exit : etdr.ExitIn D)
    (updated : DbResult Bool) : (finishCommit commit etdr updated).Only (ExitSilent D) := by
  refine (commitOutcome_only exitSilent_ask _ _).bind fun outcome => ?_
  refine (only_perform_bind _ _).mpr ⟨exitSilent_of_none exit rfl, fun _ => ?_⟩
  refine (only_perform_bind _ _).mpr ⟨exitSilent_of_none trivial rfl, fun _ => ?_⟩
  exact exitSafe_answer fun _ _ eq => by cases eq

theorem commitEtdr_exit (commit : FeCommitIn) {etdr : Etdr} (exit : etdr.ExitIn D) (now : Clock) :
    (commitEtdr commit etdr now).Only (ExitSilent D) := by
  have refused : ∀ status, (perform (.answer (.commit commit status etdr.ticketId))).Only
      (ExitSilent D) := fun _ => exitSafe_answer fun _ _ eq => by cases eq
  refine (only_ask_bind _ _).mpr ⟨exitSilent_ask _, fun found => ?_⟩
  split
  · split
    · exact refused _
    · refine (duplicateTicketInId_only exitSilent_ask _ _).bind fun isDuplicate => ?_
      split
      · exact refused _
      · refine (only_perform_bind _ _).mpr ⟨exitSilent_of_none trivial rfl, fun updated => ?_⟩
        exact finishCommit_exit commit exit updated
  · exact refused _

theorem commit_exit (commit : FeCommitIn) :
    (exitContract D).Safe req (processCommit commit) (fun _ _ _ => True) trace s := by
  have refused : ∀ status t, (perform (.answer (.commit commit status t))).Only (ExitSilent D) :=
    fun _ _ => exitSafe_answer fun _ _ eq => by cases eq
  refine exitSafe_ask fun c s _ => ?_
  split
  · refine exitSafe_perform fun c s exits _ _ => ⟨exitSilent_of_none trivial rfl, ?_⟩
    split
    · exact exitSafe_of_silent (refused _ _)
    · next etdr cached =>
      have exit : etdr.ExitIn D := exits.cached _ _ (EtdrCache.getLatestCheckin_cached cached)
      refine exitSafe_of_silent ((only_ask_bind _ _).mpr ⟨exitSilent_ask _, fun env => ?_⟩)
      exact (only_perform_bind _ _).mpr ⟨exitSilent_of_none exit rfl, fun _ => refused _ _⟩
  · split
    · refine exitSafe_ask fun c s exits => ?_
      refine Contract.safe_bind.mpr ((exitKept.resolveLatestEtdr trivial exits).mono ?_)
      rintro latest tr s ⟨-, exit⟩
      split
      · exact exitSafe_of_silent (refused _ _)
      · next etdr =>
        split
        · exact exitSafe_of_silent (refused _ _)
        · exact exitSafe_of_silent (commitEtdr_exit commit (exit etdr rfl) _)
    · split
      · exact exitSafe_of_silent (refused _ _)
      · exact exitSafe_of_silent (refused _ _)

/-- After a reserve has recorded its ticket, its other writes are about that ticket. -/
theorem reserveRest_exit (reserve : CheckoutReserveBoo) {t : Int} (recorded : D t)
    (accountId transAmount errorStatus : Int) (cols : Option Int → Clock → CheckoutInfoColumns)
    (list : Clock → List TransportTransStageTcd) :
    (do
      let env ← ask .observe
      let accountTransId ← chargeAccount accountId transAmount t env.now
      let _ ← perform (.stageUpdateCheckoutInfo t (cols accountTransId env.now))
      saveTcdOrPending t (list env.now)
      perform (.answer (.reserve reserve errorStatus t)) : Program Unit).Only (ExitSilent D) := by
  refine (only_ask_bind _ _).mpr ⟨exitSilent_ask _, fun env => Prog.Only.bind ?_ fun charged => ?_⟩
  · unfold chargeAccount
    split
    · refine (only_perform_bind _ _).mpr ⟨exitSilent_of_none trivial rfl, fun inserted => ?_⟩
      split <;> trivial
    · trivial
  · refine (only_perform_bind _ _).mpr ⟨exitSilent_of_none recorded rfl, fun _ => ?_⟩
    refine Prog.Only.bind ?_ fun _ => exitSafe_answer fun _ _ eq => by cases eq
    refine (only_ask_bind _ _).mpr ⟨exitSilent_ask _, fun saved => ?_⟩
    split
    · trivial
    · exact (only_perform _).mpr (exitSilent_of_none trivial rfl)

theorem reserveEtdr_exit (reserve : CheckoutReserveBoo) (etdr : Etdr) (transAmount : Int)
    (details : List RatingDetail) :
    (exitContract D).Safe req (reserveEtdr reserve etdr transAmount details) (fun _ _ _ => True)
      trace s := by
  refine exitSafe_ask fun c s _ => exitSafe_ask fun c' s _ => ?_
  refine exitSafe_perform fun c'' s _ _ recorded => ?_
  have recorded : D etdr.ticketId := recorded _ rfl
  exact ⟨exitSilent_of_none (fun _ => recorded) rfl,
    exitSafe_of_silent (reserveRest_exit reserve recorded _ _ _ _ _)⟩

theorem reserve_exit (reserve : CheckoutReserveBoo) (exits : ExitsIn D s) :
    (exitContract D).Safe req (processCheckoutReserve reserve) (fun _ _ _ => True) trace s := by
  have refused : ∀ status t tr s, (exitContract D).Safe req
      (perform (.answer (.reserve reserve status t))) (fun _ _ _ => True) tr s :=
    fun _ _ _ _ => exitSafe_of_silent (exitSafe_answer fun _ _ eq => by cases eq)
  refine Contract.safe_bind.mpr ((exitKept.resolveLatestEtdr trivial exits).mono ?_)
  intro latest tr s _
  split
  · exact refused _ _ _ _
  · split
    · exact refused _ _ _ _
    · refine exitSafe_ask fun c s _ => ?_
      split
      · exact reserveEtdr_exit reserve _ _ _
      · refine exitSafe_ask fun c s _ => ?_
        split
        · exact reserveEtdr_exit reserve _ _ _
        · exact refused _ _ _ _

/-- The commit of a row of a ticket in `D`. -/
theorem commitStage_exit (commit : CheckoutCommitBoo) (etdr : Etdr)
    (stage : TransportTransactionStage) {t : Int} (recorded : D t) :
    (exitContract D).Safe req (commitStage commit etdr stage t) (fun _ _ _ => True) trace s := by
  refine exitSafe_ask fun c s _ => ?_
  have account : ∀ id now, (commitAccount id now).Only (ExitSilent D) := by
    intro id now
    unfold commitAccount
    split
    · trivial
    · split
      · refine (only_ask_bind _ _).mpr ⟨exitSilent_ask _, fun data => ?_⟩
        split
        · split
          · exact (only_perform_bind _ _).mpr ⟨exitSilent_of_none trivial rfl, fun _ => trivial⟩
          · trivial
        · trivial
      · trivial
  refine Contract.safe_bind.mpr ((exitSafe_of_silent (account _ _)).mono fun _ tr s _ => ?_)
  have unset : ∀ now, (Op.stageUpdateCheckoutCommit t (checkoutCommitColumns stage now)).ExitIn D :=
    fun _ exit => absurd rfl exit
  refine exitSafe_perform fun c s _ _ _ => ⟨exitSilent_of_none (unset _) rfl, ?_⟩
  have clear : (clearEtdrAfterTransactionComplete t).Only (ExitSilent D) := by
    refine (only_perform_bind _ _).mpr ⟨exitSilent_of_none trivial rfl, fun _ => ?_⟩
    refine (only_perform_bind _ _).mpr ⟨exitSilent_of_none trivial rfl, fun _ => ?_⟩
    exact (only_perform _).mpr (exitSilent_of_none trivial rfl)
  refine exitSafe_perform fun c s _ _ _ => ⟨exitSilent_of_none trivial rfl, ?_⟩
  refine Contract.safe_bind.mpr ((exitSafe_of_silent clear).mono fun _ tr s _ => ?_)
  intro s' _ exits c may
  refine ⟨fun _ _ answered => ?_, ExitsIn.exec (c := c) exits trivial may.1, trivial⟩
  cases answered
  exact recorded

/-- The record that a commit goes by has its exit in `D`. -/
theorem checkoutCommitRecord_exit (commit : CheckoutCommitBoo) (t : Int) :
    (exitContract D).Safe req (checkoutCommitRecord commit t)
      (fun record _ _ => ∀ e ∈ record, e.ticketId = t ∧ e.ExitIn D) trace s := by
  refine exitSafe_perform fun c s exits earned _ => ⟨exitSilent_of_none trivial rfl, ?_⟩
  have after : ExitsIn D ((Op.cacheGetByTicketId t).exec c s).2 := exits.exec trivial earned
  split
  · next etdr cached =>
    obtain ⟨⟨key, old⟩, ticket⟩ := EtdrCache.getByTicketId_cached cached
    intro e found
    cases found
    exact ⟨ticket, exits.cached key _ old⟩
  · refine Contract.safe_bind.mpr ((exitKept.resolveLatestEtdr trivial after).mono ?_)
    rintro latest tr s ⟨-, exit⟩ e found
    obtain ⟨here, ticket⟩ := Option.filter_eq_some_iff.mp found
    exact ⟨by simpa using ticket, exit e here⟩

theorem checkoutCommit_exit (commit : CheckoutCommitBoo) (exits : ExitsIn D s) :
    (exitContract D).Safe req (processCheckoutCommit commit) (fun _ _ _ => True) trace s := by
  have refused : ∀ t tr s, (exitContract D).Safe req
      (perform (.answer (.checkoutCommit commit notFoundRouteTransaction t)))
      (fun _ _ _ => True) tr s :=
    fun _ _ _ => exitSafe_of_silent (exitSafe_answer fun _ _ eq => by cases eq)
  have ticket : (exitContract D).Safe req (checkoutCommitTicket commit)
      (fun _ _ _ => True) trace s := by
    unfold checkoutCommitTicket
    split
    · trivial
    · exact Contract.safe_bind.mpr ((exitKept.resolveLatestEtdr trivial exits).mono
        fun _ _ _ _ => trivial)
  refine Contract.safe_bind.mpr (ticket.mono fun t tr s _ => ?_)
  split
  · exact refused _ _ _
  · refine Contract.safe_bind.mpr ((checkoutCommitRecord_exit commit t).mono ?_)
    intro record tr s exit
    split
    · exact refused _ _ _
    · next etdr =>
      obtain ⟨ofTicket, exit⟩ := exit etdr rfl
      unfold checkoutCommitEtdr
      split
      · exact refused _ _ _
      · next accepted =>
        -- the commit accepts only a record with an exit
        have recorded : D t := ofTicket ▸ exit fun zero => accepted (.inl zero)
        refine exitSafe_ask fun c s _ => ?_
        split
        · exact commitStage_exit commit _ _ recorded
        · exact refused _ _ _

/-! ### Background tasks -/

/-- The rows that a retry has looked up by their id are those of its ticket. -/
def RowsReadOf (t : Int) (trace : List (Event Op Choice Sys)) : Prop :=
  ∀ ev ∈ trace, ∀ id, ev.op.rowOf? = some id → id = t

theorem RowsReadOf.concat {t : Int} {ev : Event Op Choice Sys} (reads : RowsReadOf t trace)
    (here : ∀ id, ev.op.rowOf? = some id → id = t) : RowsReadOf t (trace ++ [ev]) := by
  intro ev' mem
  rcases List.mem_append.mp mem with old | new
  · exact reads ev' old
  · rw [List.mem_singleton.mp new]
    exact here

theorem retryPendingTcd_exit (id : Int) : (retryPendingTcd id).Only (ExitSilent D) := by
  refine (only_ask_bind _ _).mpr ⟨exitSilent_ask _, fun list => ?_⟩
  split
  · trivial
  · split
    · trivial
    · refine (only_ask_bind _ _).mpr ⟨exitSilent_ask _, fun saved => ?_⟩
      split
      · exact (only_perform _).mpr (exitSilent_of_none trivial rfl)
      · trivial

theorem mergeEtdrIntoTransportStage_exit {existing : TransportTransactionStage} {etdr : Etdr}
    {env : Ambient}
    (set : millisOrZero (mergeEtdrIntoTransportStage existing etdr env).checkoutDatetime ≠ 0) :
    millisOrZero existing.checkoutDatetime ≠ 0 ∨ etdr.checkoutDatetime ≠ 0 := by
  refine (millisOrZero_orElse_ne_zero set).imp_right fun filled none_before => filled ?_
  rw [none_before]
  rfl

/-- A merge writes an exit only to the row of its own ticket. -/
theorem retryMerge_exit {etdr : Etdr} {existing : TransportTransactionStage} {id : Int}
    (exit : etdr.ExitIn D) (rowExit : existing.ExitIn D) (row : existing.transportTransId = id)
    (reads : RowsReadOf etdr.ticketId trace) :
    (exitContract D).Safe req (retryMerge etdr existing id) (fun _ _ _ => True) trace s := by
  refine exitSafe_ask fun c s _ => exitSafe_perform fun c' s _ earned _ => ?_
  have reads' : RowsReadOf etdr.ticketId (trace ++ [⟨.ask .observe, c, s⟩]) :=
    reads.concat fun id eq => by cases eq
  refine ⟨exitSilent_of_none (fun set => ?_) rfl, ?_⟩
  · rcases mergeEtdrIntoTransportStage_exit set with old | new
    · exact row ▸ rowExit old
    · -- the merge takes the row's exit first; the record's goes to the row only if that has none
      rcases earned set with known | ⟨ev, mem, here⟩
      · exact known
      · rcases List.mem_append.mp mem with before | now
        · exact reads ev before id here ▸ exit new
        · rw [List.mem_singleton.mp now] at here
          cases here
  · split
    · exact exitSafe_of_silent ((retryPendingTcd_exit id).bind fun _ => trivial)
    · trivial

theorem retryInsert_exit (etdr : Etdr) : (retryInsert etdr).Only (ExitSilent D) := by
  refine (only_ask_bind _ _).mpr ⟨exitSilent_ask _, fun env => ?_⟩
  have insert := (stageSave_only (buildTransportStageFromEtdr etdr env)).mono
    fun o op => (show ExitSilent D o by
      cases op with
      | ask q => exact exitSilent_ask q
      | insertRow id => exact exitSilent_of_none (fun exit => absurd rfl exit) rfl)
  have pending : ∀ id, (do retryPendingTcd id; return true : Program Bool).Only (ExitSilent D) :=
    fun id => (retryPendingTcd_exit id).bind fun _ => trivial
  refine insert.bind fun saved => ?_
  split
  · exact pending _
  · unfold retryAfterFailedSave
    split
    · refine (only_ask_bind _ _).mpr ⟨exitSilent_ask _, fun found => ?_⟩
      split
      · exact pending _
      · refine (findByTicketInIdIfSet_only exitSilent_ask _).bind fun existing => ?_
        split
        · exact pending _
        · trivial
      · trivial
    · trivial

/-- A row that was read by an id or by a `TICKET_IN_ID` has its exit in `D`. -/
theorem findByTicketInIdIfSet_exit (ticketInId : Option Int) {t : Int}
    (reads : RowsReadOf t trace) :
    (exitContract D).Safe req (findByTicketInIdIfSet ticketInId)
      (fun found tr _ => RowsReadOf t tr ∧
        ∀ existing, found = .ok (some existing) → existing.ExitIn D) trace s := by
  have nothing : RowsReadOf t trace ∧ ∀ existing : TransportTransactionStage,
      (.ok none : DbResult (Option TransportTransactionStage)) = .ok (some existing) →
      existing.ExitIn D := ⟨reads, fun _ eq => by cases eq⟩
  unfold findByTicketInIdIfSet
  split
  · split
    · exact nothing
    · intro s' _ exits c _
      refine ⟨(exitSilent_ask _).must, exits, reads.concat fun _ eq => (by cases eq),
        fun existing found => ?_⟩
      obtain ⟨row, stored, -, -, rfl⟩ :=
        StageTable.findByTicketInId_eq_some (Choice.eq_of_ok found)
      exact exits.row _ row stored
  · exact nothing

theorem retrySaveEtdrToDb_exit {etdr : Etdr} (exit : etdr.ExitIn D)
    (reads : RowsReadOf etdr.ticketId trace) :
    (exitContract D).Safe req (retrySaveEtdrToDb etdr) (fun _ _ _ => True) trace s := by
  unfold retrySaveEtdrToDb
  split
  · refine exitSafe_ask fun c s exits => ?_
    have reads' : RowsReadOf etdr.ticketId
        (trace ++ [⟨.ask (.stageFindById etdr.trimTags.ticketId), c, s⟩]) :=
      reads.concat fun id eq => (Option.some.inj eq).symm
    split
    · next existing found =>
      obtain ⟨row, stored, rfl⟩ := StageTable.findById_eq_some (Choice.eq_of_ok found)
      have ticket : row.selectRow.transportTransId = etdr.trimTags.ticketId := by
        rw [TransportTransactionStage.selectRow_transportTransId]
        exact StageTable.transportTransId_of_row? stored
      have exit' : etdr.trimTags.ExitIn D := exit
      exact retryMerge_exit exit' (exits.row _ row stored) ticket reads'
    · refine Contract.safe_bind.mpr ((findByTicketInIdIfSet_exit _ reads').mono ?_)
      rintro found tr s ⟨reads, rowExit⟩
      split
      · next existing =>
        have exit' : etdr.trimTags.ExitIn D := exit
        exact retryMerge_exit exit' (rowExit existing rfl) rfl reads
      · split
        · trivial
        · exact exitSafe_of_silent (retryInsert_exit _)
  · trivial

theorem retryRecord_exit (key : KeydbKey) {etdr : Etdr} (exit : etdr.ExitIn D)
    (reads : RowsReadOf etdr.ticketId trace) :
    (exitContract D).Safe req (retryRecord key etdr) (fun _ _ _ => True) trace s := by
  refine Contract.safe_bind.mpr ((retrySaveEtdrToDb_exit exit reads).mono fun saved tr s _ => ?_)
  refine exitSafe_of_silent ?_
  have silent : ∀ {o : Op}, o.ExitIn D → o.answer? = none → (perform o).Only (ExitSilent D) :=
    fun written none => (only_perform _).mpr (exitSilent_of_none written none)
  split
  · refine (only_perform_bind _ _).mpr ⟨exitSilent_of_none trivial rfl, fun _ => ?_⟩
    split
    · exact (only_perform_bind _ _).mpr ⟨exitSilent_of_none trivial rfl, fun _ =>
        silent trivial rfl⟩
    · exact (only_perform_bind _ _).mpr ⟨exitSilent_of_none ⟨exit, fun t eq => by cases eq⟩ rfl,
        fun _ => silent exit rfl⟩
  · unfold retryFailed
    dsimp only
    split
    · exact (only_perform_bind _ _).mpr ⟨exitSilent_of_none trivial rfl, fun _ =>
        silent trivial rfl⟩
    · exact silent ⟨exit, fun t eq => by cases eq; rfl⟩ rfl

theorem mergeEtdrSameTicketId_exit {a b : Etdr} (exitA : a.ExitIn D) (exitB : b.ExitIn D)
    (same : a.ticketId = b.ticketId) : (mergeEtdrSameTicketId a b).ExitIn D := by
  -- either record may be the base, by the time of the check-in
  have merged : ∀ base other : Etdr, base.ExitIn D → other.ExitIn D →
      base.ticketId = other.ticketId →
      (if other.checkoutDatetime = 0 then base.checkoutDatetime else other.checkoutDatetime) ≠ 0 →
      D base.ticketId := by
    intro base other exitBase exitOther same set
    split at set
    · exact exitBase set
    · exact same ▸ exitOther set
  intro set
  unfold mergeEtdrSameTicketId at set ⊢
  by_cases older : b.checkinDatetime ≤ a.checkinDatetime
  · simp only [older, if_true] at set ⊢
    exact merged a b exitA exitB same set
  · simp only [older, if_false] at set ⊢
    exact merged b a exitB exitA same.symm set

/-- The task has looked up no row. -/
def NoRowRead (trace : List (Event Op Choice Sys)) : Prop :=
  ∀ ev ∈ trace, ev.op.rowOf? = none

theorem NoRowRead.rowsReadOf (none_read : NoRowRead trace) (t : Int) : RowsReadOf t trace := by
  intro ev mem id eq
  rw [none_read ev mem] at eq
  cases eq

/-- A query that looks up no row, and what follows it. -/
theorem exitSafe_ask_noRow {q : Query} {next : q.Reply → Program α}
    {post : α → List (Event Op Choice Sys) → Sys → Prop} (other : (Op.ask q).rowOf? = none)
    (none_read : NoRowRead trace)
    (rest : ∀ c s tr, ExitsIn D s → NoRowRead tr →
      (exitContract D).Safe req (next (q.reply c s)) post tr s) :
    (exitContract D).Safe req (ask q >>= next) post trace s := by
  refine exitSafe_ask fun c s exits => rest c s _ exits fun ev mem => ?_
  rcases List.mem_append.mp mem with old | new
  · exact none_read ev old
  · rw [List.mem_singleton.mp new]
    exact other

theorem retryFirstUnlocked_exit {toSave : List (KeydbKey × Etdr)}
    (exits : ∀ kv ∈ toSave, kv.2.ExitIn D) (none_read : NoRowRead trace) :
    (exitContract D).Safe req (retryFirstUnlocked toSave) (fun _ _ _ => True) trace s := by
  -- locked tickets are passed over; the first that is free ends the cycle
  induction toSave generalizing trace s with
  | nil => trivial
  | cons kv rest ih =>
    refine exitSafe_ask_noRow rfl none_read fun c s tr _ none_read => ?_
    split
    · exact retryRecord_exit _ (exits kv List.mem_cons_self) (none_read.rowsReadOf _)
    · exact ih (fun kv' mem => exits kv' (List.mem_cons_of_mem kv mem)) none_read

/-- The records that are found in KeyDB have their exits in `D`. -/
theorem etdrsFromKeydb_exit (none_read : NoRowRead trace) :
    (exitContract D).Safe req etdrsFromKeydbForDbSync
      (fun found tr _ => NoRowRead tr ∧ ∀ kv ∈ found, kv.2.ExitIn D) trace s := by
  have nothing : ∀ tr s, NoRowRead tr → (exitContract D).Safe req
      (pure [] : Program (List (KeydbKey × Etdr)))
      (fun found tr _ => NoRowRead tr ∧ ∀ kv ∈ found, kv.2.ExitIn D) tr s :=
    fun _ _ none_read => ⟨none_read, fun kv mem => absurd mem List.not_mem_nil⟩
  refine exitSafe_ask_noRow rfl none_read fun c s tr _ none_read => ?_
  split
  · exact nothing _ _ none_read
  · refine exitSafe_ask_noRow rfl none_read fun c s tr _ none_read => ?_
    dsimp only
    split
    · exact nothing _ _ none_read
    · refine exitSafe_ask_noRow rfl none_read fun c s tr exits none_read => ?_
      split
      · exact nothing _ _ none_read
      · next values read =>
        refine ⟨none_read, fun kv mem => ?_⟩
        obtain ⟨key, stored⟩ := mem_keydb_of_getMany read (mem_of_unsaved mem)
        exact (exits.keydb key kv.2 stored).1

/-- A cycle of the retry task. -/
theorem retryCycle_exit (none_read : NoRowRead trace) :
    (exitContract D).Safe req etdrDbRetryCycle (fun _ _ _ => True) trace s := by
  refine Contract.safe_bind.mpr ((etdrsFromKeydb_exit none_read).mono ?_)
  rintro fromKeydb tr s ⟨none_read, exitsKeydb⟩
  refine exitSafe_ask_noRow rfl none_read fun c s tr exits none_read => ?_
  have exitsMemory : ∀ etdr ∈ Query.unsavedFromMemory.reply c s, etdr.ExitIn D := by
    intro etdr mem
    obtain ⟨⟨key, e⟩, unsaved, rfl⟩ := List.mem_map.mp mem
    exact exits.cached key e (EtdrCache.cached_of_getAllUnsavedEtdrs unsaved)
  refine exitSafe_ask_noRow rfl none_read fun c s tr _ none_read => ?_
  refine retryFirstUnlocked_exit
    (dedupeByTicketId_forall (fun _ _ => mergeEtdrSameTicketId_exit) _ fun kv mem => ?_) none_read
  rcases List.mem_append.mp mem with old | new
  · exact exitsKeydb kv old
  · obtain ⟨etdr, inMemory, rfl⟩ := List.mem_map.mp new
    exact exitsMemory etdr inMemory

/-- The record that a spawned write sets for the retry. -/
theorem retryValue_exit {etdr : Etdr} {existing : Option Etdr} (exit : etdr.ExitIn D)
    (stored : ∀ e ∈ existing, e.ExitIn D ∧ e.ticketId = etdr.ticketId) :
    ((existing.map fun ex => mergeEtdrSameTicketId ex etdr).getD etdr).ExitIn D ∧
      ((existing.map fun ex => mergeEtdrSameTicketId ex etdr).getD etdr).ticketId =
        etdr.ticketId := by
  cases existing with
  | none => exact ⟨exit, rfl⟩
  | some e =>
    obtain ⟨exit', same⟩ := stored e rfl
    exact ⟨mergeEtdrSameTicketId_exit exit' exit same, mergeEtdrSameTicketId_ticketId same⟩

theorem syncKeydb_exit :
    (exitContract D).Safe req syncEtdrToKeydb (fun _ _ _ => True) trace s := by
  refine exitSafe_perform fun c s exits _ _ => ⟨exitSilent_of_none trivial rfl, ?_⟩
  have setEtag : ∀ etag etdr, etdr.ExitIn D →
      (perform (.keydbSet (.etag etag) etdr)).Only (ExitSilent D) :=
    fun _ _ exit => (only_perform _).mpr (exitSilent_of_none ⟨exit, fun _ eq => by cases eq⟩ rfl)
  split
  · trivial
  · next etdr taken =>
    have exit : etdr.ExitIn D := exits.spawned _ (List.mem_of_getElem? taken)
    exact exitSafe_of_silent (setEtag _ etdr exit)
  · next etdr taken =>
    have exit : etdr.ExitIn D := exits.spawned _ (List.mem_of_getElem? taken)
    dsimp only
    split
    · refine exitSafe_ask fun c s exits => exitSafe_of_silent ?_
      have stored : ∀ e ∈ (Query.keydbGet (.retry etdr.ticketId)).reply c s,
          e.ExitIn D ∧ e.ticketId = etdr.ticketId := by
        intro e read
        simp only [Query.reply] at read
        split at read
        · cases read
        · obtain ⟨exit, fits⟩ := exits.keydb _ e (mem_keydb_of_lookup read)
          exact ⟨exit, fits _ rfl⟩
      obtain ⟨exit', ticket⟩ := retryValue_exit exit stored
      refine (only_perform_bind _ _).mpr ⟨exitSilent_of_none ⟨exit', fun t eq => ?_⟩ rfl,
        fun _ => setEtag _ etdr exit⟩
      cases eq
      exact ticket
    · exact exitSafe_of_silent (setEtag _ etdr exit)

/-- Every request keeps the contract. -/
theorem program_exit (req : Req) (exits : ExitsIn D s) :
    (exitContract D).Safe req req.program (fun _ _ _ => True) [] s := by
  cases req with
  | checkin call => exact checkin_exit call
  | commit commit => exact commit_exit commit
  | reserve reserve => exact reserve_exit reserve exits
  | checkoutCommit commit => exact checkoutCommit_exit commit exits
  | rollback rollback => exact exitSafe_of_silent (exitSafe_answer fun _ _ eq => by cases eq)
  | lookup etag =>
    exact Contract.safe_bind.mpr ((exitKept.lookup trivial exits).mono fun _ _ _ _ => trivial)
  | retryCycle => exact retryCycle_exit fun ev mem => absurd mem List.not_mem_nil
  | syncKeydb => exact syncKeydb_exit
  | hubUpdate ticketId hubId =>
    refine exitSafe_of_silent ((only_perform_bind _ _).mpr ⟨exitSilent_of_none trivial rfl, ?_⟩)
    exact fun _ => (only_perform _).mpr (exitSilent_of_none trivial rfl)

/-- Runs whose operations bring exits from elsewhere only to tickets in `D` keep the contract. -/
theorem exitContract_sound (D : Int → Prop) : (exitContract D).Sound
    (System.EachAct fun _ trace o _ s => ExitEarned D trace o s ∧ ∀ t ∈ o.reserved?, D t) where
  start _ req exits _ := program_exit req exits
  own _ _ _ req trace o next meets found := meets req trace o next found
  others _ _ _ _ _ _ _ _ _ _ _ _ _ _ _ _ _ _ := trivial

end TollBackend

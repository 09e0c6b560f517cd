import TollBackend.System

/-!
# Saving rows of the main table

`TransportTransactionStageRepository::insert` and `TransportTransactionStageService::save`.
An insert is several statements: it looks for a row with the same `TICKET_IN_ID`, then for
one with the same `TRANSPORT_TRANS_ID`, and inserts only when it has seen neither.

## Main definitions

* `stageInsert`: the insert of the repository, with its two shortcuts.
* `stageSave`: the save of the service, which reads the row back.
* `StageInserted`: what an insert that runs alone can do.

## Main results

* `stageInsert_post`, `stageSave_post`: inserts and saves that run alone.
* `stageSave_only`: the operations of a save.
-/

namespace TollBackend

open Concurrent

/-- `find_by_ticket_in_id` for a column that is set and not zero. -/
def findByTicketInIdIfSet (ticketInId : Option Int) :
    Program (DbResult (Option TransportTransactionStage)) :=
  match ticketInId with
  | some tid => if tid = 0 then return .ok none else ask (.stageFindByTicketInId tid)
  | none => return .ok none

/-- The `INSERT` statement of the repository. -/
def stageInsertStatement (entity : TransportTransactionStage) : Program (DbResult Int) := do
  match ← perform (.stageInsertRow entity) with
  | .ok () => return .ok entity.transportTransId
  | .error message =>
      return .error
        ("Execution error: Failed to insert TRANSPORT_TRANSACTION_STAGE: " ++ message)

/-- The insert of a row whose id is settled, skipped when the id is stored. -/
def stageInsertUnlessStored (entity : TransportTransactionStage) : Program (DbResult Int) := do
  if entity.transportTransId = 0 then stageInsertStatement entity
  else
    match ← ask (.stageFindById entity.transportTransId) with
    | .ok (some _) => return .ok entity.transportTransId
    | _ => stageInsertStatement entity

/-- The insert of a row whose `TICKET_IN_ID` was not seen: an id of zero is replaced by the
next value of the sequence. -/
def stageInsertWithId (entity : TransportTransactionStage) : Program (DbResult Int) := do
  if entity.transportTransId = 0 then
    match ← ask .nextSequenceValue with
    | .ok id => stageInsertUnlessStored (entity.withId id)
    | .error message => return .error message
  else stageInsertUnlessStored entity

/-- `TransportTransactionStageRepository::insert`. -/
def stageInsert (entity : TransportTransactionStage) : Program (DbResult Int) := do
  match ← ask .connect with
  | .error message => return .error message
  | .ok () =>
      match ← findByTicketInIdIfSet entity.ticketInId with
      | .ok (some existing) => return .ok existing.transportTransId
      | _ => stageInsertWithId entity

/-- The reads of a saved row, until one of them sees it or fails. -/
def verifyAfterSave (id : Int) : Nat → Program (Option TransportTransactionStage)
  | 0 => return none
  | attempts + 1 => do
      match ← ask (.stageFindById id) with
      | .ok (some record) => return some record
      | .ok none => verifyAfterSave id attempts
      | .error _ => return none

/-- `verify_after_save_service::MAX_RETRIES`. -/
def verifyMaxRetries : Nat := 5

/-- `TransportTransactionStageService::save`, with the entity it leaves in the cache of the
service: the row it has read back, or else the one it was given. -/
def stageSave (entity : TransportTransactionStage) :
    Program (DbResult (Int × TransportTransactionStage)) := do
  match ← stageInsert entity with
  | .error message => return .error ("Database error: " ++ message)
  | .ok id => do
      let verified ← verifyAfterSave id (verifyMaxRetries + 1)
      return .ok (id, verified.getD (entity.withId id))

/-! ### Inserts that run alone -/

/-- The outcomes of an insert that runs alone. -/
inductive StageInserted (entity : TransportTransactionStage) (s : Sys) :
    DbResult Int → Sys → Prop
  /-- Nothing was written. -/
  | failed (message : String) : StageInserted entity s (.error message) s
  /-- A row that counts as checked in has the same `TICKET_IN_ID`. -/
  | sameTicketInId {tid : Int} {row : TransportTransactionStage}
      (column : entity.ticketInId = some tid) (nonzero : tid ≠ 0)
      (stored : s.stages.row? row.transportTransId = some row)
      (same : row.ticketInId = some tid) (checkedIn : row.CheckedIn) :
      StageInserted entity s (.ok row.transportTransId) s
  /-- A row has the same id. -/
  | sameId {id : Int} {row : TransportTransactionStage}
      (given : entity.transportTransId ≠ 0 → id = entity.transportTransId)
      (stored : s.stages.row? id = some row) : StageInserted entity s (.ok id) s
  /-- The row was inserted. -/
  | inserted {id : Int} {stages : StageTable} {sysdate : DbDatetime}
      (given : entity.transportTransId ≠ 0 → id = entity.transportTransId)
      (done : s.stages.insertRow (entity.withId id) sysdate = some stages) :
      StageInserted entity s (.ok id) { s with stages := stages }

variable {entity : TransportTransactionStage} {s : Sys}

/-- A query that runs alone. -/
theorem post_ask {α : Type} {q : Query} {next : q.Reply → Program α} {post : α → Sys → Prop} :
    Prog.Post Op.exec (ask q >>= next) s post ↔
      ∀ c, Prog.Post Op.exec (next (q.reply c s)) s post := Iff.rfl

/-- An operation that runs alone. -/
theorem post_perform {α : Type} {o : Op} {next : o.Res → Program α} {post : α → Sys → Prop} :
    Prog.Post Op.exec (perform o >>= next) s post ↔
      ∀ c, Prog.Post Op.exec (next (o.exec c s).1) (o.exec c s).2 post := Iff.rfl

theorem stageInsertStatement_post
    {post : DbResult Int → Sys → Prop} (failed : ∀ message, post (.error message) s)
    (inserted : ∀ stages sysdate, s.stages.insertRow entity sysdate = some stages →
      post (.ok entity.transportTransId) { s with stages := stages }) :
    Prog.Post Op.exec (stageInsertStatement entity) s post := by
  intro c
  simp only [Op.exec]
  cases done : s.stages.insertRow entity c.env.now.dbDatetime with
  | none => exact failed _
  | some stages =>
    dsimp only
    rcases c.statement_cases () s { s with stages := stages } with ok | ⟨message, error⟩
    · rw [ok]
      exact inserted stages _ done
    · rw [error]
      exact failed _

theorem stageInsertUnlessStored_post
    {post : DbResult Int → Sys → Prop} (failed : ∀ message, post (.error message) s)
    (stored : ∀ row, s.stages.row? entity.transportTransId = some row →
      post (.ok entity.transportTransId) s)
    (inserted : ∀ stages sysdate, s.stages.insertRow entity sysdate = some stages →
      post (.ok entity.transportTransId) { s with stages := stages }) :
    Prog.Post Op.exec (stageInsertUnlessStored entity) s post := by
  unfold stageInsertUnlessStored
  split
  · exact stageInsertStatement_post failed inserted
  · refine post_ask.mpr fun c => ?_
    simp only [Query.reply]
    rcases c.orFault_cases (s.stages.findById entity.transportTransId) with ok | ⟨message, error⟩
    · rw [ok]
      cases found : s.stages.findById entity.transportTransId with
      | none => exact stageInsertStatement_post failed inserted
      | some read =>
        obtain ⟨row, here, -⟩ := Option.map_eq_some_iff.mp found
        exact stored row here
    · rw [error]
      exact stageInsertStatement_post failed inserted

theorem stageInsertWithId_post :
    Prog.Post Op.exec (stageInsertWithId entity) s (StageInserted entity s) := by
  unfold stageInsertWithId
  split
  · next zero =>
    refine post_ask.mpr fun c => ?_
    simp only [Query.reply]
    rcases c.orFault_cases c.sequenceValue with ok | ⟨message, error⟩
    · rw [ok]
      exact stageInsertUnlessStored_post .failed
        (fun row here => .sameId (fun nonzero => absurd zero nonzero) here)
        fun stages sysdate done => .inserted (fun nonzero => absurd zero nonzero) done
    · rw [error]
      exact .failed message
  · exact stageInsertUnlessStored_post .failed (fun row here => .sameId (fun _ => rfl) here)
      fun stages sysdate done => .inserted (fun _ => rfl) done

/-- What an insert that runs alone does. -/
theorem stageInsert_post (entity : TransportTransactionStage) (s : Sys) :
    Prog.Post Op.exec (stageInsert entity) s (StageInserted entity s) := by
  refine post_ask.mpr fun c => ?_
  simp only [Query.reply]
  rcases c.orFault_cases () with ok | ⟨message, error⟩
  · rw [ok]
    dsimp only
    rw [Prog.post_bind]
    unfold findByTicketInIdIfSet
    split
    · next tid column =>
      by_cases zero : tid = 0
      · rw [if_pos zero]
        exact stageInsertWithId_post
      · rw [if_neg zero]
        intro c
        simp only [Query.reply, Op.exec]
        rcases c.orFault_cases (s.stages.findByTicketInId tid c.rank) with ok | ⟨message, error⟩
        · rw [ok]
          cases found : s.stages.findByTicketInId tid c.rank with
          | none => exact stageInsertWithId_post
          | some read =>
            obtain ⟨row, stored, same, checkedIn, rfl⟩ := StageTable.findByTicketInId_eq_some found
            show StageInserted entity s (.ok row.transportTransId) s
            exact .sameTicketInId column zero stored same checkedIn
        · rw [error]
          exact stageInsertWithId_post
    · exact stageInsertWithId_post
  · rw [error]
    exact .failed message

theorem verifyAfterSave_post (id : Int) (attempts : Nat) (s : Sys) :
    Prog.Post Op.exec (verifyAfterSave id attempts) s fun verified s' =>
      s' = s ∧ ∀ record, verified = some record → s.stages.findById id = some record := by
  induction attempts with
  | zero => exact ⟨rfl, by simp⟩
  | succ attempts ih =>
    refine post_ask.mpr fun c => ?_
    simp only [Query.reply]
    rcases c.orFault_cases (s.stages.findById id) with ok | ⟨message, error⟩
    · rw [ok]
      cases found : s.stages.findById id with
      | none =>
        rw [found] at ih
        exact ih
      | some record => exact ⟨rfl, fun _ eq => eq ▸ rfl⟩
    · rw [error]
      exact ⟨rfl, by simp⟩

/-- A save that runs alone is an insert: what follows it only reads. -/
theorem stageSave_post {post : DbResult (Int × TransportTransactionStage) → Sys → Prop}
    (failed : ∀ message, post (.error message) s)
    (saved : ∀ id s', StageInserted entity s (.ok id) s' → ∀ cached, post (.ok (id, cached)) s') :
    Prog.Post Op.exec (stageSave entity) s post := by
  refine Prog.post_bind.mpr ((stageInsert_post entity s).mono fun result s' outcome => ?_)
  cases result with
  | error message =>
    cases outcome
    exact failed _
  | ok id =>
    refine Prog.post_bind.mpr ((verifyAfterSave_post id _ s').mono ?_)
    rintro verified s'' ⟨rfl, -⟩
    exact saved id s'' outcome _

/-! ### The operations of a save -/

/-- The operations of an insert; the row may be stored under another id. -/
inductive StageInsertOp (entity : TransportTransactionStage) : Op → Prop
  | ask (q : Query) : StageInsertOp entity (.ask q)
  | insertRow (id : Int) : StageInsertOp entity (.stageInsertRow (entity.withId id))

theorem findByTicketInIdIfSet_only {P : Op → Prop} (queries : ∀ q, P (.ask q))
    (ticketInId : Option Int) : (findByTicketInIdIfSet ticketInId).Only P := by
  unfold findByTicketInIdIfSet
  split
  · split
    · trivial
    · exact (only_ask _).mpr (queries _)
  · trivial

theorem stageInsertUnlessStored_only (entity : TransportTransactionStage) (id : Int) :
    (stageInsertUnlessStored (entity.withId id)).Only (StageInsertOp entity) := by
  have statement : (stageInsertStatement (entity.withId id)).Only (StageInsertOp entity) := by
    unfold stageInsertStatement
    refine (only_perform_bind _ _).mpr ⟨.insertRow id, fun r => ?_⟩
    split <;> trivial
  unfold stageInsertUnlessStored
  split
  · exact statement
  · refine (only_ask_bind _ _).mpr ⟨.ask _, fun r => ?_⟩
    split
    · trivial
    · exact statement

theorem stageInsert_only (entity : TransportTransactionStage) :
    (stageInsert entity).Only (StageInsertOp entity) := by
  unfold stageInsert
  refine (only_ask_bind _ _).mpr ⟨.ask _, fun r => ?_⟩
  split
  · trivial
  · refine (findByTicketInIdIfSet_only .ask _).bind fun r => ?_
    split
    · trivial
    · unfold stageInsertWithId
      split
      · refine (only_ask_bind _ _).mpr ⟨.ask _, fun r => ?_⟩
        split
        · exact stageInsertUnlessStored_only entity _
        · trivial
      · exact stageInsertUnlessStored_only entity entity.transportTransId

theorem verifyAfterSave_only {P : Op → Prop} (queries : ∀ q, P (.ask q)) (id : Int)
    (attempts : Nat) : (verifyAfterSave id attempts).Only P := by
  induction attempts with
  | zero => trivial
  | succ attempts ih =>
    refine (only_ask_bind _ _).mpr ⟨queries _, fun r => ?_⟩
    split
    · trivial
    · exact ih
    · trivial

theorem stageSave_only (entity : TransportTransactionStage) :
    (stageSave entity).Only (StageInsertOp entity) := by
  refine (stageInsert_only entity).bind fun r => ?_
  split
  · trivial
  · exact (verifyAfterSave_only .ask _ _).bind fun _ => trivial

end TollBackend

import TollBackend.Handlers.Lookup

/-!
# Check-in

`process_checkin` on an entry lane. The ticket comes from the id service; a row that has it
as its `TICKET_IN_ID` lends the check-in its own id. The row is then saved, with the
shortcuts of `stageInsert`, and the record of the check-in goes to the cache whether or not
the row was saved.

## Main definitions

* `processCheckin`: the handler.
* `Represents`: a row is that of a check-in.

## Main results

* `processCheckin_represented_iff`: when every check-in that is answered with status `0` is
  represented by the row of its ticket.
-/

namespace TollBackend

open Concurrent

/-- `bect::ACCOUNT_NOT_ENOUGH_MONEY`. -/
def accountNotEnoughMoney : Int := 104

/-- `fe::SAVE_DB_ERROR`. -/
def saveDbError : Int := 212

/-- What `process_checkin` is called with: the request, and the station and lane its caller
has found. -/
structure CheckinCall where
  req : FeCheckin
  tollId : Int
  tollType : String := "C"
  laneCode : Int

/-- The record of a check-in before it is saved. -/
def checkinEtdr (req : FeCheckin) (subscriberInfo : Option SubscriberInfo)
    (exVehicleType : Option String) (ticketId : Int) (now : Clock) : Etdr :=
  let plate := (subscriberInfo.map (·.plate)).getD req.plate
  let etdr :=
    { Etdr.fromCheckinBect req now with
      ticketId := ticketId
      plate := if isBlank plate then plateEmptySentinel else plate
      vehicleType := ((exVehicleType.filter fun vt => !isBlank vt) <|>
        subscriberInfo.map (·.vehicleType)).getD "1" }
  match subscriberInfo with
  | none => etdr
  | some sub =>
      { etdr with
        subId := toI32 sub.subscriberId
        accountId := toI32 sub.accountId
        vehicleId := toI32 sub.vehicleId
        etagKey := if sub.etagId ≠ 0 then some (toI32 sub.etagId) else none }

/-- The vehicle type of the exception list, for a tag that is not empty. -/
def exListVehicleType (etag : String) (tollId : Int) : Program (Option String) :=
  if normalizeEtag etag = "" then return none
  else ask (.vehicleTypeFromExList (normalizeEtag etag) tollId)

/-- Whether the balance of the account is below what a check-in needs. -/
def minBalanceTooLow (accountId : Int) : Program Bool := do
  let env ← ask .observe
  if 0 < accountId ∧ env.bectSkipAccountCheck = false then ask (.balanceTooLow accountId)
  else return false

/-- The record and the answer of a check-in whose row was saved, or was not. -/
def finishCheckin (req : FeCheckin) (etdr : Etdr)
    (saved : DbResult (Int × TransportTransactionStage)) : Program Unit := do
  match saved with
  | .ok _ => do
      -- `get_by_id` then finds the entity that `save` left in the cache of the service, so the
      -- branch for a row that is not found is never taken
      perform (.saveEtdr (.checkin { etdr with dbSaved := true }))
      perform (.answer (.checkin req 0 etdr.ticketId))
  | .error _ => do
      perform (.saveEtdr (.checkin { etdr with
        check := saveDbError, dbSaved := false, dbSaveRetryCount := etdr.dbSaveRetryCount + 1 }))
      perform (.answer (.checkin req saveDbError etdr.ticketId))

/-- The row and the record of a check-in whose ticket is settled. -/
def saveCheckin (call : CheckinCall) (subscriberInfo : Option SubscriberInfo) (ticketId : Int) :
    Program Unit := do
  let env ← ask .observe
  let exVehicleType ← exListVehicleType call.req.etag call.tollId
  let etdr := checkinEtdr call.req subscriberInfo exVehicleType ticketId env.now
  let env ← ask .observe
  let saved ← stageSave (createTransportTransactionStageFromBectCheckin call.req etdr call.tollId
    call.tollType call.laneCode ticketId subscriberInfo env.now)
  finishCheckin call.req etdr saved

/-- `process_checkin`. -/
def processCheckin (call : CheckinCall) : Program Unit := do
  let subscriberInfo ← ask (.subscriberByEtag (normalizeEtag call.req.etag))
  if ← minBalanceTooLow ((subscriberInfo.map (·.accountId)).getD 0) then
    perform (.answer (.checkin call.req accountNotEnoughMoney 0))
  else do
    let ticketIdFromSequence ← ask .nextTicketId
    let existing ← existingPendingTicketId (some ticketIdFromSequence)
    saveCheckin call subscriberInfo (existing.getD ticketIdFromSequence)

/-! ### The operations of a check-in -/

/-- A record that a check-in makes: whatever it finds, under some ticket, at some time. -/
inductive CheckinRecord (call : CheckinCall) : Etdr → Prop
  | made (subscriberInfo : Option SubscriberInfo) (exVehicleType : Option String)
      (ticketId : Int) (now : Clock) :
      CheckinRecord call (checkinEtdr call.req subscriberInfo exVehicleType ticketId now)

/-- What a check-in performs: it asks, inserts the row of its record, saves the record, and
answers. -/
inductive CheckinPerforms (call : CheckinCall) : Op → Prop
  | ask (q : Query) : CheckinPerforms call (.ask q)
  | insertRow {etdr : Etdr} (own : CheckinRecord call etdr) (ticketId id : Int)
      (subscriberInfo : Option SubscriberInfo) (now : Clock) :
      CheckinPerforms call (.stageInsertRow
        ((createTransportTransactionStageFromBectCheckin call.req etdr call.tollId call.tollType
          call.laneCode ticketId subscriberInfo now).withId id))
  | saved {etdr : Etdr} (own : CheckinRecord call etdr) :
      CheckinPerforms call (.saveEtdr (.checkin { etdr with dbSaved := true }))
  | unsaved {etdr : Etdr} (own : CheckinRecord call etdr) :
      CheckinPerforms call (.saveEtdr (.checkin { etdr with
        check := saveDbError, dbSaved := false, dbSaveRetryCount := etdr.dbSaveRetryCount + 1 }))
  | answer (status ticketId : Int) :
      CheckinPerforms call (.answer (.checkin call.req status ticketId))

theorem finishCheckin_performs {call : CheckinCall} {etdr : Etdr} (own : CheckinRecord call etdr)
    (result : DbResult (Int × TransportTransactionStage)) :
    (finishCheckin call.req etdr result).Only (CheckinPerforms call) := by
  cases result with
  | ok _ => exact (only_perform_bind _ _).mpr ⟨.saved own, fun _ =>
      (only_perform _).mpr (.answer _ _)⟩
  | error _ => exact (only_perform_bind _ _).mpr ⟨.unsaved own, fun _ =>
      (only_perform _).mpr (.answer _ _)⟩

theorem exListVehicleType_only {P : Op → Prop} (queries : ∀ q, P (.ask q)) (etag : String)
    (tollId : Int) : (exListVehicleType etag tollId).Only P := by
  unfold exListVehicleType
  split
  · trivial
  · exact (only_ask _).mpr (queries _)

theorem minBalanceTooLow_only {P : Op → Prop} (queries : ∀ q, P (.ask q)) (accountId : Int) :
    (minBalanceTooLow accountId).Only P := by
  refine (only_ask_bind _ _).mpr ⟨queries _, fun env => ?_⟩
  split
  · exact (only_ask _).mpr (queries _)
  · trivial

theorem saveCheckin_performs (call : CheckinCall) (subscriberInfo : Option SubscriberInfo)
    (ticketId : Int) : (saveCheckin call subscriberInfo ticketId).Only (CheckinPerforms call) := by
  refine (only_ask_bind _ _).mpr ⟨.ask _, fun env => ?_⟩
  refine (exListVehicleType_only .ask _ _).bind fun exVehicleType => ?_
  refine (only_ask_bind _ _).mpr ⟨.ask _, fun env' => ?_⟩
  have own : CheckinRecord call
      (checkinEtdr call.req subscriberInfo exVehicleType ticketId env.now) := .made _ _ _ _
  refine Prog.Only.bind ((stageSave_only _).mono fun o op => ?_) (finishCheckin_performs own)
  cases op with
  | ask q => exact .ask q
  | insertRow id => exact .insertRow own ticketId id subscriberInfo env'.now

theorem processCheckin_performs (call : CheckinCall) :
    (processCheckin call).Only (CheckinPerforms call) := by
  refine (only_ask_bind _ _).mpr ⟨.ask _, fun subscriberInfo => ?_⟩
  refine (minBalanceTooLow_only .ask _).bind fun tooLow => ?_
  split
  · exact (only_perform _).mpr (.answer _ _)
  · refine (only_ask_bind _ _).mpr ⟨.ask _, fun id => ?_⟩
    refine (existingPendingTicketId_only .ask _).bind fun existing => ?_
    exact saveCheckin_performs call subscriberInfo _

/-! ### The row of a check-in -/

/-- The row is that of the check-in: its tag and its request. -/
def Represents (req : FeCheckin) (row : TransportTransactionStage) : Prop :=
  row.etagNumber = some (normalizeEtag req.etag) ∧ row.requestId = some req.requestId

/-- A check-in under the ticket `x` can only meet its own row: a row with that id is its own,
and a row with that `TICKET_IN_ID` does not stand alone. -/
structure TicketSettled (req : FeCheckin) (x : Int) (table : StageTable) : Prop where
  own : ∀ row, table.row? x = some row → Represents req row
  stored : (x = 0 ∨ ∃ row ∈ table.rows, row.CheckedIn ∧ row.ticketInId = some x) →
    ∃ row, table.row? x = some row

/-- The id `g` that was handed out suits the check-in: it is settled, and so is the row that
has it as its `TICKET_IN_ID`. -/
def TicketFits (req : FeCheckin) (g : Int) (table : StageTable) : Prop :=
  TicketSettled req g table ∧ (g ≠ 0 → ∀ rank row,
    table.latestRow? (fun row => row.ticketInId == some g) rank = some row → Represents req row)

/-- A check-in that was answered with status `0` is represented by the row of its ticket. -/
def CheckinRepresented (req : FeCheckin) (s s' : Sys) : Prop :=
  ∀ t, s'.answers = s.answers ++ [.checkin req 0 t] →
    ∃ row, s'.stages.row? t = some row ∧ Represents req row

/-- The operations when the id service hands out `g`. -/
def execDrawing (g : Int) (o : Op) (c : Choice) (s : Sys) : o.Res × Sys :=
  o.exec (c.drawing g) s

variable {call : CheckinCall} {subscriberInfo : Option SubscriberInfo} {x g : Int} {s : Sys}

theorem exListVehicleType_post (etag : String) (tollId : Int) (s : Sys) :
    Prog.Post Op.exec (exListVehicleType etag tollId) s fun _ s' => s' = s := by
  unfold exListVehicleType
  by_cases empty : normalizeEtag etag = ""
  · rw [if_pos empty]
    rfl
  · rw [if_neg empty]
    exact fun c => rfl

/-- The columns that a check-in's row is looked for by. -/
structure CheckinRow (req : FeCheckin) (x : Int) (entity : TransportTransactionStage) : Prop where
  id : entity.transportTransId = x
  ticketInId : entity.ticketInId = some x
  represents : Represents req entity

theorem checkinEtdr_ticketId (req : FeCheckin) (subscriberInfo : Option SubscriberInfo)
    (exVehicleType : Option String) (x : Int) (now : Clock) :
    (checkinEtdr req subscriberInfo exVehicleType x now).ticketId = x := by
  unfold checkinEtdr
  cases subscriberInfo <;> rfl

theorem finishCheckin_post {req : FeCheckin} {etdr : Etdr} {s' : Sys}
    {saved : DbResult (Int × TransportTransactionStage)} (same : s'.answers = s.answers)
    (represented : ∀ v, saved = .ok v → ∃ row, s'.stages.row? etdr.ticketId = some row ∧
      Represents req row) :
    Prog.Post Op.exec (finishCheckin req etdr saved) s'
      fun _ s'' => CheckinRepresented req s s'' := by
  cases saved with
  | error message =>
    intro c₁ c₂ t answered
    simp [Op.exec, saveDbError, same] at answered
  | ok v =>
    intro c₁ c₂ t answered
    have eq : etdr.ticketId = t := by simpa [Op.exec, same] using answered
    exact eq ▸ represented v rfl

/-- The row of a check-in whose ticket is settled. -/
theorem stageSave_finishCheckin_post {entity : TransportTransactionStage} {etdr : Etdr}
    (row : CheckinRow call.req x entity) (ticket : etdr.ticketId = x)
    (settled : TicketSettled call.req x s.stages) :
    Prog.Post Op.exec (stageSave entity >>= finishCheckin call.req etdr) s
      fun _ s' => CheckinRepresented call.req s s' := by
  refine Prog.post_bind.mpr (stageSave_post ?_ ?_)
  · exact fun message => finishCheckin_post rfl fun v impossible => by simp at impossible
  · intro id s' outcome cached
    have represented : ∃ row, s'.stages.row? x = some row ∧ Represents call.req row := by
      cases outcome with
      | sameTicketInId column nonzero stored same checkedIn =>
        rw [row.ticketInId] at column
        cases column
        obtain ⟨hit, here⟩ := settled.stored
          (.inr ⟨_, (StageTable.row?_eq_some_iff.mp stored).1, checkedIn, same⟩)
        exact ⟨hit, here, settled.own hit here⟩
      | sameId given stored =>
        by_cases zero : x = 0
        · obtain ⟨hit, here⟩ := settled.stored (.inl zero)
          exact ⟨hit, here, settled.own hit here⟩
        · rw [given (row.id ▸ zero), row.id] at stored
          exact ⟨_, stored, settled.own _ stored⟩
      | inserted given done =>
        by_cases zero : x = 0
        · obtain ⟨hit, here⟩ := settled.stored (.inl zero)
          refine ⟨hit, ?_, settled.own hit here⟩
          exact StageTable.row?_insertRow_of_some done here
        · have eq := given (row.id ▸ zero)
          rw [row.id] at eq
          subst eq
          exact ⟨_, StageTable.row?_of_insertRow done, row.represents⟩
    refine finishCheckin_post ?_ fun v _ => ticket ▸ represented
    cases outcome <;> rfl

/-- A check-in whose ticket is settled. -/
theorem saveCheckin_post (settled : TicketSettled call.req x s.stages) :
    Prog.Post Op.exec (saveCheckin call subscriberInfo x) s
      fun _ s' => CheckinRepresented call.req s s' := by
  unfold saveCheckin
  rw [post_ask]
  intro c
  rw [Prog.post_bind]
  refine (exListVehicleType_post _ _ s).mono ?_
  rintro exVehicleType _ rfl
  rw [post_ask]
  intro c'
  refine stageSave_finishCheckin_post ?_ (checkinEtdr_ticketId _ _ _ _ _) settled
  exact ⟨rfl, rfl, rfl, rfl⟩

theorem minBalanceTooLow_post (accountId : Int) (s : Sys) :
    Prog.Post Op.exec (minBalanceTooLow accountId) s fun _ s' => s' = s := by
  unfold minBalanceTooLow
  rw [post_ask]
  intro c
  split
  · exact fun c' => rfl
  · exact rfl

/-- The row that lends a check-in its id. -/
theorem existingPendingTicketId_post (g : Int) (s : Sys) :
    Prog.Post Op.exec (existingPendingTicketId (some g)) s fun existing s' =>
      s' = s ∧ ∀ id, existing = some id → g ≠ 0 ∧ ∃ rank row,
        s.stages.latestRow? (fun row => row.ticketInId == some g) rank = some row ∧
          row.transportTransId = id := by
  unfold existingPendingTicketId findByTicketInIdIfSet
  rw [Prog.post_bind]
  by_cases zero : g = 0
  · simp only [if_pos zero]
    exact ⟨rfl, by simp⟩
  · simp only [if_neg zero]
    intro c
    simp only [Op.exec, Query.reply]
    rcases c.orFault_cases (s.stages.findByTicketInId g c.rank) with ok | ⟨message, error⟩
    · rw [ok]
      cases found : s.stages.findByTicketInId g c.rank with
      | none => exact ⟨rfl, by simp⟩
      | some read =>
        obtain ⟨row, latest, rfl⟩ := Option.map_eq_some_iff.mp found
        refine ⟨rfl, fun id eq => ⟨zero, c.rank, row, latest, ?_⟩⟩
        simpa using eq
    · rw [error]
      exact ⟨rfl, by simp⟩

theorem post_ask_drawing {α : Type} {q : Query} {next : q.Reply → Program α}
    {post : α → Sys → Prop} :
    Prog.Post (execDrawing g) (ask q >>= next) s post ↔
      ∀ c : Choice, Prog.Post (execDrawing g) (next (q.reply (c.drawing g) s)) s post := Iff.rfl

theorem post_drawing {α : Type} {p : Program α} {post : α → Sys → Prop} (g : Int)
    (all : Prog.Post Op.exec p s post) : Prog.Post (execDrawing g) p s post :=
  all.restrict (fun c : Choice => c.drawing g)

/-- A check-in whose id fits. -/
theorem processCheckin_post (fits : TicketFits call.req g s.stages) :
    Prog.Post (execDrawing g) (processCheckin call) s
      fun _ s' => CheckinRepresented call.req s s' := by
  unfold processCheckin
  rw [post_ask_drawing]
  intro c
  rw [Prog.post_bind]
  refine (post_drawing g (minBalanceTooLow_post _ s)).mono ?_
  rintro tooLow s' rfl
  cases tooLow with
  | true =>
    intro c' t answered
    simp [execDrawing, Op.exec, accountNotEnoughMoney] at answered
  | false =>
    simp only [Bool.false_eq_true, if_false]
    rw [post_ask_drawing]
    intro c'
    have drawn : Prog.Post Op.exec (do
        let existing ← existingPendingTicketId (some g)
        saveCheckin call (Query.subscriberByEtag (normalizeEtag call.req.etag)
          |>.reply (c.drawing g) s') (existing.getD g)) s'
        fun _ s'' => CheckinRepresented call.req s' s'' := by
      refine Prog.post_bind.mpr ((existingPendingTicketId_post g s').mono ?_)
      rintro existing _ ⟨rfl, found⟩
      cases existing with
      | none => exact saveCheckin_post fits.1
      | some id =>
        obtain ⟨nonzero, rank, row, latest, rfl⟩ := found id rfl
        have stored := (StageTable.latestRow?_eq_some latest).1
        refine saveCheckin_post ⟨fun hit here => ?_, fun _ => ⟨row, stored⟩⟩
        rw [Option.getD_some, stored] at here
        cases here
        exact fits.2 nonzero rank row latest
    exact post_drawing g drawn

/-! ### Check-ins that meet another row -/

/-- A check-in under the ticket `x` finds something: the id is zero, or a row has it as its id
or as its `TICKET_IN_ID`. -/
def Meets (x : Int) (table : StageTable) : Prop :=
  x = 0 ∨ (∃ row, table.row? x = some row) ∨
    ∃ row ∈ table.rows, row.CheckedIn ∧ row.ticketInId = some x

theorem can_ask {α : Type} {q : Query} {next : q.Reply → Program α} {post : α → Sys → Prop}
    (c : Choice) (rest : Prog.Can (execDrawing g) (next (q.reply (c.drawing g) s)) s post) :
    Prog.Can (execDrawing g) (ask q >>= next) s post :=
  ⟨c, rest⟩

/-- The outcome of a save that reports success although it did not write the row of `x`. -/
def Unwritten (x : Int) (s s' : Sys) : Prop :=
  s'.answers = s.answers ∧ s'.stages.row? x = s.stages.row? x

theorem stageInsertUnlessStored_can {entity : TransportTransactionStage}
    (nonzero : entity.transportTransId ≠ 0) (other : x ≠ entity.transportTransId ∨
      ∃ row, s.stages.row? entity.transportTransId = some row) :
    Prog.Can (execDrawing g) (stageInsertUnlessStored entity) s
      fun result s' => (∃ id, result = .ok id) ∧ Unwritten x s s' := by
  unfold stageInsertUnlessStored
  rw [if_neg nonzero]
  refine can_ask {} ?_
  simp only [Query.reply, Choice.orFault, Choice.drawing, StageTable.findById]
  cases stored : s.stages.row? entity.transportTransId with
  | some row => exact ⟨⟨_, rfl⟩, rfl, rfl⟩
  | none =>
    have ne : x ≠ entity.transportTransId := by
      rcases other with ne | ⟨row, here⟩
      · exact ne
      · rw [stored] at here
        cases here
    refine ⟨{}, ?_⟩
    simp only [execDrawing, Choice.drawing, Op.exec]
    cases done : s.stages.insertRow entity (default : Ambient).now.dbDatetime with
    | none =>
      obtain ⟨row, here⟩ := StageTable.insertRow_eq_none_iff.mp done
      rw [stored] at here
      cases here
    | some stages =>
      refine ⟨⟨_, rfl⟩, rfl, ?_⟩
      have after := (@StageTable.row?_insertRow _ x _ _ _ done).2
      rwa [if_neg ne] at after

/-- An insert that meets something can succeed without writing the row. -/
theorem stageInsert_can (req : FeCheckin) {entity : TransportTransactionStage}
    (row : CheckinRow req x entity) (meets : Meets x s.stages) :
    Prog.Can (execDrawing g) (stageInsert entity) s
      fun result s' => (∃ id, result = .ok id) ∧ Unwritten x s s' := by
  unfold stageInsert
  refine can_ask {} ?_
  simp only [Query.reply, Choice.orFault, Choice.drawing]
  rw [row.ticketInId, Prog.can_bind]
  unfold findByTicketInIdIfSet
  by_cases zero : x = 0
  · simp only [if_pos zero]
    show Prog.Can (execDrawing g) (stageInsertWithId entity) s _
    unfold stageInsertWithId
    rw [if_pos (row.id.trans zero)]
    refine can_ask {} ?_
    simp only [Query.reply, Choice.orFault, Choice.drawing]
    exact stageInsertUnlessStored_can (by simp) (.inl (by simp [zero]))
  · simp only [if_neg zero]
    refine ⟨{}, ?_⟩
    simp only [execDrawing, Op.exec, Query.reply, Choice.orFault, Choice.drawing]
    cases found : s.stages.findByTicketInId x (fun _ => 0) with
    | some read => exact ⟨⟨_, rfl⟩, rfl, rfl⟩
    | none =>
      have stored : ∃ hit, s.stages.row? x = some hit := by
        rcases meets with isZero | here | ⟨hit, mem, checkedIn, same⟩
        · exact absurd isZero zero
        · exact here
        · exact absurd same (StageTable.findByTicketInId_eq_none_iff.mp found hit mem checkedIn)
      show Prog.Can (execDrawing g) (stageInsertWithId entity) s _
      unfold stageInsertWithId
      rw [if_neg (row.id ▸ zero)]
      exact stageInsertUnlessStored_can (row.id ▸ zero) (.inr (row.id ▸ stored))

/-- The check-in was answered with success under `x`, whose row it did not write. -/
def AnsweredUnwritten (req : FeCheckin) (x : Int) (s s' : Sys) : Prop :=
  s'.answers = s.answers ++ [.checkin req 0 x] ∧ s'.stages.row? x = s.stages.row? x

theorem saveCheckin_can (meets : Meets x s.stages) :
    Prog.Can (execDrawing g) (saveCheckin call subscriberInfo x) s
      fun _ s' => AnsweredUnwritten call.req x s s' := by
  unfold saveCheckin
  refine can_ask {} ?_
  rw [Prog.can_bind]
  refine (post_drawing g (exListVehicleType_post _ _ s)).can.mono ?_
  rintro exVehicleType _ rfl
  refine can_ask {} ?_
  unfold stageSave
  simp only [Prog.can_bind]
  refine Prog.Can.mono (stageInsert_can call.req ⟨rfl, rfl, rfl, rfl⟩ meets) ?_
  rintro result s' ⟨⟨id, rfl⟩, answers, unwritten⟩
  simp only [Prog.can_bind]
  refine (post_drawing g (verifyAfterSave_post id _ s')).can.mono ?_
  rintro verified _ ⟨rfl, -⟩
  refine ⟨{}, {}, ?_, unwritten⟩
  show _ ++ [Answer.checkin call.req 0 (checkinEtdr _ _ _ _ _).ticketId] = _
  rw [checkinEtdr_ticketId]
  exact congrArg (· ++ _) answers

/-- The outcomes of a check-in whose tag has no subscriber contain those of its second half. -/
theorem processCheckin_can {post : Unit → Sys → Prop}
    (rest : Prog.Can (execDrawing g) (do
      let existing ← existingPendingTicketId (some g)
      saveCheckin call none (existing.getD g)) s post) :
    Prog.Can (execDrawing g) (processCheckin call) s post := by
  unfold processCheckin
  refine can_ask {} ?_
  rw [Prog.can_bind]
  refine can_ask {} ?_
  exact can_ask {} rest

/-- The lookup for a row that lends its id can fail. -/
theorem processCheckin_can_of_meets (meets : Meets g s.stages) :
    Prog.Can (execDrawing g) (processCheckin call) s
      fun _ s' => AnsweredUnwritten call.req g s s' := by
  refine processCheckin_can ?_
  unfold existingPendingTicketId findByTicketInIdIfSet
  simp only [Prog.can_bind]
  by_cases zero : g = 0
  · simp only [if_pos zero]
    exact saveCheckin_can meets
  · simp only [if_neg zero]
    exact ⟨{ fault := some "" }, saveCheckin_can meets⟩

/-- The row with the drawn id as its `TICKET_IN_ID` lends the check-in its own. -/
theorem processCheckin_can_of_latestRow {rank : Int → Nat} {row : TransportTransactionStage}
    (nonzero : g ≠ 0)
    (latest : s.stages.latestRow? (fun row => row.ticketInId == some g) rank = some row) :
    Prog.Can (execDrawing g) (processCheckin call) s
      fun _ s' => AnsweredUnwritten call.req row.transportTransId s s' := by
  refine processCheckin_can ?_
  unfold existingPendingTicketId findByTicketInIdIfSet
  simp only [Prog.can_bind, if_neg nonzero]
  refine ⟨{ rank := rank }, ?_⟩
  simp only [execDrawing, Op.exec, Query.reply, Choice.orFault, Choice.drawing,
    StageTable.findByTicketInId, latest, Option.map_some]
  exact saveCheckin_can (.inr (.inl ⟨row, (StageTable.latestRow?_eq_some latest).1⟩))

/-- Every check-in that is answered with status `0` is represented by the row of its ticket,
whatever the outcomes of its statements, exactly when the id it was handed out fits. -/
theorem processCheckin_represented_iff (call : CheckinCall) (g : Int) (s : Sys) :
    (∀ choices : Nat → Choice, CheckinRepresented call.req s
      ((processCheckin call).run Op.exec (fun n => (choices n).drawing g) s).2) ↔
      TicketFits call.req g s.stages := by
  have restrict : (∀ choices : Nat → Choice, CheckinRepresented call.req s
      ((processCheckin call).run Op.exec (fun n => (choices n).drawing g) s).2) ↔
      Prog.Post (execDrawing g) (processCheckin call) s
        fun _ s' => CheckinRepresented call.req s s' := by
    rw [Prog.post_iff_run]
    refine forall_congr' fun choices => ?_
    rw [Prog.run_restrict Op.exec (fun c : Choice => c.drawing g)]
    rfl
  rw [restrict]
  constructor
  · intro represented
    have own : ∀ x, Prog.Can (execDrawing g) (processCheckin call) s
        (fun _ s' => AnsweredUnwritten call.req x s s') →
        ∃ row, s.stages.row? x = some row ∧ Represents call.req row := by
      intro x can
      obtain ⟨-, s', holds, answered, unwritten⟩ := represented.meets can
      rw [← unwritten]
      exact holds x answered
    refine ⟨⟨fun row here => ?_, fun found => ?_⟩, fun nonzero rank row latest => ?_⟩
    · obtain ⟨row', stored, own⟩ := own g (processCheckin_can_of_meets (.inr (.inl ⟨row, here⟩)))
      rw [here] at stored
      cases stored
      exact own
    · obtain ⟨row, stored, -⟩ := own g (processCheckin_can_of_meets (found.imp_right .inr))
      exact ⟨row, stored⟩
    · obtain ⟨row', stored, own⟩ := own _ (processCheckin_can_of_latestRow nonzero latest)
      rw [(StageTable.latestRow?_eq_some latest).1] at stored
      cases stored
      exact own
  · exact processCheckin_post

/-- A table with the trip of another vehicle, imported from the sync table, whose
`TICKET_IN_ID` the other provider chose as `111`. -/
def foreignTrip : Sys where
  stages :=
    { rows := [{ transportTransId := 500, ticketInId := some 111, checkinStatus := some "2",
                 etagNumber := some "OTHER01", requestId := some 3 }] }

/-- A check-in of `BECT01` that is handed out the id `111`. -/
def ownCheckin : CheckinCall where
  req := { requestId := 7, etag := "BECT01", station := 1, lane := 2 }
  tollId := 1
  laneCode := 2

/-- It is answered with success and the ticket of the other vehicle's trip. -/
theorem processCheckin_attaches_foreignTrip :
    ¬ CheckinRepresented ownCheckin.req foreignTrip
      ((processCheckin ownCheckin).run Op.exec (fun _ => ({} : Choice).drawing 111)
        foreignTrip).2 := by
  intro represented
  obtain ⟨row, stored, tag, -⟩ := represented 500 (by decide +kernel)
  have foreign : (((processCheckin ownCheckin).run Op.exec (fun _ => ({} : Choice).drawing 111)
      foreignTrip).2.stages.row? 500).map (·.etagNumber) = some (some "OTHER01") := by
    decide +kernel
  have own : normalizeEtag ownCheckin.req.etag ≠ "OTHER01" := by decide +kernel
  rw [stored, Option.map_some, tag] at foreign
  exact own (Option.some.inj (Option.some.inj foreign))

end TollBackend

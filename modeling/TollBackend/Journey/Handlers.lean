import TollBackend.Journey.Lookup
import TollBackend.Ledger

/-!
# The handlers of a journey

Each of the four handlers finds the trip where the one before it has left it, takes it to the
next milestone, and answers with success.

## Main results

* `Journey.amid_processCheckin`, `Journey.amid_processCommit`,
  `Journey.amid_processCheckoutReserve`, `Journey.amid_processCheckoutCommit`: what each handler
  sends, and where it leaves the trip.
-/

namespace TollBackend

open Concurrent Setting

theorem ratingDetailsIfEmpty_only {P : Op → Prop} (queries : ∀ q, P (.ask q)) (e : Etdr) :
    (ratingDetailsIfEmpty e).Only P := by
  unfold ratingDetailsIfEmpty
  split
  · exact (only_ask _).mpr (queries _)
  · trivial

namespace Journey

variable {j : Journey} {s : Sys} {m n : Milestone} {charge : Charge} {status : Option Int}
variable {α : Type} {sent : List Out} {post : α → List Out → Sys → Prop}

/-! ### Check-in -/

/-- No row has the ticket as its `TICKET_IN_ID` yet. -/
theorem Ready.findByTicketInId (ready : j.Ready s) (rank : Int → Nat) :
    s.stages.findByTicketInId j.ticket rank = none := by
  rw [StageTable.findByTicketInId_eq_none_iff]
  intro row mem checkedIn
  have elsewhere := StageTable.row?_eq_none_iff.mp ready.absent row mem
  exact (ready.rows row mem elsewhere checkedIn).1

/-- The row of the check-in. -/
def checkinRow (j : Journey) (etdr : Etdr) (subscriberInfo : Option SubscriberInfo)
    (now : Clock) : TransportTransactionStage :=
  createTransportTransactionStageFromBectCheckin j.call.req etdr j.call.tollId j.call.tollType
    j.call.laneCode j.ticket subscriberInfo now

/-- The search for a row with the ticket finds none. -/
theorem amid_findByTicketInId
    {next : DbResult (Option TransportTransactionStage) → Program α} (ready : j.Ready s)
    (rest : ∀ s', j.Ready s' → j.setting.Amid (next (.ok none)) sent post s') :
    j.setting.Amid (findByTicketInIdIfSet (some j.ticket) >>= next) sent post s := by
  rw [findByTicketInIdIfSet, if_neg j.issued]
  refine amid_ask Spared.ready ready fun c s₁ ready₁ healthy => ?_
  simp only [Query.reply]
  rw [healthy.orFault, ready₁.findByTicketInId]
  exact rest s₁ ready₁

/-- The row is inserted. -/
theorem amid_stageInsertRow {next : DbResult Int → Program α} {etdr : Etdr}
    {subscriberInfo : Option SubscriberInfo} {now : Clock} (later : j.start * 1000 ≤ now.ms)
    (ready : j.Ready s)
    (rest : ∀ s', j.Underway .entered .entered .free none s' →
      j.setting.Amid (next (.ok j.ticket)) sent post s') :
    j.setting.Amid (stageInsertStatement (j.checkinRow etdr subscriberInfo now) >>= next)
      sent post s := by
  refine amid_perform rfl Spared.ready ready fun c s₁ ready₁ healthy => ?_
  simp only [Op.exec]
  have id : (j.checkinRow etdr subscriberInfo now).transportTransId = j.ticket := rfl
  cases done : s₁.stages.insertRow (j.checkinRow etdr subscriberInfo now)
      c.env.now.dbDatetime with
  | none =>
    -- the primary key is not taken
    obtain ⟨row, taken⟩ := StageTable.insertRow_eq_none_iff.mp done
    rw [id, ready₁.absent] at taken
    cases taken
  | some stages =>
    dsimp only
    rw [healthy.statement]
    exact rest _ (ready₁.insert id done (rowAt_insertColumns _ _ _ _ later))

theorem amid_stageInsert {next : DbResult Int → Program α} {etdr : Etdr}
    {subscriberInfo : Option SubscriberInfo} {now : Clock} (later : j.start * 1000 ≤ now.ms)
    (ready : j.Ready s)
    (rest : ∀ s', j.Underway .entered .entered .free none s' →
      j.setting.Amid (next (.ok j.ticket)) sent post s') :
    j.setting.Amid (stageInsert (j.checkinRow etdr subscriberInfo now) >>= next) sent post s := by
  have id : (j.checkinRow etdr subscriberInfo now).transportTransId = j.ticket := rfl
  have column : (j.checkinRow etdr subscriberInfo now).ticketInId = some j.ticket := rfl
  refine amid_ask Spared.ready ready fun c s₁ ready₁ healthy => ?_
  simp only [Query.reply]
  rw [healthy.orFault, column]
  show j.setting.Amid (findByTicketInIdIfSet (some j.ticket) >>= _ >>= next) sent post s₁
  rw [Prog.bind_assoc']
  refine amid_findByTicketInId ready₁ fun s₂ ready₂ => ?_
  rw [stageInsertWithId, if_neg (id ▸ j.issued), stageInsertUnlessStored,
    if_neg (id ▸ j.issued), id]
  refine amid_ask Spared.ready ready₂ fun c' s₃ ready₃ healthy' => ?_
  simp only [Query.reply]
  rw [healthy'.orFault, StageTable.findById, ready₃.absent]
  exact amid_stageInsertRow later ready₃ rest

/-- The row is saved; reading it back changes nothing. -/
theorem amid_stageSave {next : DbResult (Int × TransportTransactionStage) → Program α}
    {etdr : Etdr} {subscriberInfo : Option SubscriberInfo} {now : Clock}
    (later : j.start * 1000 ≤ now.ms) (ready : j.Ready s)
    (rest : ∀ saved s', j.Underway .entered .entered .free none s' →
      j.setting.Amid (next (.ok saved)) sent post s') :
    j.setting.Amid (stageSave (j.checkinRow etdr subscriberInfo now) >>= next) sent post s := by
  rw [stageSave, Prog.bind_assoc']
  refine amid_stageInsert later ready fun s₁ underway => ?_
  dsimp only
  rw [Prog.bind_assoc']
  exact amid_of_spares Spared.underway (verifyAfterSave_only j.ask_quiet _ _) underway
    fun verified s₂ underway₂ => rest _ s₂ underway₂

/-- The record of the check-in is saved, and it is answered with success. -/
theorem amid_finishCheckin {subscriberInfo : Option SubscriberInfo}
    {exVehicleType : Option String} {now : Clock} (later : j.start * 1000 ≤ now.ms)
    (underway : j.Underway .entered .entered .free none s)
    (row : Int × TransportTransactionStage) :
    j.setting.Amid (finishCheckin j.call.req
        (checkinEtdr j.call.req subscriberInfo exVehicleType j.ticket now) (.ok row)) sent
      (fun _ sent' s' => sent' = sent ++ [.answer (.checkin j.call.req 0 j.ticket)] ∧
        j.Underway .entered .entered .free none s') s := by
  refine amid_perform rfl Spared.underway underway fun c s₁ underway₁ healthy => ?_
  have record := recordAt_checkin (j := j) subscriberInfo exVehicleType later
  have saved := underway₁.save (.checkin _) record c
  refine amid_answer Spared.underway saved fun s₂ underway₂ => ⟨?_, underway₂⟩
  rw [checkinEtdr_ticketId]

/-- The balance is not too low. -/
theorem amid_minBalanceTooLow {J : Sys → Prop} (stable : j.setting.Stable J) {accountId : Int}
    {next : Bool → Program α} (holds : J s)
    (rest : ∀ s', J s' → j.setting.Amid (next false) sent post s') :
    j.setting.Amid (minBalanceTooLow accountId >>= next) sent post s := by
  rw [minBalanceTooLow, Prog.bind_assoc']
  refine amid_ask stable holds fun c s₁ holds₁ healthy => ?_
  split
  · refine amid_ask stable holds₁ fun c' s₂ holds₂ healthy' => ?_
    have enough : c'.balanceTooLow = false := healthy'.favours
    simp only [Query.reply]
    rw [enough]
    exact rest s₂ holds₂
  · exact rest s₁ holds₁

/-- A check-in begins the trip. -/
theorem amid_processCheckin (ready : j.Ready s) :
    j.setting.Amid (processCheckin j.call) sent
      (fun _ sent' s' => sent' = sent ++ [.answer (.checkin j.call.req 0 j.ticket)] ∧
        j.Underway .entered .entered .free none s') s := by
  refine amid_ask Spared.ready ready fun c s₁ ready₁ healthy => ?_
  refine amid_minBalanceTooLow Spared.ready ready₁ fun s₂ ready₂ => ?_
  rw [if_neg Bool.false_ne_true]
  refine amid_ask Spared.ready ready₂ fun c' s₃ ready₃ healthy' => ?_
  have issued : c'.freshId = j.ticket := healthy'.favours
  simp only [Query.reply]
  rw [issued, existingPendingTicketId, Prog.bind_assoc']
  refine amid_findByTicketInId ready₃ fun s₄ ready₄ => ?_
  refine amid_ask Spared.ready ready₄ fun c₄ s₅ ready₅ healthy₅ => ?_
  refine amid_of_spares Spared.ready (exListVehicleType_only j.ask_quiet _ _) ready₅
    fun exVehicleType s₆ ready₆ => ?_
  refine amid_ask Spared.ready ready₆ fun c₆ s₇ ready₇ healthy₇ => ?_
  exact amid_stageSave healthy₇.later ready₇ fun saved s₈ underway =>
    amid_finishCheckin healthy₅.later underway saved

/-! ### Commit of the check-in -/

/-- The row that the trip is read as. -/
theorem Underway.findById (underway : j.Underway m n charge status s) :
    ∃ row, s.stages.findById j.ticket = some row.selectRow ∧ j.RowAt m row := by
  obtain ⟨row, found, at_⟩ := underway.row
  exact ⟨row, by rw [StageTable.findById, found, Option.map_some], at_⟩

/-- No other row has the ticket as its `TICKET_IN_ID`. -/
theorem amid_duplicateTicketInId {next : Bool → Program α} {ticketInId : Option Int}
    (column : ticketInId = some j.ticket) (underway : j.Underway m n charge status s)
    (rest : ∀ s', j.Underway m n charge status s' → j.setting.Amid (next false) sent post s') :
    j.setting.Amid (duplicateTicketInId ticketInId j.ticket >>= next) sent post s := by
  rw [column, duplicateTicketInId, Prog.bind_assoc', findByTicketInIdIfSet, if_neg j.issued]
  refine amid_ask Spared.underway underway fun c s₁ underway₁ healthy => ?_
  simp only [Query.reply]
  rw [healthy.orFault]
  cases found : s₁.stages.findByTicketInId j.ticket c.rank with
  | none => exact rest s₁ underway₁
  | some read =>
    -- the row that is found is the trip's own, and so it is no duplicate
    obtain ⟨row, stored, same, checkedIn, rfl⟩ := StageTable.findByTicketInId_eq_some found
    have own : row.transportTransId = j.ticket := by
      by_contra elsewhere
      have mem := (StageTable.row?_eq_some_iff.mp stored).1
      exact (underway₁.rows row mem elsewhere checkedIn).1 same
    have start := rest s₁ underway₁
    show j.setting.Amid (next (row.transportTransId != j.ticket)) sent post s₁
    rw [own, bne_self_eq_false]
    exact start

/-- The record of a row that was committed is saved, and its event is sent before the answer. -/
theorem amid_finishCommit {e : Etdr} (at_ : j.RecordAt .entered e)
    (underway : j.Underway .committed .entered .free none s) :
    j.setting.Amid (finishCommit j.commit e (.ok true)) sent
      (fun _ sent' s' => ∃ committed, sent' = sent ++ [.event (.checkin committed),
        .answer (.commit j.commit 0 j.ticket)] ∧ j.RecordAt .committed committed ∧
          j.Underway .committed .committed .free none s') s := by
  rw [finishCommit, commitOutcome, Prog.bind_assoc']
  refine amid_ask Spared.underway underway fun c s₁ underway₁ healthy => ?_
  dsimp only
  rw [Prog.bind_assoc']
  refine amid_of_spares Spared.underway (ratingDetailsIfEmpty_only j.ask_quiet e) underway₁
    fun details s₂ underway₂ => ?_
  refine amid_perform rfl Spared.underway underway₂ fun c' s₃ underway₃ healthy' => ?_
  have record := at_.checkinCommitted c.env.now details true
  have saved := underway₃.save _ record c'
  refine amid_sendKafka Spared.underway saved fun s₄ underway₄ => ?_
  refine amid_answer Spared.underway underway₄ fun s₅ underway₅ => ⟨_, ?_, record, underway₅⟩
  rw [at_.ticket, List.append_assoc]
  rfl

/-- The commit takes the row of the trip to the next milestone. -/
theorem Underway.commit (underway : j.Underway .entered n charge status s) (req : FeCommitIn)
    (now : Clock) :
    j.Underway .committed n charge status { s with
      stages := s.stages.updateCheckinCommit j.ticket (checkinCommitColumns req now) } := by
  refine underway.update (fun id => StageTable.row?_updateCheckinCommit _ _)
    fun row found at_ => ?_
  have waiting : row.checkinStatus = some "1" := at_.checkinStatus
  rw [if_pos waiting]
  exact at_.setCheckinCommit req now

/-- A commit takes the trip on from its check-in. -/
theorem amid_processCommit (underway : j.Underway .entered .entered .free none s) :
    j.setting.Amid (processCommit j.commit) sent
      (fun _ sent' s' => ∃ committed, sent' = sent ++ [.event (.checkin committed),
        .answer (.commit j.commit 0 j.ticket)] ∧ j.RecordAt .committed committed ∧
          j.Underway .committed .committed .free none s') s := by
  refine amid_ask Spared.underway underway fun c s₁ underway₁ healthy => ?_
  have entry : c.laneType = some laneTypeIn := healthy.favours
  simp only [Query.reply]
  rw [entry]
  show j.setting.Amid (commitIn j.commit) sent _ s₁
  refine amid_ask Spared.underway underway₁ fun c₁ s₂ underway₂ healthy₁ => ?_
  refine amid_resolve j.commitTag underway₂ rfl fun e s₃ at_ underway₃ => ?_
  dsimp only
  rw [if_neg at_.not_checkinCommitRefused, commitEtdr, at_.ticket]
  refine amid_ask Spared.underway underway₃ fun c₃ s₄ underway₄ healthy₃ => ?_
  obtain ⟨row, found, rowAt⟩ := underway₄.findById
  have waiting : row.checkinCommitDatetime = none := rowAt.checkinCommit
  simp only [Query.reply]
  rw [healthy₃.orFault, found]
  dsimp only
  rw [TransportTransactionStage.selectRow_checkinCommitDatetime, waiting]
  refine amid_duplicateTicketInId ?_ underway₄ fun s₅ underway₅ => ?_
  · rw [TransportTransactionStage.selectRow_ticketInId, rowAt.ticketInId]
  · refine amid_perform rfl Spared.underway underway₅ fun c₅ s₆ underway₆ healthy₅ => ?_
    simp only [Op.exec]
    rw [healthy₅.statement]
    exact amid_finishCommit at_ (underway₆.commit _ _)

/-! ### Reserve -/

/-- Records show that there is a charge, not which. -/
theorem RecordAt.recharge {e : Etdr} {charge' : Charge} (at_ : j.RecordAt (.reserved charge) e) :
    j.RecordAt (.reserved charge') e :=
  ⟨at_.ticket, at_.tag, at_.checkin, at_.checkinCommit, at_.checkout, at_.tollOut,
    at_.checkoutCommit⟩

theorem Underway.recharge {charge₁ : Charge}
    (underway : j.Underway m (.reserved charge₁) charge status s) (charge₂ : Charge) :
    j.Underway m (.reserved charge₂) charge status s where
  toPast := underway.toPast
  row := underway.row
  cached key e cached own :=
    ⟨(underway.cached key e cached own).1, (underway.cached key e cached own).2.recharge⟩
  booked := underway.booked

/-- The fee of a trip is charged, if there is one. -/
theorem amid_chargeAccount {next : Option Int → Program α} {accountId amount : Int} {now : Clock}
    (known : 0 < accountId) (underway : j.Underway m n .free none s)
    (rest : ∀ charge : Charge, charge.amount = amount → ∀ s', j.Underway m n charge none s' →
      j.setting.Amid (next charge.account) sent post s') :
    j.setting.Amid (chargeAccount accountId amount j.ticket now >>= next) sent post s := by
  unfold chargeAccount
  by_cases fee : 0 < amount
  · rw [if_pos ⟨known, fee⟩, Prog.bind_assoc']
    refine amid_perform rfl Spared.underway underway fun c s₁ underway₁ healthy => ?_
    obtain ⟨positive, fresh⟩ : 0 < c.freshId ∧ (s₁.account? c.freshId).isNone = true :=
      healthy.favours
    let charge : Charge :=
      { amount := amount
        account := some c.freshId
        covered := fun _ => rfl
        positive := fun id same => Option.some.inj same ▸ positive }
    simp only [Op.exec]
    rw [healthy.statement]
    exact rest charge rfl _ (underway₁.book rfl rfl rfl (Option.isNone_iff_eq_none.mp fresh))
  · -- nothing to pay: no account transaction is inserted
    rw [if_neg fun both => fee both.2]
    let charge : Charge :=
      { amount := amount
        account := none
        covered := fun positive => absurd positive fee
        positive := fun _ same => by cases same }
    exact rest charge rfl s
      ⟨underway.toPast, underway.row, underway.cached, fun _ same => by cases same⟩

theorem saveTcdOrPending_quiet (j : Journey) (id : Int) (list : List TransportTransStageTcd) :
    (saveTcdOrPending id list).Only fun o => o.outs = [] ∧ ∀ s, o.Spares j s := by
  refine (only_ask_bind _ _).mpr ⟨j.ask_quiet _, fun saved => ?_⟩
  split
  · trivial
  · exact (only_perform _).mpr ⟨rfl, fun _ => trivial⟩

/-- The exit takes the row of the trip to the next milestone. -/
theorem Underway.exit (underway : j.Underway .committed n charge status s)
    (req : CheckoutReserveBoo) (etdr : Etdr) (now : Clock) :
    j.Underway (.reserved charge) n charge status { s with
      stages := s.stages.updateCheckoutInfo j.ticket
        (checkoutInfoColumns req etdr charge.amount 0 charge.account now) } :=
  underway.update (fun _ => StageTable.row?_updateCheckoutInfo _ _)
    fun _ _ at_ => at_.setCheckoutInfo req etdr charge now

/-- A reserve whose fee is known takes the trip to its exit. -/
theorem amid_reserveEtdr {e : Etdr} {amount : Int} {details : List RatingDetail}
    (at_ : j.RecordAt .committed e) (underway : j.Underway .committed .committed .free none s) :
    j.setting.Amid (reserveEtdr j.reserve e amount details) sent
      (fun _ sent' s' => sent' = sent ++ [.answer (.reserve j.reserve 0 j.ticket)] ∧
        ∃ charge : Charge, charge.amount = amount ∧
          j.Underway (.reserved charge) (.reserved charge) charge none s') s := by
  refine amid_ask Spared.underway underway fun c s₁ underway₁ healthy => ?_
  have known : 0 < (c.subscriber.map (·.accountId)).getD 0 := by
    have owner : c.subscriber.any (fun sub => decide (0 < sub.accountId)) = true :=
      healthy.favours
    cases found : c.subscriber with
    | none => simp [found] at owner
    | some sub => simpa [found] using owner
  refine amid_ask Spared.underway underway₁ fun c₁ s₂ underway₂ healthy₁ => ?_
  refine amid_perform rfl Spared.underway underway₂ fun c₂ s₃ underway₃ healthy₂ => ?_
  have record := at_.checkoutReserved j.reserve (.provisional amount)
    (priceTicketTypeFor details e.priceTicketType) c₁.env.now
  -- the record is saved before the fee is charged, so for a while it is ahead of the row
  have saved := underway₃.save _ record c₂
  refine amid_ask Spared.underway saved fun c₃ s₄ underway₄ healthy₃ => ?_
  rw [at_.ticket]
  refine amid_chargeAccount known underway₄ fun charge fee s₅ underway₅ => ?_
  subst fee
  refine amid_perform rfl Spared.underway underway₅ fun c₅ s₆ underway₆ healthy₅ => ?_
  simp only [Op.exec, Query.reply]
  rw [healthy₅.statement, reserveErrorStatus_eq_zero known]
  refine amid_of_spares Spared.underway (saveTcdOrPending_quiet j _ _)
    ((underway₆.exit j.reserve _ _).recharge charge) fun _ s₇ underway₇ => ?_
  exact amid_answer Spared.underway underway₇ fun s₈ underway₈ => ⟨rfl, charge, rfl, underway₈⟩

/-- A reserve takes the trip to its exit. -/
theorem amid_processCheckoutReserve (underway : j.Underway .committed .committed .free none s) :
    j.setting.Amid (processCheckoutReserve j.reserve) sent
      (fun _ sent' s' => sent' = sent ++ [.answer (.reserve j.reserve 0 j.ticket)] ∧
        ∃ charge, j.Underway (.reserved charge) (.reserved charge) charge none s') s := by
  refine amid_resolve j.reserveTag underway rfl fun e s₁ at_ underway₁ => ?_
  dsimp only
  rw [if_neg at_.not_reserveRefused]
  refine amid_ask Spared.underway underway₁ fun c s₂ underway₂ healthy => ?_
  obtain ⟨fee, known⟩ := Option.isSome_iff_exists.mp healthy.favours
  simp only [Query.reply]
  rw [known]
  refine (amid_reserveEtdr at_ underway₂).mono fun _ sent' s' ends => ?_
  obtain ⟨answered, charge, -, underway₃⟩ := ends
  exact ⟨answered, charge, underway₃⟩

/-! ### Commit of the exit -/

/-- The trip is over: its row has all four times and the charge, the account transaction of the
charge is final, and no record of the trip is cached. -/
structure Completed (j : Journey) (charge : Charge) (s : Sys) : Prop where
  row : ∃ row, s.stages.row? j.ticket = some row ∧ j.RowAt (.left charge) row
  cached : ∀ key e, s.cache.Cached key e → e.ticketId ≠ j.ticket
  booked : j.Booked charge (some autocommitStatusSuccess) s

/-- A trip that is over stays over. -/
theorem Spared.completed {s' : Sys} (spared : j.Spared s s') (completed : j.Completed charge s) :
    j.Completed charge s' where
  row := by
    obtain ⟨row, found, at_⟩ := completed.row
    obtain ⟨hubId, lastUpdate, found'⟩ := spared.row row found
    exact ⟨_, found', at_.withHub hubId lastUpdate⟩
  cached key e' cached own := by
    obtain ⟨e, before, same, -⟩ := spared.cached key e' cached (.inr own)
    exact completed.cached key e before (same.trans own)
  booked := spared.booked completed.booked

/-- The ticket that the commit is about is that of the trip. -/
theorem amid_checkoutCommitTicket {next : Int → Program α} (inside : m.hasLeft = false)
    (underway : j.Underway m m charge status s)
    (rest : ∀ s', j.Underway m m charge status s' → j.setting.Amid (next j.ticket) sent post s') :
    j.setting.Amid (checkoutCommitTicket j.checkoutCommit >>= next) sent post s := by
  unfold checkoutCommitTicket
  rcases j.exitTicket with none_named | named
  · -- the message names no ticket: the lookup of the tag finds it
    rw [if_neg (not_not.mpr none_named), Prog.bind_assoc']
    refine amid_resolve j.exitTag underway inside fun e s₁ at_ underway₁ => ?_
    have start := rest s₁ underway₁
    rw [← at_.ticket] at start
    exact start
  · rw [if_pos (named ▸ j.issued), named]
    exact rest s underway

/-- The record that the commit goes on with is one of the trip. -/
theorem amid_checkoutCommitRecord {next : Option Etdr → Program α} (inside : m.hasLeft = false)
    (underway : j.Underway m m charge status s)
    (rest : ∀ e s', j.RecordAt m e → j.Underway m m charge status s' →
      j.setting.Amid (next (some e)) sent post s') :
    j.setting.Amid (checkoutCommitRecord j.checkoutCommit j.ticket >>= next) sent post s := by
  rw [checkoutCommitRecord, Prog.bind_assoc']
  refine amid_perform rfl Spared.underway underway fun c s₁ underway₁ healthy => ?_
  have spares : (Op.cacheGetByTicketId j.ticket).Spares j s₁ := trivial
  have kept := (spares.spared c).underway underway₁
  simp only [Op.exec] at kept ⊢
  cases read : (s₁.cache.getByTicketId j.ticket c.env.now c.seed).1 with
  | some e =>
    obtain ⟨⟨key, cached⟩, own⟩ := EtdrCache.getByTicketId_cached read
    exact rest e _ (underway₁.cached key e cached own).2 kept
  | none =>
    -- no record of the ticket is cached: the row of the trip is read instead
    dsimp only
    rw [Prog.bind_assoc']
    refine amid_resolve j.exitTag kept inside fun e s₂ at_ underway₂ => ?_
    have start := rest e s₂ at_ underway₂
    have same : (some e).filter (fun e => e.ticketId == j.ticket) = some e := by
      simp [Option.filter, at_.ticket]
    rw [← same] at start
    exact start

/-- The charge of the trip becomes final. -/
theorem amid_commitAccount {next : Unit → Program α} {accountTransId : Option Int} {now : Clock}
    (charged : accountTransId = charge.account) (underway : j.Underway m n charge none s)
    (rest : ∀ s', j.Underway m n charge (some autocommitStatusSuccess) s' →
      j.setting.Amid (next ()) sent post s') :
    j.setting.Amid (commitAccount accountTransId now >>= next) sent post s := by
  rw [charged]
  cases account : charge.account with
  | none =>
    refine rest s ⟨underway.toPast, underway.row, underway.cached, fun id mem => ?_⟩
    rw [account] at mem
    cases mem
  | some id =>
    have positive := charge.positive id account
    rw [commitAccount, if_pos positive, Prog.bind_assoc']
    refine amid_ask Spared.underway underway fun c s₁ underway₁ healthy => ?_
    obtain ⟨stored, found, -, -, autocommit, none_yet⟩ := underway₁.booked id account
    simp only [Query.reply]
    rw [healthy.orFault, Sys.accountForCommit, if_neg (not_le.mpr positive), found]
    dsimp only
    rw [autocommit, none_yet]
    refine amid_perform rfl Spared.underway underway₁ fun c' s₂ underway₂ healthy' => ?_
    simp only [Op.exec]
    rw [if_neg (not_le.mpr positive), healthy'.statement]
    exact rest _ (underway₂.settle account _)

/-- The commit of the exit takes the row of the trip to its end. -/
theorem Underway.leave (underway : j.Underway (.reserved charge) n charge status s)
    (stage : TransportTransactionStage) (now : Clock) :
    j.Underway (.left charge) n charge status { s with
      stages := s.stages.updateCheckoutCommit j.ticket (checkoutCommitColumns stage now) } :=
  underway.update (fun _ => StageTable.row?_updateCheckoutCommit _ _)
    fun _ _ at_ => at_.setCheckoutCommit stage now

/-- The records of the trip are removed. -/
theorem amid_clear {next : Unit → Program α}
    (underway : j.Underway (.left charge) n charge (some autocommitStatusSuccess) s)
    (rest : ∀ s', j.Completed charge s' → j.setting.Amid (next ()) sent post s') :
    j.setting.Amid (clearEtdrAfterTransactionComplete j.ticket >>= next) sent post s := by
  rw [clearEtdrAfterTransactionComplete, Prog.bind_assoc']
  refine amid_perform rfl Spared.underway underway fun c s₁ underway₁ healthy => ?_
  -- the records under one tag are removed, and none stands under another
  have once : s₁.cache.CachedOnce j.ticket := by
    rintro kv mem kv' mem' ⟨entry, inList, own⟩ ⟨entry', inList', own'⟩
    have tag := (underway₁.cached kv.1 _ ⟨kv.2, mem, entry, inList, rfl⟩ own).1
    have tag' := (underway₁.cached kv'.1 _ ⟨kv'.2, mem', entry', inList', rfl⟩ own').1
    exact tag.trans tag'.symm
  have completed : j.Completed charge ((Op.cacheRemoveByTicketId j.ticket).exec c s₁).2 :=
    { row := underway₁.row
      cached := fun key e cached =>
        EtdrCache.ticketId_ne_of_removeByTicketId j.issued once cached
      booked := underway₁.booked }
  refine amid_of_spares Spared.completed (p := do
    perform (.removePendingTcd j.ticket)
    perform (.keydbRemove (.retry j.ticket))) ?_ completed fun _ => rest
  exact (only_perform_bind _ _).mpr ⟨⟨rfl, fun _ => trivial⟩, fun _ =>
    (only_perform _).mpr ⟨rfl, fun _ => trivial⟩⟩

/-- A commit at the exit ends the trip. -/
theorem amid_processCheckoutCommit
    (underway : j.Underway (.reserved charge) (.reserved charge) charge none s) :
    j.setting.Amid (processCheckoutCommit j.checkoutCommit) sent
      (fun _ sent' s' => ∃ e at_, sent' = sent ++ [.event (.checkout e at_),
        .answer (.checkoutCommit j.checkoutCommit 0 j.ticket)] ∧
          j.RecordAt (.reserved charge) e ∧ j.Completed charge s') s := by
  refine amid_checkoutCommitTicket rfl underway fun s₁ underway₁ => ?_
  rw [if_neg j.issued]
  refine amid_checkoutCommitRecord rfl underway₁ fun e s₂ at_ underway₂ => ?_
  dsimp only
  rw [checkoutCommitEtdr, if_neg at_.not_checkoutCommitRefused]
  refine amid_ask Spared.underway underway₂ fun c s₃ underway₃ healthy => ?_
  obtain ⟨row, found, rowAt⟩ := underway₃.findById
  simp only [Query.reply]
  rw [healthy.orFault, found]
  dsimp only
  rw [commitStage]
  refine amid_ask Spared.underway underway₃ fun c₃ s₄ underway₄ healthy₃ => ?_
  refine amid_commitAccount ?_ underway₄ fun s₅ underway₅ => ?_
  · rw [TransportTransactionStage.selectRow_accountTransId, rowAt.accountTransId]
    rfl
  refine amid_perform rfl Spared.underway underway₅ fun c₅ s₆ underway₆ healthy₅ => ?_
  simp only [Op.exec]
  rw [healthy₅.statement]
  refine amid_sendKafka Spared.underway (underway₆.leave _ _) fun s₇ underway₇ => ?_
  refine amid_clear underway₇ fun s₈ completed => ?_
  refine amid_answer Spared.completed completed fun s₉ completed₉ =>
    ⟨e, c₃.env.now.ms, ?_, at_, completed₉⟩
  rw [List.append_assoc]
  rfl

end Journey

end TollBackend

import TollBackend.Lifecycle.InOrder

/-!
# Requests keep the progress of a trip

Each request that takes its turn with the tickets it uses, and meets the condition on its
operations, loses no progress of a cached ticket, and leaves the cached records of the tickets
telling what their rows tell.

## Main definitions

* `LifecycleTurns`: the runs of such requests.

## Main results

* `keepsLifecycle_of_reaches`: no step of such a run loses progress.
* `lookup_loses_price`: a lookup after a reserve loses the price.
-/

namespace TollBackend

open Concurrent

variable {c : Choice} {s s' : Sys} {t : Int} {req : Req} {trace tr : Past} {e : Etdr}

theorem allAgree_of_steady {p : Program Unit} (only : p.Only Op.Steady)
    (holds : AllAgree trace s) :
    lifecycleContract.Safe req p (fun _ tr s' => AllAgree tr s') trace s :=
  (safe_of_steady only holds).mono fun _ _ _ lasts => lasts.holds

/-! ### Check-ins -/

theorem checkinRecord_progress {call : CheckinCall} (own : CheckinRecord call e) :
    e.progress = .entered := by
  obtain ⟨subscriberInfo, exVehicleType, ticketId, now⟩ := own
  cases subscriberInfo <;> rfl

/-- The record of a check-in may be saved. -/
theorem checkin_save {etdr : Etdr} (entered : etdr.progress = .entered)
    (wf : s.cache.WellFormed) (holds : AllAgree trace s)
    (may : lifecycleContract.may req trace (.saveEtdr (.checkin etdr)) c s) :
    lifecycleContract.must req trace (.saveEtdr (.checkin etdr)) c s ∧
      AllAgree (trace ++ [⟨.saveEtdr (.checkin etdr), c, s⟩])
        ((Op.saveEtdr (.checkin etdr)).exec c s).2 := by
  obtain ⟨unpriced, row⟩ := may.1
  have mem : etdr.ticketId ∈ byTicket.usedIn (trace ++ [⟨.saveEtdr (.checkin etdr), c, s⟩]) :=
    Keyed.mem_usedIn_append_singleton.mpr (.inr List.mem_cons_self)
  have own := Keyed.idle_of_may holds may mem
  have tells : etdr.ticketId ≠ 0 → etdr.progress = s.progressOf etdr.ticketId :=
    fun _ => entered.trans row.symm
  obtain ⟨keeps, after⟩ := cachePut_exec (cachePut_saveEtdr (.checkin etdr) c s) wf
    (fun t used => Keyed.idle_of_may holds may used) own (current_of_unpriced own unpriced tells) tells
  refine ⟨fun t used => ?_, after⟩
  rw [List.mem_singleton.mp used]
  exact keeps

theorem checkin_inOrder (call : CheckinCall) (holds : AllAgree trace s) :
    lifecycleContract.Safe req (processCheckin call) (fun _ tr s' => AllAgree tr s') trace s := by
  refine Contract.safe_of_only (J := AllAgree) (processCheckin_performs call) holds ?_ ?_
  · exact fun tr s₁ s₂ holds rely _ => (lasts_of_rely holds rely).holds
  · intro tr s₁ o c op holds wf may
    have steady : o.Steady → lifecycleContract.must req tr o c s₁ ∧ (o.exec c s₁).2.cache.WellFormed ∧
        AllAgree (tr ++ [⟨o, c, s₁⟩]) (o.exec c s₁).2 := fun steady =>
      have after := steady_exec steady wf may holds
      ⟨after.2.1, wellFormed_exec wf, after.2.2⟩
    cases op with
    | ask q => exact steady trivial
    | insertRow own ticketId id subscriberInfo now => exact steady trivial
    | answer status ticketId => exact steady trivial
    | @saved etdr own =>
      have before := checkinRecord_progress own
      have entered : { etdr with dbSaved := true }.progress = .entered := before
      obtain ⟨must, after⟩ := checkin_save entered wf holds may
      exact ⟨must, wellFormed_exec wf, after⟩
    | @unsaved etdr own =>
      have before := checkinRecord_progress own
      have entered : { etdr with check := saveDbError, dbSaved := false
                                 dbSaveRetryCount := etdr.dbSaveRetryCount + 1 }.progress =
          .entered := before
      obtain ⟨must, after⟩ := checkin_save entered wf holds may
      exact ⟨must, wellFormed_exec wf, after⟩

/-! ### Check-in commits -/

/-- The row has its commit and the record has not. -/
structure CommitUnderWay (e : Etdr) (s : Sys) : Prop where
  row : e.ticketId ≠ 0 → s.progressOf e.ticketId = { e.progress with committed := true }
  current : SnapshotCurrent s e

theorem commitUnderWay_lasts (e : Etdr) : LastsFor e.ticketId (CommitUnderWay e) :=
  fun _ _ same underWay =>
    ⟨fun nonzero => same.progress.trans (underWay.row nonzero), same.current underWay.current⟩

theorem keeps_checkinCommitted {now : Clock} {details : List BooRatingDetail} {dbSaved : Bool} :
    Keeps e (EtdrWrite.checkinCommitted e now details dbSaved).etdr where
  checkinCommit _ := now.ms_ne_zero
  checkout := id
  checkoutCommit := id
  tollOut := id
  price := id
  ratingDetails h := by
    have nonempty : e.ratingDetails.isEmpty = false := by simpa using h
    simpa [EtdrWrite.etdr, nonempty] using h

theorem progress_checkinCommitted (e : Etdr) (now : Clock) (details : List BooRatingDetail)
    (dbSaved : Bool) : (EtdrWrite.checkinCommitted e now details dbSaved).etdr.progress =
      { e.progress with committed := true } := by
  rw [Etdr.progress, Etdr.progress, Progress.mk.injEq]
  exact ⟨decide_eq_true now.ms_ne_zero, rfl, rfl, rfl⟩

/-- The `UPDATE` of a commit. -/
theorem commit_update {cols : CheckinCommitColumns} {now : Clock}
    (commits : cols.checkinCommitDatetime = now.dbDatetime) (fresh : Fresh s e)
    (allowed : InOrder req trace (.stageUpdateCheckinCommit e.ticketId cols) c s) :
    CommitUnderWay e ((Op.stageUpdateCheckinCommit e.ticketId cols).exec c s).2 := by
  obtain ⟨ok, row, stored, waiting⟩ := allowed
  have executed : ((Op.stageUpdateCheckinCommit e.ticketId cols).exec c s).2 =
      { s with stages := s.stages.updateCheckinCommit e.ticketId cols } := by
    simp only [Op.exec, Choice.statement, ok]
  rw [executed]
  -- the cache is as before, and the row has got its commit
  refine ⟨fun nonzero => ?_, fresh.current⟩
  have before := fresh.progress nonzero
  rw [Option.mem_def] at stored
  rw [Sys.progressOf, stored] at before
  rw [Sys.progressOf, StageTable.row?_updateCheckinCommit, if_pos rfl, stored, before]
  simp [waiting, TransportTransactionStage.progress, TransportTransactionStage.setCheckinCommit,
    commits, now.dbDatetime_timestampMillis_ne_zero]

/-- The save of a commit. -/
theorem commit_save {now : Clock} {details : List BooRatingDetail} {dbSaved : Bool}
    (underWay : byTicket.UnderWay Agrees e.ticketId (CommitUnderWay e) trace s)
    (wf : s.cache.WellFormed)
    (allowed : InOrder req trace (.saveEtdr (.checkinCommitted e now details dbSaved)) c s) :
    lifecycleContract.must req trace (.saveEtdr (.checkinCommitted e now details dbSaved)) c s ∧
      AllAgree (trace ++ [⟨.saveEtdr (.checkinCommitted e now details dbSaved), c, s⟩])
        ((Op.saveEtdr (.checkinCommitted e now details dbSaved)).exec c s).2 := by
  have put := cachePut_saveEtdr (.checkinCommitted e now details dbSaved) c s
  have current : SnapshotCurrent s (EtdrWrite.checkinCommitted e now details dbSaved).etdr :=
    fun nonzero e₁ cached ticket =>
      (underWay.here.current nonzero e₁ cached ticket).trans keeps_checkinCommitted
  have own : Agrees e.ticketId
      ((Op.saveEtdr (.checkinCommitted e now details dbSaved)).exec c s).2 := by
    intro nonzero key e' cached ticket
    -- the record is the only one of its ticket, and now has what the row has
    rw [put.eq_of_onlyUnder wf nonzero allowed cached ticket, put.progressOf,
      underWay.here.row nonzero, progress_checkinCommitted]
  refine ⟨fun t used => ?_,
    underWay.finish agrees_of_same (fun t used => List.mem_singleton.mp used) own⟩
  rw [List.mem_singleton.mp used]
  exact put.keepsTicket wf current

theorem finishCommit_inOrder (commit : FeCommitIn) (updated : DbResult Bool)
    (underWay : byTicket.UnderWay Agrees e.ticketId (CommitUnderWay e) trace s) :
    lifecycleContract.Safe req (finishCommit commit e updated) (fun _ tr s' => AllAgree tr s')
      trace s := by
  have calm := commitOutcome_only (P := Op.Calm) (fun _ _ _ => ⟨rfl, rfl⟩) e updated
  refine Contract.safe_bind.mpr ((underWay_of_calm underWay (commitUnderWay_lasts e) calm).mono ?_)
  intro outcome tr s underWay
  refine underWay.bind agrees_of_same (commitUnderWay_lasts e).lastsWith fun c s underWay wf may => ?_
  obtain ⟨must, after⟩ := commit_save underWay wf may.1
  refine ⟨must, wellFormed_exec wf, allAgree_of_steady ?_ after⟩
  exact (only_perform_bind _ _).mpr ⟨trivial, fun _ => (only_perform _).mpr trivial⟩

theorem commitEtdr_inOrder (commit : FeCommitIn) (holds : AllAgree trace s)
    (known : lifecycleFacts.etdr trace s e) (now : Clock) :
    lifecycleContract.Safe req (commitEtdr commit e now) (fun _ tr s' => AllAgree tr s')
      trace s := by
  have refused : ∀ status tr s, AllAgree tr s → lifecycleContract.Safe req
      (perform (.answer (.commit commit status e.ticketId))) (fun _ tr s' => AllAgree tr s') tr s :=
    fun _ _ _ holds => allAgree_of_steady ((only_perform _).mpr trivial) holds
  refine steady_bind trivial holds fun c s₁ first _ _ lasts => ?_
  split
  · split
    · exact refused _ _ _ lasts.holds
    · have only := duplicateTicketInId_only (P := Op.Steady) (fun _ => trivial)
      refine Contract.safe_bind.mpr ((safe_of_steady (only _ _) lasts.holds).mono ?_)
      intro isDuplicate tr s₂ after
      split
      · exact refused _ _ _ after.holds
      · have known := after.etdr e (lasts.etdr e known)
        refine Contract.safe_perform_bind.mpr fun s₃ rely wf c may => ?_
        have before := lasts_of_rely after.holds rely
        obtain ⟨used, fresh⟩ := before.etdr e known
        refine ⟨fun t mem => ?_, wellFormed_exec wf, finishCommit_inOrder commit _ ?_⟩
        · obtain ⟨stages, accounts, commits, eq⟩ :=
            (DatabaseOp.checkinCommit e.ticketId (checkinCommitColumns commit now)).exec_eq c s₃
          exact keepsTicket_of_cache (by rw [eq]) wf t
        · exact before.holds.begin agrees_of_same used (fun u mem => List.mem_singleton.mp mem)
            (commit_update rfl fresh may.1)
  · exact refused _ _ _ lasts.holds

theorem commit_inOrder (commit : FeCommitIn) (holds : AllAgree trace s) :
    lifecycleContract.Safe req (processCommit commit) (fun _ tr s' => AllAgree tr s')
      trace s := by
  have refused : ∀ status t tr s, AllAgree tr s → lifecycleContract.Safe req
      (perform (.answer (.commit commit status t))) (fun _ tr s' => AllAgree tr s') tr s :=
    fun _ _ _ _ holds => allAgree_of_steady ((only_perform _).mpr trivial) holds
  refine steady_bind trivial holds fun c s₁ _ _ _ lasts => ?_
  split
  · refine lifecycleFacts_keptBy.read_bind (.getLatest trivial) lasts.holds ?_
    intro c s₂ before wf may after
    split
    · exact refused _ _ _ _ after.holds
    · next etdr read =>
      have known := lifecycleFacts_keptBy.latestCached _ s₂ c _ etdr trivial before.holds wf may read
      refine lifecycleFacts_keptBy.ask_bind after.holds fun c' s₃ _ _ _ asked => ?_
      -- the record that was read is saved again with a later update time
      refine Contract.safe_perform_bind.mpr fun s₄ rely wf c may => ?_
      have then_ := lasts_of_rely asked.holds rely
      obtain ⟨used, fresh⟩ := then_.etdr etdr (asked.etdr etdr known)
      have put := cachePut_saveEtdr (.touched etdr (Query.observe.reply c' s₃).now) c s₄
      obtain ⟨keeps, holds⟩ := cachePut_exec put wf
        (fun t mem => Keyed.idle_of_may then_.holds may mem) (then_.holds _ used)
        (fun nonzero e₁ cached ticket =>
          (fresh.current nonzero e₁ cached ticket).trans ⟨id, id, id, id, id, id⟩) fresh.progress
      refine ⟨fun t used => ?_, wellFormed_exec wf, refused _ _ _ _ holds⟩
      rw [List.mem_singleton.mp used]
      exact keeps
  · split
    · refine steady_bind trivial lasts.holds fun c s₂ _ _ _ after => ?_
      refine Contract.safe_bind.mpr
        ((lifecycleFacts_keptBy.resolveLatestEtdr trivial after.holds).mono ?_)
      rintro latest tr s₃ ⟨resolved, known⟩
      split
      · exact refused _ _ _ _ resolved.holds
      · next etdr =>
        split
        · exact refused _ _ _ _ resolved.holds
        · exact commitEtdr_inOrder commit resolved.holds (known etdr rfl) _
    · split
      · exact refused _ _ _ _ lasts.holds
      · exact refused _ _ _ _ lasts.holds

/-! ### Reserves -/

/-- The record has its exit and the row has not. -/
structure ReserveUnderWay (e : Etdr) (write : EtdrWrite) (s : Sys) : Prop where
  row : e.ticketId ≠ 0 → s.progressOf e.ticketId = e.progress
  cached : e.ticketId ≠ 0 → ∀ key e', s.cache.Cached key e' → e'.ticketId = e.ticketId →
    e'.progress = write.etdr.progress

theorem reserveUnderWay_lasts (e : Etdr) (write : EtdrWrite) :
    LastsFor e.ticketId (ReserveUnderWay e write) := by
  refine fun s s' same underWay => ⟨fun nonzero => same.progress.trans (underWay.row nonzero), ?_⟩
  intro nonzero key e' cached ticket
  obtain ⟨e₀, old, own, lifecycle⟩ := same.cached nonzero key e' cached ticket
  exact lifecycle.progress.trans (underWay.cached nonzero key e₀ old own)

theorem keeps_checkoutReserved {reserve : CheckoutReserveBoo} {transAmount priceTicketType : Int}
    {now : Clock} (accepted : ¬ e.ReserveRefused) (priced : transAmount = 0 → e.price = 0) :
    Keeps e (EtdrWrite.checkoutReserved e reserve transAmount priceTicketType now).etdr where
  checkinCommit := id
  checkout _ := now.ms_ne_zero
  checkoutCommit := id
  tollOut h := absurd (.inl h) accepted
  price h free := h (priced free)
  ratingDetails := id

theorem calm_accountInsert (params : InsertAccountTransactionParams) :
    (Op.accountInsert params).Calm := by
  intro c s
  obtain ⟨stages, accounts, commits, eq⟩ := (DatabaseOp.accountInsert params).exec_eq c s
  refine ⟨?_, by rw [eq]⟩
  rcases stages_of_exec (.accountInsert params) c s with same | write
  · exact same
  · cases write

/-- The save of a reserve. -/
theorem reserve_save {reserve : CheckoutReserveBoo} {transAmount priceTicketType : Int}
    {now : Clock} (accepted : ¬ e.ReserveRefused) (holds : AllAgree trace s)
    (known : lifecycleFacts.etdr trace s e) (wf : s.cache.WellFormed)
    (allowed : InOrder req trace
      (.saveEtdr (.checkoutReserved e reserve transAmount priceTicketType now)) c s) :
    lifecycleContract.must req trace
        (.saveEtdr (.checkoutReserved e reserve transAmount priceTicketType now)) c s ∧
      byTicket.UnderWay Agrees e.ticketId
        (ReserveUnderWay e (.checkoutReserved e reserve transAmount priceTicketType now))
        (trace ++ [⟨.saveEtdr (.checkoutReserved e reserve transAmount priceTicketType now), c, s⟩])
        ((Op.saveEtdr (.checkoutReserved e reserve transAmount priceTicketType now)).exec c s).2 := by
  obtain ⟨used, fresh⟩ := known
  have put := cachePut_saveEtdr (.checkoutReserved e reserve transAmount priceTicketType now) c s
  have current : SnapshotCurrent s
      (EtdrWrite.checkoutReserved e reserve transAmount priceTicketType now).etdr :=
    fun nonzero e₁ cached ticket =>
      (fresh.current nonzero e₁ cached ticket).trans (keeps_checkoutReserved accepted allowed.2)
  refine ⟨fun t mem => ?_, holds.begin agrees_of_same used (fun u mem => List.mem_singleton.mp mem)
    ⟨fun nonzero => ?_, fun nonzero key e' cached ticket => ?_⟩⟩
  · rw [List.mem_singleton.mp mem]
    exact put.keepsTicket wf current
  · exact (put.progressOf _).trans (fresh.progress nonzero).symm
  · rw [put.eq_of_onlyUnder wf nonzero allowed.1 cached ticket]

/-- The `UPDATE` of a reserve. -/
theorem reserve_update {reserve : CheckoutReserveBoo} {transAmount priceTicketType : Int}
    {now now' : Clock} {cols : CheckoutInfoColumns} (accepted : ¬ e.ReserveRefused)
    (station : cols.checkoutTollId = reserve.stationOut)
    (inRange : toI32 reserve.stationOut = reserve.stationOut)
    (exit : cols.checkoutDatetime = now'.dbDatetime)
    (underWay : ReserveUnderWay e (.checkoutReserved e reserve transAmount priceTicketType now) s)
    (allowed : InOrder req trace (.stageUpdateCheckoutInfo e.ticketId cols) c s) :
    Agrees e.ticketId ((Op.stageUpdateCheckoutInfo e.ticketId cols).exec c s).2 := by
  have ok : c.fault = none := allowed
  have executed : ((Op.stageUpdateCheckoutInfo e.ticketId cols).exec c s).2 =
      { s with stages := s.stages.updateCheckoutInfo e.ticketId cols } := by
    simp only [Op.exec, Choice.statement, ok]
  rw [executed]
  intro nonzero key e' cached ticket
  -- the cached record has its exit already; the row gets the exit and the station now
  rw [underWay.cached nonzero key e' cached ticket]
  have before := underWay.row nonzero
  -- the source refuses a reserve of a trip whose check-in is not committed
  have committed : e.checkinCommitDatetime ≠ 0 := fun zero => accepted (.inr (.inr (.inl zero)))
  cases stored : s.stages.row? e.ticketId with
  | none =>
    -- a trip whose check-in is committed has a row
    rw [Sys.progressOf, stored] at before
    have := congrArg Progress.committed before
    exact absurd this.symm (by simpa [Progress.entered, Etdr.progress] using committed)
  | some row =>
    rw [Sys.progressOf, stored] at before
    have same : row.progress = e.progress := before
    rw [Sys.progressOf, StageTable.row?_updateCheckoutInfo, if_pos rfl, stored]
    simp only [Option.map_some, Option.getD_some, TransportTransactionStage.progress,
      TransportTransactionStage.setCheckoutInfo, Etdr.progress, Progress.mk.injEq]
    refine ⟨(congrArg Progress.committed same).symm, ?_, (congrArg Progress.exitCommitted same).symm,
      ?_⟩
    · rw [exit, millisOrZero_some, decide_eq_decide]
      exact iff_of_true now.ms_ne_zero now'.dbDatetime_timestampMillis_ne_zero
    · rw [station, idOrZero_some, inRange]
      rfl

theorem reserveEtdr_inOrder (reserve : CheckoutReserveBoo)
    (inRange : toI32 reserve.stationOut = reserve.stationOut) (accepted : ¬ e.ReserveRefused)
    (transAmount : Int) (details : List RatingDetail) (holds : AllAgree trace s)
    (known : lifecycleFacts.etdr trace s e) :
    lifecycleContract.Safe req (reserveEtdr reserve e transAmount details)
      (fun _ tr s' => AllAgree tr s') trace s := by
  refine steady_bind trivial holds fun c s₁ _ _ _ first => ?_
  refine steady_bind trivial first.holds fun c s₂ _ _ _ second => ?_
  refine Contract.safe_perform_bind.mpr fun s₃ rely wf c may => ?_
  have before := lasts_of_rely second.holds rely
  have known := before.etdr e (second.etdr e (first.etdr e known))
  obtain ⟨must, underWay⟩ := reserve_save accepted before.holds known wf may.1
  refine ⟨must, wellFormed_exec wf, ?_⟩
  have lasts := reserveUnderWay_lasts e
  refine Contract.safe_bind.mpr
    ((underWay_of_calm underWay (lasts _) ((only_ask .observe).mpr fun _ _ => ⟨rfl, rfl⟩)).mono ?_)
  intro env tr s₄ underWay
  have calm : ∀ accountId now, (chargeAccount accountId transAmount e.ticketId now).Only Op.Calm := by
    intro accountId now
    unfold chargeAccount
    split
    · refine (only_perform_bind _ _).mpr ⟨calm_accountInsert _, fun r => ?_⟩
      split <;> trivial
    · trivial
  refine Contract.safe_bind.mpr ((underWay_of_calm underWay (lasts _) (calm _ _)).mono ?_)
  intro charged tr s₅ underWay
  refine underWay.bind agrees_of_same (lasts _).lastsWith fun c s₆ underWay wf may =>
    ⟨fun t mem => ?_, wellFormed_exec wf, ?_⟩
  · obtain ⟨stages, accounts, commits, eq⟩ := (DatabaseOp.checkoutInfo e.ticketId _).exec_eq c s₆
    exact keepsTicket_of_cache (by rw [eq]) wf t
  · -- the UPDATE makes the row tell what the record tells
    refine allAgree_of_steady ?_ (underWay.finish agrees_of_same (fun u mem => List.mem_singleton.mp mem)
      (reserve_update accepted rfl inRange rfl underWay.here may.1))
    refine Prog.Only.bind ?_ fun _ => (only_perform _).mpr trivial
    refine (only_ask_bind _ _).mpr ⟨trivial, fun saved => ?_⟩
    split
    · trivial
    · exact (only_perform _).mpr trivial

theorem reserve_inOrder (reserve : CheckoutReserveBoo)
    (inRange : toI32 reserve.stationOut = reserve.stationOut) (holds : AllAgree trace s) :
    lifecycleContract.Safe req (processCheckoutReserve reserve) (fun _ tr s' => AllAgree tr s')
      trace s := by
  have refused : ∀ status t tr s, AllAgree tr s → lifecycleContract.Safe req
      (perform (.answer (.reserve reserve status t))) (fun _ tr s' => AllAgree tr s') tr s :=
    fun _ _ _ _ holds => allAgree_of_steady ((only_perform _).mpr trivial) holds
  refine Contract.safe_bind.mpr ((lifecycleFacts_keptBy.resolveLatestEtdr trivial holds).mono ?_)
  rintro latest tr s₁ ⟨resolved, known⟩
  split
  · exact refused _ _ _ _ resolved.holds
  · next etdr =>
    have known := known etdr rfl
    split
    · exact refused _ _ _ _ resolved.holds
    · next accepted =>
      refine steady_bind trivial resolved.holds fun c s₂ _ _ _ first => ?_
      split
      · exact reserveEtdr_inOrder reserve inRange accepted _ _ first.holds (first.etdr _ known)
      · refine steady_bind trivial first.holds fun c s₃ _ _ _ second => ?_
        split
        · exact reserveEtdr_inOrder reserve inRange accepted _ _ second.holds
            (second.etdr _ (first.etdr _ known))
        · exact refused _ _ _ _ second.holds

/-! ### Checkout commits -/

/-- The `UPDATE` of a checkout commit. -/
theorem checkoutCommit_update {cols : CheckoutCommitColumns} (wf : s.cache.WellFormed)
    (holds : AllAgree trace s) (used : t ∈ byTicket.usedIn trace) :
    lifecycleContract.must req trace (.stageUpdateCheckoutCommit t cols) c s ∧
      byTicket.UnderWay Agrees t (fun _ => True)
        (trace ++ [⟨.stageUpdateCheckoutCommit t cols, c, s⟩])
        ((Op.stageUpdateCheckoutCommit t cols).exec c s).2 := by
  -- between the UPDATE and the removal nothing need be known of the ticket
  refine ⟨fun u _ => ?_, holds.begin agrees_of_same used (fun u mem => List.mem_singleton.mp mem)
    trivial⟩
  obtain ⟨stages, accounts, commits, eq⟩ := (DatabaseOp.checkoutCommit t cols).exec_eq c s
  exact keepsTicket_of_cache (by rw [eq]) wf u

/-- What follows it: the event, and the removal of the record. -/
theorem finishCheckoutCommit_inOrder (commit : CheckoutCommitBoo) (event : KafkaEvent)
    (nonzero : t ≠ 0) (underWay : byTicket.UnderWay Agrees t (fun _ => True) trace s) :
    lifecycleContract.Safe req (do
      perform (.sendKafka event)
      clearEtdrAfterTransactionComplete t
      perform (.answer (.checkoutCommit commit 0 t)))
      (fun _ tr s' => AllAgree tr s') trace s := by
  have lasts : LastsFor t fun _ => True := fun _ _ _ _ => trivial
  refine Contract.safe_bind.mpr ((underWay_of_calm underWay lasts
    ((only_perform _).mpr fun _ _ => ⟨rfl, rfl⟩)).mono fun _ tr s₁ underWay => ?_)
  refine underWay.bind agrees_of_same lasts.lastsWith fun c s₂ underWay wf may => ?_
  -- a ticket of which nothing is cached agrees with any row
  have removed : ∀ key e, ((Op.cacheRemoveByTicketId t).exec c s₂).2.cache.Cached key e →
      e.ticketId ≠ t :=
    fun key e cached => EtdrCache.ticketId_ne_of_removeByTicketId nonzero may.1 cached
  have idle : AllAgree (tr ++ [⟨.cacheRemoveByTicketId t, c, s₂⟩])
      ((Op.cacheRemoveByTicketId t).exec c s₂).2 :=
    underWay.finish agrees_of_same (fun u mem => List.mem_singleton.mp mem)
      fun _ key e cached ticket => absurd ticket (removed key e cached)
  refine ⟨fun u mem => ?_, wellFormed_exec wf, allAgree_of_steady ?_ idle⟩
  · rw [List.mem_singleton.mp mem]
    exact fun key _ e' _ cached' _ ticket' => absurd ticket' (removed key e' cached')
  · refine (only_perform_bind _ _).mpr ⟨trivial, fun _ => ?_⟩
    exact (only_perform_bind _ _).mpr ⟨trivial, fun _ => (only_perform _).mpr trivial⟩

theorem commitStage_inOrder (commit : CheckoutCommitBoo) (stage : TransportTransactionStage)
    (nonzero : t ≠ 0) (ticket : e.ticketId = t) (holds : AllAgree trace s)
    (known : lifecycleFacts.etdr trace s e) :
    lifecycleContract.Safe req (commitStage commit e stage t) (fun _ tr s' => AllAgree tr s')
      trace s := by
  have account : ∀ id now, (commitAccount id now).Only Op.Steady := by
    intro id now
    unfold commitAccount
    split
    · trivial
    · split
      · refine (only_ask_bind _ _).mpr ⟨trivial, fun data => ?_⟩
        split
        · split
          · exact (only_perform_bind _ _).mpr ⟨trivial, fun _ => trivial⟩
          · trivial
        · trivial
      · trivial
  refine steady_bind trivial holds fun c s₁ _ _ _ first => ?_
  refine Contract.safe_bind.mpr ((safe_of_steady (account _ _) first.holds).mono ?_)
  intro _ tr s₂ second
  refine Contract.safe_perform_bind.mpr fun s₃ rely wf c may => ?_
  have before := lasts_of_rely second.holds rely
  obtain ⟨used, -⟩ := before.etdr e (second.etdr e (first.etdr e known))
  rw [ticket] at used
  obtain ⟨must, underWay⟩ := checkoutCommit_update wf before.holds used
  exact ⟨must, wellFormed_exec wf, finishCheckoutCommit_inOrder commit _ nonzero underWay⟩

theorem checkoutCommitRecord_inOrder (commit : CheckoutCommitBoo) (holds : AllAgree trace s) :
    lifecycleContract.Safe req (checkoutCommitRecord commit t)
      (fun record tr s' => lifecycleFacts.Lasts trace s tr s' ∧
        ∀ e ∈ record, e.ticketId = t ∧ lifecycleFacts.etdr tr s' e) trace s := by
  refine steady_bind trivial holds fun c s₁ before wf may first => ?_
  split
  · next etdr found =>
    obtain ⟨⟨key, cached⟩, ticket⟩ := EtdrCache.getByTicketId_cached found
    refine Contract.safe_pure.mpr ⟨first, fun e returned => ?_⟩
    cases returned
    obtain ⟨used, mirrors⟩ :=
      mirrors_of_read before.holds wf may trivial (List.mem_singleton.mpr ticket) cached
    exact ⟨ticket, used, mirrors.fresh⟩
  · refine Contract.safe_bind.mpr
      ((lifecycleFacts_keptBy.resolveLatestEtdr trivial first.holds).mono ?_)
    rintro latest tr s₂ ⟨second, known⟩
    refine Contract.safe_pure.mpr ⟨first.trans second, fun e returned => ?_⟩
    obtain ⟨found, ticket⟩ := Option.filter_eq_some_iff.mp returned
    exact ⟨by simpa using ticket, known e found⟩

theorem checkoutCommit_inOrder (commit : CheckoutCommitBoo) (holds : AllAgree trace s) :
    lifecycleContract.Safe req (processCheckoutCommit commit) (fun _ tr s' => AllAgree tr s')
      trace s := by
  have refused : ∀ t tr s, AllAgree tr s → lifecycleContract.Safe req
      (perform (.answer (.checkoutCommit commit notFoundRouteTransaction t)))
      (fun _ tr s' => AllAgree tr s') tr s :=
    fun _ _ _ holds => allAgree_of_steady ((only_perform _).mpr trivial) holds
  have ticket : lifecycleContract.Safe req (checkoutCommitTicket commit)
      (fun _ tr s' => AllAgree tr s') trace s := by
    unfold checkoutCommitTicket
    split
    · exact Contract.safe_pure.mpr holds
    · refine Contract.safe_bind.mpr
        ((lifecycleFacts_keptBy.resolveLatestEtdr trivial holds).mono ?_)
      exact fun _ _ _ resolved => Contract.safe_pure.mpr resolved.1.holds
  refine Contract.safe_bind.mpr (ticket.mono fun t tr s₁ holds => ?_)
  split
  · exact refused _ _ _ holds
  · next nonzero =>
    refine Contract.safe_bind.mpr ((checkoutCommitRecord_inOrder commit holds).mono ?_)
    rintro record tr s₂ ⟨lasts, found⟩
    split
    · exact refused _ _ _ lasts.holds
    · next etdr =>
      obtain ⟨ticket, known⟩ := found etdr rfl
      unfold checkoutCommitEtdr
      split
      · exact refused _ _ _ lasts.holds
      · refine steady_bind trivial lasts.holds fun c s₃ _ _ _ after => ?_
        split
        · exact commitStage_inOrder commit _ nonzero ticket after.holds (after.etdr _ known)
        · exact refused _ _ _ after.holds

/-! ### Background tasks -/

/-- Merging two records of a ticket that tell the same gives one that tells it too. -/
theorem progress_mergeEtdrSameTicketId {a b : Etdr} (same : a.progress = b.progress) :
    (mergeEtdrSameTicketId a b).progress = b.progress := by
  -- the merge takes the later time, or the first that is set: either is set if both are
  have merged : ∀ {x y : Int}, decide (x ≠ 0) = decide (y ≠ 0) →
      decide (max x y ≠ 0) = decide (y ≠ 0) ∧ decide (max y x ≠ 0) = decide (y ≠ 0) ∧
        decide ((if y = 0 then x else y) ≠ 0) = decide (y ≠ 0) ∧
        decide ((if x = 0 then y else x) ≠ 0) = decide (y ≠ 0) := by
    intro x y same
    rw [decide_eq_decide] at same
    simp only [decide_eq_decide]
    refine ⟨?_, ?_, ?_, ?_⟩ <;> grind
  have committed := merged (congrArg Progress.committed same)
  have exited := merged (congrArg Progress.exited same)
  have exitCommitted := merged (congrArg Progress.exitCommitted same)
  have exitStation := merged (congrArg Progress.exitStation same)
  unfold mergeEtdrSameTicketId
  by_cases older : b.checkinDatetime ≤ a.checkinDatetime
  · simp only [older, if_true]
    rw [Etdr.progress, Etdr.progress, Progress.mk.injEq]
    exact ⟨committed.1, exited.2.2.1, exitCommitted.2.2.1, exitStation.2.2.1⟩
  · simp only [older, if_false]
    rw [Etdr.progress, Etdr.progress, Progress.mk.injEq]
    exact ⟨committed.2.1, exited.2.2.2, exitCommitted.2.2.2, exitStation.2.2.2⟩

/-- The record is merged from copies of its ticket that the cycle has read. -/
def MergedFrom (trace : Past) (e : Etdr) : Prop :=
  ∀ P : Etdr → Prop,
    (∀ a b, P a → P b → a.ticketId = b.ticketId → P (mergeEtdrSameTicketId a b)) →
      (∀ copy ∈ trace.flatMap copiesOf, P copy) → P e

theorem MergedFrom.append (merged : MergedFrom trace e) (ev : Event Op Choice Sys) :
    MergedFrom (trace ++ [ev]) e := by
  intro P closed all
  refine merged P closed fun copy mem => all copy ?_
  rw [List.flatMap_append]
  exact List.mem_append_left _ mem

/-- When the task locks a ticket, what it has read of it tells what the row tells. -/
theorem MergedFrom.progress (merged : MergedFrom trace e)
    (copies : ∀ copy ∈ trace.flatMap copiesOf, copy.ticketId = e.ticketId →
      copy.progress = s.progressOf e.ticketId) : e.progress = s.progressOf e.ticketId := by
  -- it is a property that merging keeps, so it passes from the copies to the record
  refine merged (fun copy => copy.ticketId = e.ticketId →
    copy.progress = s.progressOf e.ticketId) ?_ copies rfl
  intro a b tellsA tellsB same ticket
  rw [mergeEtdrSameTicketId_ticketId same] at ticket
  have tells := tellsB ticket
  rw [progress_mergeEtdrSameTicketId ((tellsA (same.trans ticket)).trans tells.symm), tells]

theorem copiesOf_keydbGetMany {keys : List KeydbKey} {values : List (Option Etdr)}
    (read : (Query.keydbGetMany keys).reply c s = .ok values) :
    copiesOf ⟨.ask (.keydbGetMany keys), c, s⟩ = values.reduceOption := by
  show (((Query.keydbGetMany keys).reply c s).toOption.getD []).reduceOption = _
  rw [read]
  rfl

theorem etdrsFromKeydb_inOrder (holds : AllAgree trace s) :
    lifecycleContract.Safe req etdrsFromKeydbForDbSync
      (fun found tr s' => AllAgree tr s' ∧ ∀ kv ∈ found, kv.2 ∈ tr.flatMap copiesOf) trace s := by
  have nothing : ∀ tr s', AllAgree tr s' → lifecycleContract.Safe req
      (pure [] : Program (List (KeydbKey × Etdr)))
      (fun found tr s' => AllAgree tr s' ∧ ∀ kv ∈ found, kv.2 ∈ tr.flatMap copiesOf) tr s' :=
    fun _ _ holds => Contract.safe_pure.mpr ⟨holds, fun kv mem => absurd mem List.not_mem_nil⟩
  refine steady_bind trivial holds fun c s₁ _ _ _ first => ?_
  split
  · exact nothing _ _ first.holds
  · refine steady_bind trivial first.holds fun c s₂ _ _ _ second => ?_
    dsimp only
    split
    · exact nothing _ _ second.holds
    · refine steady_bind trivial second.holds fun c s₃ _ _ _ third => ?_
      split
      · exact nothing _ _ third.holds
      · next values read =>
        refine Contract.safe_pure.mpr ⟨third.holds, fun kv mem => ?_⟩
        rw [List.flatMap_append]
        refine List.mem_append_right _ ?_
        rw [List.flatMap_singleton, copiesOf_keydbGetMany read]
        exact List.reduceOption_mem_iff.mpr (mem_of_unsaved mem)

/-- The task saves the record again, if it was brought to the main table. -/
theorem retryRecord_inOrder (key : KeydbKey) (holds : AllAgree trace s)
    (known : lifecycleFacts.etdr trace s e) :
    lifecycleContract.Safe req (retryRecord key e) (fun _ tr s' => AllAgree tr s') trace s := by
  have attempt : (retrySaveEtdrToDb e).Only Op.Steady :=
    (retrySaveEtdrToDb_only e).mono fun o op => by cases op <;> trivial
  refine Contract.safe_bind.mpr ((safe_of_steady attempt holds).mono ?_)
  intro saved tr s₁ first
  split
  · refine steady_bind trivial first.holds fun c s₂ _ _ _ second => ?_
    split
    · refine allAgree_of_steady ?_ second.holds
      exact (only_perform_bind _ _).mpr ⟨trivial, fun _ => (only_perform _).mpr trivial⟩
    · refine steady_bind trivial second.holds fun c s₃ _ _ _ third => ?_
      -- the copy in memory is marked as saved; its times are those that were merged
      intro s₄ rely wf c may
      have before := lasts_of_rely third.holds rely
      obtain ⟨used, fresh⟩ :=
        before.etdr e (third.etdr e (second.etdr e (first.etdr e known)))
      have fresh : Fresh s₄ { e with dbSaved := true } :=
        ⟨fresh.progress, fun nonzero e₁ cached ticket =>
          (fresh.current nonzero e₁ cached ticket).trans ⟨id, id, id, id, id, id⟩⟩
      obtain ⟨keeps, after⟩ := cachePut_exec
        (cachePut_saveEtdrToMemoryOnly { e with dbSaved := true } c s₄) wf
        (fun t mem => Keyed.idle_of_may before.holds may mem) (before.holds _ used) fresh.current
        fresh.progress
      refine ⟨fun t mem => ?_, wellFormed_exec wf, after⟩
      rw [List.mem_singleton.mp mem]
      exact keeps
  · unfold retryFailed
    dsimp only
    split
    · refine allAgree_of_steady ?_ first.holds
      exact (only_perform_bind _ _).mpr ⟨trivial, fun _ => (only_perform _).mpr trivial⟩
    · exact allAgree_of_steady ((only_perform _).mpr trivial) first.holds

theorem retryFirstUnlocked_inOrder {toSave : List (KeydbKey × Etdr)} (holds : AllAgree trace s)
    (merged : ∀ kv ∈ toSave, MergedFrom trace kv.2) :
    lifecycleContract.Safe req (retryFirstUnlocked toSave) (fun _ tr s' => AllAgree tr s')
      trace s := by
  induction toSave generalizing trace s with
  | nil => exact Contract.safe_pure.mpr holds
  | cons kv rest ih =>
    refine steady_bind trivial holds fun c s₁ _ _ may lasts => ?_
    split
    · next acquired =>
      -- the lock was free, so the ticket is in use by this task from here on
      have free : c.locked = false := by simpa [Op.exec, Query.reply] using acquired
      have used : kv.2.ticketId ∈
          byTicket.usedIn (trace ++ [⟨.ask (.retryLock kv.2.ticketId), c, s₁⟩]) := by
        refine Keyed.mem_usedIn_append_singleton.mpr (.inr ?_)
        show kv.2.ticketId ∈ if c.locked then [] else [kv.2.ticketId]
        rw [free]
        exact List.mem_cons_self
      have tells := (merged kv List.mem_cons_self).progress may.1.2
      exact retryRecord_inOrder _ lasts.holds ⟨used, fun _ => tells,
        current_of_unpriced (lasts.holds _ used) may.1.1 fun _ => tells⟩
    · exact ih lasts.holds fun kv' mem => (merged kv' (List.mem_cons_of_mem kv mem)).append _

theorem retryCycle_inOrder (holds : AllAgree trace s) :
    lifecycleContract.Safe req etdrDbRetryCycle (fun _ tr s' => AllAgree tr s') trace s := by
  refine Contract.safe_bind.mpr ((etdrsFromKeydb_inOrder holds).mono ?_)
  rintro fromKeydb tr s₁ ⟨holds, copies⟩
  refine steady_bind trivial holds fun c s₂ _ _ _ first => ?_
  refine steady_bind trivial first.holds fun c' s₃ _ _ _ second => ?_
  refine retryFirstUnlocked_inOrder second.holds fun kv mem => MergedFrom.append ?_ _
  -- what is to be saved is merged from the copies in KeyDB and in memory
  refine fun P closed all => dedupeByTicketId_forall closed _ (fun kv mem => all _ ?_) kv mem
  rw [List.flatMap_append]
  rcases List.mem_append.mp mem with old | new
  · exact List.mem_append_left _ (copies kv old)
  · obtain ⟨etdr, read, rfl⟩ := List.mem_map.mp new
    refine List.mem_append_right _ ?_
    rw [List.flatMap_singleton]
    exact read

/-! ### Runs -/

/-- Requests whose exit station is a 32-bit number, as in their message. -/
def Req.StationInRange : Req → Prop
  | .reserve req => toI32 req.stationOut = req.stationOut
  | _ => True

instance : DecidablePred Req.StationInRange := fun req => by
  induction req using Req.casesOn <;> (unfold Req.StationInRange; infer_instance)

/-- The runs of requests that take turns with each ticket, and whose operations are in
order. -/
def LifecycleTurns : BackendPool → BackendLabel → Prop :=
  byTicket.Turns Req.StationInRange InOrder

instance (pool : BackendPool) (l : BackendLabel) : Decidable (LifecycleTurns pool l) := by
  unfold LifecycleTurns; infer_instance

theorem lifecycle_sound : byTicket.Sound (fun s => s.cache.WellFormed) Agrees Req.StationInRange
    InOrder (fun _ _ o c s => ∀ t ∈ o.tickets c s, KeepsTicket t s (o.exec c s).2) where
  kept _ _ _ agrees same := same.undisturbed.agrees agrees
  start req s admitted _ := by
    have holds : AllAgree [] s := fun t used => absurd used List.not_mem_nil
    cases req with
    | checkin call => exact checkin_inOrder call holds
    | commit commit => exact commit_inOrder commit holds
    | reserve reserve => exact reserve_inOrder reserve admitted holds
    | checkoutCommit commit => exact checkoutCommit_inOrder commit holds
    | rollback rollback => exact allAgree_of_steady ((only_perform _).mpr trivial) holds
    | lookup etag =>
      refine Contract.safe_bind.mpr ((lifecycleFacts_keptBy.lookup trivial holds).mono ?_)
      exact fun _ _ _ found => Contract.safe_pure.mpr found.1.holds
    | retryCycle => exact retryCycle_inOrder holds
    | syncKeydb =>
      exact allAgree_of_steady (syncEtdrToKeydb_only.mono fun o op => by cases op <;> trivial) holds
    | hubUpdate ticketId hubId =>
      refine allAgree_of_steady ?_ holds
      exact (only_perform_bind _ _).mpr ⟨trivial, fun _ => (only_perform _).mpr trivial⟩

/-- In such a run no step loses progress of a cached ticket. -/
theorem keepsLifecycle_of_reaches {s : Sys} (wf : s.cache.WellFormed) (agree : ∀ t, Agrees t s)
    {pool pool' : BackendPool} {l : BackendLabel}
    (reaches : backend.Reaches LifecycleTurns (Pool.init s) pool) (meets : LifecycleTurns pool l)
    (next : backend.step pool l = some pool') : KeepsLifecycle pool.state pool'.state := by
  have wf' := (lifecycle_sound.holds_of_reaches wf agree reaches).invariant
  refine keepsLifecycle_of_forall fun t => ?_
  obtain ⟨req, rfl, rfl⟩ | ⟨i, c, req, trace, o, k, rfl, found, rfl⟩ := System.step_cases next
  · exact keepsTicket_of_cache rfl wf' t
  · -- a ticket that the operation uses is seen to by its request; the others are left alone
    by_cases used : t ∈ o.tickets c pool.state
    · exact lifecycle_sound.must_of_reaches wf agree reaches meets found t used
    · exact (sameTicket_of_exec used).undisturbed.keepsTicket wf'

/-! ### A commit, a hub update and a reserve -/

/-- The check-in of a trip is committed, a hub update comes in meanwhile, and a reserve then
saves the record with its exit and its price. -/
theorem keepsLifecycle_beforeCommit :
    ∃ pool pool' : BackendPool, backend.Reaches LifecycleTurns (Pool.init beforeCommit) pool ∧
      backend.step pool (.act 2 charging) = some pool' ∧
      .commit { etag := "BECT01" } 0 1 ∈ pool.state.answers ∧
      KeepsLifecycle pool.state pool'.state := by
  obtain ⟨pool, reaches, test⟩ := backend.exists_reaches LifecycleTurns (Pool.init beforeCommit)
    (.start (.commit { etag := "BECT01" }) :: .start (.hubUpdate 1 7) ::
      List.replicate 11 (.act 0 entryLane) ++ List.replicate 2 (.act 1 entryLane) ++
      List.replicate 3 (.act 0 entryLane) ++
      .start (.reserve { etag := "BECT01", stationOut := 3 }) ::
      List.replicate 8 (.act 2 charging))
    (fun pool => decide (LifecycleTurns pool (.act 2 charging)) &&
      (backend.step pool (.act 2 charging)).isSome &&
      decide (.commit { etag := "BECT01" } 0 1 ∈ pool.state.answers))
    (by decide +kernel)
  simp only [Bool.and_eq_true, decide_eq_true_eq, Option.isSome_iff_exists] at test
  obtain ⟨⟨meets, pool', next⟩, answered⟩ := test
  have agree : ∀ t, Agrees t beforeCommit := by
    rintro t - key e ⟨recs, inData, -⟩
    exact absurd inData List.not_mem_nil
  exact ⟨pool, pool', reaches, next, answered,
    keepsLifecycle_of_reaches (.empty _ _) agree reaches meets next⟩

/-! ### A lookup after a reserve -/

/-- Some cached ticket has lost its price. -/
def priceLost (s s' : Sys) : Bool :=
  s.cache.data.any fun kv => kv.2.any fun entry => s'.cache.data.any fun kv' =>
    kv'.1 == kv.1 && kv'.2.any fun entry' =>
      entry'.etdr.ticketId == entry.etdr.ticketId && entry.etdr.ticketId != 0 &&
        entry.etdr.price != 0 && entry'.etdr.price == 0

theorem not_keepsLifecycle_of_priceLost {s s' : Sys} (lost : priceLost s s' = true) :
    ¬ KeepsLifecycle s s' := by
  simp only [priceLost, List.any_eq_true, Bool.and_eq_true, beq_iff_eq, bne_iff_ne] at lost
  obtain ⟨kv, inData, entry, mem, kv', inData', key, entry', mem', ⟨⟨same, nonzero⟩, price⟩, price'⟩ :=
    lost
  intro keeps
  refine (keeps kv.1 entry.etdr entry'.etdr ⟨kv.2, inData, entry, mem, rfl⟩
    ⟨kv'.2, key ▸ inData', entry', mem', rfl⟩ same nonzero).price price price'

/-- A reserve puts the price into the cached record; a lookup of the same tag then writes the
record of the row over it, which has none. -/
theorem lookup_loses_price :
    ¬ ∀ (s : Sys) (pool pool' : BackendPool) (l : BackendLabel), s.cache.WellFormed →
      backend.Reaches anyStep (Pool.init s) pool → backend.step pool l = some pool' →
      KeepsLifecycle pool.state pool'.state := by
  intro claim
  obtain ⟨pool, reaches, lost⟩ := backend.exists_reaches anyStep (Pool.init beforeExit)
    (.start (.reserve { etag := "BECT01", stationOut := 3 }) ::
      List.replicate 14 (.act 0 charging) ++ .start (.lookup "BECT01") ::
      List.replicate 3 (.act 1 charging))
    (fun pool => (backend.step pool (.act 1 charging)).any fun pool' =>
      priceLost pool.state pool'.state) (by decide +kernel)
  obtain ⟨pool', next, lost⟩ := (Option.any_eq_true _ _).mp lost
  exact not_keepsLifecycle_of_priceLost lost
    (claim beforeExit pool pool' _ (.empty _ _) reaches next)

end TollBackend

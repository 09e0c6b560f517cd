import TollBackend.TakingTurns.Marks

/-!
# Reserves that take turns

A reserve refuses a trip whose record already has an exit, but it reads the record long
before it charges the account and writes the exit down. Two reserves that overlap both charge
the trip, and so do two reserves one after the other when the first one's `UPDATE` failed and
a lookup has restored the record from the row. When reserves take turns with each ticket and
their `UPDATE`s succeed, a trip is charged once, and a reserve of a charged trip is refused.

## Main definitions

* `ChargedOnce`: no ticket has two account transactions.
* `ReserveTurn`: an operation under which an exit that was charged is kept.
* `ReserveTurns`: the runs of reserves and lookups that take turns with each ticket.

## Main results

* `chargedOnce_of_reaches`: such reserves and lookups charge each ticket once.
* `overlapping_reserves_charge_twice`: two reserves that overlap charge a ticket twice.
-/

namespace TollBackend

open Concurrent

/-- No ticket has two account transactions. -/
def ChargedOnce (s : Sys) : Prop :=
  ∀ ticketId, (s.accountsOf ticketId).length ≤ 1

/-- The `UPDATE` after a charge succeeds on a row; the trip that is charged has a ticket, which
is cached under its own tag only; and a sync record does not clear an exit. -/
def ReserveTurn (_ : Req) (_ : Past) (o : Op) (c : Choice) (s : Sys) : Prop :=
  match o with
  -- the handler drops the result of this UPDATE, so it has to be assumed
  | .stageUpdateCheckoutInfo id cols =>
      cols.accountTransId.isSome → c.fault = none ∧ (s.stages.row? id).isSome
  | .saveEtdr (.checkoutReserved etdr _ _ _ _) =>
      etdr.ticketId ≠ 0 ∧ s.cache.OnlyUnder (normalizeEtag etdr.etagId) etdr.ticketId
  | .cacheFillFromSync _ _ sync => exitMark.Set sync
  | _ => True

instance (req : Req) (trace : Past) (o : Op) (c : Choice) (s : Sys) :
    Decidable (ReserveTurn req trace o c s) := by
  induction o using Op.casesOn with
  | saveEtdr write => induction write using EtdrWrite.casesOn <;> (unfold ReserveTurn; infer_instance)
  | _ => unfold ReserveTurn; infer_instance

/-- Reserves and lookups. -/
def Req.ReserveOrLookup : Req → Prop
  | .reserve _ => True
  | .lookup _ => True
  | _ => False

instance : DecidablePred Req.ReserveOrLookup := fun req => by
  induction req using Req.casesOn <;> (unfold Req.ReserveOrLookup; infer_instance)

/-- The runs of reserves and lookups that take turns with each ticket. -/
def ReserveTurns : BackendPool → BackendLabel → Prop :=
  byTicket.Turns Req.ReserveOrLookup ReserveTurn

instance (pool : BackendPool) (l : BackendLabel) : Decidable (ReserveTurns pool l) := by
  unfold ReserveTurns; infer_instance

/-- A reserve records the exit of tickets only that are not charged. -/
def ReservesUncharged (_ : Req) (_ : Past) (o : Op) (_ : Choice) (s : Sys) : Prop :=
  ∀ t ∈ o.reserved?, s.accountsOf t = []

/-- The contract of a reserve or lookup that takes its turn with each ticket. -/
abbrev reserveTurnContract : Contract backend :=
  exitMark.contract ChargedOnce ReserveTurn ReservesUncharged

variable {s s' : Sys} {t : Int} {c : Choice} {o : Op} {req : Req} {trace : Past} {e : Etdr}
variable {α : Type}

/-! ### One operation -/

theorem ChargedOnce.congr (once : ChargedOnce s) (accounts : s'.accounts = s.accounts) :
    ChargedOnce s' := fun t => by
  rw [Sys.accountsOf, accounts]
  exact once t

theorem leavesLookups_reserve :
    exitMark.LeavesLookups ChargedOnce ReserveTurn ReservesUncharged where
  ledger _ _ same once := once.congr same.accounts
  must req trace o c s op t reserved := by
    cases op <;> cases reserved
  filled _ _ _ _ _ _ _ allowed := allowed

/-- Operations that use no ticket and leave the cache and the accounts alone. -/
theorem aside_reserve (silent : o.reserved? = none) (unused : ∀ c s, o.tickets c s = [])
    (same : ∀ c s, (o.exec c s).2.cache = s.cache ∧ (o.exec c s).2.accounts = s.accounts) :
    byTicket.Aside (fun s => s.cache.WellFormed ∧ ChargedOnce s) ReservesUncharged o := by
  refine fun req trace c s => ⟨unused c s, fun t reserved => ?_, fun ⟨wf, once⟩ => ?_⟩
  · rw [silent] at reserved
    cases reserved
  · exact ⟨wellFormed_exec wf, once.congr (same c s).2⟩

/-! ### A charge -/

/-- The exit of the ticket is in the cache, and the ticket has no account transaction before it
is charged. -/
structure ChargeUnderWay (t : Int) (charged : Option Int) (s : Sys) : Prop where
  exit : ∀ key e, s.cache.Cached key e → e.ticketId = t → exitMark.time e ≠ 0
  accounts : charged = none → s.accountsOf t = []

theorem chargeUnderWay_lasts (t : Int) (charged : Option Int) :
    byTicket.LastsWith t (ChargeUnderWay t charged) := by
  intro s s' same underWay
  refine ⟨fun key e' cached ticket => ?_, fun uncharged => ?_⟩
  · obtain ⟨e, old, eq⟩ := same.cached key e' cached ticket
    rw [← exitMark.time_withoutHub, ← eq, exitMark.time_withoutHub]
    exact underWay.exit key e old ((congrArg Etdr.ticketId eq).trans ticket)
  · rw [same.accounts]
    exact underWay.accounts uncharged

/-- Saving a record with its exit puts the exit into the cache. -/
theorem chargeUnderWay_save (write : EtdrWrite) (holds : AllSettled exitMark trace s)
    (wf : s.cache.WellFormed) (used : write.etdr.ticketId ∈ byTicket.usedIn trace)
    (uncharged : s.accountsOf write.etdr.ticketId = []) (nonzero : write.etdr.ticketId ≠ 0)
    (only : s.cache.OnlyUnder (normalizeEtag write.etdr.etagId) write.etdr.ticketId)
    (exit : exitMark.time write.etdr ≠ 0) :
    byTicket.UnderWay exitMark.Settled write.etdr.ticketId
      (ChargeUnderWay write.etdr.ticketId none) (trace ++ [⟨.saveEtdr write, c, s⟩])
      ((Op.saveEtdr write).exec c s).2 := by
  refine holds.begin settled_of_same used (fun u mem => List.mem_singleton.mp mem)
    ⟨fun key e' cached ticket => ?_, fun _ => uncharged⟩
  rw [(cachePut_saveEtdr write c s).eq_of_onlyUnder wf nonzero only cached ticket]
  exact exit

/-- A first account transaction of a ticket. -/
theorem ChargedOnce.insert {account : AccountTransaction} (once : ChargedOnce s)
    (uncharged : s.accountsOf account.transportTransId = []) :
    ChargedOnce { s with accounts := s.accounts ++ [account] } := by
  intro u
  have split : Sys.accountsOf { s with accounts := s.accounts ++ [account] } u =
      s.accountsOf u ++ [account].filter fun account => account.transportTransId == u := by
    rw [Sys.accountsOf, List.filter_append]
    rfl
  rw [split, List.length_append]
  by_cases here : account.transportTransId = u
  · rw [← here, uncharged]
    simp
  · simpa [here] using once u

/-- The `INSERT` of the account transaction. -/
theorem charge_turn (params : InsertAccountTransactionParams)
    (ticket : params.transportTransId = t)
    (underWay : byTicket.UnderWay exitMark.Settled t (ChargeUnderWay t none) trace s)
    (once : ChargedOnce s) :
    ChargedOnce ((Op.accountInsert params).exec c s).2 ∧
      byTicket.UnderWay exitMark.Settled t
        (ChargeUnderWay t ((Op.accountInsert params).exec c s).1.toOption)
        (trace ++ [⟨.accountInsert params, c, s⟩]) ((Op.accountInsert params).exec c s).2 := by
  obtain ⟨exit, uncharged⟩ := underWay.here
  have only : ∀ u ∈ (Op.accountInsert params).tickets c s, u = t :=
    fun u mem => (List.mem_singleton.mp mem).trans ticket
  -- what follows depends on whether the INSERT gives an id, so both outcomes are told by it
  suffices ChargedOnce ((Op.accountInsert params).exec c s).2 ∧
      ChargeUnderWay t ((Op.accountInsert params).exec c s).1.toOption
        ((Op.accountInsert params).exec c s).2 from
    ⟨this.1, underWay.next settled_of_same only this.2⟩
  rcases c.statement_cases c.freshId s { s with accounts := s.accounts ++ [params.row c.freshId] }
    with ok | ⟨message, failed⟩
  · rw [Op.exec, ok]
    refine ⟨once.insert ?_, exit, fun none => by cases none⟩
    rw [InsertAccountTransactionParams.row, ticket]
    exact uncharged rfl
  · rw [Op.exec, failed]
    exact ⟨once, exit, uncharged⟩

theorem chargeAccount_turn (accountId transAmount : Int) (now : Clock)
    (underWay : byTicket.UnderWay exitMark.Settled t (ChargeUnderWay t none) trace s) :
    reserveTurnContract.Safe req (chargeAccount accountId transAmount t now)
      (fun charged tr s' =>
        byTicket.UnderWay exitMark.Settled t (ChargeUnderWay t charged) tr s') trace s := by
  unfold chargeAccount
  split
  · refine underWay.bind settled_of_same (chargeUnderWay_lasts t none) fun c s₁ underWay inv _ => ?_
    obtain ⟨once, after⟩ := charge_turn (c := c)
      ⟨accountId, transAmount, now.dbDatetime, t⟩ rfl underWay inv.2
    refine ⟨fun u reserved => (by cases reserved), ⟨wellFormed_exec inv.1, once⟩, ?_⟩
    rw [backend_exec]
    split
    · next read =>
      rw [read] at after
      exact Contract.safe_pure.mpr after
    · next read =>
      rw [read] at after
      exact Contract.safe_pure.mpr after
  · exact Contract.safe_pure.mpr underWay

/-- The `UPDATE` of a reserve settles its ticket: if it was charged, it has its exit. -/
theorem chargeUnderWay_update {charged : Option Int} {cols : CheckoutInfoColumns} {now : Clock}
    (underWay : byTicket.UnderWay exitMark.Settled t (ChargeUnderWay t charged) trace s)
    (charges : cols.accountTransId = charged) (exit : cols.checkoutDatetime = now.dbDatetime)
    (allowed : ReserveTurn req trace (.stageUpdateCheckoutInfo t cols) c s) :
    SameLedger s ((Op.stageUpdateCheckoutInfo t cols).exec c s).2 ∧
      AllSettled exitMark (trace ++ [⟨.stageUpdateCheckoutInfo t cols, c, s⟩])
        ((Op.stageUpdateCheckoutInfo t cols).exec c s).2 := by
  have same : SameLedger s ((Op.stageUpdateCheckoutInfo t cols).exec c s).2 := by
    rcases statement_snd c true s { s with stages := s.stages.updateCheckoutInfo t cols } with ok | error
    · rw [Op.exec, ok]
      exact ⟨rfl, rfl, rfl, rfl⟩
    · rw [Op.exec, error]
      exact .refl s
  refine ⟨same, underWay.finish settled_of_same (fun u mem => List.mem_singleton.mp mem) ?_⟩
  intro done
  have charged : charged.isSome := by
    cases charged with
    | some id => rfl
    -- without a charge the ticket has no account transaction, so there is nothing to settle
    | none => exact absurd (underWay.here.accounts rfl) (exitMark.done_of_ledger t _ _ same done)
  obtain ⟨ok, stored⟩ := allowed (by rw [charges]; exact charged)
  obtain ⟨old, found⟩ := Option.isSome_iff_exists.mp stored
  -- a charged ticket gets its exit in the row; in the cache it has had it since the save
  refine ⟨⟨old.setCheckoutInfo cols, ?_, ?_⟩, fun key e cached => ?_⟩
  · simp only [backend_exec, Op.exec, Choice.statement, ok, StageTable.row?_updateCheckoutInfo,
      if_pos, found, Option.map_some]
  · simp only [exitMark, TransportTransactionStage.setCheckoutInfo, millisOrZero_some, exit]
    exact now.dbDatetime_timestampMillis_ne_zero
  · rcases cached_of_exec cached with old | write
    · exact underWay.here.exit key e old
    · cases write

/-! ### The programs -/

/-- The fee lines and the answer. -/
theorem reserveAnswer_turn (holds : AllSettled exitMark trace s) (reserve : CheckoutReserveBoo)
    (status : Int) (list : List TransportTransStageTcd) :
    reserveTurnContract.Safe req (do
      saveTcdOrPending t list
      perform (.answer (.reserve reserve status t)))
      (fun _ tr s' => AllSettled exitMark tr s') trace s := by
  refine holds.of_only settled_of_same (Prog.Only.bind ?_ fun _ => ?_)
  · refine (only_ask_bind _ _).mpr ⟨aside_reserve rfl (fun _ _ => rfl) fun _ _ => ⟨rfl, rfl⟩, ?_⟩
    intro saved
    split
    · trivial
    · refine (only_perform _).mpr (aside_reserve rfl (fun _ _ => rfl) fun c s => ?_)
      obtain ⟨cache, ledger⟩ := (KeyCommand.setPending t list).same c s
      exact ⟨cache, ledger.accounts⟩
  · exact (only_perform _).mpr (aside_reserve rfl (fun _ _ => rfl) fun _ _ => ⟨rfl, rfl⟩)

theorem reserveEtdr_turn (reserve : CheckoutReserveBoo) (accepted : e.checkoutDatetime = 0)
    (transAmount : Int) (details : List RatingDetail) (holds : AllSettled exitMark trace s)
    (known : exitMark.facts.etdr trace s e) :
    reserveTurnContract.Safe req (reserveEtdr reserve e transAmount details)
      (fun _ tr s' => AllSettled exitMark tr s') trace s := by
  have kept := leavesLookups_reserve.keptBy req
  refine kept.ask_bind holds fun c s₁ _ _ _ first => ?_
  refine kept.ask_bind first.holds fun c' s₂ _ _ _ second => ?_
  refine Contract.safe_perform_bind.mpr fun s₃ rely inv c₃ may => ?_
  have lasts := kept.others _ _ _ second.holds rely inv
  obtain ⟨used, time⟩ := lasts.etdr e (second.etdr e (first.etdr e known))
  -- the handler has accepted a record without an exit, and a charged ticket has one
  have uncharged : s₃.accountsOf e.ticketId = [] := by
    by_contra charged
    exact time charged accepted
  refine ⟨fun u reserved => ?_, ⟨wellFormed_exec inv.1, inv.2.congr rfl⟩, ?_⟩
  · cases reserved
    exact uncharged
  -- from the save to the UPDATE the ticket is under way
  have underWay := chargeUnderWay_save (c := c₃) (.checkoutReserved e reserve transAmount
      (priceTicketTypeFor details e.priceTicketType) (Query.observe.reply c' s₂).now)
    lasts.holds inv.1 used uncharged may.1.1 may.1.2 (Clock.ms_ne_zero _)
  refine Contract.safe_bind.mpr ((underWay.of_only settled_of_same
    (chargeUnderWay_lasts _ none) (p := ask .observe) ((only_perform _).mpr
      (aside_reserve rfl (fun _ _ => rfl) fun _ _ => ⟨rfl, rfl⟩))).mono fun env tr s₄ underWay => ?_)
  refine Contract.safe_bind.mpr ((chargeAccount_turn _ _ _ underWay).mono ?_)
  intro charged tr s₅ underWay
  refine underWay.bind settled_of_same (chargeUnderWay_lasts _ charged) fun c s₆ underWay inv may => ?_
  obtain ⟨same, settled⟩ := chargeUnderWay_update underWay rfl rfl may.1
  exact ⟨fun u reserved => (by cases reserved),
    ⟨wellFormed_exec inv.1, inv.2.congr same.accounts⟩, reserveAnswer_turn settled reserve _ _⟩

theorem processCheckoutReserve_turn (reserve : CheckoutReserveBoo)
    (holds : AllSettled exitMark trace s) :
    reserveTurnContract.Safe req (processCheckoutReserve reserve)
      (fun _ tr s' => AllSettled exitMark tr s') trace s := by
  have kept := leavesLookups_reserve.keptBy req
  have refused : ∀ status t tr s', AllSettled exitMark tr s' →
      reserveTurnContract.Safe req (perform (.answer (.reserve reserve status t)))
        (fun _ tr s' => AllSettled exitMark tr s') tr s' := fun status t tr s' holds =>
    holds.of_only settled_of_same
      ((only_perform _).mpr (aside_reserve rfl (fun _ _ => rfl) fun _ _ => ⟨rfl, rfl⟩))
  refine Contract.safe_bind.mpr ((kept.resolveLatestEtdr trivial holds).mono ?_)
  rintro latest tr s₁ ⟨lasts, known⟩
  split
  · exact refused _ _ _ _ lasts.holds
  · next etdr =>
    have known := known etdr rfl
    split
    · exact refused _ _ _ _ lasts.holds
    · next accepted =>
      -- the check in the source refuses a record with an exit
      have unexited : etdr.checkoutDatetime = 0 := by
        by_contra exit
        exact accepted (.inr (.inl exit))
      refine kept.ask_bind lasts.holds fun c s₂ _ _ _ first => ?_
      split
      · exact reserveEtdr_turn reserve unexited _ _ first.holds (first.etdr _ known)
      · refine kept.ask_bind first.holds fun c s₃ _ _ _ second => ?_
        split
        · exact reserveEtdr_turn reserve unexited _ _ second.holds
            (second.etdr _ (first.etdr _ known))
        · exact refused _ _ _ _ second.holds

theorem reserveTurns_sound : byTicket.Sound (fun s => s.cache.WellFormed ∧ ChargedOnce s)
    exitMark.Settled Req.ReserveOrLookup ReserveTurn ReservesUncharged where
  kept := settled_of_same
  start req s admitted _ := by
    -- a request begins without having used a ticket
    have holds : AllSettled exitMark [] s := fun t used => absurd used List.not_mem_nil
    cases req with
    | reserve reserve => exact processCheckoutReserve_turn reserve holds
    | lookup etag =>
      refine Contract.safe_bind.mpr
        (((leavesLookups_reserve.keptBy _).lookup trivial holds).mono ?_)
      exact fun _ _ _ found => Contract.safe_pure.mpr found.1.holds
    | _ => cases admitted

/-! ### Runs -/

/-- Reserves and lookups that take turns with each ticket charge it at most once, and a reserve
of a charged ticket is refused: it does not record the exit again. -/
theorem chargedOnce_of_reaches {s : Sys} (wf : s.cache.WellFormed) (uncharged : s.accounts = [])
    {pool : BackendPool} (reaches : backend.Reaches ReserveTurns (Pool.init s) pool) :
    ChargedOnce pool.state ∧ ∀ l, ReserveTurns pool l → System.EachAct ReservesUncharged pool l := by
  have none : ∀ t, s.accountsOf t = [] := fun t => by rw [Sys.accountsOf, uncharged]; rfl
  have once : ChargedOnce s := fun t => by rw [none]; exact Nat.zero_le 1
  have settled : ∀ t, exitMark.Settled t s := fun t charged => absurd (none t) charged
  refine ⟨(reserveTurns_sound.holds_of_reaches ⟨wf, once⟩ settled reaches).invariant.2, ?_⟩
  intro l meets
  cases l with
  | start req => trivial
  | act i c =>
    intro req trace o next found
    exact reserveTurns_sound.must_of_reaches ⟨wf, once⟩ settled reaches meets found

/-- Two reserves of a trip, one after the other, while the tag of another trip is looked up. -/
theorem chargedOnce_beforeExit :
    ∃ pool : BackendPool, backend.Reaches ReserveTurns (Pool.init beforeExit) pool ∧
      .reserve { etag := "BECT01", stationOut := 3 } 0 1 ∈ pool.state.answers ∧
      .reserve { etag := "BECT01", stationOut := 4 } notFoundRouteTransaction 1 ∈
        pool.state.answers ∧ ChargedOnce pool.state ∧
      ∀ l, ReserveTurns pool l → System.EachAct ReservesUncharged pool l := by
  obtain ⟨pool, reaches, answered⟩ := backend.exists_reaches ReserveTurns (Pool.init beforeExit)
    (.start (.lookup "BECT02") :: .act 0 charging ::
      .start (.reserve { etag := "BECT01", stationOut := 3 }) ::
      List.replicate 14 (.act 1 charging) ++
      .start (.reserve { etag := "BECT01", stationOut := 4 }) ::
      List.replicate 6 (.act 2 charging))
    (fun pool => decide (.reserve { etag := "BECT01", stationOut := 3 } 0 1 ∈ pool.state.answers ∧
      .reserve { etag := "BECT01", stationOut := 4 } notFoundRouteTransaction 1 ∈
        pool.state.answers)) (by decide +kernel)
  obtain ⟨reserved, refused⟩ := of_decide_eq_true answered
  exact ⟨pool, reaches, reserved, refused, chargedOnce_of_reaches (.empty _ _) rfl reaches⟩

/-- Two reserves of a trip that both read its record before either has written the exit charge
it twice. -/
theorem overlapping_reserves_charge_twice :
    ¬ ∀ (s : Sys) (pool : BackendPool), s.cache.WellFormed → s.accounts = [] →
      backend.Reaches (Admits Req.ReserveOrLookup) (Pool.init s) pool →
      ChargedOnce pool.state := by
  intro claim
  obtain ⟨pool, reaches, twice⟩ := backend.exists_reaches (Admits Req.ReserveOrLookup)
    (Pool.init beforeExit)
    (.start (.reserve { etag := "BECT01", stationOut := 3 }) ::
      .start (.reserve { etag := "BECT01", stationOut := 4 }) ::
      List.replicate 8 (.act 0 charging) ++ List.replicate 14 (.act 1 charging) ++
      List.replicate 6 (.act 0 charging))
    (fun pool => decide (¬ (pool.state.accountsOf 1).length ≤ 1)) (by decide +kernel)
  exact of_decide_eq_true twice (claim _ pool (.empty _ _) rfl reaches 1)

end TollBackend

import TollBackend.Durability.Reserve

/-!
# Durability of a checkout

A checkout commit finds the charge of a trip through the row, makes it final, stamps the row
and forgets the record. It discards the results of its statements, and the link between the
row and the charge was itself written by a statement whose result the reserve discards.

## Main definitions

* `CheckoutStored`, `AccountsFinal`: the row is stamped, and the charges of the ticket are
  final.
* `CheckoutWrites`, `CheckoutUndisturbed`: the operations under which commits are stored.
* `AcknowledgedDurable`, `AcknowledgedStored`: what was answered with success is stored or
  queued for a retry that stores it; it is stored.

## Main results

* `acknowledgedStored_of_reaches`: runs of such operations acknowledge only what is stored.
* `reserve_answered_unstored`: a reserve whose `UPDATE` fails is acknowledged and forgotten.
-/

namespace TollBackend

open Concurrent

/-- The row of the ticket has the time of its checkout commit. -/
def CheckoutStored (s : Sys) (ticketId : Int) : Prop :=
  ∃ row ∈ s.stages.row? ticketId, row.checkoutCommitDatetime.isSome

instance (s : Sys) (ticketId : Int) : Decidable (CheckoutStored s ticketId) := by
  unfold CheckoutStored; infer_instance

/-- The account transactions of the ticket are final. -/
def AccountsFinal (s : Sys) (ticketId : Int) : Prop :=
  ∀ account ∈ s.accounts, account.transportTransId = ticketId →
    account.autocommitStatus = some autocommitStatusSuccess

/-- The account transactions of the ticket are the one that the row names. -/
def AccountsNamed (accountTransId : Option Int) (ticketId : Int) (s : Sys) : Prop :=
  ∀ account ∈ s.accounts, account.transportTransId = ticketId →
    accountTransId = some account.accountTransactionId ∧ 0 < account.accountTransactionId

instance (accountTransId : Option Int) (ticketId : Int) (s : Sys) :
    Decidable (AccountsNamed accountTransId ticketId s) := by
  unfold AccountsNamed; infer_instance

/-- Whether the request is a checkout commit. -/
def Req.isCheckoutCommit : Req → Bool
  | .checkoutCommit _ => true
  | _ => false

/-- A checkout commit that has read the row of the ticket. -/
def RowRead (req : Req) (trace : List (Event Op Choice Sys)) (ticketId : Int) : Prop :=
  req.isCheckoutCommit ∧ ∃ ev ∈ trace, ev.op.rowOf? = some ticketId

instance (req : Req) (trace : List (Event Op Choice Sys)) (ticketId : Int) :
    Decidable (RowRead req trace ticketId) := by
  unfold RowRead; infer_instance

/-- The statements of a checkout commit succeed, the row that it reads names the charges of
the ticket, and these can be made final or are; and no full-row `UPDATE` clears the time of a
commit. -/
def CheckoutWrites (req : Req) (o : Op) (c : Choice) (s : Sys) : Prop :=
  match o with
  | .ask (.stageFindById id) => req.isCheckoutCommit →
      ∀ row ∈ s.stages.row? id, AccountsNamed row.accountTransId id s
  | .ask (.accountTransactionForCommit id) => c.fault = none ∧
      ((∃ account ∈ s.account? id,
          allowCommitOrRollback account.autocommit account.autocommitStatus = true) ∨
        ∀ account ∈ s.accounts, account.accountTransactionId = id →
          account.autocommitStatus = some autocommitStatusSuccess)
  | .accountUpdateCommitStatus _ _ _ => c.fault = none
  | .stageUpdateCheckoutCommit _ _ => c.fault = none
  | .stageUpdate id entity => CheckoutStored s id → entity.checkoutCommitDatetime.isSome
  | _ => True

instance (req : Req) (o : Op) (c : Choice) (s : Sys) : Decidable (CheckoutWrites req o c s) := by
  induction o using Op.casesOn with
  | ask q => induction q using Query.casesOn <;> (unfold CheckoutWrites; infer_instance)
  | _ => unfold CheckoutWrites; infer_instance

/-- The operation does not charge a ticket while another task commits its checkout. -/
def CheckoutUndisturbed (o : Op) (req : Req) (trace : List (Event Op Choice Sys)) : Prop :=
  ∀ params ∈ o.charge?, ¬ RowRead req trace params.transportTransId

instance (o : Op) (req : Req) (trace : List (Event Op Choice Sys)) :
    Decidable (CheckoutUndisturbed o req trace) := by
  unfold CheckoutUndisturbed; infer_instance

/-- The steps of a run under which checkout commits are stored. -/
def CheckoutStoredCond (pool : BackendPool) (l : BackendLabel) : Prop :=
  System.EachAct (fun req _ o c s => CheckoutWrites req o c s) pool l ∧
    System.EachOther (fun o _ req trace => CheckoutUndisturbed o req trace) pool l

instance (pool : BackendPool) (l : BackendLabel) : Decidable (CheckoutStoredCond pool l) := by
  unfold CheckoutStoredCond; infer_instance

/-! ### One operation -/

variable {s s' s'' : Sys} {o : Op} {c : Choice} {t : Int} {req : Req}

/-- The account transactions of the ticket are those of an earlier state, and final ones
stayed so. -/
def AccountsKept (t : Int) (s s' : Sys) : Prop :=
  ∀ account' ∈ s'.accounts, account'.transportTransId = t → ∃ account ∈ s.accounts,
    account.transportTransId = t ∧
    account.accountTransactionId = account'.accountTransactionId ∧
    (account.autocommitStatus = some autocommitStatusSuccess →
      account'.autocommitStatus = some autocommitStatusSuccess)

theorem AccountsKept.refl (t : Int) (s : Sys) : AccountsKept t s s :=
  fun account mem ticket => ⟨account, mem, ticket, rfl, id⟩

theorem AccountsKept.trans (first : AccountsKept t s s') (second : AccountsKept t s' s'') :
    AccountsKept t s s'' := by
  intro account'' mem ticket
  obtain ⟨account', mem', ticket', same', final'⟩ := second account'' mem ticket
  obtain ⟨account, mem, ticket, same, final⟩ := first account' mem' ticket'
  exact ⟨account, mem, ticket, same.trans same', final' ∘ final⟩

theorem AccountsKept.final (kept : AccountsKept t s s') (final : AccountsFinal s t) :
    AccountsFinal s' t := by
  intro account' mem ticket
  obtain ⟨account, mem, ticket, -, stays⟩ := kept account' mem ticket
  exact stays (final account mem ticket)

theorem AccountsKept.named {accountTransId : Option Int} (kept : AccountsKept t s s')
    (named : AccountsNamed accountTransId t s) : AccountsNamed accountTransId t s' := by
  intro account' mem ticket
  obtain ⟨account, mem, ticket, same, -⟩ := kept account' mem ticket
  rw [← same]
  exact named account mem ticket

/-- The only status that the operation gives an account transaction is the final one. -/
def Op.FinalOnly : Op → Prop
  | .accountUpdateCommitStatus _ status _ => status = autocommitStatusSuccess
  | _ => True

theorem LookupOp.finalOnly (op : LookupOp o) : o.FinalOnly := by
  cases op <;> trivial

theorem finalOnly_of_performs (performs : req.Performs o) : o.FinalOnly := by
  cases req with
  | checkin call => cases performs <;> trivial
  | commit commit =>
    cases performs with
    | lookup o op => exact op.finalOnly
    | _ => trivial
  | reserve reserve =>
    cases performs with
    | lookup o op => exact op.finalOnly
    | _ => trivial
  | checkoutCommit commit =>
    cases performs with
    | lookup o op => exact op.finalOnly
    | commitAccount id finishDatetime => rfl
    | _ => trivial
  | rollback rollback =>
    subst performs
    trivial
  | lookup etag => exact LookupOp.finalOnly performs
  | retryCycle => cases performs <;> trivial
  | syncKeydb => cases performs <;> trivial
  | hubUpdate ticketId hubId => cases performs <;> trivial

theorem accountsKept_exec (final : o.FinalOnly)
    (elsewhere : ∀ params ∈ o.charge?, params.transportTransId ≠ t) :
    AccountsKept t s (o.exec c s).2 := by
  intro account' mem ticket
  rcases accounts_of_exec o c s with ⟨same, -⟩ | write
  · rw [same] at mem
    exact ⟨account', mem, ticket, rfl, id⟩
  · generalize (o.exec c s).2 = s' at write mem
    cases write with
    | insert params id accounts _ =>
      rw [accounts, List.mem_append, List.mem_singleton] at mem
      rcases mem with old | rfl
      · exact ⟨account', old, ticket, rfl, fun h => h⟩
      · exact absurd ticket (elsewhere params rfl)
    | status id status finish accounts _ =>
      rw [accounts] at mem
      obtain ⟨account, old, eq⟩ := List.mem_map.mp mem
      split at eq
      · subst eq
        exact ⟨account, old, ticket, rfl, fun _ => congrArg some final⟩
      · subst eq
        exact ⟨account, old, ticket, rfl, fun h => h⟩

/-- The stamp of a row stays. -/
theorem checkoutStored_exec (writes : CheckoutWrites req o c s) (stored : CheckoutStored s t) :
    CheckoutStored (o.exec c s).2 t := by
  obtain ⟨row, found, time⟩ := id stored
  obtain ⟨row', found', rfl | write⟩ := row?_of_exec (o := o) (c := c) found
  · exact ⟨row', found', time⟩
  · refine ⟨row', found', ?_⟩
    cases write with
    | update entity => exact writes stored
    | checkinCommit cols _ => exact time
    | checkoutInfo cols => exact time
    | checkoutCommit cols => rfl
    | hubId hubId now => exact time

theorem row?_isSome_exec (stored : (s.stages.row? t).isSome) :
    ((o.exec c s).2.stages.row? t).isSome := by
  obtain ⟨row, found⟩ := Option.isSome_iff_exists.mp stored
  obtain ⟨row', found', -⟩ := row?_of_exec (o := o) (c := c) found
  exact Option.isSome_iff_exists.mpr ⟨row', found'⟩

/-! ### The contract of a checkout commit -/

/-- A checkout commit relies on rows staying, on stamps staying, and on nobody charging the
ticket after it has read its row; it answers with success only when all is stored. -/
def checkoutContract : Contract backend where
  inv _ := True
  rely req trace s s' := (∀ t, (s.stages.row? t).isSome → (s'.stages.row? t).isSome) ∧
    (∀ t, CheckoutStored s t → CheckoutStored s' t) ∧
    ∀ t, RowRead req trace t → AccountsKept t s s'
  may req _ o c s := CheckoutWrites req o c s
  must _ _ o _ s := o.FinalOnly ∧ ∀ commit t, o.answer? = some (.checkoutCommit commit 0 t) →
    CheckoutStored s t ∧ AccountsFinal s t
  rely_refl _ _ s := ⟨fun _ => id, fun _ => id, fun t _ => .refl t s⟩
  rely_trans _ _ _ _ _ first second := ⟨fun t => second.1 t ∘ first.1 t,
    fun t => second.2.1 t ∘ first.2.1 t, fun t read => (first.2.2 t read).trans (second.2.2 t read)⟩

variable {trace : List (Event Op Choice Sys)} {α : Type}

/-- The operation does not answer a checkout commit with success. -/
def CheckoutSilent (o : Op) : Prop :=
  o.FinalOnly ∧ ∀ commit t, o.answer? ≠ some (.checkoutCommit commit 0 t)

theorem checkoutSilent_of_none (final : o.FinalOnly) (silent : o.answer? = none) :
    CheckoutSilent o := by
  refine ⟨final, fun commit t answered => ?_⟩
  rw [silent] at answered
  cases answered

theorem checkoutSilent_ask (q : Query) : CheckoutSilent (.ask q) :=
  checkoutSilent_of_none trivial rfl

theorem checkoutSilent_lookup (op : LookupOp o) : CheckoutSilent o :=
  checkoutSilent_of_none op.finalOnly op.answer?_eq_none

theorem checkoutSilent_answer (commit : CheckoutCommitBoo) {status : Int} (refused : status ≠ 0) :
    (perform (.answer (.checkoutCommit commit status t))).Only CheckoutSilent := by
  refine (only_perform _).mpr ⟨trivial, fun _ _ eq => ?_⟩
  cases eq
  exact refused rfl

theorem checkoutSafe_of_silent {p : Program α} (silent : p.Only CheckoutSilent) :
    checkoutContract.Safe req p (fun _ _ _ => True) trace s :=
  Contract.safe_of_only silent trivial (fun _ _ _ _ _ _ => trivial) fun _ _ _ _ silent _ _ _ =>
    ⟨⟨silent.1, fun commit t answered => absurd answered (silent.2 commit t)⟩, trivial, trivial⟩

theorem checkoutSafe_bind {β : Type} {p : Program α} {f : α → Program β}
    (silent : p.Only CheckoutSilent)
    (rest : ∀ a tr s, checkoutContract.Safe req (f a) (fun _ _ _ => True) tr s) :
    checkoutContract.Safe req (p >>= f) (fun _ _ _ => True) trace s :=
  Contract.safe_bind.mpr ((checkoutSafe_of_silent silent).mono fun a tr s _ => rest a tr s)

/-! ### The commit of a row -/

/-- The row is stored, and names the charges of its ticket. -/
def RowNamed (req : Req) (accountTransId : Option Int) (t : Int)
    (trace : List (Event Op Choice Sys)) (s : Sys) : Prop :=
  RowRead req trace t ∧ (s.stages.row? t).isSome ∧ AccountsNamed accountTransId t s

/-- The row is stored, and the charges of its ticket are final. -/
def RowFinal (req : Req) (t : Int) (trace : List (Event Op Choice Sys)) (s : Sys) : Prop :=
  RowRead req trace t ∧ (s.stages.row? t).isSome ∧ AccountsFinal s t

theorem rowRead_concat {ev : Event Op Choice Sys} (read : RowRead req trace t) :
    RowRead req (trace ++ [ev]) t := by
  obtain ⟨commits, ev', mem, eq⟩ := read
  exact ⟨commits, ev', List.mem_append_left _ mem, eq⟩

theorem RowNamed.rely {accountTransId : Option Int} (named : RowNamed req accountTransId t trace s)
    (rely : checkoutContract.rely req trace s s') : RowNamed req accountTransId t trace s' :=
  ⟨named.1, rely.1 t named.2.1, (rely.2.2 t named.1).named named.2.2⟩

theorem RowFinal.rely (final : RowFinal req t trace s)
    (rely : checkoutContract.rely req trace s s') : RowFinal req t trace s' :=
  ⟨final.1, rely.1 t final.2.1, (rely.2.2 t final.1).final final.2.2⟩

theorem account?_eq_none_iff {id : Int} :
    s.account? id = none ↔ ∀ account ∈ s.accounts, account.accountTransactionId ≠ id := by
  simp [Sys.account?]

/-- The `UPDATE` of the charge that the row names makes all charges of its ticket final. -/
theorem updateCommitStatus_safe {id : Int} (positive : 0 < id) (finish : DbDatetime)
    (named : RowNamed req (some id) t trace s) :
    checkoutContract.Safe req
      (do let _ ← perform (.accountUpdateCommitStatus id autocommitStatusSuccess finish); return ())
      (fun _ tr s => RowFinal req t tr s) trace s := by
  refine Contract.safe_perform_bind.mpr fun s' rely _ c may =>
    ⟨⟨rfl, fun _ _ answered => (by cases answered)⟩, trivial, ?_⟩
  obtain ⟨read, stored, names⟩ := named.rely rely
  have executed : ((Op.accountUpdateCommitStatus id autocommitStatusSuccess finish).exec c s').2 =
      s'.setAccountStatus id autocommitStatusSuccess finish := by
    have ok : c.fault = none := may
    simp only [Op.exec, Choice.statement, ok, if_neg (not_le.mpr positive)]
  rw [backend_exec, executed]
  refine Contract.safe_pure.mpr ⟨rowRead_concat read, stored, fun account updated ticket => ?_⟩
  obtain ⟨old, mem, eq⟩ := List.mem_map.mp updated
  split at eq
  · subst eq
    rfl
  · next other =>
    subst eq
    exact absurd (Option.some.inj (names old mem ticket).1).symm other

/-- Making the charge of a row final makes all charges of its ticket final. -/
theorem commitAccount_safe {accountTransId : Option Int} (now : Clock)
    (named : RowNamed req accountTransId t trace s) :
    checkoutContract.Safe req (commitAccount accountTransId now)
      (fun _ tr s => RowFinal req t tr s) trace s := by
  unfold commitAccount
  split
  · refine Contract.safe_pure.mpr ⟨named.1, named.2.1, fun account mem ticket => ?_⟩
    cases (named.2.2 account mem ticket).1
  · next id =>
    split
    · next positive =>
      refine Contract.safe_perform_bind.mpr fun s₁ rely _ c may =>
        ⟨(checkoutSilent_ask _).imp_right fun silent _ _ now => absurd now (silent _ _), trivial, ?_⟩
      obtain ⟨read, stored, names⟩ := named.rely rely
      obtain ⟨ok, final⟩ := may
      have result : (Query.accountTransactionForCommit id).reply c s₁ = .ok (s₁.account? id) := by
        simp only [Query.reply, Choice.orFault, ok, Sys.accountForCommit, if_neg (not_le.mpr positive)]
      rw [backend_exec, Op.exec, result]
      cases data : s₁.account? id with
      | none =>
        refine Contract.safe_pure.mpr ⟨rowRead_concat read, stored, fun account mem ticket => ?_⟩
        cases (names account mem ticket).1
        exact absurd rfl (account?_eq_none_iff.mp data account mem)
      | some account =>
        dsimp only
        split
        · exact updateCommitStatus_safe positive _ ⟨rowRead_concat read, stored, names⟩
        · next refused =>
          refine Contract.safe_pure.mpr ⟨rowRead_concat read, stored, fun account' mem ticket => ?_⟩
          rcases final with ⟨account, found, allowed⟩ | final
          · cases data.symm.trans found
            exact absurd allowed refused
          · exact final account' mem (Option.some.inj (names account' mem ticket).1).symm
    · next nonpositive =>
      refine Contract.safe_pure.mpr ⟨named.1, named.2.1, fun account mem ticket => ?_⟩
      obtain ⟨same, positive⟩ := named.2.2 account mem ticket
      cases same
      exact absurd positive nonpositive

/-- The `UPDATE` of the row stamps it. -/
theorem checkoutStored_update {cols : CheckoutCommitColumns} (ok : c.fault = none)
    (stored : (s.stages.row? t).isSome) :
    CheckoutStored ((Op.stageUpdateCheckoutCommit t cols).exec c s).2 t := by
  obtain ⟨row, found⟩ := Option.isSome_iff_exists.mp stored
  have executed : ((Op.stageUpdateCheckoutCommit t cols).exec c s).2.stages =
      s.stages.updateCheckoutCommit t cols := by
    simp only [Op.exec, Choice.statement, ok]
  refine ⟨row.setCheckoutCommit cols, ?_, rfl⟩
  rw [executed, Option.mem_def, StageTable.row?_updateCheckoutCommit, if_pos rfl, found]
  rfl

/-- What follows the `UPDATE` of the row is safe. -/
theorem checkoutSafe_of_stored {p : Program α}
    (only : p.Only fun o => o.FinalOnly ∧ o.charge? = none ∧ (∀ req c s, CheckoutWrites req o c s) ∧
      ∀ commit u, o.answer? = some (.checkoutCommit commit 0 u) → u = t)
    (final : RowFinal req t trace s) (stored : CheckoutStored s t) :
    checkoutContract.Safe req p (fun _ _ _ => True) trace s := by
  have others : ∀ (tr : List (Event Op Choice Sys)) (s s' : Sys),
      RowFinal req t tr s ∧ CheckoutStored s t → checkoutContract.rely req tr s s' →
      checkoutContract.inv s' → RowFinal req t tr s' ∧ CheckoutStored s' t :=
    fun _ _ _ holds rely _ => ⟨holds.1.rely rely, rely.2.1 t holds.2⟩
  refine (Contract.safe_of_only (J := fun tr s => RowFinal req t tr s ∧ CheckoutStored s t) only
    ⟨final, stored⟩ others ?_).mono fun _ _ _ _ => trivial
  rintro tr s o c ⟨finalOnly, charge, writes, answers⟩ ⟨final, stored⟩ _ _
  have kept : AccountsKept t s (o.exec c s).2 :=
    accountsKept_exec finalOnly fun params charges => by rw [charge] at charges; cases charges
  refine ⟨⟨finalOnly, fun commit u answered => ?_⟩, trivial, ⟨rowRead_concat final.1,
    row?_isSome_exec final.2.1, kept.final final.2.2⟩, checkoutStored_exec (writes req c s) stored⟩
  rw [answers commit u answered]
  exact ⟨stored, final.2.2⟩

theorem commitStage_safe (commit : CheckoutCommitBoo) (etdr : Etdr)
    {stage : TransportTransactionStage} (named : RowNamed req stage.accountTransId t trace s) :
    checkoutContract.Safe req (commitStage commit etdr stage t) (fun _ _ _ => True) trace s := by
  refine Contract.safe_perform_bind.mpr fun s₁ rely _ c _ =>
    ⟨⟨trivial, fun _ _ answered => (by cases answered)⟩, trivial, ?_⟩
  obtain ⟨read, stored, names⟩ := named.rely rely
  refine Contract.safe_bind.mpr ((commitAccount_safe _ ⟨rowRead_concat read, stored, names⟩).mono ?_)
  intro _ tr s₂ final
  refine Contract.safe_perform_bind.mpr fun s₃ rely _ c may =>
    ⟨⟨trivial, fun _ _ answered => (by cases answered)⟩, trivial, ?_⟩
  obtain ⟨read, stored, final⟩ := final.rely rely
  have kept : ∀ cols, AccountsKept t s₃ ((Op.stageUpdateCheckoutCommit t cols).exec c s₃).2 :=
    fun cols => accountsKept_exec trivial fun _ charges => by cases charges
  refine checkoutSafe_of_stored (t := t) ?_ ⟨rowRead_concat read, row?_isSome_exec stored,
    (kept _).final final⟩ (checkoutStored_update may stored)
  have quiet : ∀ {o : Op}, o.FinalOnly → o.charge? = none → (∀ req c s, CheckoutWrites req o c s) →
      o.answer? = none → o.FinalOnly ∧ o.charge? = none ∧ (∀ req c s, CheckoutWrites req o c s) ∧
        ∀ commit u, o.answer? = some (.checkoutCommit commit 0 u) → u = t :=
    fun final charge writes silent => ⟨final, charge, writes, fun _ _ answered => by
      rw [silent] at answered
      cases answered⟩
  refine (only_perform_bind _ _).mpr ⟨quiet trivial rfl (fun _ _ _ => trivial) rfl, fun _ => ?_⟩
  refine Prog.Only.bind ?_ fun _ => (only_perform _).mpr ⟨trivial, rfl, fun _ _ _ => trivial,
    fun _ _ answered => (Answer.checkoutCommit.inj (Option.some.inj answered)).2.2.symm⟩
  refine (only_perform_bind _ _).mpr ⟨quiet trivial rfl (fun _ _ _ => trivial) rfl, fun _ => ?_⟩
  refine (only_perform_bind _ _).mpr ⟨quiet trivial rfl (fun _ _ _ => trivial) rfl, fun _ => ?_⟩
  exact (only_perform _).mpr (quiet trivial rfl (fun _ _ _ => trivial) rfl)

theorem checkoutCommitEtdr_safe (commit : CheckoutCommitBoo) (etdr : Etdr) :
    checkoutContract.Safe (.checkoutCommit commit) (checkoutCommitEtdr commit etdr t)
      (fun _ _ _ => True) trace s := by
  have refused : ∀ {status} tr s, status ≠ 0 → checkoutContract.Safe (.checkoutCommit commit)
      (perform (.answer (.checkoutCommit commit status t))) (fun _ _ _ => True) tr s :=
    fun _ _ ne => checkoutSafe_of_silent (checkoutSilent_answer commit ne)
  unfold checkoutCommitEtdr
  split
  · exact refused _ _ (by decide)
  · refine Contract.safe_perform_bind.mpr fun s' _ _ c may =>
      ⟨⟨trivial, fun _ _ answered => (by cases answered)⟩, trivial, ?_⟩
    have read : RowRead (.checkoutCommit commit) (trace ++ [⟨.ask (.stageFindById t), c, s'⟩]) t :=
      ⟨rfl, _, List.mem_append_right _ (List.mem_singleton_self _), rfl⟩
    simp only [backend_exec, Op.exec, Query.reply]
    split
    · next stage found =>
      rcases Choice.orFault_cases c (s'.stages.findById t) with ok | ⟨message, error⟩
      · rw [ok] at found
        obtain ⟨row, stored, rfl⟩ := StageTable.findById_eq_some (Except.ok.inj found)
        exact commitStage_safe commit etdr ⟨read, by rw [stored]; rfl, may rfl row stored⟩
      · rw [error] at found
        cases found
    · exact refused _ _ (by decide)

theorem processCheckoutCommit_safe (commit : CheckoutCommitBoo) :
    checkoutContract.Safe (.checkoutCommit commit) (processCheckoutCommit commit)
      (fun _ _ _ => True) trace s := by
  have refused : ∀ {status t} tr s, status ≠ 0 → checkoutContract.Safe (.checkoutCommit commit)
      (perform (.answer (.checkoutCommit commit status t))) (fun _ _ _ => True) tr s :=
    fun _ _ ne => checkoutSafe_of_silent (checkoutSilent_answer commit ne)
  have resolve : (resolveLatestEtdr (normalizeEtag commit.etag)).Only CheckoutSilent :=
    (resolveLatestEtdr_only _).mono fun _ => checkoutSilent_lookup
  have ticket : (checkoutCommitTicket commit).Only CheckoutSilent := by
    unfold checkoutCommitTicket
    split
    · trivial
    · exact resolve.bind fun _ => trivial
  refine checkoutSafe_bind ticket fun ticketId tr s => ?_
  split
  · exact refused _ _ (by decide)
  · have record : (checkoutCommitRecord commit ticketId).Only CheckoutSilent := by
      refine (only_perform_bind _ _).mpr ⟨checkoutSilent_of_none trivial rfl, fun cached => ?_⟩
      split
      · trivial
      · exact resolve.bind fun _ => trivial
    refine checkoutSafe_bind record fun found tr s => ?_
    split
    · exact refused _ _ (by decide)
    · exact checkoutCommitEtdr_safe commit _

/-! ### Runs -/

theorem checkoutContract_sound : checkoutContract.Sound CheckoutStoredCond where
  start pool req _ _ := by
    by_cases commit : ∃ commit, req = .checkoutCommit commit
    · obtain ⟨commit, rfl⟩ := commit
      exact processCheckoutCommit_safe commit
    · refine Contract.safe_of_only (J := fun _ _ => True) (program_only req) trivial
        (fun _ _ _ _ _ _ => trivial) fun _ _ _ _ performs _ _ _ =>
          ⟨⟨finalOnly_of_performs performs, ?_⟩, trivial, trivial⟩
      exact fun commit' t answered => absurd ⟨commit', isFor_of_performs performs answered⟩ commit
  own pool i c req trace o next meets found := meets.1 req trace o next found
  others pool i c req trace o next j req' trace' o' next' meets found _ must ne other := by
    refine ⟨fun t => row?_isSome_exec, fun t => checkoutStored_exec (meets.1 req trace o next found),
      fun t read => ?_⟩
    refine accountsKept_exec must.1 fun params charges => ?_
    rintro rfl
    exact meets.2.other found ne other params charges read

/-- Where the task answered a reserve with success, the row had its charge, or a record waited
for a retry that writes it; and where it answered a checkout commit with success, the row had
its stamp and the charges were final, or a record waited for a retry that writes both. -/
def AcknowledgedDurable (trace : List (Event Op Choice Sys)) : Prop :=
  Along (fun before o _ s =>
    (∀ reserve t, o = .answer (.reserve reserve 0 t) → ∀ a, Charged before t a →
      ReserveStored s t a ∨ QueuedFor s t fun s' => ReserveStored s' t a) ∧
    (∀ commit t, o = .answer (.checkoutCommit commit 0 t) →
      CheckoutStored s t ∧ AccountsFinal s t ∨
        QueuedFor s t fun s' => CheckoutStored s' t ∧ AccountsFinal s' t)) trace

/-- Where the task answered a reserve with success, the row had its charge; and where it
answered a checkout commit with success, the row had its stamp and the charges were final. -/
def AcknowledgedStored (trace : List (Event Op Choice Sys)) : Prop :=
  Along (fun before o _ s =>
    (∀ reserve t, o = .answer (.reserve reserve 0 t) → ∀ a, Charged before t a →
      ReserveStored s t a) ∧
    (∀ commit t, o = .answer (.checkoutCommit commit 0 t) →
      CheckoutStored s t ∧ AccountsFinal s t)) trace

theorem AcknowledgedStored.durable (stored : AcknowledgedStored trace) :
    AcknowledgedDurable trace := by
  intro k bound ev at_k
  obtain ⟨reserved, committed⟩ := stored k bound ev at_k
  exact ⟨fun reserve t answer a charged => .inl (reserved reserve t answer a charged),
    fun commit t answer => .inl (committed commit t answer)⟩

/-- The steps of a run under which the checkout is stored. -/
def CheckoutCond (pool : BackendPool) (l : BackendLabel) : Prop :=
  ReserveStoredCond pool l ∧ CheckoutStoredCond pool l

instance (pool : BackendPool) (l : BackendLabel) : Decidable (CheckoutCond pool l) := by
  unfold CheckoutCond; infer_instance

/-- In a run under the condition, what was answered with success is in the tables. -/
theorem acknowledgedStored_of_reaches {s : Sys} {pool : BackendPool}
    (reaches : backend.Reaches CheckoutCond (Pool.init s) pool) {i : Nat}
    {task : Task Op Op.Res Choice Sys Req} (found : pool.tasks[i]? = some task) :
    AcknowledgedStored task.trace := by
  have reserves := reserveStored_of_reaches (reaches.mono fun _ _ => And.left) found
  have commits := checkoutContract_sound.along_of_reaches trivial
    (reaches.mono fun _ _ => And.right) found
  intro k bound ev at_k
  refine ⟨fun reserve t answer a charged => ?_, fun commit t answer => ?_⟩
  · exact reserves k bound ev at_k reserve t answer a charged
  · exact (commits k bound ev at_k).2 commit t (by rw [answer]; rfl)

/-- A reserve and its commit. -/
theorem acknowledgedStored_beforeExit :
    ∃ pool : BackendPool, backend.Reaches CheckoutCond (Pool.init beforeExit) pool ∧
      .reserve { etag := "BECT01", stationOut := 3 } 0 1 ∈ pool.state.answers ∧
      .checkoutCommit { etag := "BECT01", ticketInId := 1 } 0 1 ∈ pool.state.answers ∧
      ∀ (i : Nat) (task : Task Op Op.Res Choice Sys Req), pool.tasks[i]? = some task →
        AcknowledgedDurable task.trace := by
  obtain ⟨pool, reaches, answered⟩ := backend.exists_reaches CheckoutCond (Pool.init beforeExit)
    (.start (.reserve { etag := "BECT01", stationOut := 3 }) ::
      List.replicate 14 (.act 0 charging) ++
      .start (.checkoutCommit { etag := "BECT01", ticketInId := 1 }) ::
      List.replicate 11 (.act 1 charging))
    (fun pool => decide (.reserve { etag := "BECT01", stationOut := 3 } 0 1 ∈ pool.state.answers ∧
      .checkoutCommit { etag := "BECT01", ticketInId := 1 } 0 1 ∈ pool.state.answers))
    (by decide +kernel)
  obtain ⟨reserved, committed⟩ := of_decide_eq_true answered
  exact ⟨pool, reaches, reserved, committed, fun i task found =>
    (acknowledgedStored_of_reaches reaches found).durable⟩

/-- A reserve charges the account, its `UPDATE` fails, and it is answered with success: the
charge is in no row, and nothing waits for the retry. -/
theorem reserve_answered_unstored :
    ¬ ∀ (s : Sys) (pool : BackendPool) (i : Nat) (task : Task Op Op.Res Choice Sys Req),
      backend.Reaches anyStep (Pool.init s) pool → pool.tasks[i]? = some task →
      AcknowledgedDurable task.trace := by
  intro claim
  obtain ⟨pool, reaches, test⟩ := backend.exists_reaches anyStep (Pool.init beforeExit)
    (.start (.reserve { etag := "BECT01", stationOut := 3 }) ::
      List.replicate 11 (.act 0 charging) ++ .act 0 { charging with fault := some "timeout" } ::
      List.replicate 2 (.act 0 charging))
    (fun pool => match pool.tasks with
      | [task] => decide (∃ ev ∈ task.trace[13]?,
          ev.op.answer? = some (.reserve { etag := "BECT01", stationOut := 3 } 0 1) ∧
          (∃ ev ∈ task.trace.take 13, charge? ev = some (1, 9)) ∧
          ¬ ReserveStored ev.pre 1 9 ∧ AllSaved ev.pre)
      | _ => false) (by decide +kernel)
  split at test
  · next task tasks =>
    obtain ⟨ev, at_13, answer, charged, unstored, saved⟩ := of_decide_eq_true test
    have found : pool.tasks[0]? = some task := by rw [tasks]; rfl
    rcases (claim _ pool 0 task reaches found 13 (List.getElem?_eq_some_iff.mp at_13).1 ev at_13).1
      _ 1 (Op.eq_answer_of_answer? answer) 9 charged with stored | queued
    · exact unstored stored
    · exact not_queuedFor_of_allSaved saved queued
  · cases test

end TollBackend

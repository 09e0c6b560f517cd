import TollBackend.TakingTurns.Marks

/-!
# Checkout commits that take turns

A checkout commit refuses a trip whose record is committed, and makes a charge final only if
it is not; but it reads both long before it writes them, and removes the record last. Commits
of one trip that overlap each make the charge final, send the event and answer with success.
When they take turns with each ticket and the `UPDATE` of the row succeeds, only the first one
does.

## Main definitions

* `CommittedOnce`: no charge is made final twice, and no ticket has two events or two
  successful answers.
* `CommitTurn`: an operation under which a committed trip stays so.
* `CommitTurns`: the runs of checkout commits that take turns with each ticket.

## Main results

* `committedOnce_of_reaches`: such checkout commits commit each ticket once.
* `overlapping_commits_commit_twice`: two commits that overlap both commit.
-/

namespace TollBackend

open Concurrent

/-- No charge is made final twice, and no ticket has two checkout events or two successful
answers. -/
structure CommittedOnce (s : Sys) : Prop where
  accounts : s.accountCommits.Nodup
  events : ∀ ticketId, (s.checkoutEvents ticketId).length ≤ 1
  answers : ∀ ticketId, (s.commitAnswers ticketId).length ≤ 1

/-- The `UPDATE` of the row succeeds; the ticket whose record is removed is cached under one
tag; and a sync record does not clear a commit. -/
def CommitTurn (_ : Req) (_ : Past) (o : Op) (c : Choice) (s : Sys) : Prop :=
  match o with
  | .stageUpdateCheckoutCommit _ _ => c.fault = none
  | .cacheRemoveByTicketId ticketId => s.cache.CachedOnce ticketId
  | .cacheFillFromSync _ _ sync => commitMark.Set sync
  | _ => True

instance (req : Req) (trace : Past) (o : Op) (c : Choice) (s : Sys) :
    Decidable (CommitTurn req trace o c s) := by
  induction o using Op.casesOn <;> (unfold CommitTurn; infer_instance)

/-- Checkout commits. -/
def Req.CheckoutCommitOnly : Req → Prop
  | .checkoutCommit _ => True
  | _ => False

instance : DecidablePred Req.CheckoutCommitOnly := fun req => by
  induction req using Req.casesOn <;> (unfold Req.CheckoutCommitOnly; infer_instance)

/-- The runs of checkout commits that take turns with each ticket. -/
def CommitTurns : BackendPool → BackendLabel → Prop :=
  byTicket.Turns Req.CheckoutCommitOnly CommitTurn

instance (pool : BackendPool) (l : BackendLabel) : Decidable (CommitTurns pool l) := by
  unfold CommitTurns; infer_instance

/-- A charge that was made final cannot be made final again. -/
def ChargesClosed (s : Sys) : Prop :=
  ∀ id ∈ s.accountCommits, ∀ account ∈ s.accounts, account.accountTransactionId = id →
    account.autocommitStatus.isSome

/-- What holds of the ledger whatever commit is under way. -/
structure LedgerSound (s : Sys) : Prop where
  once : CommittedOnce s
  charges : ChargesClosed s

/-- The contract of a checkout commit that takes its turn with each ticket. -/
abbrev commitTurnContract : Contract backend :=
  commitMark.contract LedgerSound CommitTurn fun _ _ _ _ _ => True

variable {s s' : Sys} {t : Int} {c : Choice} {o : Op} {req : Req} {trace tr : Past} {e : Etdr}
variable {M M' : Sys → Prop} {α : Type}

/-! ### One operation -/

theorem LedgerSound.of_same (sound : LedgerSound s) (same : SameLedger s s') : LedgerSound s' where
  once :=
    { accounts := by rw [same.accountCommits]; exact sound.once.accounts
      events := fun t => by rw [Sys.checkoutEvents, same.kafka]; exact sound.once.events t
      answers := fun t => by rw [Sys.commitAnswers, same.answers]; exact sound.once.answers t }
  charges := by
    rw [ChargesClosed, same.accountCommits, same.accounts]
    exact sound.charges

theorem leavesLookups_commit :
    commitMark.LeavesLookups LedgerSound CommitTurn fun _ _ _ _ _ => True where
  ledger _ _ same sound := sound.of_same same
  must _ _ _ _ _ _ := trivial
  filled _ _ _ _ _ _ _ allowed := allowed

/-- Operations that use no ticket and leave the ledger alone. -/
theorem aside_commit (unused : ∀ c s, o.tickets c s = [])
    (same : ∀ c s, SameLedger s (o.exec c s).2) :
    byTicket.Aside (fun s => s.cache.WellFormed ∧ LedgerSound s) (fun _ _ _ _ _ => True) o :=
  fun _ _ c s => ⟨unused c s, trivial, fun ⟨wf, sound⟩ =>
    ⟨wellFormed_exec wf, sound.of_same (same c s)⟩⟩

/-- A commit of a ticket: what is known of it between two operations. -/
abbrev CheckoutUnderWay (t : Int) (M : Sys → Prop) (trace : Past) (s : Sys) : Prop :=
  byTicket.UnderWay commitMark.Settled t M trace s

/-! ### The charge -/

/-- Nothing was sent or answered about the ticket, which has a row. -/
structure CommitAccepted (t : Int) (s : Sys) : Prop where
  fresh : ¬ commitMark.done t s
  row : (s.stages.row? t).isSome

theorem commitAccepted_lasts (t : Int) : byTicket.LastsWith t (CommitAccepted t) := by
  intro s s' same accepted
  refine ⟨fun done => accepted.fresh (commitMark.done_of_same t s s' same done), ?_⟩
  have row := accepted.row
  rw [← Option.isSome_map, ← same.row, Option.isSome_map] at row
  exact row

/-- Making a charge final that is not closed. -/
theorem LedgerSound.setAccountStatus (sound : LedgerSound s) {id : Int}
    {account : AccountTransaction} (found : s.account? id = some account)
    (opened : account.autocommitStatus = none) (finish : DbDatetime) :
    LedgerSound (s.setAccountStatus id autocommitStatusSuccess finish) := by
  -- an account transaction that was made final has a status, and this one has none
  have fresh : id ∉ s.accountCommits := fun closed => by
    have known := List.find?_some found
    have status := sound.charges id closed account (List.mem_of_find?_eq_some found)
      (by simpa using known)
    rw [opened] at status
    cases status
  have commits : (s.setAccountStatus id autocommitStatusSuccess finish).accountCommits =
      s.accountCommits ++ [id] := by simp only [Sys.setAccountStatus, if_true]
  refine ⟨⟨?_, sound.once.events, sound.once.answers⟩, fun id' closed account' mem same => ?_⟩
  · rw [commits]
    exact List.nodup_append.mpr ⟨sound.once.accounts, List.nodup_singleton id,
      fun a mem b single => by rintro rfl; exact fresh (List.mem_singleton.mp single ▸ mem)⟩
  · obtain ⟨old, mem', eq⟩ := List.mem_map.mp mem
    split at eq
    · subst eq
      rfl
    · next other =>
      subst eq
      rw [commits, List.mem_append, List.mem_singleton] at closed
      rcases closed with closed | rfl
      · exact sound.charges id' closed old mem' same
      · exact absurd same other

/-- The `UPDATE` of an account transaction that is not closed. -/
theorem commitAccount_update {id : Int} (finish : DbDatetime) {account : AccountTransaction}
    (sound : LedgerSound s) (found : s.account? id = some account)
    (opened : account.autocommitStatus = none) :
    LedgerSound
        ((Op.accountUpdateCommitStatus id autocommitStatusSuccess finish).exec c s).2 ∧
      (∀ u, commitMark.Settled u s → commitMark.Settled u
        ((Op.accountUpdateCommitStatus id autocommitStatusSuccess finish).exec c s).2) ∧
      (CommitAccepted t s → CommitAccepted t
        ((Op.accountUpdateCommitStatus id autocommitStatusSuccess finish).exec c s).2) := by
  rw [Op.exec]
  split
  · exact ⟨sound, fun _ settled => settled, fun accepted => accepted⟩
  · rcases statement_snd c true s (s.setAccountStatus id autocommitStatusSuccess finish)
      with ok | error
    · rw [ok]
      exact ⟨sound.setAccountStatus found opened finish,
        fun _ settled done => ⟨(settled done).row, (settled done).cached⟩,
        fun accepted => ⟨accepted.fresh, accepted.row⟩⟩
    · rw [error]
      exact ⟨sound, fun _ settled => settled, fun accepted => accepted⟩

/-- The account transaction is read, and made final if it is not. Nobody else changes it
meanwhile, as its ticket was used. -/
theorem commitAccount_turn (underWay : CheckoutUnderWay t (CommitAccepted t) trace s)
    (accountTransId : Option Int) (now : Clock) :
    commitTurnContract.Safe req (commitAccount accountTransId now)
      (fun _ tr s' => CheckoutUnderWay t (CommitAccepted t) tr s') trace s := by
  have skip : ∀ tr s', CheckoutUnderWay t (CommitAccepted t) tr s' →
      commitTurnContract.Safe req (pure () : Program Unit)
        (fun _ tr s' => CheckoutUnderWay t (CommitAccepted t) tr s') tr s' :=
    fun _ _ underWay => Contract.safe_pure.mpr underWay
  unfold commitAccount
  split
  · exact skip _ _ underWay
  · next id =>
    split
    · refine underWay.bind settled_of_same (commitAccepted_lasts t) fun c s₁ underWay inv may => ?_
      have read := underWay.step may (fun _ _ settled => settled) underWay.here
      refine ⟨trivial, inv, ?_⟩
      split
      · next account eq =>
        have reply : s₁.accountForCommit id = some account := Choice.eq_of_ok eq
        -- reading the account transaction uses its ticket, so nobody else changes it
        have used : account.transportTransId ∈
            byTicket.usedIn (trace ++ [⟨.ask (.accountTransactionForCommit id), c, s₁⟩]) :=
          Keyed.mem_usedIn_append_singleton.mpr
            (.inr (Option.mem_toList.mpr (Option.mem_map.mpr ⟨account, reply, rfl⟩)))
        have found : s₁.account? id = some account := by
          rw [Sys.accountForCommit] at reply
          split at reply
          · cases reply
          · exact reply
        split
        · next allowed =>
          have opened : account.autocommitStatus = none := by
            simp only [allowCommitOrRollback, Bool.and_eq_true, Option.isNone_iff_eq_none] at allowed
            exact allowed.1
          refine Contract.safe_perform_bind.mpr fun s₂ rely inv c may => ?_
          -- so it is as it was read when it is written
          have still := ((rely _ used).account id account found rfl).1
          have underWay := read.of_rely settled_of_same (commitAccepted_lasts t) rely
          obtain ⟨sound, settled, accepted⟩ :=
            commitAccount_update (c := c) now.dbDatetime inv.2 still opened
          exact ⟨trivial, ⟨wellFormed_exec inv.1, sound⟩, skip _ _
            (underWay.step may (fun u _ => settled u) (accepted underWay.here))⟩
        · exact skip _ _ read
      · exact skip _ _ read
    · exact skip _ _ underWay

/-! ### The row, the event and the answer -/

/-- The row of the ticket has the time of the commit, and no answer was given yet. -/
structure CommitWritten (t : Int) (s : Sys) : Prop where
  row : ∃ row, s.stages.row? t = some row ∧ millisOrZero (commitMark.column row) ≠ 0
  answers : s.commitAnswers t = []

/-- The row is written, and nothing was sent yet. -/
structure CommitUnsent (t : Int) (s : Sys) : Prop extends CommitWritten t s where
  events : s.checkoutEvents t = []

/-- The row is written, and nothing of the ticket is cached. -/
structure CommitCleared (t : Int) (s : Sys) : Prop where
  marked : Marked commitMark t s
  answers : s.commitAnswers t = []

theorem commitWritten_lasts (t : Int) : byTicket.LastsWith t (CommitWritten t) := by
  intro s s' same written
  obtain ⟨row, stored, time⟩ := written.row
  have found := same.row
  rw [stored, Option.map_some] at found
  obtain ⟨row', stored', eq⟩ := Option.map_eq_some_iff.mp found
  refine ⟨⟨row', stored', ?_⟩, same.answers.trans written.answers⟩
  rwa [← commitMark.column_withoutHub, eq, commitMark.column_withoutHub]

theorem commitUnsent_lasts (t : Int) : byTicket.LastsWith t (CommitUnsent t) :=
  fun s s' same unsent =>
    ⟨commitWritten_lasts t s s' same unsent.toCommitWritten, same.events.trans unsent.events⟩

theorem commitCleared_lasts (t : Int) : byTicket.LastsWith t (CommitCleared t) :=
  fun _ _ same cleared =>
    ⟨cleared.marked.of_same same, same.answers.trans cleared.answers⟩

/-- The `UPDATE` of the row. -/
theorem checkout_update {cols : CheckoutCommitColumns} {now : Clock}
    (underWay : CheckoutUnderWay t (CommitAccepted t) trace s)
    (time : cols.checkoutCommitDatetime = now.dbDatetime) (ok : c.fault = none) :
    SameLedger s ((Op.stageUpdateCheckoutCommit t cols).exec c s).2 ∧
      CheckoutUnderWay t (CommitUnsent t) (trace ++ [⟨.stageUpdateCheckoutCommit t cols, c, s⟩])
        ((Op.stageUpdateCheckoutCommit t cols).exec c s).2 := by
  have executed : ((Op.stageUpdateCheckoutCommit t cols).exec c s).2 =
      { s with stages := s.stages.updateCheckoutCommit t cols } := by
    simp only [Op.exec, Choice.statement, ok]
  have unsent : CommitUnsent t ((Op.stageUpdateCheckoutCommit t cols).exec c s).2 := by
    obtain ⟨old, found⟩ := Option.isSome_iff_exists.mp underWay.here.row
    -- fresh means that there is neither an event nor an answer
    obtain ⟨events, answers⟩ := not_or.mp underWay.here.fresh
    rw [executed]
    refine ⟨⟨⟨old.setCheckoutCommit cols, ?_, ?_⟩, not_not.mp answers⟩, not_not.mp events⟩
    · rw [StageTable.row?_updateCheckoutCommit, if_pos rfl, found]
      rfl
    · simp only [commitMark, TransportTransactionStage.setCheckoutCommit, millisOrZero_some, time]
      exact now.dbDatetime_timestampMillis_ne_zero
  refine ⟨by rw [executed]; exact ⟨rfl, rfl, rfl, rfl⟩, ?_⟩
  exact underWay.next settled_of_same (fun u mem => List.mem_singleton.mp mem) unsent

/-- A first entry of a ticket leaves no ticket with two. -/
theorem length_filter_concat_le {β : Type} {f : β → Option Int} {l : List β} {b : β}
    (of : f b = some t) (none : (l.filter fun b => f b == some t) = [])
    (once : ∀ u, (l.filter fun b => f b == some u).length ≤ 1) (u : Int) :
    ((l ++ [b]).filter fun b => f b == some u).length ≤ 1 := by
  rw [List.filter_append]
  by_cases here : u = t
  · rw [here, none]
    simp [of]
  · simpa [of, Ne.symm here] using once u

/-- The event of a ticket about which none was sent. -/
theorem checkout_send {event : KafkaEvent} (ofTicket : event.checkoutOf? = some t)
    (underWay : CheckoutUnderWay t (CommitUnsent t) trace s) (sound : LedgerSound s) :
    LedgerSound ((Op.sendKafka event).exec c s).2 ∧
      CheckoutUnderWay t (CommitWritten t) (trace ++ [⟨.sendKafka event, c, s⟩])
        ((Op.sendKafka event).exec c s).2 := by
  refine ⟨⟨⟨sound.once.accounts, ?_, sound.once.answers⟩, sound.charges⟩, ?_⟩
  · exact length_filter_concat_le ofTicket underWay.here.events sound.once.events
  · refine underWay.next settled_of_same (fun u mem => ?_)
      ⟨underWay.here.row, underWay.here.answers⟩
    have uses : u ∈ event.checkoutOf?.toList := mem
    rw [ofTicket, Option.toList_some, List.mem_singleton] at uses
    exact uses

/-- The removal of the record. -/
theorem checkout_remove (nonzero : t ≠ 0) (once : s.cache.CachedOnce t)
    (underWay : CheckoutUnderWay t (CommitWritten t) trace s) :
    CheckoutUnderWay t (CommitCleared t) (trace ++ [⟨.cacheRemoveByTicketId t, c, s⟩])
      ((Op.cacheRemoveByTicketId t).exec c s).2 :=
  underWay.next settled_of_same (fun _ mem => List.mem_singleton.mp mem)
    ⟨⟨underWay.here.row, fun _ _ cached ticket =>
      absurd ticket (EtdrCache.ticketId_ne_of_removeByTicketId nonzero once cached)⟩,
      underWay.here.answers⟩

/-- The answer to a commit of a ticket to which none was given. -/
theorem checkout_answer {answer : Answer} (toTicket : answer.checkoutCommitOf? = some t)
    (underWay : CheckoutUnderWay t (CommitCleared t) trace s) (sound : LedgerSound s) :
    LedgerSound ((Op.answer answer).exec c s).2 ∧
      AllSettled commitMark (trace ++ [⟨.answer answer, c, s⟩]) ((Op.answer answer).exec c s).2 := by
  refine ⟨⟨⟨sound.once.accounts, sound.once.events, ?_⟩, sound.charges⟩, ?_⟩
  · exact length_filter_concat_le toTicket underWay.here.answers sound.once.answers
  · refine underWay.finish settled_of_same (fun u mem => ?_)
      fun _ => ⟨underWay.here.marked.row, underWay.here.marked.cached⟩
    have uses : u ∈ answer.checkoutCommitOf?.toList := mem
    rw [toTicket, Option.toList_some, List.mem_singleton] at uses
    exact uses

/-! ### The programs -/

/-- Clearing a record removes it from the cache. -/
theorem clearEtdr_turn (nonzero : t ≠ 0) (underWay : CheckoutUnderWay t (CommitWritten t) trace s) :
    commitTurnContract.Safe req (clearEtdrAfterTransactionComplete t)
      (fun _ tr s' => CheckoutUnderWay t (CommitCleared t) tr s') trace s := by
  refine underWay.bind settled_of_same (commitWritten_lasts t) fun c s₁ underWay inv may => ?_
  refine ⟨trivial, ⟨wellFormed_exec inv.1, inv.2.of_same ⟨rfl, rfl, rfl, rfl⟩⟩, ?_⟩
  have aside : ∀ {o : Op}, KeyCommand o → (∀ c s, o.tickets c s = []) →
      byTicket.Aside (fun s => s.cache.WellFormed ∧ LedgerSound s) (fun _ _ _ _ _ => True) o :=
    fun command unused => aside_commit unused fun c s => (command.same c s).2
  exact (checkout_remove nonzero may.1 underWay).of_only settled_of_same (commitCleared_lasts t)
    ((only_perform_bind _ _).mpr ⟨aside (.removePending t) fun _ _ => rfl, fun _ =>
      (only_perform _).mpr (aside (.removeKey (.retry t)) fun _ _ => rfl)⟩)

theorem commitStage_turn (commit : CheckoutCommitBoo) (ticket : e.ticketId = t) (nonzero : t ≠ 0)
    (stage : TransportTransactionStage)
    (underWay : CheckoutUnderWay t (CommitAccepted t) trace s) :
    commitTurnContract.Safe req (commitStage commit e stage t)
      (fun _ tr s' => AllSettled commitMark tr s') trace s := by
  refine Contract.safe_bind.mpr ((underWay.of_only settled_of_same (commitAccepted_lasts t)
    (p := ask .observe) ((only_perform _).mpr
      (aside_commit (fun _ _ => rfl) fun _ s => .refl s))).mono fun env tr s₁ underWay => ?_)
  refine Contract.safe_bind.mpr ((commitAccount_turn underWay _ _).mono ?_)
  intro _ tr s₂ underWay
  refine underWay.bind settled_of_same (commitAccepted_lasts t) fun c s₃ underWay inv may => ?_
  have time : (checkoutCommitColumns stage env.now).checkoutCommitDatetime = env.now.dbDatetime := rfl
  -- the row is marked before the event is sent, and the event before the answer
  obtain ⟨same, unsent⟩ := checkout_update underWay time may.1
  refine ⟨trivial, ⟨wellFormed_exec inv.1, inv.2.of_same same⟩, ?_⟩
  refine unsent.bind settled_of_same (commitUnsent_lasts t) fun c s₄ underWay inv _ => ?_
  have ofTicket : (KafkaEvent.checkout e env.now.ms).checkoutOf? = some t := congrArg some ticket
  obtain ⟨sound, written⟩ := checkout_send ofTicket underWay inv.2
  refine ⟨trivial, ⟨inv.1, sound⟩, ?_⟩
  refine Contract.safe_bind.mpr ((clearEtdr_turn nonzero written).mono ?_)
  intro _ tr s₅ cleared
  refine cleared.bind settled_of_same (commitCleared_lasts t) fun c s₆ underWay inv _ => ?_
  have toTicket : (Answer.checkoutCommit commit 0 t).checkoutCommitOf? = some t := rfl
  obtain ⟨sound, settled⟩ := checkout_answer toTicket underWay inv.2
  exact ⟨trivial, ⟨inv.1, sound⟩, settled⟩

/-- An answer that refuses a commit leaves everything settled. -/
theorem refused_turn (holds : AllSettled commitMark trace s) (commit : CheckoutCommitBoo)
    {status : Int} (refused : status ≠ 0) :
    commitTurnContract.Safe req (perform (.answer (.checkoutCommit commit status t)))
      (fun _ tr s' => AllSettled commitMark tr s') trace s := by
  have silent : (Answer.checkoutCommit commit status t).checkoutCommitOf? = none := if_neg refused
  refine holds.of_only settled_of_same ((only_perform _).mpr ?_)
  intro req trace c s
  refine ⟨?_, trivial, ?_⟩
  · show (Answer.checkoutCommit commit status t).checkoutCommitOf?.toList = []
    rw [silent]
    rfl
  · -- refusals do not count as answers of a commit
    rintro ⟨wf, sound⟩
    refine ⟨wf, ⟨sound.once.accounts, sound.once.events, fun u => ?_⟩, sound.charges⟩
    have same : ((Op.answer (.checkoutCommit commit status t)).exec c s).2.commitAnswers u =
        s.commitAnswers u := by
      rw [Sys.commitAnswers, answers_of_exec, List.filter_append, Sys.commitAnswers]
      simp [Op.answer?, silent]
    rw [backend_exec, same]
    exact sound.once.answers u

theorem checkoutCommitEtdr_turn (commit : CheckoutCommitBoo) (ticket : e.ticketId = t)
    (nonzero : t ≠ 0) (holds : AllSettled commitMark trace s)
    (known : commitMark.facts.etdr trace s e) :
    commitTurnContract.Safe req (checkoutCommitEtdr commit e t)
      (fun _ tr s' => AllSettled commitMark tr s') trace s := by
  unfold checkoutCommitEtdr
  split
  · exact refused_turn holds commit (by decide)
  · next accepted =>
    have kept := leavesLookups_commit.keptBy req
    refine kept.ask_bind holds fun c s₁ before _ may after => ?_
    split
    · next stage read =>
      obtain ⟨used, time⟩ := before.etdr e known
      rw [ticket] at used time
      -- the check in the source refuses a record with a commit time, and a done ticket has one
      have fresh : ¬ commitMark.done t s₁ := fun done => accepted (.inr (.inl (time done)))
      obtain ⟨row, stored, rfl⟩ := StageTable.findById_eq_some (Choice.eq_of_ok read)
      have accepted : CommitAccepted t s₁ := ⟨fresh, by rw [stored]; rfl⟩
      exact commitStage_turn commit ticket nonzero _ (before.holds.begin settled_of_same used
        (fun u mem => List.mem_singleton.mp mem) accepted)
    · exact refused_turn after.holds commit (by decide)

/-- The record of the ticket is known. -/
theorem checkoutCommitRecord_turn (commit : CheckoutCommitBoo) (t : Int)
    (holds : AllSettled commitMark trace s) :
    commitTurnContract.Safe req (checkoutCommitRecord commit t)
      (fun record tr s' => AllSettled commitMark tr s' ∧
        ∀ e ∈ record, e.ticketId = t ∧ commitMark.facts.etdr tr s' e) trace s := by
  have kept := leavesLookups_commit.keptBy req
  refine Contract.safe_perform_bind.mpr fun s₁ rely inv c may => ?_
  have before := kept.others _ _ _ holds rely inv
  have same : SameLedger s₁ ((Op.cacheGetByTicketId t).exec c s₁).2 := ⟨rfl, rfl, rfl, rfl⟩
  have after : AllSettled commitMark (trace ++ [⟨.cacheGetByTicketId t, c, s₁⟩])
      ((Op.cacheGetByTicketId t).exec c s₁).2 := by
    intro u mem done
    -- a read of the cache leaves every ticket as marked as it was
    have marked := Keyed.idle_of_may before.holds may mem (commitMark.done_of_ledger u _ _ same done)
    exact ⟨marked.row, fun key e cached =>
      marked.cached key e (EtdrCache.getByTicketId_snd_cached cached)⟩
  refine ⟨trivial, ⟨wellFormed_exec inv.1, inv.2.of_same same⟩, ?_⟩
  split
  · next etdr found =>
    obtain ⟨⟨key, cached⟩, ticket⟩ := EtdrCache.getByTicketId_cached found
    refine Contract.safe_pure.mpr ⟨after, fun e returned => ?_⟩
    cases returned
    have used : etdr.ticketId ∈ byTicket.usedIn (trace ++ [⟨.cacheGetByTicketId t, c, s₁⟩]) :=
      Keyed.mem_usedIn_append_singleton.mpr (.inr (List.mem_singleton.mpr ticket))
    refine ⟨ticket, used, fun done => ?_⟩
    exact (Keyed.idle_of_may before.holds may used
      (commitMark.done_of_ledger _ _ _ same done)).cached key etdr cached rfl
  · -- nothing is cached: the lookup's record counts only if it is of the ticket
    refine Contract.safe_bind.mpr ((kept.resolveLatestEtdr trivial after).mono ?_)
    rintro latest tr s' ⟨lasts, known⟩
    refine Contract.safe_pure.mpr ⟨lasts.holds, fun e returned => ?_⟩
    obtain ⟨found, ticket⟩ := Option.filter_eq_some_iff.mp returned
    exact ⟨by simpa using ticket, known e found⟩

theorem processCheckoutCommit_turn (commit : CheckoutCommitBoo)
    (holds : AllSettled commitMark trace s) :
    commitTurnContract.Safe req (processCheckoutCommit commit)
      (fun _ tr s' => AllSettled commitMark tr s') trace s := by
  have kept := leavesLookups_commit.keptBy req
  have ticket : commitTurnContract.Safe req (checkoutCommitTicket commit)
      (fun _ tr s' => AllSettled commitMark tr s') trace s := by
    unfold checkoutCommitTicket
    split
    · exact Contract.safe_pure.mpr holds
    · refine Contract.safe_bind.mpr ((kept.resolveLatestEtdr trivial holds).mono ?_)
      exact fun _ _ _ found => Contract.safe_pure.mpr found.1.holds
  refine Contract.safe_bind.mpr (ticket.mono fun t tr s₁ holds => ?_)
  split
  · exact refused_turn holds commit (by decide)
  · next nonzero =>
    refine Contract.safe_bind.mpr ((checkoutCommitRecord_turn commit t holds).mono ?_)
    rintro record tr s₂ ⟨holds, found⟩
    split
    · exact refused_turn holds commit (by decide)
    · next etdr =>
      obtain ⟨ticket, known⟩ := found etdr rfl
      exact checkoutCommitEtdr_turn commit ticket nonzero holds known

theorem commitTurns_sound : byTicket.Sound (fun s => s.cache.WellFormed ∧ LedgerSound s)
    commitMark.Settled Req.CheckoutCommitOnly CommitTurn fun _ _ _ _ _ => True where
  kept := settled_of_same
  start req s admitted _ := by
    cases req with
    | checkoutCommit commit =>
      exact processCheckoutCommit_turn commit fun t used => absurd used List.not_mem_nil
    | _ => cases admitted

/-! ### Runs -/

/-- Checkout commits that take turns with each ticket commit it at most once. -/
theorem committedOnce_of_reaches {s : Sys} (wf : s.cache.WellFormed)
    (commits : s.accountCommits = []) (kafka : s.kafka = []) (answers : s.answers = [])
    {pool : BackendPool} (reaches : backend.Reaches CommitTurns (Pool.init s) pool) :
    CommittedOnce pool.state := by
  have events : ∀ t, s.checkoutEvents t = [] := fun t => by rw [Sys.checkoutEvents, kafka]; rfl
  have given : ∀ t, s.commitAnswers t = [] := fun t => by rw [Sys.commitAnswers, answers]; rfl
  have sound : LedgerSound s :=
    { once := ⟨by rw [commits]; exact List.nodup_nil, fun t => by rw [events]; exact Nat.zero_le 1,
        fun t => by rw [given]; exact Nat.zero_le 1⟩
      charges := fun id closed => by rw [commits] at closed; cases closed }
  have settled : ∀ t, commitMark.Settled t s := fun t done =>
    done.elim (absurd (events t)) (absurd (given t))
  exact (commitTurns_sound.holds_of_reaches ⟨wf, sound⟩ settled reaches).invariant.2.once

/-- Two commits of a trip, one after the other, while another trip is about to be committed. -/
theorem committedOnce_beforeCheckoutCommit :
    ∃ pool : BackendPool, backend.Reaches CommitTurns (Pool.init beforeCheckoutCommit) pool ∧
      .checkoutCommit { etag := "BECT01", ticketInId := 1 } 0 1 ∈ pool.state.answers ∧
      .checkoutCommit { etag := "BECT01", ticketInId := 1 } notFoundRouteTransaction 1 ∈
        pool.state.answers ∧ CommittedOnce pool.state := by
  obtain ⟨pool, reaches, answered⟩ := backend.exists_reaches CommitTurns
    (Pool.init beforeCheckoutCommit)
    (.start (.checkoutCommit { etag := "BECT02", ticketInId := 2 }) :: .act 0 charging ::
      .start (.checkoutCommit { etag := "BECT01", ticketInId := 1 }) ::
      .start (.checkoutCommit { etag := "BECT01", ticketInId := 1 }) ::
      List.replicate 16 (.act 1 charging) ++ List.replicate 7 (.act 2 charging))
    (fun pool => decide (
      .checkoutCommit { etag := "BECT01", ticketInId := 1 } 0 1 ∈ pool.state.answers ∧
      .checkoutCommit { etag := "BECT01", ticketInId := 1 } notFoundRouteTransaction 1 ∈
        pool.state.answers)) (by decide +kernel)
  obtain ⟨committed, refused⟩ := of_decide_eq_true answered
  exact ⟨pool, reaches, committed, refused,
    committedOnce_of_reaches (.empty _ _) rfl rfl rfl reaches⟩

/-- Two commits of a trip that both read its record and its charge before either has written
them make the charge final twice, send two events and answer twice with success. -/
theorem overlapping_commits_commit_twice :
    ¬ ∀ (s : Sys) (pool : BackendPool), s.cache.WellFormed → s.accountCommits = [] →
      s.kafka = [] → s.answers = [] →
      backend.Reaches (Admits Req.CheckoutCommitOnly) (Pool.init s) pool →
      CommittedOnce pool.state := by
  intro claim
  obtain ⟨pool, reaches, twice⟩ := backend.exists_reaches (Admits Req.CheckoutCommitOnly)
    (Pool.init beforeCheckoutCommit)
    (.start (.checkoutCommit { etag := "BECT01", ticketInId := 1 }) ::
      .start (.checkoutCommit { etag := "BECT01", ticketInId := 1 }) ::
      List.replicate 9 (.act 0 charging) ++ List.replicate 4 (.act 1 charging) ++
      List.replicate 7 (.act 0 charging) ++ List.replicate 7 (.act 1 charging))
    (fun pool => decide (¬ pool.state.accountCommits.Nodup ∧
      (pool.state.checkoutEvents 1).length = 2 ∧ (pool.state.commitAnswers 1).length = 2))
    (by decide +kernel)
  exact (of_decide_eq_true twice).1 (claim _ pool (.empty _ _) rfl rfl rfl reaches).accounts

end TollBackend

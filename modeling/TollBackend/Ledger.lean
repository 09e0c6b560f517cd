import TollBackend.Answered

/-!
# The ledger of charges

Reserves charge accounts: each inserts at most one account transaction, which a checkout commit
later makes final. Here the ledger is accounted for over whole runs: an entry is inserted by one
reserve, with the amount that the exit columns of the trip and the answer of the reserve go with,
and is never changed again but for its status.

## Main definitions

* `LedgerEntry`: what of an account transaction never changes.
* `Money`, `moneyOf`: what an operation does that concerns money.
* `ReserveSettled`: all of it that a reserve does.

## Main results

* `program_settles`: the program of a request does what is listed for it.
* `ledger_of_reaches`: the ledger of a run consists of the charges of its reserves.
-/

namespace TollBackend

open Concurrent

/-- What of an account transaction never changes. -/
structure LedgerEntry where
  id : Int
  accountId : Int
  amount : Int
  ticketId : Int
deriving DecidableEq

/-- The entry of an account transaction. -/
def AccountTransaction.entry (account : AccountTransaction) : LedgerEntry where
  id := account.accountTransactionId
  accountId := account.accountId
  amount := account.amount
  ticketId := account.transportTransId

/-- The entry that the parameters of an insert give under an id. -/
def InsertAccountTransactionParams.entry (params : InsertAccountTransactionParams) (id : Int) :
    LedgerEntry where
  id := id
  accountId := params.accountId
  amount := params.amount
  ticketId := params.transportTransId

/-- What is done that concerns money: the subscriber of a tag is looked up, an entry is inserted,
the exit columns of a trip are written, a station is answered. -/
inductive Money : Type
  | subscriber (etag : String) (found : Option SubscriberInfo)
  | charge (entry : LedgerEntry)
  | exit (ticketId : Int) (cols : CheckoutInfoColumns)
  | answer (a : Answer)

/-- The tag whose subscriber a query looks up. -/
def Query.subscriberOf? : Query → Option String
  | .subscriberByEtag etag => some etag
  | _ => none

/-- What an operation does that concerns money. A statement that fails does nothing. -/
def moneyOf : Op → Choice → Sys → List Money
  | .accountInsert params, c, _ =>
      if c.fault.isSome then [] else [.charge (params.entry c.freshId)]
  | .stageUpdateCheckoutInfo id cols, c, _ => if c.fault.isSome then [] else [.exit id cols]
  | .answer a, _, _ => [.answer a]
  | .ask q, c, s => q.subscriberOf?.toList.map fun etag =>
      .subscriber etag ((Query.subscriberByEtag etag).reply c s)
  | .stageInsertRow _, _, _ | .stageUpdate _ _, _, _
  | .stageUpdateCheckinCommit _ _, _, _ | .stageUpdateCheckoutCommit _ _, _, _
  | .stageUpdateHubId _ _, _, _ | .accountUpdateCommitStatus _ _ _, _, _
  | .cacheGetLatestCheckin _, _, _ | .cacheGetAllByEtag _, _, _ | .cacheGetByTicketId _, _, _
  | .cacheFillFromSync _ _ _, _, _ | .saveEtdr _, _, _ | .saveEtdrToMemoryOnly _, _, _
  | .cacheRemoveByTicketId _, _, _ | .cacheUpdateHubId _ _, _, _ | .takeSpawned, _, _
  | .keydbSet _ _, _, _ | .keydbRemove _, _, _ | .setPendingTcd _ _, _, _
  | .removePendingTcd _, _, _ | .sendKafka _, _, _ => []

/-- The entry that is inserted. -/
def Money.charge? : Money → Option LedgerEntry
  | .charge entry => some entry
  | .subscriber _ _ => none
  | .exit _ _ => none
  | .answer _ => none

/-- A look-up of a subscriber. -/
def Money.IsLookup (m : Money) : Prop :=
  ∃ etag found, m = .subscriber etag found

/-- Neither a charge nor a write of exit columns. -/
def Money.Passive (m : Money) : Prop :=
  m.IsLookup ∨ ∃ a, m = .answer a

/-- All that a reserve does that concerns money: it looks up subscribers, charges at most one
entry, writes the exit columns at most once, and answers. The account that is charged is that of
the subscriber of its tag, whom it looked up last; the entry and the columns are of the ticket
that is answered, have one amount, and the columns name the entry; a reserve that charges answers
`0`. -/
structure ReserveSettled (req : CheckoutReserveBoo) (done : List Money) (lookups : List Money)
    (charge : Option LedgerEntry) (exit : Option CheckoutInfoColumns) (status ticketId : Int) :
    Prop where
  all : done = lookups ++ charge.toList.map .charge ++ exit.toList.map (.exit ticketId) ++
    [.answer (.reserve req status ticketId)]
  looked : ∀ m ∈ lookups, m.IsLookup
  owner : ∀ entry ∈ charge, ∃ sub,
    lookups.getLast? = some (.subscriber (normalizeEtag req.etag) (some sub)) ∧
      entry.accountId = sub.accountId
  positive : ∀ entry ∈ charge, 0 < entry.accountId ∧ 0 < entry.amount
  own : ∀ entry ∈ charge, entry.ticketId = ticketId ∧ status = 0
  amount : ∀ entry ∈ charge, ∀ cols ∈ exit, cols.totalAmount = entry.amount
  named : ∀ cols ∈ exit, cols.accountTransId = charge.map (·.id)

/-- All that a request does that concerns money. Only reserves charge. -/
def Req.Settles : Req → List Money → Prop
  | .reserve req, done => ∃ lookups charge exit status ticketId,
      ReserveSettled req done lookups charge exit status ticketId
  | .checkin _, done | .commit _, done | .checkoutCommit _, done | .rollback _, done
  | .lookup _, done | .retryCycle, done | .syncKeydb, done | .hubUpdate _ _, done =>
      ∀ m ∈ done, m.Passive

/-! ### What the programs do -/

theorem money_ask {q : Query} (other : q.subscriberOf? = none) (c : Choice) (s : Sys) :
    moneyOf (.ask q) c s = [] := by
  rw [moneyOf, other]
  rfl

/-- A query may look up a subscriber, and does nothing else. -/
theorem isLookup_of_ask {q : Query} {c : Choice} {s : Sys} {m : Money}
    (mem : m ∈ moneyOf (.ask q) c s) : m.IsLookup := by
  obtain ⟨etag, -, rfl⟩ := List.mem_map.mp mem
  exact ⟨etag, _, rfl⟩

theorem LookupOp.isLookup {o : Op} (op : LookupOp o) {c : Choice} {s : Sys} {m : Money}
    (mem : m ∈ moneyOf o c s) : m.IsLookup := by
  cases op with
  | ask q => exact isLookup_of_ask mem
  | _ => cases mem

section Programs

variable {α β : Type} {post : α → List Money → Prop} {done : List Money}

theorem money_ask_bind {q : Query} {next : q.Reply → Program α} (other : q.subscriberOf? = none)
    (rest : ∀ r, (next r).Sends Op.exec moneyOf done post) :
    (ask q >>= next).Sends Op.exec moneyOf done post :=
  Prog.sends_op_of_silent (money_ask other) rest

theorem money_perform_bind {o : Op} {next : o.Res → Program α}
    (silent : ∀ c s, moneyOf o c s = [])
    (rest : ∀ r, (next r).Sends Op.exec moneyOf done post) :
    (perform o >>= next).Sends Op.exec moneyOf done post :=
  Prog.sends_op_of_silent silent rest

theorem money_answer {a : Answer} {post : Unit → List Money → Prop}
    (ends : post () (done ++ [.answer a])) :
    (perform (.answer a)).Sends Op.exec moneyOf done post :=
  fun _ _ => ends

/-- A reserve that is refused. -/
theorem refused_settles (req : CheckoutReserveBoo) (status ticketId : Int)
    (looked : ∀ m ∈ done, m.IsLookup) :
    (perform (.answer (.reserve req status ticketId))).Sends Op.exec moneyOf done
      fun _ => (Req.reserve req).Settles :=
  money_answer ⟨done, none, none, status, ticketId, by simp, looked, by simp, by simp, by simp,
    by simp, by simp⟩

/-- A charge is one entry, with the id that is returned, if the insert does not fail. -/
theorem chargeAccount_money (accountId transAmount ticketId : Int)
    (now : Clock) :
    (chargeAccount accountId transAmount ticketId now).Sends Op.exec moneyOf done
      fun id done' => ∃ charge : Option LedgerEntry, done' = done ++ charge.toList.map .charge ∧
        id = charge.map (·.id) ∧ ∀ entry ∈ charge, entry.accountId = accountId ∧
          entry.amount = transAmount ∧ entry.ticketId = ticketId ∧ 0 < accountId ∧
          0 < transAmount := by
  unfold chargeAccount
  split
  · next charges =>
    intro c s
    cases fault : c.fault with
    | some message =>
      simp only [moneyOf, Op.exec, Choice.statement, fault]
      exact ⟨none, rfl, rfl, by simp⟩
    | none =>
      simp only [moneyOf, Op.exec, Choice.statement, fault]
      refine ⟨some _, rfl, rfl, fun entry mem => ?_⟩
      cases Option.mem_some_iff.mp mem
      exact ⟨rfl, rfl, rfl, charges⟩
  · exact ⟨none, (List.append_nil _).symm, rfl, by simp⟩

theorem saveTcdOrPending_money (id : Int) (list : List TransportTransStageTcd) :
    (saveTcdOrPending id list).Only fun o => ∀ c s, moneyOf o c s = [] := by
  refine (only_ask_bind _ _).mpr ⟨money_ask rfl, fun saved => ?_⟩
  split
  · trivial
  · exact (only_perform _).mpr fun _ _ => rfl

/-- An account that is charged is one that the reserve does not report. -/
theorem reserveErrorStatus_eq_zero {env : Ambient} {subscriberInfo : Option SubscriberInfo}
    (positive : 0 < (subscriberInfo.map (·.accountId)).getD 0) :
    reserveErrorStatus env subscriberInfo = 0 := by
  unfold reserveErrorStatus
  split
  · rfl
  · cases subscriberInfo with
    | none => exact absurd positive (lt_irrefl 0)
    | some sub =>
      have above : 0 < sub.accountId := positive
      exact if_neg (not_le.mpr above)

/-- A reserve whose fee is known settles with that fee. -/
theorem reserveEtdr_settles (req : CheckoutReserveBoo) (etdr : Etdr) (transAmount : Int)
    (details : List RatingDetail) (looked : ∀ m ∈ done, m.IsLookup) :
    (reserveEtdr req etdr transAmount details).Sends Op.exec moneyOf done
      fun _ => (Req.reserve req).Settles := by
  intro c s
  -- what the reserve learns about the subscriber is what it charges by
  generalize learned : (Query.subscriberByEtag (normalizeEtag req.etag)).reply c s = subscriberInfo
  have lookup : moneyOf (.ask (.subscriberByEtag (normalizeEtag req.etag))) c s =
      [.subscriber (normalizeEtag req.etag) subscriberInfo] := by
    rw [← learned]
    rfl
  rw [lookup, Op.exec, learned]
  refine money_ask_bind rfl fun env => ?_
  refine money_perform_bind (fun _ _ => rfl) fun _ => money_ask_bind rfl fun env' => ?_
  refine Prog.sends_bind.mpr ((chargeAccount_money _ _ _ _).mono ?_)
  rintro id _ ⟨charge, rfl, rfl, charged⟩
  intro c s
  refine (saveTcdOrPending_money _ _).sends_bind fun _ => money_answer ?_
  -- the columns are written, or their statement fails
  have settled : ∀ exit : Option CheckoutInfoColumns,
      (∀ cols ∈ exit, cols.totalAmount = transAmount ∧ cols.accountTransId = charge.map (·.id)) →
      (Req.reserve req).Settles (done ++ [.subscriber (normalizeEtag req.etag) subscriberInfo] ++
        charge.toList.map .charge ++ exit.toList.map (.exit etdr.ticketId) ++
        [.answer (.reserve req (reserveErrorStatus env subscriberInfo) etdr.ticketId)]) := by
    intro exit written
    refine ⟨_, charge, exit, _, _, rfl, fun m mem => ?_, fun entry mem => ?_, fun entry mem => ?_,
      fun entry mem => ?_, fun entry mem cols out => ?_, fun cols out => (written cols out).2⟩
    · rcases List.mem_append.mp mem with old | new
      · exact looked m old
      · exact ⟨_, _, List.mem_singleton.mp new⟩
    · obtain ⟨account, -, -, positive, -⟩ := charged entry mem
      cases subscriberInfo with
      | none => exact absurd positive (lt_irrefl 0)
      | some sub => exact ⟨sub, List.getLast?_concat, account⟩
    · obtain ⟨account, amount, -, positive⟩ := charged entry mem
      rw [account, amount]
      exact positive
    · obtain ⟨-, -, ticket, positive, -⟩ := charged entry mem
      exact ⟨ticket, reserveErrorStatus_eq_zero positive⟩
    · rw [(written cols out).1, (charged entry mem).2.1]
  cases fault : c.fault with
  | some message =>
    simp only [moneyOf, fault]
    exact settled none (by simp)
  | none =>
    simp only [moneyOf, fault]
    refine settled (some _) fun cols out => ?_
    cases Option.mem_some_iff.mp out
    exact ⟨rfl, rfl⟩

theorem processCheckoutReserve_settles (req : CheckoutReserveBoo) :
    (processCheckoutReserve req).Sends Op.exec moneyOf [] fun _ => (Req.reserve req).Settles := by
  have lookup : (resolveLatestEtdr (normalizeEtag req.etag)).Sends Op.exec moneyOf []
      fun _ done => ∀ m ∈ done, m.IsLookup :=
    ((resolveLatestEtdr_only _).mono fun _ op _ _ _ => op.isLookup).sends_forall
      fun _ mem => absurd mem List.not_mem_nil
  refine Prog.sends_bind.mpr (lookup.mono fun latest done looked => ?_)
  split
  · exact refused_settles req _ _ looked
  · split
    · exact refused_settles req _ _ looked
    · refine money_ask_bind rfl fun fee => ?_
      split
      · exact reserveEtdr_settles req _ _ _ looked
      · refine money_ask_bind rfl fun env => ?_
        split
        · exact reserveEtdr_settles req _ _ _ looked
        · exact refused_settles req _ _ looked

end Programs

/-- The program of a request does that. -/
theorem program_settles (req : Req) :
    req.program.Sends Op.exec moneyOf [] fun _ => req.Settles := by
  -- the other programs have no operation that charges or writes exit columns
  have passive : ∀ {P : Op → Prop} {p : Program Unit},
      (∀ o, P o → ∀ c s, ∀ m ∈ moneyOf o c s, m.Passive) → p.Only P →
      p.Sends Op.exec moneyOf [] fun _ done => ∀ m ∈ done, m.Passive := by
    intro P p passive only
    exact (only.mono passive).sends_forall fun m mem => absurd mem List.not_mem_nil
  have lookup : ∀ {o}, LookupOp o → ∀ c s, ∀ m ∈ moneyOf o c s, m.Passive :=
    fun op _ _ _ mem => .inl (op.isLookup mem)
  have asked : ∀ (q : Query) (c : Choice) (s : Sys), ∀ m ∈ moneyOf (.ask q) c s, m.Passive :=
    fun _ _ _ _ mem => .inl (isLookup_of_ask mem)
  have answer : ∀ (a : Answer) (m : Money), m ∈ [Money.answer a] → m.Passive :=
    fun a m mem => .inr ⟨a, List.mem_singleton.mp mem⟩
  have nothing : ∀ m ∈ ([] : List Money), m.Passive :=
    fun m mem => absurd mem List.not_mem_nil
  have only := program_only req
  cases req with
  | checkin call =>
    refine passive (fun o op c s => ?_) only
    cases op with
    | ask q => exact asked q c s
    | answer status ticketId => exact answer _
    | _ => exact nothing
  | commit req =>
    refine passive (fun o op c s => ?_) only
    cases op with
    | lookup o op => exact lookup op c s
    | answer status ticketId => exact answer _
    | _ => exact nothing
  | reserve req => exact processCheckoutReserve_settles req
  | checkoutCommit req =>
    refine passive (fun o op c s => ?_) only
    cases op with
    | lookup o op => exact lookup op c s
    | answer status ticketId => exact answer _
    | _ => exact nothing
  | rollback req =>
    refine passive (fun o op c s => ?_) only
    subst op
    exact answer _
  | lookup etag => exact passive (fun o op => lookup op) only
  | retryCycle =>
    refine passive (fun o op c s => ?_) only
    cases op with
    | ask q => exact asked q c s
    | _ => exact nothing
  | syncKeydb =>
    refine passive (fun o op c s => ?_) only
    cases op with
    | ask q => exact asked q c s
    | _ => exact nothing
  | hubUpdate ticketId hubId =>
    refine passive (fun o op c s => ?_) only
    cases op <;> exact nothing

/-! ### The ledger of a run -/

/-- The entries of the ledger. -/
def Sys.ledger (s : Sys) : List LedgerEntry :=
  s.accounts.map AccountTransaction.entry

theorem ledger_setAccountStatus (s : Sys) (id status : Int) (finishDatetime : DbDatetime) :
    (s.setAccountStatus id status finishDatetime).ledger = s.ledger := by
  rw [Sys.ledger, Sys.setAccountStatus, List.map_map, Sys.ledger]
  refine List.map_congr_left fun account _ => ?_
  simp only [Function.comp]
  split <;> rfl

theorem ledger_of_accounts_eq {s s' : Sys} (same : s'.accounts = s.accounts) :
    s'.ledger = s.ledger := by
  rw [Sys.ledger, same, Sys.ledger]

/-- The ledger grows by what is charged. -/
theorem ledger_of_exec (o : Op) (c : Choice) (s : Sys) :
    (o.exec c s).2.ledger = s.ledger ++ (moneyOf o c s).filterMap Money.charge? := by
  rcases accounts_of_exec o c s with ⟨same, -⟩ | write
  · -- an insert that leaves the ledger as it is has failed
    rw [ledger_of_accounts_eq same]
    refine List.self_eq_append_right.mpr ?_
    cases o with
    | accountInsert params =>
      cases fault : c.fault with
      | some message => rw [moneyOf, fault]; rfl
      | none =>
        simp only [Op.exec, Choice.statement, fault] at same
        have longer := congrArg List.length same
        rw [List.length_append, List.length_singleton] at longer
        omega
    | stageUpdateCheckoutInfo id cols =>
      rw [moneyOf]
      split <;> rfl
    | ask q =>
      refine List.filterMap_eq_nil_iff.mpr fun m mem => ?_
      obtain ⟨etag, found, rfl⟩ := isLookup_of_ask mem
      rfl
    | _ => rfl
  · cases o with
    | accountInsert params =>
      cases fault : c.fault with
      | some message =>
        simp only [Op.exec, Choice.statement, moneyOf, fault]
        exact (List.append_nil _).symm
      | none =>
        simp only [Op.exec, Choice.statement, moneyOf, fault]
        exact List.map_append
    | accountUpdateCommitStatus id status finish =>
      rw [show moneyOf _ c s = [] from rfl, List.filterMap_nil, List.append_nil]
      rw [Op.exec]
      split
      · rfl
      · rcases statement_snd c true s (s.setAccountStatus id status finish) with ok | error
        · rw [ok, ledger_setAccountStatus]
        · rw [error]
    | _ => cases write

/-- What a task has done that concerns money. -/
abbrev moneyBy (task : BackendTask) : List Money :=
  task.sent moneyOf

/-- The charges of tasks. -/
def chargesBy (tasks : List BackendTask) : List LedgerEntry :=
  tasks.flatMap fun task => (moneyBy task).filterMap Money.charge?

section Run

variable {cond : BackendPool → BackendLabel → Prop} {s : Sys} {pool : BackendPool}

/-- The ledger of a run consists of what was there and the charges of its tasks; each task has
done a beginning of what its request does, and all of it when it has ended. -/
theorem ledger_of_reaches (reaches : backend.Reaches cond (Pool.init s) pool) :
    pool.state.ledger.Perm (s.ledger ++ chargesBy pool.tasks) ∧
      ∀ (i : Nat) (task : BackendTask), pool.tasks[i]? = some task →
        ∃ more, task.req.Settles (moneyBy task ++ more) ∧ (task.busy = false → more = []) := by
  refine ⟨?_, fun i task found => System.exists_more_of_reaches program_settles reaches found⟩
  refine (System.perm_sent_of_reaches ledger_of_exec reaches).trans (List.Perm.of_eq ?_)
  rw [chargesBy]
  congr 2
  funext task
  exact Task.sent_filterMap moneyOf Money.charge? task

end Run

/-- A reserve that has charged the account, and is about to write the exit columns. -/
theorem ledger_of_reaches_charged : ∃ pool : BackendPool,
    backend.Reaches anyStep (Pool.init beforeExit) pool ∧
      pool.state.ledger = [⟨9, 5, 100, 1⟩] ∧
      pool.state.ledger.Perm (chargesBy pool.tasks) ∧
      ∀ (i : Nat) (task : BackendTask), pool.tasks[i]? = some task →
        ∃ more, task.req.Settles (moneyBy task ++ more) ∧ (task.busy = false → more = []) := by
  obtain ⟨pool, reaches, charged⟩ := backend.exists_reaches anyStep (Pool.init beforeExit)
    (.start (.reserve { etag := "BECT01", stationOut := 3 }) ::
      List.replicate 11 (.act 0 charging))
    (fun pool => decide (pool.state.ledger = [⟨9, 5, 100, 1⟩])) (by decide +kernel)
  obtain ⟨perm, each⟩ := ledger_of_reaches reaches
  exact ⟨pool, reaches, of_decide_eq_true charged, perm, each⟩

end TollBackend

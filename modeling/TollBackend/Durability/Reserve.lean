import TollBackend.Backend

/-!
# Durability of a reserve

A reserve charges the account of the tag first, and then writes the exit and the id of the
charge into the row of the trip. It discards the result of that `UPDATE`, so it answers with
success also when the charge is not written anywhere.

## Main definitions

* `ReserveStored`: the row of a ticket names a charge.
* `ReserveUpdates`: the `UPDATE` after a charge succeeds on a row.
* `ReserveUndisturbed`: an operation leaves alone the rows of reserves that are not yet
  answered.

## Main results

* `reserveStored_of_reaches`: in runs of such operations, the charge of a reserve that is
  answered with success is stored.
-/

namespace TollBackend

open Concurrent

/-- The row of the ticket has the exit and the charge of a reserve. -/
def ReserveStored (s : Sys) (ticketId accountTransId : Int) : Prop :=
  ∃ row ∈ s.stages.row? ticketId, row.accountTransId = some accountTransId ∧
    row.checkoutTollId.isSome ∧ row.totalAmount.isSome

instance (s : Sys) (ticketId accountTransId : Int) :
    Decidable (ReserveStored s ticketId accountTransId) := by
  unfold ReserveStored; infer_instance

/-- The account transaction that an operation inserts. -/
def Op.charge? : Op → Option InsertAccountTransactionParams
  | .accountInsert params => some params
  | _ => none

/-- The ticket and the id of the account transaction that was inserted. -/
def charge? (ev : Event Op Choice Sys) : Option (Int × Int) :=
  ev.op.charge?.bind fun params =>
    if ev.choice.fault.isNone then some (params.transportTransId, ev.choice.freshId) else none

/-- The task has inserted an account transaction for the ticket. -/
def Charged (trace : List (Event Op Choice Sys)) (ticketId accountTransId : Int) : Prop :=
  ∃ ev ∈ trace, charge? ev = some (ticketId, accountTransId)

/-- The row whose exit an operation writes. -/
def Op.checkoutInfoOf? : Op → Option Int
  | .stageUpdateCheckoutInfo id _ => some id
  | _ => none

/-- The row whose exit and charge an operation can overwrite. -/
def Op.overwrites? : Op → Option Int
  | .stageUpdateCheckoutInfo id _ => some id
  | .stageUpdate id _ => some id
  | _ => none

/-- The task has written the exit of the ticket. -/
def InfoUpdated (trace : List (Event Op Choice Sys)) (ticketId : Int) : Prop :=
  ∃ ev ∈ trace, ev.op.checkoutInfoOf? = some ticketId

instance (trace : List (Event Op Choice Sys)) (ticketId : Int) :
    Decidable (InfoUpdated trace ticketId) := by
  unfold InfoUpdated; infer_instance

/-- The `UPDATE` after a charge succeeds on a row, and the charge has a positive id. -/
def ReserveUpdates (o : Op) (c : Choice) (s : Sys) : Prop :=
  match o with
  | .stageUpdateCheckoutInfo id cols =>
      ∀ a ∈ cols.accountTransId, c.fault = none ∧ 0 < a ∧ (s.stages.row? id).isSome
  | _ => True

instance (o : Op) (c : Choice) (s : Sys) : Decidable (ReserveUpdates o c s) := by
  induction o using Op.casesOn <;> (unfold ReserveUpdates; infer_instance)

/-- The operation does not overwrite a row that another task has written the exit of and not
answered yet. -/
def ReserveUndisturbed (o : Op) (trace : List (Event Op Choice Sys)) : Prop :=
  ∀ id ∈ o.overwrites?, ¬ InfoUpdated trace id

instance (o : Op) (trace : List (Event Op Choice Sys)) : Decidable (ReserveUndisturbed o trace) := by
  unfold ReserveUndisturbed; infer_instance

/-- The steps of a run under which the charges of reserves are stored. -/
def ReserveStoredCond (pool : BackendPool) (l : BackendLabel) : Prop :=
  System.EachAct (fun _ _ o c s => ReserveUpdates o c s) pool l ∧
    System.EachOther (fun o _ _ trace => ReserveUndisturbed o trace) pool l

instance (pool : BackendPool) (l : BackendLabel) : Decidable (ReserveStoredCond pool l) := by
  unfold ReserveStoredCond; infer_instance

/-! ### One operation -/

variable {s : Sys} {o : Op} {c : Choice} {t a : Int}

/-- An operation that does not overwrite the row leaves the charge stored. -/
theorem reserveStored_exec (other : o.overwrites? ≠ some t) (stored : ReserveStored s t a) :
    ReserveStored (o.exec c s).2 t a := by
  obtain ⟨row, found, charge, exit, amount⟩ := stored
  obtain ⟨row', found', rfl | write⟩ := row?_of_exec (o := o) (c := c) found
  · exact ⟨row', found', charge, exit, amount⟩
  · refine ⟨row', found', ?_⟩
    cases write with
    | update entity => exact absurd rfl other
    | checkinCommit cols _ => exact ⟨charge, exit, amount⟩
    | checkoutInfo cols => exact absurd rfl other
    | checkoutCommit cols => exact ⟨charge, exit, amount⟩
    | hubId hubId now => exact ⟨charge, exit, amount⟩

/-- The `UPDATE` stores the charge. -/
theorem reserveStored_update {cols : CheckoutInfoColumns} (charge : cols.accountTransId = some a)
    (updates : ReserveUpdates (.stageUpdateCheckoutInfo t cols) c s) :
    ReserveStored ((Op.stageUpdateCheckoutInfo t cols).exec c s).2 t a := by
  obtain ⟨ok, positive, exists_row⟩ := updates a charge
  obtain ⟨row, found⟩ := Option.isSome_iff_exists.mp exists_row
  have executed : ((Op.stageUpdateCheckoutInfo t cols).exec c s).2.stages =
      s.stages.updateCheckoutInfo t cols := by
    simp only [Op.exec, Choice.statement, ok]
  refine ⟨row.setCheckoutInfo cols, ?_, ?_, rfl, rfl⟩
  · rw [executed, Option.mem_def, StageTable.row?_updateCheckoutInfo, if_pos rfl, found]
    rfl
  · simp [TransportTransactionStage.setCheckoutInfo, charge, positive]

/-! ### The contract of a reserve -/

/-- A reserve relies on its row once it has written it, and answers with success only when
its charge is stored. -/
def reserveContract : Contract backend where
  inv _ := True
  rely _ trace s s' := ∀ t a, InfoUpdated trace t → ReserveStored s t a → ReserveStored s' t a
  may _ _ o c s := ReserveUpdates o c s
  must _ trace o _ s := ∀ reserve t, o.answer? = some (.reserve reserve 0 t) →
    ∀ a, Charged trace t a → ReserveStored s t a
  rely_refl _ _ _ _ _ _ stored := stored
  rely_trans _ _ _ _ _ first second t a updated stored :=
    second t a updated (first t a updated stored)

variable {req : Req} {trace : List (Event Op Choice Sys)} {α : Type}

/-- The task has charged nothing. -/
def Uncharged (trace : List (Event Op Choice Sys)) : Prop :=
  ∀ ev ∈ trace, charge? ev = none

/-- The operation neither charges nor answers a reserve with success. -/
def ReserveSilent (o : Op) : Prop :=
  o.charge? = none ∧ ∀ reserve t, o.answer? ≠ some (.reserve reserve 0 t)

theorem charge?_eq_none (silent : o.charge? = none) : charge? ⟨o, c, s⟩ = none := by
  rw [charge?, silent]
  rfl

theorem charged_concat {ev : Event Op Choice Sys} :
    Charged (trace ++ [ev]) t a ↔ Charged trace t a ∨ charge? ev = some (t, a) := by
  unfold Charged
  simp only [List.mem_append, List.mem_singleton, or_and_right, exists_or, exists_eq_left]

theorem infoUpdated_concat {ev : Event Op Choice Sys} (updated : InfoUpdated trace t) :
    InfoUpdated (trace ++ [ev]) t := by
  obtain ⟨ev', mem, eq⟩ := updated
  exact ⟨ev', List.mem_append_left _ mem, eq⟩

/-- A program that neither charges nor answers with success. -/
theorem reserveSafe_of_silent {p : Program α} (silent : p.Only ReserveSilent)
    (uncharged : Uncharged trace) :
    reserveContract.Safe req p (fun _ tr _ => Uncharged tr) trace s := by
  refine Contract.safe_of_only (J := fun tr _ => Uncharged tr) silent uncharged
    (fun _ _ _ uncharged _ _ => uncharged) ?_
  intro tr s o c silent uncharged _ _
  refine ⟨fun reserve t answered => absurd answered (silent.2 reserve t), trivial,
    fun ev mem => ?_⟩
  rcases List.mem_append.mp mem with old | new
  · exact uncharged ev old
  · rw [List.mem_singleton.mp new]
    exact charge?_eq_none silent.1

theorem reserveSafe_bind {β : Type} {p : Program α} {f : α → Program β}
    (silent : p.Only ReserveSilent) (uncharged : Uncharged trace)
    (rest : ∀ a tr s, Uncharged tr →
      reserveContract.Safe req (f a) (fun _ _ _ => True) tr s) :
    reserveContract.Safe req (p >>= f) (fun _ _ _ => True) trace s :=
  Contract.safe_bind.mpr ((reserveSafe_of_silent silent uncharged).mono rest)

/-! ### The programs -/

theorem reserveSilent_of_none (charge : o.charge? = none) (answer : o.answer? = none) :
    ReserveSilent o := by
  refine ⟨charge, fun reserve t answered => ?_⟩
  rw [answer] at answered
  cases answered

theorem reserveSilent_ask (q : Query) : ReserveSilent (.ask q) :=
  reserveSilent_of_none rfl rfl

theorem reserveSilent_lookup (op : LookupOp o) : ReserveSilent o := by
  cases op <;> exact reserveSilent_of_none rfl rfl

theorem reserveSilent_answer (reserve : CheckoutReserveBoo) {status : Int}
    (refused : status ≠ 0) :
    (perform (.answer (.reserve reserve status t))).Only ReserveSilent := by
  refine (only_perform _).mpr ⟨rfl, fun _ _ eq => ?_⟩
  cases eq
  exact refused rfl

/-- What a charge returns is what the task has charged. -/
theorem chargeAccount_safe (accountId transAmount ticketId : Int) (now : Clock)
    (uncharged : Uncharged trace) :
    reserveContract.Safe req (chargeAccount accountId transAmount ticketId now)
      (fun charged tr _ => ∀ t a, Charged tr t a → charged = some a) trace s := by
  have nothing : ∀ {t a}, ¬ Charged trace t a := by
    rintro t a ⟨ev, mem, eq⟩
    rw [uncharged ev mem] at eq
    cases eq
  unfold chargeAccount
  split
  · refine Contract.safe_perform_bind.mpr fun s' _ _ c _ =>
      ⟨fun _ _ answered => (by cases answered), trivial, ?_⟩
    cases fault : c.fault with
    | none =>
      have result : ∀ params, ((Op.accountInsert params).exec c s').1 = .ok c.freshId := fun _ => by
        simp only [Op.exec, Choice.statement, fault]
      rw [backend_exec, result]
      refine Contract.safe_pure.mpr fun t a charged => ?_
      rcases charged_concat.mp charged with old | new
      · exact absurd old nothing
      · simp [charge?, Op.charge?, fault] at new
        rw [new.2]
    | some message =>
      have result : ∀ params, ((Op.accountInsert params).exec c s').1 = .error message :=
        fun _ => by simp only [Op.exec, Choice.statement, fault]
      rw [backend_exec, result]
      refine Contract.safe_pure.mpr fun t a charged => ?_
      rcases charged_concat.mp charged with old | new
      · exact absurd old nothing
      · simp [charge?, Op.charge?, fault] at new
  · exact Contract.safe_pure.mpr fun t a charged => absurd charged nothing

/-- What a reserve has charged is in the row of its ticket, which it has written. -/
def ChargeStored (t : Int) (trace : List (Event Op Choice Sys)) (s : Sys) : Prop :=
  InfoUpdated trace t ∧ ∀ u a, Charged trace u a → ReserveStored s t a

/-- What follows the `UPDATE` is safe once the charge is stored. -/
theorem reserveSafe_of_stored {p : Program α}
    (only : p.Only fun o => o.overwrites? = none ∧ o.charge? = none ∧
      ∀ reserve u, o.answer? = some (.reserve reserve 0 u) → u = t)
    (stored : ChargeStored t trace s) :
    reserveContract.Safe req p (fun _ _ _ => True) trace s := by
  have others : ∀ (tr : List (Event Op Choice Sys)) (s s' : Sys), ChargeStored t tr s →
      reserveContract.rely req tr s s' → reserveContract.inv s' → ChargeStored t tr s' :=
    fun _ _ _ stored rely _ => ⟨stored.1, fun u a charged =>
      rely t a stored.1 (stored.2 u a charged)⟩
  refine (Contract.safe_of_only (J := ChargeStored t) only stored others ?_).mono
    fun _ _ _ _ => trivial
  intro tr s o c allowed stored _ _
  refine ⟨fun reserve u answered a charged => ?_, trivial, infoUpdated_concat stored.1,
    fun u a charged => ?_⟩
  · rw [allowed.2.2 reserve u answered]
    exact stored.2 u a charged
  · rcases charged_concat.mp charged with old | new
    · exact reserveStored_exec (by rw [allowed.1]; exact nofun) (stored.2 u a old)
    · rw [charge?_eq_none allowed.2.1] at new
      cases new

theorem reserveEtdr_safe (reserve : CheckoutReserveBoo) (etdr : Etdr) (transAmount : Int)
    (details : List RatingDetail) (uncharged : Uncharged trace) :
    reserveContract.Safe req (reserveEtdr reserve etdr transAmount details) (fun _ _ _ => True)
      trace s := by
  have silent_ask : ∀ q, (ask q).Only ReserveSilent := fun q =>
    (only_ask _).mpr (reserveSilent_ask q)
  refine reserveSafe_bind (silent_ask _) uncharged fun subscriberInfo tr s uncharged => ?_
  refine reserveSafe_bind (silent_ask _) uncharged fun env tr s uncharged => ?_
  refine reserveSafe_bind ((only_perform _).mpr (reserveSilent_of_none rfl rfl)) uncharged
    fun _ tr s uncharged => ?_
  refine reserveSafe_bind (silent_ask _) uncharged fun env' tr s uncharged => ?_
  refine Contract.safe_bind.mpr ((chargeAccount_safe _ _ _ _ uncharged).mono ?_)
  intro charged tr s charges
  refine Contract.safe_perform_bind.mpr fun s' _ _ c may =>
    ⟨fun _ _ answered => (by cases answered), trivial, ?_⟩
  have updated : ∀ cols, InfoUpdated (tr ++ [⟨.stageUpdateCheckoutInfo etdr.ticketId cols, c, s'⟩])
      etdr.ticketId := fun cols => ⟨_, List.mem_append_right _ (List.mem_singleton_self _), rfl⟩
  refine reserveSafe_of_stored (t := etdr.ticketId) ?_ ⟨updated _, fun u a charge => ?_⟩
  · refine Prog.Only.bind ?_ fun _ => (only_perform _).mpr
      ⟨rfl, rfl, fun _ _ answered => (Answer.reserve.inj (Option.some.inj answered)).2.2.symm⟩
    refine (only_ask_bind _ _).mpr ⟨⟨rfl, rfl, fun _ _ answered => by cases answered⟩, fun r => ?_⟩
    split
    · trivial
    · exact (only_perform _).mpr ⟨rfl, rfl, fun _ _ answered => by cases answered⟩
  · rcases charged_concat.mp charge with old | new
    · exact reserveStored_update (charges u a old) may
    · cases new

theorem processCheckoutReserve_safe (reserve : CheckoutReserveBoo) (uncharged : Uncharged trace) :
    reserveContract.Safe req (processCheckoutReserve reserve) (fun _ _ _ => True) trace s := by
  have refused : ∀ {status t} tr s, status ≠ 0 → Uncharged tr → reserveContract.Safe req
      (perform (.answer (.reserve reserve status t))) (fun _ _ _ => True) tr s :=
    fun _ _ ne uncharged => (reserveSafe_of_silent (reserveSilent_answer reserve ne)
      uncharged).mono fun _ _ _ _ => trivial
  refine reserveSafe_bind ((resolveLatestEtdr_only _).mono fun _ => reserveSilent_lookup) uncharged
    fun latest tr s uncharged => ?_
  split
  · exact refused _ _ (by decide) uncharged
  · split
    · exact refused _ _ (by decide) uncharged
    · refine reserveSafe_bind ((only_ask _).mpr (reserveSilent_ask _)) uncharged
        fun fee tr s uncharged => ?_
      split
      · exact reserveEtdr_safe reserve _ _ _ uncharged
      · refine reserveSafe_bind ((only_ask _).mpr (reserveSilent_ask _)) uncharged
          fun env tr s uncharged => ?_
        split
        · exact reserveEtdr_safe reserve _ _ _ uncharged
        · exact refused _ _ (by decide) uncharged

/-! ### Runs -/

theorem reserveContract_sound : reserveContract.Sound ReserveStoredCond where
  start pool req _ _ := by
    by_cases reserve : ∃ reserve, req = .reserve reserve
    · obtain ⟨reserve, rfl⟩ := reserve
      exact processCheckoutReserve_safe reserve fun _ mem => absurd mem List.not_mem_nil
    · refine Contract.safe_of_only (J := fun _ _ => True) (program_only req) trivial
        (fun _ _ _ _ _ _ => trivial) fun _ _ _ _ performs _ _ _ => ⟨?_, trivial, trivial⟩
      exact fun reserve' t answered => absurd ⟨reserve', isFor_of_performs performs answered⟩ reserve
  own pool i c req trace o next meets found := meets.1 req trace o next found
  others pool i c req trace o next j req' trace' o' next' meets found _ _ ne other := by
    intro t a updated stored
    refine reserveStored_exec (fun overwrites => ?_) stored
    exact meets.2.other found ne other t overwrites updated

/-- In a run under the condition, the charge of a reserve is stored when the reserve is
answered with success. -/
theorem reserveStored_of_reaches {s : Sys} {pool : BackendPool}
    (reaches : backend.Reaches ReserveStoredCond (Pool.init s) pool) {i : Nat}
    {task : Task Op Op.Res Choice Sys Req} (found : pool.tasks[i]? = some task) :
    Along (fun before o _ s => ∀ reserve t, o = .answer (.reserve reserve 0 t) →
      ∀ a, Charged before t a → ReserveStored s t a) task.trace := by
  intro k bound ev at_k reserve t answer
  exact reserveContract_sound.along_of_reaches trivial reaches found k bound ev at_k reserve t
    (by rw [answer]; rfl)

end TollBackend

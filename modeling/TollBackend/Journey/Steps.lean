import TollBackend.Answered
import TollBackend.Concurrent.Among
import TollBackend.Journey.Spared

/-!
# The operations of a journey

The handlers of a journey work: no statement or command of theirs fails, the id service gives
them the ticket of the trip, and the other services know the tag, its lane and its fee. Each of
their writes takes the trip from one milestone to the next.

## Main definitions

* `Journey.Favours`, `Journey.Healthy`: what a handler's operation is performed under.
* `Journey.setting`: the handlers of a journey among requests that spare it.

## Main results

* `exists_healthy`: every operation can be performed so.
* `Ready.insert`, `Underway.update`, `Underway.save`, `Underway.book`, `Underway.settle`: what the
  writes do.
-/

namespace TollBackend

open Concurrent Setting

namespace Journey

/-! ### The setting -/

/-- The services answer a query in favour of the trip. -/
def FavoursQuery (j : Journey) (c : Choice) : Query → Prop
  | .nextTicketId => c.freshId = j.ticket
  | .balanceTooLow _ => c.balanceTooLow = false
  | .laneType _ _ => c.laneType = some laneTypeIn
  | .subscriberByEtag _ => c.subscriber.any (fun sub => decide (0 < sub.accountId)) = true
  | .calculateTollFee _ _ => c.fee.isSome = true
  | .observe | .connect | .stageFindById _ | .stageFindByTicketInId _ | .stageFindLatestByEtag _
  | .syncFindLatestByEtag _ | .syncDtFindByTransportSyncId _ | .nextSequenceValue
  | .generateTicketId | .vehicleTypeFromExList _ _ | .accountTransactionForCommit _
  | .keydbGet _ | .keydbKeys _ | .keydbGetMany _ | .unsavedFromMemory | .pendingTcd _
  | .saveTcdList _ _ | .ratingDetailCached _ | .retryLock _ | .hashOrder => True

instance (j : Journey) (c : Choice) (q : Query) : Decidable (j.FavoursQuery c q) := by
  cases q <;> (unfold FavoursQuery; infer_instance)

/-- An operation is answered in favour of the trip; an account transaction has a new id. -/
def Favours (j : Journey) (s : Sys) (c : Choice) : Op → Prop
  | .ask q => j.FavoursQuery c q
  | .accountInsert _ => 0 < c.freshId ∧ (s.account? c.freshId).isNone = true
  | .stageInsertRow _ | .stageUpdate _ _ | .stageUpdateCheckinCommit _ _
  | .stageUpdateCheckoutInfo _ _ | .stageUpdateCheckoutCommit _ _ | .stageUpdateHubId _ _
  | .accountUpdateCommitStatus _ _ _ | .cacheGetLatestCheckin _ | .cacheGetAllByEtag _
  | .cacheGetByTicketId _ | .cacheFillFromSync _ _ _ | .saveEtdr _ | .saveEtdrToMemoryOnly _
  | .cacheRemoveByTicketId _ | .cacheUpdateHubId _ _ | .takeSpawned | .keydbSet _ _
  | .keydbRemove _ | .setPendingTcd _ _ | .removePendingTcd _ | .sendKafka _ | .answer _ => True

instance (j : Journey) (s : Sys) (c : Choice) (o : Op) : Decidable (j.Favours s c o) :=
  match o with
  | .ask _ => by unfold Favours; infer_instance
  | .accountInsert _ => by unfold Favours; infer_instance
  | .stageInsertRow _ | .stageUpdate _ _ | .stageUpdateCheckinCommit _ _
  | .stageUpdateCheckoutInfo _ _ | .stageUpdateCheckoutCommit _ _ | .stageUpdateHubId _ _
  | .accountUpdateCommitStatus _ _ _ | .cacheGetLatestCheckin _ | .cacheGetAllByEtag _
  | .cacheGetByTicketId _ | .cacheFillFromSync _ _ _ | .saveEtdr _ | .saveEtdrToMemoryOnly _
  | .cacheRemoveByTicketId _ | .cacheUpdateHubId _ _ | .takeSpawned | .keydbSet _ _
  | .keydbRemove _ | .setPendingTcd _ _ | .removePendingTcd _ | .sendKafka _ | .answer _ =>
      isTrue trivial

/-- An operation does not fail, at a time in the trip, and is answered in its favour. -/
@[mk_iff] structure Healthy (j : Journey) (o : Op) (c : Choice) (s : Sys) : Prop where
  works : c.fault = none
  later : j.start * 1000 ≤ c.env.now.ms
  favours : j.Favours s c o

instance (j : Journey) (o : Op) (c : Choice) (s : Sys) : Decidable (j.Healthy o c s) :=
  decidable_of_iff _ (j.healthy_iff o c s).symm

/-- The handlers of a journey, among requests that spare it. -/
def setting (j : Journey) : Setting backend Out where
  emit := Op.outs
  env := j.Spared
  may := j.Healthy
  env_refl := Spared.refl j
  env_trans := Spared.trans

variable {j : Journey} {o : Op} {c : Choice} {s s' : Sys} {m n : Milestone} {charge : Charge}
  {status : Option Int} {α β : Type}

theorem Healthy.orFault (healthy : j.Healthy o c s) {value : β} : c.orFault value = .ok value := by
  rw [Choice.orFault, healthy.works]

theorem Healthy.statement (healthy : j.Healthy o c s) {value : β} {before after : Sys} :
    c.statement value before after = (.ok value, after) := by
  rw [Choice.statement, healthy.works]

/-! ### Operations can be performed -/

/-- Some id belongs to no account transaction. -/
theorem exists_account?_eq_none (s : Sys) : ∃ id, 0 < id ∧ s.account? id = none := by
  -- zero is left out as well, since an id is positive
  obtain ⟨n, fresh⟩ := Infinite.exists_notMem_finset
    (insert 0 (s.accounts.map fun account => account.accountTransactionId.toNat).toFinset)
  rw [Finset.mem_insert, not_or, List.mem_toFinset, List.mem_map] at fresh
  refine ⟨n, by omega, ?_⟩
  rw [Sys.account?, List.find?_eq_none]
  intro account mem same
  rw [beq_iff_eq] at same
  exact fresh.2 ⟨account, mem, by rw [same, Int.toNat_natCast]⟩

/-- What resolves an operation in favour of the trip, but for the ids that are drawn. -/
def Favour (j : Journey) (id : Int) : Choice where
  env := { now := ⟨j.start * 1000, by have := j.started; omega⟩ }
  freshId := id
  subscriber := some { accountId := 1 }
  fee := some (0, [])
  laneType := some laneTypeIn

/-- Every operation can be performed. -/
theorem exists_healthy (j : Journey) (o : Op) (s : Sys) : ∃ c, j.Healthy o c s := by
  have healthy : ∀ id, j.Favours s (j.Favour id) o → ∃ c, j.Healthy o c s :=
    fun id favours => ⟨j.Favour id, rfl, le_refl _, favours⟩
  cases o with
  | ask q =>
    cases q with
    | nextTicketId => exact healthy j.ticket rfl
    | balanceTooLow accountId => exact healthy 0 rfl
    | laneType station lane => exact healthy 0 rfl
    | subscriberByEtag etag => exact healthy 0 rfl
    | calculateTollFee etdr req => exact healthy 0 rfl
    | _ => exact healthy 0 trivial
  | accountInsert params =>
    obtain ⟨id, positive, fresh⟩ := exists_account?_eq_none s
    exact healthy id ⟨positive, Option.isNone_iff_eq_none.mpr fresh⟩
  | _ => exact healthy 0 trivial

/-! ### The rule of an operation -/

/-- An operation that sends nothing, from what the others keep. -/
theorem amid_perform {J : Sys → Prop} {next : o.Res → Program α} {sent : List Out}
    {post : α → List Out → Sys → Prop} (silent : o.outs = [])
    (stable : j.setting.Stable J) (holds : J s)
    (rest : ∀ c s', J s' → j.Healthy o c s' →
      j.setting.Amid (next (o.exec c s').1) sent post (o.exec c s').2) :
    j.setting.Amid (perform o >>= next) sent post s := by
  intro s' spared c healthy
  have quiet : sent ++ j.setting.emit o = sent := by
    show sent ++ o.outs = sent
    rw [silent, List.append_nil]
  rw [quiet]
  exact rest c s' (stable spared holds) healthy

/-- A query. -/
theorem amid_ask {J : Sys → Prop} {q : Query} {next : q.Reply → Program α} {sent : List Out}
    {post : α → List Out → Sys → Prop} (stable : j.setting.Stable J) (holds : J s)
    (rest : ∀ c s', J s' → j.Healthy (.ask q) c s' →
      j.setting.Amid (next (q.reply c s')) sent post s') :
    j.setting.Amid (ask q >>= next) sent post s :=
  amid_perform (outs_ask q) stable holds rest

/-- Operations that send nothing and spare the trip. -/
theorem amid_of_spares {J : Sys → Prop} {p : Program β} {next : β → Program α} {sent : List Out}
    {post : α → List Out → Sys → Prop} (stable : j.setting.Stable J)
    (only : p.Only fun o => o.outs = [] ∧ ∀ s, o.Spares j s) (holds : J s)
    (rest : ∀ b s', J s' → j.setting.Amid (next b) sent post s') :
    j.setting.Amid (p >>= next) sent post s :=
  amid_bind_of_only stable only (fun _ quiet => quiet.1)
    (fun _ c s quiet _ holds => stable ((quiet.2 s).spared c) holds) holds rest

/-- The event of a commit. -/
theorem amid_sendKafka {J : Sys → Prop} {e : KafkaEvent} {next : Unit → Program α}
    {sent : List Out} {post : α → List Out → Sys → Prop} (stable : j.setting.Stable J)
    (holds : J s) (rest : ∀ s', J s' → j.setting.Amid (next ()) (sent ++ [.event e]) post s') :
    j.setting.Amid (perform (.sendKafka e) >>= next) sent post s := by
  intro s' spared c _
  have spares : (Op.sendKafka e).Spares j s' := trivial
  exact rest _ (stable (spares.spared c) (stable spared holds))

/-- The answer at the end of a request. -/
theorem amid_answer {J : Sys → Prop} {a : Answer} {sent : List Out}
    {post : Unit → List Out → Sys → Prop} (stable : j.setting.Stable J) (holds : J s)
    (ends : ∀ s', J s' → post () (sent ++ [.answer a]) s') :
    j.setting.Amid (perform (.answer a)) sent post s := by
  intro s' spared c _ s'' later
  have spares : (Op.answer a).Spares j s' := trivial
  exact ends s'' (stable later (stable (spares.spared c) (stable spared holds)))

theorem ask_quiet (j : Journey) (q : Query) : (Op.ask q).outs = [] ∧ ∀ s, (Op.ask q).Spares j s :=
  ⟨rfl, fun _ => trivial⟩

/-! ### What the writes do -/

/-- The rows of other ids are what they were. -/
theorem Past.withStages (past : j.Past s) {stages : StageTable}
    (others : ∀ id, id ≠ j.ticket → stages.row? id = s.stages.row? id) :
    j.Past { s with stages := stages } where
  wellFormed := past.wellFormed
  rows row mem elsewhere := by
    have here := StageTable.row?_eq_some_iff.mpr ⟨mem, rfl⟩
    rw [others _ elsewhere] at here
    exact past.rows row (StageTable.row?_eq_some_iff.mp here).1 elsewhere
  records := past.records
  syncs := past.syncs

/-- What is known from before the trip does not tell of account transactions. -/
theorem Past.withAccounts (past : j.Past s) (accounts : List AccountTransaction)
    (commits : List Int) :
    j.Past { s with accounts := accounts, accountCommits := commits } :=
  ⟨past.wellFormed, past.rows, past.records, past.syncs⟩

/-- The row of the trip is inserted. -/
theorem Ready.insert (ready : j.Ready s) {entity : TransportTransactionStage}
    {sysdate : DbDatetime} {stages : StageTable} (id : entity.transportTransId = j.ticket)
    (done : s.stages.insertRow entity sysdate = some stages)
    (at_ : j.RowAt .entered (entity.insertColumns sysdate)) :
    j.Underway .entered .entered .free none { s with stages := stages } where
  toPast := ready.toPast.withStages fun id' other => by
    rw [(StageTable.row?_insertRow done).2, if_neg (id.symm ▸ other)]
  row := ⟨_, by rw [← id]; exact StageTable.row?_of_insertRow done, at_⟩
  cached key e cached own := absurd own (ready.cached key e cached)
  booked := booked_free j none _

/-- The row of the trip is updated. -/
theorem Underway.update (underway : j.Underway m n charge status s)
    {set : TransportTransactionStage → TransportTransactionStage} {stages : StageTable}
    {m' : Milestone} (updated : ∀ id, stages.row? id =
      if id = j.ticket then (s.stages.row? id).map set else s.stages.row? id)
    (at_ : ∀ row, s.stages.row? j.ticket = some row → j.RowAt m row → j.RowAt m' (set row)) :
    j.Underway m' n charge status { s with stages := stages } where
  toPast := underway.toPast.withStages fun id other => by rw [updated, if_neg other]
  row := by
    obtain ⟨row, found, old⟩ := underway.row
    refine ⟨set row, ?_, at_ row found old⟩
    rw [updated, if_pos rfl, found, Option.map_some]
  cached := underway.cached
  booked := underway.booked

/-- A record of the trip is saved. -/
theorem Underway.save (underway : j.Underway m n charge status s) (write : EtdrWrite)
    {n' : Milestone} (at_ : j.RecordAt n' write.etdr) (c : Choice) :
    j.Underway m n' charge status ((Op.saveEtdr write).exec c s).2 where
  wellFormed := underway.wellFormed.put _ _ _
  rows := underway.rows
  records e cached other := by
    rcases EtdrCache.put_cached cached with ⟨-, rfl⟩ | old
    · exact absurd at_.ticket other
    · exact underway.records e old other
  syncs := underway.syncs
  row := underway.row
  cached key e cached own := by
    rcases EtdrCache.put_cached cached with ⟨tag, rfl⟩ | old
    · exact ⟨tag.trans at_.tag, at_⟩
    · -- a record of the ticket stands under its tag, where the new record has taken its place
      have tag := (underway.cached key e old own).1
      have nonzero : write.etdr.ticketId ≠ 0 := at_.ticket ▸ j.issued
      rw [tag, ← at_.tag] at cached
      have same := underway.wellFormed.eq_of_put_cached nonzero cached (own.trans at_.ticket.symm)
      exact ⟨tag, same ▸ at_⟩
  booked := underway.booked

/-- The fee is charged. -/
theorem Underway.book (underway : j.Underway m n .free none s) {charge : Charge} {id : Int}
    {params : InsertAccountTransactionParams} (account : charge.account = some id)
    (amount : params.amount = charge.amount) (own : params.transportTransId = j.ticket)
    (fresh : s.account? id = none) :
    j.Underway m n charge none { s with accounts := s.accounts ++ [params.row id] } where
  toPast := underway.toPast.withAccounts _ _
  row := underway.row
  cached := underway.cached
  booked id' charged := by
    rw [account, Option.mem_some_iff] at charged
    subst charged
    refine ⟨params.row id, ?_, own, amount, rfl, rfl⟩
    have absent : s.accounts.find? (fun account => account.accountTransactionId == id) = none :=
      fresh
    rw [Sys.account?, List.find?_append, absent, Option.none_or,
      List.find?_cons_of_pos (by simp [InsertAccountTransactionParams.row])]

/-- The charge is made final. -/
theorem Underway.settle (underway : j.Underway m n charge status s) {id : Int}
    (account : charge.account = some id) (finish : DbDatetime) :
    j.Underway m n charge (some autocommitStatusSuccess)
      (s.setAccountStatus id autocommitStatusSuccess finish) where
  toPast := underway.toPast.withAccounts _ _
  row := underway.row
  cached := underway.cached
  booked id' charged := by
    rw [account, Option.mem_some_iff] at charged
    subst charged
    obtain ⟨stored, found, own, amount, autocommit, -⟩ := underway.booked id account
    have matched : stored.accountTransactionId = id := by simpa using List.find?_some found
    have after := account?_setAccountStatus s id autocommitStatusSuccess finish id
    rw [found, Option.map_some, if_pos matched] at after
    exact ⟨_, after, own, amount, autocommit, rfl⟩

end Journey

end TollBackend

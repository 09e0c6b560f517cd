import TollBackend.Journey.Milestones
import TollBackend.SyncImport

/-!
# What other requests do to a journey

The requests of other vehicles, the retry task and the hub's updates run between the operations
of a journey. Those that spare it leave the row and the account transaction of the trip, and put
no other record of the tag into the cache. They may take the trip's records out of it.

## Main definitions

* `Op.Spares`: the operations that spare a journey.
* `Journey.Spared`: what they do to the state.
* `Journey.Ready`, `Journey.Underway`: a trip that has not begun, or has got somewhere.

## Main results

* `Op.Spares.spared`: an operation that spares a journey does that.
* `Spared.ready`, `Spared.underway`: a journey that is spared is where it was.
-/

namespace TollBackend

open Concurrent

/-! ### Operations that spare a journey -/

/-- The row of an id is not that of the trip, nor another row of the tag. -/
def Journey.RowElsewhere (j : Journey) (s : Sys) (id : Int) : Prop :=
  id ≠ j.ticket ∧ ∀ row ∈ s.stages.row? id,
    row.etagNumber ≠ some j.tag ∧ row.ticketInId ≠ some j.ticket

instance (j : Journey) (s : Sys) (id : Int) : Decidable (j.RowElsewhere s id) := by
  unfold Journey.RowElsewhere; infer_instance

/-- An operation writes nothing of the trip but what the hub tells about it. -/
def Op.Spares (j : Journey) (s : Sys) : Op → Prop
  | .stageInsertRow stage => stage.transportTransId ≠ j.ticket ∧
      stage.etagNumber ≠ some j.tag ∧ stage.ticketInId ≠ some j.ticket
  | .stageUpdate id stage => id ≠ j.ticket ∧
      stage.etagNumber ≠ some j.tag ∧ stage.ticketInId ≠ some j.ticket
  | .stageUpdateCheckinCommit id _ | .stageUpdateCheckoutInfo id _
  | .stageUpdateCheckoutCommit id _ => j.RowElsewhere s id
  | .stageUpdateHubId id _ => id = j.ticket ∨ j.RowElsewhere s id
  | .accountUpdateCommitStatus id _ _ => ∀ account ∈ s.account? id,
      account.transportTransId ≠ j.ticket
  | .cacheFillFromSync etag _ _ => normalizeEtag etag ≠ j.tag
  | .saveEtdr write => normalizeEtag write.etdr.etagId ≠ j.tag ∧ write.etdr.ticketId ≠ j.ticket
  | .saveEtdrToMemoryOnly etdr => normalizeEtag etdr.etagId ≠ j.tag ∧ etdr.ticketId ≠ j.ticket
  | .ask _ | .accountInsert _ | .cacheGetLatestCheckin _ | .cacheGetAllByEtag _
  | .cacheGetByTicketId _ | .cacheRemoveByTicketId _ | .cacheUpdateHubId _ _ | .takeSpawned
  | .keydbSet _ _ | .keydbRemove _ | .setPendingTcd _ _ | .removePendingTcd _ | .sendKafka _
  | .answer _ => True

instance (j : Journey) (s : Sys) (o : Op) : Decidable (o.Spares j s) := by
  cases o <;> (unfold Op.Spares; infer_instance)

namespace Journey

/-- Nothing of the trip changes but what the hub tells about it, and its records stay or go. -/
structure Spared (j : Journey) (s s' : Sys) : Prop where
  row : ∀ row, s.stages.row? j.ticket = some row → ∃ hubId lastUpdate,
    s'.stages.row? j.ticket = some (row.withHub hubId lastUpdate)
  absent : s.stages.row? j.ticket = none → s'.stages.row? j.ticket = none
  rows : ∀ row ∈ s'.stages.rows, row.transportTransId ≠ j.ticket →
    row.etagNumber = some j.tag ∨ row.ticketInId = some j.ticket → row ∈ s.stages.rows
  cached : ∀ key e', s'.cache.Cached key e' → key = j.tag ∨ e'.ticketId = j.ticket →
    ∃ e, s.cache.Cached key e ∧ e.ticketId = e'.ticketId ∧
      (key = j.tag → ∃ hubId, e' = e.withHub hubId)
  charged : ∀ id account, s.account? id = some account →
    account.transportTransId = j.ticket → s'.account? id = some account
  syncs : s'.syncs = s.syncs
  wellFormed : s.cache.WellFormed → s'.cache.WellFormed

variable {j : Journey} {s s' s'' : Sys} {o : Op} {c : Choice}

theorem Spared.refl (j : Journey) (s : Sys) : j.Spared s s where
  row row found := ⟨row.hubId, row.lastUpdate, found⟩
  absent := id
  rows _ mem _ _ := mem
  cached _ e' cached _ := ⟨e', cached, rfl, fun _ => ⟨e'.hubId, rfl⟩⟩
  charged _ _ found _ := found
  syncs := rfl
  wellFormed := id

theorem Spared.trans (first : j.Spared s s') (second : j.Spared s' s'') : j.Spared s s'' where
  row row found := by
    obtain ⟨_, _, between⟩ := first.row row found
    obtain ⟨hubId, lastUpdate, after⟩ := second.row _ between
    exact ⟨hubId, lastUpdate, after⟩
  absent none_before := second.absent (first.absent none_before)
  rows row mem elsewhere own :=
    first.rows row (second.rows row mem elsewhere own) elsewhere own
  cached key e'' cached own := by
    obtain ⟨e', between, same, hub⟩ := second.cached key e'' cached own
    obtain ⟨e, before, same', hub'⟩ := first.cached key e' between (own.imp_right same.trans)
    refine ⟨e, before, same'.trans same, fun tag => ?_⟩
    obtain ⟨hubId, rfl⟩ := hub tag
    obtain ⟨hubId', rfl⟩ := hub' tag
    exact ⟨hubId, rfl⟩
  charged id account found own := second.charged id account (first.charged id account found own) own
  syncs := second.syncs.trans first.syncs
  wellFormed wf := second.wellFormed (first.wellFormed wf)

/-! ### One operation -/

theorem eq_or_hub_of_rowWrite {id : Int} {row row' : TransportTransactionStage}
    (spares : o.Spares j s) (found : s.stages.row? id = some row) (write : RowWrite id row o row') :
    (id = j.ticket ∧ ∃ hubId lastUpdate, row' = row.withHub hubId lastUpdate) ∨
      id ≠ j.ticket ∧ row'.etagNumber ≠ some j.tag ∧ row'.ticketInId ≠ some j.ticket := by
  cases write with
  | update entity => exact .inr spares
  | checkinCommit cols waiting => exact .inr ⟨spares.1, spares.2 row found⟩
  | checkoutInfo cols => exact .inr ⟨spares.1, spares.2 row found⟩
  | checkoutCommit cols => exact .inr ⟨spares.1, spares.2 row found⟩
  | hubId hubId now =>
    rcases spares with own | elsewhere
    · exact .inl ⟨own, some hubId, some now, rfl⟩
    · exact .inr ⟨elsewhere.1, elsewhere.2 row found⟩

/-- The account transactions of other trips change. -/
theorem account?_of_exec (spares : o.Spares j s) {id : Int} {account : AccountTransaction}
    (found : s.account? id = some account) (own : account.transportTransId = j.ticket) :
    (o.exec c s).2.account? id = some account := by
  rcases accounts_of_exec o c s with ⟨same, -⟩ | write
  · rw [Sys.account?, same]
    exact found
  · generalize (o.exec c s).2 = after at write
    cases write with
    | insert params id' accounts commits =>
      rw [Sys.account?, accounts, List.find?_append, ← Sys.account?, found]
      rfl
    | status id' status finish accounts commits =>
      have other : id' ≠ id := by
        rintro rfl
        exact spares account found own
      rw [Sys.account?, accounts]
      refine (account?_setAccountStatus s id' status finish id).trans ?_
      rw [found, Option.map_some, if_neg]
      have matched : account.accountTransactionId = id := by simpa using List.find?_some found
      rw [matched]
      exact other.symm

theorem cached_of_spares (spares : o.Spares j s) {key : String} {e' : Etdr}
    (cached : (o.exec c s).2.cache.Cached key e') (own : key = j.tag ∨ e'.ticketId = j.ticket) :
    ∃ e, s.cache.Cached key e ∧ e.ticketId = e'.ticketId ∧
      (key = j.tag → ∃ hubId, e' = e.withHub hubId) := by
  rcases cached_of_exec cached with old | write
  · exact ⟨e', old, rfl, fun _ => ⟨e'.hubId, rfl⟩⟩
  · cases write with
    | save write c => exact absurd own (not_or.mpr spares)
    | saveToMemory etdr c => exact absurd own (not_or.mpr spares)
    | @fill etag sync c e old => exact ⟨e, old, rfl, fun tag => absurd tag spares⟩
    | @hubId hubId c key e old => exact ⟨e, old, rfl, fun _ => ⟨some hubId, rfl⟩⟩

end Journey

/-- An operation that spares a journey changes nothing of the trip. -/
theorem Op.Spares.spared {j : Journey} {s : Sys} {o : Op} (spares : o.Spares j s) (c : Choice) :
    j.Spared s (o.exec c s).2 where
  row row found := by
    obtain ⟨row', found', rfl | write⟩ := row?_of_exec (o := o) (c := c) found
    · exact ⟨row'.hubId, row'.lastUpdate, found'⟩
    · have hub := Journey.eq_or_hub_of_rowWrite spares found write
      obtain ⟨-, hubId, lastUpdate, rfl⟩ | other := hub
      · exact ⟨hubId, lastUpdate, found'⟩
      · exact absurd rfl other.1
  absent none_before := by
    cases after : (o.exec c s).2.stages.row? j.ticket with
    | none => rfl
    | some row =>
      obtain ⟨entity, sysdate, rfl, id, -⟩ := row?_of_exec_of_none none_before after
      exact absurd id spares.1
  rows row mem elsewhere own := by
    have after := StageTable.row?_eq_some_iff.mpr ⟨mem, rfl⟩
    cases before : s.stages.row? row.transportTransId with
    | none =>
      obtain ⟨entity, sysdate, rfl, -, inserted⟩ := row?_of_exec_of_none before after
      rw [inserted] at own
      exact absurd own (not_or.mpr spares.2)
    | some old =>
      -- a row that is written bears neither the tag nor the ticket of the trip afterwards
      obtain ⟨row', found', same⟩ := row?_of_exec (o := o) (c := c) before
      cases after.symm.trans found'
      rcases same with rfl | write
      · exact (StageTable.row?_eq_some_iff.mp before).1
      · rcases Journey.eq_or_hub_of_rowWrite spares before write with hub | ⟨-, other⟩
        · exact absurd hub.1 elsewhere
        · exact absurd own (not_or.mpr other)
  cached _ _ cached own := Journey.cached_of_spares spares cached own
  charged _ _ found own := Journey.account?_of_exec spares found own
  syncs := syncs_exec o c s
  wellFormed := wellFormed_exec

namespace Journey

/-! ### A trip in the state -/

/-- The cache is well formed, and all else that is known of the tag and of the ticket is from
before the trip. -/
structure Past (j : Journey) (s : Sys) : Prop where
  wellFormed : s.cache.WellFormed
  rows : ∀ row ∈ s.stages.rows, row.transportTransId ≠ j.ticket → row.CheckedIn →
    row.ticketInId ≠ some j.ticket ∧
      (row.etagNumber = some j.tag → ∃ d, row.checkinTime = some d ∧ d.epochSeconds < j.start)
  records : ∀ e, s.cache.Cached j.tag e → e.ticketId ≠ j.ticket →
    e.checkinDatetime < j.start * 1000
  syncs : ∀ sync, syncFindLatestByEtag s.syncs j.tag = some sync →
    recordTimeMs sync.checkinDatetime sync.insertDatetime < j.start * 1000

/-- The trip has not begun. -/
structure Ready (j : Journey) (s : Sys) : Prop extends Past j s where
  absent : s.stages.row? j.ticket = none
  cached : ∀ key e, s.cache.Cached key e → e.ticketId ≠ j.ticket

/-- The account transaction of a charge, if there is one, is stored with its amount and a
status. -/
def Booked (j : Journey) (charge : Charge) (status : Option Int) (s : Sys) : Prop :=
  ∀ id ∈ charge.account, ∃ account, s.account? id = some account ∧
    account.transportTransId = j.ticket ∧ account.amount = charge.amount ∧
      account.autocommit = some 2 ∧ account.autocommitStatus = status

/-- The row of the trip has got to `m` and its records to `n`, and `charge` is booked. -/
structure Underway (j : Journey) (m n : Milestone) (charge : Charge) (status : Option Int)
    (s : Sys) : Prop extends Past j s where
  row : ∃ row, s.stages.row? j.ticket = some row ∧ j.RowAt m row
  cached : ∀ key e, s.cache.Cached key e → e.ticketId = j.ticket →
    key = j.tag ∧ j.RecordAt n e
  booked : j.Booked charge status s

theorem booked_free (j : Journey) (status : Option Int) (s : Sys) :
    j.Booked .free status s := nofun

variable {j : Journey} {s s' : Sys} {m n : Milestone} {charge : Charge} {status : Option Int}

theorem Spared.past (spared : j.Spared s s') (past : j.Past s) : j.Past s' where
  wellFormed := spared.wellFormed past.wellFormed
  rows row mem elsewhere checkedIn := by
    have before := fun own => past.rows row (spared.rows row mem elsewhere own) elsewhere checkedIn
    exact ⟨fun same => (before (.inr same)).1 same, fun same => (before (.inl same)).2 same⟩
  records e' cached other := by
    obtain ⟨e, before, same, hub⟩ := spared.cached _ e' cached (.inl rfl)
    obtain ⟨hubId, rfl⟩ := hub rfl
    exact past.records e before other
  syncs := by
    rw [spared.syncs]
    exact past.syncs

theorem Spared.booked (spared : j.Spared s s') (booked : j.Booked charge status s) :
    j.Booked charge status s' := by
  intro id charged
  obtain ⟨account, found, own, rest⟩ := booked id charged
  exact ⟨account, spared.charged id account found own, own, rest⟩

/-- A journey that is spared is as ready as it was. -/
theorem Spared.ready (spared : j.Spared s s') (ready : j.Ready s) : j.Ready s' where
  toPast := spared.past ready.toPast
  absent := spared.absent ready.absent
  cached key e' cached own := by
    obtain ⟨e, before, same, -⟩ := spared.cached key e' cached (.inr own)
    exact ready.cached key e before (same.trans own)

/-- A journey that is spared is where it was. -/
theorem Spared.underway (spared : j.Spared s s') (underway : j.Underway m n charge status s) :
    j.Underway m n charge status s' where
  toPast := spared.past underway.toPast
  row := by
    obtain ⟨row, found, at_⟩ := underway.row
    obtain ⟨hubId, lastUpdate, found⟩ := spared.row row found
    exact ⟨_, found, at_.withHub hubId lastUpdate⟩
  cached key e' cached own := by
    obtain ⟨e, before, same, hub⟩ := spared.cached key e' cached (.inr own)
    obtain ⟨tag, at_⟩ := underway.cached key e before (same.trans own)
    obtain ⟨hubId, rfl⟩ := hub tag
    exact ⟨tag, at_.withHub hubId⟩
  booked := spared.booked underway.booked

end Journey

end TollBackend

import TollBackend.Concurrent.Keyed
import TollBackend.LookupKept

/-!
# Tickets

The state is split among the tickets: each has its row, its cached records, its account
transactions, and what was sent and answered about it. An operation uses the tickets whose
parts it reads or writes. A hub update uses none, as the hub id of a trip may change at any
time.

## Main definitions

* `Op.tickets`: the tickets that an operation uses.
* `SameTicket`: the part of a ticket is the same but for its hub id.
* `byTicket`: the backend as a system of tickets.

## Main results

* `sameTicket_of_exec`: an operation leaves the tickets alone that it does not use.
-/

namespace TollBackend

open Concurrent

/-! ### What belongs to a ticket -/

/-- The account transactions of a ticket. -/
def Sys.accountsOf (s : Sys) (ticketId : Int) : List AccountTransaction :=
  s.accounts.filter fun account => account.transportTransId == ticketId

/-- The ticket of a checkout event. -/
def KafkaEvent.checkoutOf? : KafkaEvent → Option Int
  | .checkin _ => none
  | .checkout etdr _ => some etdr.ticketId

/-- The checkout events of a ticket. -/
def Sys.checkoutEvents (s : Sys) (ticketId : Int) : List KafkaEvent :=
  s.kafka.filter fun event => event.checkoutOf? == some ticketId

/-- The successful answers to checkout commits of a ticket. -/
def Sys.commitAnswers (s : Sys) (ticketId : Int) : List Answer :=
  s.answers.filter fun answer => answer.checkoutCommitOf? == some ticketId

/-- The row without what the hub tells about the trip. -/
def TransportTransactionStage.withoutHub (row : TransportTransactionStage) :
    TransportTransactionStage :=
  { row with hubId := none, lastUpdate := none }

/-- The record without what the hub tells about the trip. -/
def Etdr.withoutHub (e : Etdr) : Etdr :=
  { e with hubId := none }

/-- The tickets that are cached under a tag with a `ref_trans_id`. -/
def Sys.ticketsOfRef (s : Sys) (tag : String) (refTransId : Int) : List Int :=
  s.cache.data.flatMap fun kv =>
    (kv.2.filter fun entry => kv.1 == tag && entry.etdr.refTransId == refTransId).map
      fun entry => entry.etdr.ticketId

/-- The tickets that an operation uses. -/
def Op.tickets (o : Op) (c : Choice) (s : Sys) : List Int :=
  match o with
  | .ask (.stageFindById id) => [id]
  | .ask (.stageFindByTicketInId ticketInId) =>
      ((s.stages.findByTicketInId ticketInId c.rank).map fun row => row.transportTransId).toList
  | .ask (.stageFindLatestByEtag etag) =>
      ((s.stages.findLatestByEtag etag c.rank).map fun row => row.transportTransId).toList
  | .ask (.accountTransactionForCommit id) =>
      ((s.accountForCommit id).map fun account => account.transportTransId).toList
  -- the retry passes over a ticket that it finds locked
  | .ask (.retryLock ticketId) => if c.locked then [] else [ticketId]
  | .ask _ => []
  | .stageInsertRow stage => [stage.transportTransId]
  | .stageUpdate id _ | .stageUpdateCheckinCommit id _ | .stageUpdateCheckoutInfo id _
  | .stageUpdateCheckoutCommit id _ => [id]
  | .accountInsert params => [params.transportTransId]
  | .accountUpdateCommitStatus id _ _ =>
      (s.accounts.filter fun account => account.accountTransactionId == id).map
        fun account => account.transportTransId
  | .cacheGetLatestCheckin etag =>
      ((s.cache.getLatestCheckin etag c.env.now).1.map fun e => e.ticketId).toList
  | .cacheGetAllByEtag etag =>
      (s.cache.getAllByEtag etag c.env.now).1.map fun e => e.ticketId
  | .cacheGetByTicketId ticketId | .cacheRemoveByTicketId ticketId => [ticketId]
  | .cacheFillFromSync etag refTransId _ => s.ticketsOfRef (normalizeEtag etag) refTransId
  | .saveEtdr write => [write.etdr.ticketId]
  | .saveEtdrToMemoryOnly etdr => [etdr.ticketId]
  | .sendKafka event => event.checkoutOf?.toList
  | .answer a => a.checkoutCommitOf?.toList
  -- hub ids belong to no ticket here, and KeyDB's copies are told from the cached records
  | .stageUpdateHubId _ _ | .cacheUpdateHubId _ _ | .takeSpawned | .keydbSet _ _ | .keydbRemove _
  | .setPendingTcd _ _ | .removePendingTcd _ => []

/-- Between two states, what belongs to a ticket is the same but for its hub id; its cached
records can be gone. -/
structure SameTicket (t : Int) (s s' : Sys) : Prop where
  row : (s'.stages.row? t).map TransportTransactionStage.withoutHub =
    (s.stages.row? t).map TransportTransactionStage.withoutHub
  cached : ∀ key e', s'.cache.Cached key e' → e'.ticketId = t →
    ∃ e, s.cache.Cached key e ∧ e.withoutHub = e'.withoutHub
  accounts : s'.accountsOf t = s.accountsOf t
  account : ∀ id account, s.account? id = some account → account.transportTransId = t →
    s'.account? id = some account ∧ s'.accountCommits.count id = s.accountCommits.count id
  events : s'.checkoutEvents t = s.checkoutEvents t
  answers : s'.commitAnswers t = s.commitAnswers t

theorem SameTicket.refl (t : Int) (s : Sys) : SameTicket t s s where
  row := rfl
  cached _ e cached _ := ⟨e, cached, rfl⟩
  accounts := rfl
  account _ _ found _ := ⟨found, rfl⟩
  events := rfl
  answers := rfl

theorem SameTicket.trans {t : Int} {s s' s'' : Sys} (first : SameTicket t s s')
    (second : SameTicket t s' s'') : SameTicket t s s'' where
  row := second.row.trans first.row
  cached key e'' cached ticket := by
    obtain ⟨e', between, same'⟩ := second.cached key e'' cached ticket
    have own : e'.ticketId = t := (congrArg Etdr.ticketId same').trans ticket
    obtain ⟨e, before, same⟩ := first.cached key e' between own
    exact ⟨e, before, same.trans same'⟩
  accounts := second.accounts.trans first.accounts
  account id account found own := by
    obtain ⟨between, count⟩ := first.account id account found own
    obtain ⟨after, count'⟩ := second.account id account between own
    exact ⟨after, count'.trans count⟩
  events := second.events.trans first.events
  answers := second.answers.trans first.answers

/-! ### One operation -/

section Exec

variable {o : Op} {c : Choice} {s : Sys} {t : Int}

theorem withoutHub_of_rowWrite {row row' : TransportTransactionStage}
    (unused : t ∉ o.tickets c s) (write : RowWrite t row o row') :
    row'.withoutHub = row.withoutHub := by
  cases write with
  | hubId hubId now => rfl
  | update entity => exact absurd (List.mem_singleton_self _) unused
  | checkinCommit cols waiting => exact absurd (List.mem_singleton_self _) unused
  | checkoutInfo cols => exact absurd (List.mem_singleton_self _) unused
  | checkoutCommit cols => exact absurd (List.mem_singleton_self _) unused

/-- The row of a ticket that is not used. -/
theorem row?_of_unused (unused : t ∉ o.tickets c s) :
    ((o.exec c s).2.stages.row? t).map TransportTransactionStage.withoutHub =
      (s.stages.row? t).map TransportTransactionStage.withoutHub := by
  cases stored : s.stages.row? t with
  | some row =>
    obtain ⟨row', found, rfl | write⟩ := row?_of_exec (o := o) (c := c) stored
    · rw [found]
    · rw [found, Option.map_some, withoutHub_of_rowWrite unused write]
      rfl
  | none =>
    cases found : (o.exec c s).2.stages.row? t with
    | none => rfl
    | some row =>
      obtain ⟨entity, sysdate, rfl, id, -⟩ := row?_of_exec_of_none stored found
      exact absurd (List.mem_singleton.mpr id.symm) unused

/-- The ticket of a record that is filled is used. -/
theorem mem_ticketsOfRef {tag : String} {e : Etdr} (cached : s.cache.Cached tag e) :
    e.ticketId ∈ s.ticketsOfRef tag e.refTransId := by
  obtain ⟨recs, inData, entry, mem, rfl⟩ := cached
  refine List.mem_flatMap.mpr ⟨_, inData, List.mem_map.mpr ⟨entry, ?_, rfl⟩⟩
  simp [mem]

/-- The cached records of a ticket that is not used. -/
theorem cached_of_unused (unused : t ∉ o.tickets c s) {key : String} {e' : Etdr}
    (cached : (o.exec c s).2.cache.Cached key e') (ticket : e'.ticketId = t) :
    ∃ e, s.cache.Cached key e ∧ e.withoutHub = e'.withoutHub := by
  rcases cached_of_exec cached with old | write
  · exact ⟨e', old, rfl⟩
  · cases write with
    | save write c => exact absurd (List.mem_singleton.mpr ticket.symm) unused
    | saveToMemory etdr c => exact absurd (List.mem_singleton.mpr ticket.symm) unused
    | @hubId hubId c key e old => exact ⟨e, old, rfl⟩
    -- a record that is filled keeps its ticket, so the ticket is used
    | @fill etag sync c e old =>
      rw [fillEtdrFromSync_ticketId] at ticket
      exact absurd (ticket ▸ mem_ticketsOfRef old) unused

/-- Elements that are changed inside the rest of a list leave a part of it alone. -/
theorem filter_map_of_unchanged {α : Type} {p : α → Bool} {f : α → α} {l : List α}
    (unchanged : ∀ a ∈ l, f a = a ∨ p a = false ∧ p (f a) = false) :
    (l.map f).filter p = l.filter p := by
  induction l with
  | nil => rfl
  | cons a l ih =>
    have rest := ih fun b mem => unchanged b (List.mem_cons_of_mem a mem)
    rw [List.map_cons, List.filter_cons, List.filter_cons, rest]
    rcases unchanged a List.mem_cons_self with same | ⟨before, after⟩
    · rw [same]
    · rw [before, after]
      rfl

/-- The account transactions of a ticket that is not used. -/
theorem accounts_of_unused (unused : t ∉ o.tickets c s) :
    (o.exec c s).2.accountsOf t = s.accountsOf t ∧
      ∀ id account, s.account? id = some account → account.transportTransId = t →
        (o.exec c s).2.account? id = some account ∧
          (o.exec c s).2.accountCommits.count id = s.accountCommits.count id := by
  rcases accounts_of_exec o c s with ⟨same, commits⟩ | write
  · refine ⟨by rw [Sys.accountsOf, same, Sys.accountsOf], fun id account found _ => ⟨?_, ?_⟩⟩
    · rw [Sys.account?, same]
      exact found
    · rw [commits]
  · generalize (o.exec c s).2 = after at write
    cases write with
    | insert params id' accounts commits =>
      have other : params.transportTransId ≠ t := fun here =>
        unused (List.mem_singleton.mpr here.symm)
      refine ⟨?_, fun id account found own => ⟨?_, by rw [commits]⟩⟩
      · rw [Sys.accountsOf, accounts, List.filter_append]
        simp [InsertAccountTransactionParams.row, other, Sys.accountsOf]
      · rw [Sys.account?, accounts, List.find?_append, ← Sys.account?, found]
        rfl
    -- only the account transaction with the id changes, and its ticket is used
    | status id' status finish accounts commits =>
      have other : ∀ account ∈ s.accounts, account.accountTransactionId = id' →
          account.transportTransId ≠ t := fun account mem same here =>
        unused (List.mem_map.mpr ⟨account, List.mem_filter.mpr ⟨mem, by simpa using same⟩, here⟩)
      refine ⟨?_, fun id account found own => ?_⟩
      · rw [Sys.accountsOf, accounts, Sys.accountsOf]
        refine filter_map_of_unchanged fun account mem => ?_
        split
        · next same =>
          have elsewhere := other account mem same
          exact .inr ⟨by simpa using elsewhere, by simpa using elsewhere⟩
        · exact .inl rfl
      · have matched : account.accountTransactionId = id := by simpa using List.find?_some found
        have elsewhere : id' ≠ id := fun here =>
          other account (List.mem_of_find?_eq_some found) (matched.trans here.symm) own
        constructor
        · rw [Sys.account?, accounts]
          refine (account?_setAccountStatus s id' status finish id).trans ?_
          rw [found, Option.map_some, if_neg (matched ▸ elsewhere.symm)]
        · rw [commits, Sys.setAccountStatus]
          split
          · rw [List.count_append, List.count_singleton]
            simp [elsewhere]
          · rfl

/-- An operation leaves the tickets alone that it does not use. -/
theorem sameTicket_of_exec (unused : t ∉ o.tickets c s) : SameTicket t s (o.exec c s).2 where
  row := row?_of_unused unused
  cached _ _ := cached_of_unused unused
  accounts := (accounts_of_unused unused).1
  account := (accounts_of_unused unused).2
  events := by
    by_cases sends : ∃ event, o = .sendKafka event
    · obtain ⟨event, rfl⟩ := sends
      have other : event.checkoutOf? ≠ some t := fun here =>
        unused (Option.mem_toList.mpr here)
      simp [Op.exec, Sys.checkoutEvents, other]
    · -- no other operation sends an event
      have same : (o.exec c s).2.kafka = s.kafka := by
        rcases o.kind with op | op | op
        · obtain ⟨stages, accounts, commits, eq⟩ := op.exec_eq c s
          rw [eq]
        · obtain ⟨keydb, pendingTcds, eq⟩ := op.exec_eq c s
          rw [eq]
        · cases op with
          | kafka event => exact absurd ⟨event, rfl⟩ sends
          | _ => rfl
      rw [Sys.checkoutEvents, same, Sys.checkoutEvents]
  answers := by
    rw [Sys.commitAnswers, answers_of_exec, List.filter_append, Sys.commitAnswers]
    cases answered : o.answer? with
    | none => simp
    | some answer =>
      have other : answer.checkoutCommitOf? ≠ some t := by
        rw [Op.eq_answer_of_answer? answered] at unused
        exact fun here => unused (Option.mem_toList.mpr here)
      simp [other]

end Exec

/-! ### Saving a record -/

/-- Between two states, a record was put into the cache. -/
structure CachePut (e : Etdr) (s s' : Sys) : Prop where
  stages : s'.stages = s.stages
  cached : ∀ key e', s'.cache.Cached key e' →
    key = normalizeEtag e.etagId ∧ e' = e ∨ s.cache.Cached key e'
  replaced : s.cache.WellFormed → e.ticketId ≠ 0 → ∀ e',
    s'.cache.Cached (normalizeEtag e.etagId) e' → e'.ticketId = e.ticketId → e' = e

theorem cachePut_saveEtdr (write : EtdrWrite) (c : Choice) (s : Sys) :
    CachePut write.etdr s ((Op.saveEtdr write).exec c s).2 where
  stages := rfl
  cached _ _ cached := EtdrCache.put_cached cached
  replaced wf nonzero _ cached same := wf.eq_of_put_cached nonzero cached same

theorem cachePut_saveEtdrToMemoryOnly (e : Etdr) (c : Choice) (s : Sys) :
    CachePut e s ((Op.saveEtdrToMemoryOnly e).exec c s).2 where
  stages := rfl
  cached _ _ cached := EtdrCache.put_cached cached
  replaced wf nonzero _ cached same := wf.eq_of_put_cached nonzero cached same

/-- After a ticket that is cached under its own tag only was saved, only that record of it is
cached. -/
theorem CachePut.eq_of_onlyUnder (put : CachePut e s s') (wf : s.cache.WellFormed) (nonzero : e.ticketId ≠ 0)
    (only : s.cache.OnlyUnder (normalizeEtag e.etagId) e.ticketId) {key : String} {e' : Etdr}
    (cached : s'.cache.Cached key e') (ticket : e'.ticketId = e.ticketId) : e' = e := by
  rcases put.cached key e' cached with ⟨-, rfl⟩ | old
  · rfl
  · cases only.eq old ticket
    exact put.replaced wf nonzero e' cached ticket

/-- The backend as a system of tickets. -/
def byTicket : Keyed backend Int where
  uses := Op.tickets
  same := SameTicket
  same_refl := SameTicket.refl
  same_trans _ _ _ _ := SameTicket.trans
  frame _ _ _ _ := sameTicket_of_exec

end TollBackend

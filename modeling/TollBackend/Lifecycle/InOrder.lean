import TollBackend.Lifecycle.Progress

/-!
# Requests in order

What a request may do to the trips it takes its turn with, and what is then known in the
course of it. The condition speaks of the statements that must succeed, of the rows that a
record may be rebuilt from, of the sync records that may be merged in, and of the copies that
a retry may take up.

## Main definitions

* `InOrder`: the condition.
* `lifecycleContract`: the contract of a request that meets it.
* `Op.Steady`: operations that save no record and set no time of a row.
* `lifecycleFacts`: what a lookup knows of the rows and records it reads.
* `Op.Calm`: operations that change neither the main table nor the cache.

## Main results

* `steady_exec`: steady operations keep what is known.
* `lifecycleFacts_keptBy`: so does a lookup.
* `underWay_of_calm`: calm operations keep what is known between the two writes of a ticket.
-/

namespace TollBackend

open Concurrent

/-- No cached record of the ticket has a price or fee lines. -/
def Unpriced (s : Sys) (t : Int) : Prop :=
  ∀ kv ∈ s.cache.data, ∀ entry ∈ kv.2, entry.etdr.ticketId = t →
    entry.etdr.price = 0 ∧ entry.etdr.ratingDetails = []

instance (s : Sys) (t : Int) : Decidable (Unpriced s t) := by
  unfold Unpriced; infer_instance

/-- No record of the ticket is cached. -/
def Uncached (s : Sys) (t : Int) : Prop :=
  ∀ kv ∈ s.cache.data, ∀ entry ∈ kv.2, entry.etdr.ticketId ≠ t

instance (s : Sys) (t : Int) : Decidable (Uncached s t) := by
  unfold Uncached; infer_instance

/-- The ticket of the snapshot is still cached under its tag. -/
def StillCached (s : Sys) (snapshot : Etdr) : Prop :=
  ∃ kv ∈ s.cache.data, kv.1 = normalizeEtag snapshot.etagId ∧ ∃ entry ∈ kv.2,
    entry.etdr.ticketId = snapshot.ticketId

instance (s : Sys) (snapshot : Etdr) : Decidable (StillCached s snapshot) := by
  unfold StillCached; infer_instance

/-- The copies of records that a retry reads, from KeyDB or from memory. -/
def copiesOf (ev : Event Op Choice Sys) : List Etdr :=
  match ev.op with
  | .ask (.keydbGetMany keys) =>
      (((Query.keydbGetMany keys).reply ev.choice ev.pre).toOption.getD []).reduceOption
  | .ask .unsavedFromMemory => Query.unsavedFromMemory.reply ev.choice ev.pre
  | _ => []

/-- The condition on an operation: the `UPDATE` of a check-in commit succeeds on a row that
waits for it, and that of a reserve succeeds; the full-row `UPDATE` of a retry leaves the
progress that the row tells; a row that is inserted with progress is of a ticket that the
request has not met and that is not cached; a sync record that is merged into a cached record
tells what the row of that record's ticket tells; a record that is rebuilt from a row, a check-in
or a retry's copy is of a ticket without a cached price, and the check-in and the copy tell what
the row tells; the others are cached under their own tag, and none replaces a price by zero. -/
def InOrder (_ : Req) (trace : Past) (o : Op) (c : Choice) (s : Sys) : Prop :=
  match o with
  -- a check-in's row tells nothing; one imported from a sync record may
  | .stageInsertRow entity => entity.progress = .entered ∨
      entity.transportTransId ∉ byTicket.usedIn trace ∧ Uncached s entity.transportTransId
  | .stageUpdate id entity => ∀ row ∈ s.stages.row? id, entity.progress = row.progress
  | .stageUpdateCheckinCommit id _ =>
      c.fault = none ∧ ∃ row ∈ s.stages.row? id, row.checkinStatus = some "1"
  | .stageUpdateCheckoutInfo _ _ => c.fault = none
  -- the fill overwrites the times of every record of the tag with the reference id
  | .cacheFillFromSync etag refTransId sync => ∀ e, s.cache.Cached (normalizeEtag etag) e →
      e.refTransId = refTransId → SyncTells sync (s.progressOf e.ticketId)
  | .saveEtdr (.checkin etdr) =>
      Unpriced s etdr.ticketId ∧ s.progressOf etdr.ticketId = .entered
  | .saveEtdr (.fromStage row _) => Unpriced s row.transportTransId
  | .saveEtdr (.filledFromSync etdr) => StillCached s etdr
  | .saveEtdr (.checkinCommitted etdr _ _ _) =>
      s.cache.OnlyUnder (normalizeEtag etdr.etagId) etdr.ticketId
  | .saveEtdr (.checkoutReserved etdr _ transAmount _ _) =>
      -- the price of the record is replaced by the fee of the reserve, whatever it is
      s.cache.OnlyUnder (normalizeEtag etdr.etagId) etdr.ticketId ∧
        (transAmount = 0 → etdr.price = 0)
  | .cacheRemoveByTicketId ticketId => s.cache.CachedOnce ticketId
  -- the cycle saves what it has merged from the copies, after it has locked the ticket
  | .ask (.retryLock ticketId) => Unpriced s ticketId ∧
      ∀ e ∈ trace.flatMap copiesOf, e.ticketId = ticketId → e.progress = s.progressOf ticketId
  | _ => True

instance (req : Req) (trace : Past) (o : Op) (c : Choice) (s : Sys) :
    Decidable (InOrder req trace o c s) := by
  induction o using Op.casesOn with
  | ask q => induction q using Query.casesOn <;> (unfold InOrder; infer_instance)
  | saveEtdr write => induction write using EtdrWrite.casesOn <;> (unfold InOrder; infer_instance)
  | _ => unfold InOrder; infer_instance

/-- The contract of a request that takes its turn with each ticket. It loses no progress. -/
abbrev lifecycleContract : Contract backend :=
  byTicket.contract (fun s => s.cache.WellFormed) Agrees InOrder
    fun _ _ o c s => ∀ t ∈ o.tickets c s, KeepsTicket t s (o.exec c s).2

/-- The tickets that a request has met agree. -/
abbrev AllAgree (trace : Past) (s : Sys) : Prop :=
  byTicket.AllIdle Agrees trace s

/-- Operations that save no record and set no time of a row. -/
def Op.Steady : Op → Prop
  | .saveEtdr _ | .saveEtdrToMemoryOnly _ | .stageUpdateCheckinCommit _ _
  | .stageUpdateCheckoutInfo _ _ | .stageUpdateCheckoutCommit _ _ => False
  | _ => True

variable {o : Op} {c : Choice} {s s' s'' : Sys} {t : Int} {req : Req} {trace tr : Past} {e : Etdr}
variable {α : Type}

/-! ### Steady operations -/

theorem Uncached.ne (uncached : Uncached s t) {key : String} (cached : s.cache.Cached key e) :
    e.ticketId ≠ t := by
  obtain ⟨recs, inData, entry, mem, rfl⟩ := cached
  exact uncached _ inData entry mem

theorem Unpriced.eq (unpriced : Unpriced s t) {key : String} (cached : s.cache.Cached key e)
    (ticket : e.ticketId = t) : e.price = 0 ∧ e.ratingDetails = [] := by
  obtain ⟨recs, inData, entry, mem, rfl⟩ := cached
  exact unpriced _ inData entry mem ticket

theorem progressOf_of_steady (steady : o.Steady) (allowed : InOrder req trace o c s)
    (met : ∀ entity, o = .stageInsertRow entity → entity.transportTransId = t →
      entity.progress = .entered) : (o.exec c s).2.progressOf t = s.progressOf t := by
  cases stored : s.stages.row? t with
  | some row =>
    obtain ⟨row', found, rfl | write⟩ := row?_of_exec (o := o) (c := c) stored
    · rw [Sys.progressOf, Sys.progressOf, found, stored]
    · have same : row'.progress = row.progress := by
        cases write with
        | update entity => exact allowed row stored
        | hubId hubId now => rfl
        | checkinCommit cols waiting => exact steady.elim
        | checkoutInfo cols => exact steady.elim
        | checkoutCommit cols => exact steady.elim
      rw [Sys.progressOf, Sys.progressOf, found, stored, Option.map_some, Option.map_some, same]
  -- only an INSERT gives a ticket its row, and that row is one that tells nothing
  | none =>
    cases found : (o.exec c s).2.stages.row? t with
    | none => rw [Sys.progressOf, Sys.progressOf, found, stored]
    | some row =>
      obtain ⟨entity, sysdate, rfl, id, rfl⟩ := row?_of_exec_of_none stored found
      rw [Sys.progressOf, Sys.progressOf, found, stored]
      exact met entity rfl id

/-- A steady operation leaves a ticket alone, unless it inserts the row of one that is not
cached. -/
theorem undisturbed_of_steady (steady : o.Steady) (allowed : InOrder req trace o c s)
    (agrees : Agrees t s)
    (met : ∀ entity, o = .stageInsertRow entity → entity.transportTransId = t →
      entity.progress = .entered) : Undisturbed t s (o.exec c s).2 where
  progress := progressOf_of_steady steady allowed met
  cached nonzero key e' cached ticket := by
    rcases cached_of_exec cached with old | write
    · exact ⟨e', old, ticket, rfl, rfl, rfl⟩
    · cases write with
      | save write c => exact steady.elim
      | saveToMemory etdr c => exact steady.elim
      -- the sync record tells what the row tells, which the record agrees with
      | @fill etag sync c e old =>
        have tells := allowed e old rfl
        rw [fillEtdrFromSync_ticketId] at ticket
        rw [ticket, ← agrees nonzero _ e old ticket] at tells
        exact ⟨e, old, ticket, sameLifecycle_fillEtdrFromSync _ tells⟩
      | @hubId hubId c key e old => exact ⟨e, old, ticket, rfl, rfl, rfl⟩

theorem undisturbed_or_uncached (steady : o.Steady) (allowed : InOrder req trace o c s)
    (agrees : Agrees t s) : Undisturbed t s (o.exec c s).2 ∨
      t ∉ byTicket.usedIn trace ∧ Uncached s t ∧ (o.exec c s).2.cache = s.cache := by
  by_cases met : ∀ entity, o = .stageInsertRow entity → entity.transportTransId = t →
      entity.progress = .entered
  · exact .inl (undisturbed_of_steady steady allowed agrees met)
  · -- a row with progress is inserted only for a ticket that is not cached
    push Not at met
    obtain ⟨entity, rfl, rfl, progress⟩ := met
    obtain ⟨stages, accounts, commits, eq⟩ := (DatabaseOp.insertRow entity).exec_eq c s
    obtain ⟨unmet, uncached⟩ := allowed.resolve_left progress
    exact .inr ⟨unmet, uncached, by rw [eq]⟩

/-- Steady operations keep what is known. -/
theorem steady_exec (steady : o.Steady) (wf : s.cache.WellFormed)
    (may : lifecycleContract.may req trace o c s) (holds : AllAgree trace s) :
    (∀ t ∈ byTicket.usedIn trace, Undisturbed t s (o.exec c s).2) ∧
      lifecycleContract.must req trace o c s ∧
      AllAgree (trace ++ [⟨o, c, s⟩]) (o.exec c s).2 := by
  refine ⟨fun t used => ?_, fun t used => ?_, fun t used => ?_⟩
  · exact (undisturbed_or_uncached steady may.1 (holds t used)).resolve_right
      fun ⟨unmet, _⟩ => unmet used
  · have agrees := Keyed.idle_of_may holds may (Keyed.mem_usedIn_append_singleton.mpr (.inr used))
    rcases undisturbed_or_uncached steady may.1 agrees with same | ⟨-, uncached, -⟩
    · exact same.keepsTicket wf
    · intro key e e' cached _ ticket
      exact absurd ticket (uncached.ne cached)
  · have agrees := Keyed.idle_of_may holds may used
    rcases undisturbed_or_uncached steady may.1 agrees with same | ⟨-, uncached, eq⟩
    · exact same.agrees agrees
    · intro _ key e cached ticket
      rw [eq] at cached
      exact absurd ticket (uncached.ne cached)

/-! ### Lookups -/

/-- What a lookup knows: rows and records it has read tell what the table tells, and the records
are current. -/
def lifecycleFacts : LookupFacts where
  tag _ := True
  sync _ := True
  holds := AllAgree
  row trace s row := row.transportTransId ∈ byTicket.usedIn trace ∧
    (row.transportTransId ≠ 0 → row.progress = s.progressOf row.transportTransId)
  etdr trace s e := e.ticketId ∈ byTicket.usedIn trace ∧ Fresh s e
  filled trace s e := e.ticketId ∈ byTicket.usedIn trace ∧ Mirrors s e

theorem lasts_of_undisturbed (used : ∀ t ∈ byTicket.usedIn trace, t ∈ byTicket.usedIn tr)
    (same : ∀ t ∈ byTicket.usedIn trace, Undisturbed t s s') (holds : AllAgree tr s') :
    lifecycleFacts.Lasts trace s tr s' where
  holds := holds
  row _ known :=
    ⟨used _ known.1, fun nonzero => (known.2 nonzero).trans (same _ known.1).progress.symm⟩
  etdr _ known := ⟨used _ known.1, (same _ known.1).fresh known.2⟩

theorem lasts_of_rely (holds : AllAgree trace s) (rely : lifecycleContract.rely req trace s s') :
    lifecycleFacts.Lasts trace s trace s' :=
  lasts_of_undisturbed (fun _ used => used) (fun t used => (rely t used).undisturbed)
    fun t used => (rely t used).undisturbed.agrees (holds t used)

theorem steady_lasts (steady : o.Steady) (wf : s.cache.WellFormed)
    (may : lifecycleContract.may req trace o c s) (holds : AllAgree trace s) :
    lifecycleFacts.Lasts trace s (trace ++ [⟨o, c, s⟩]) (o.exec c s).2 := by
  obtain ⟨same, -, after⟩ := steady_exec steady wf may holds
  exact lasts_of_undisturbed (fun _ used => Keyed.mem_usedIn_append_singleton.mpr (.inl used)) same
    after

/-- A steady operation, and what follows it. -/
theorem steady_bind {next : o.Res → Program α} {post : α → Past → Sys → Prop}
    (steady : o.Steady) (holds : AllAgree trace s)
    (rest : ∀ c s', lifecycleFacts.Lasts trace s trace s' → s'.cache.WellFormed →
      lifecycleContract.may req trace o c s' →
      lifecycleFacts.Lasts trace s (trace ++ [⟨o, c, s'⟩]) (o.exec c s').2 →
      lifecycleContract.Safe req (next (o.exec c s').1) post (trace ++ [⟨o, c, s'⟩])
        (o.exec c s').2) :
    lifecycleContract.Safe req (perform o >>= next) post trace s := by
  refine Contract.safe_perform_bind.mpr fun s' rely wf c may => ?_
  have before := lasts_of_rely holds rely
  have after := steady_lasts steady wf may before.holds
  exact ⟨(steady_exec steady wf may before.holds).2.1, wellFormed_exec wf,
    rest c s' before wf may (before.trans after)⟩

theorem safe_of_steady {p : Program α} (only : p.Only Op.Steady) (holds : AllAgree trace s) :
    lifecycleContract.Safe req p (fun _ tr s' => lifecycleFacts.Lasts trace s tr s') trace s := by
  refine Contract.safe_of_only (J := fun tr s' => lifecycleFacts.Lasts trace s tr s') only
    (.refl holds) ?_ ?_
  · intro tr s₁ s₂ lasts rely _
    exact lasts.trans (lasts_of_rely lasts.holds rely)
  · intro tr s₁ o c steady lasts wf may
    exact ⟨(steady_exec steady wf may lasts.holds).2.1, wellFormed_exec wf,
      lasts.trans (steady_lasts steady wf may lasts.holds)⟩

/-- Saving a current record that tells what the row tells. -/
theorem cachePut_exec (put : CachePut e s s') (wf : s.cache.WellFormed)
    (agrees : ∀ t ∈ byTicket.usedIn tr, Agrees t s) (own : Agrees e.ticketId s)
    (current : SnapshotCurrent s e)
    (tells : e.ticketId ≠ 0 → e.progress = s.progressOf e.ticketId) :
    KeepsTicket e.ticketId s s' ∧ AllAgree tr s' := by
  refine ⟨put.keepsTicket wf current, fun t used => ?_⟩
  -- the save is about one ticket, and leaves the others alone
  by_cases here : t = e.ticketId
  · rw [here]
    exact put.agrees own tells
  · exact (put.undisturbed here).agrees (agrees t used)

/-- A record that is rebuilt from what tells the same as the row, of a ticket without a cached
price, is current. -/
theorem current_of_unpriced (agrees : Agrees e.ticketId s) (unpriced : Unpriced s e.ticketId)
    (tells : e.ticketId ≠ 0 → e.progress = s.progressOf e.ticketId) : SnapshotCurrent s e := by
  intro nonzero e₁ cached ticket
  -- without a price and lines to lose, telling what the row tells is enough
  obtain ⟨price, lines⟩ := unpriced.eq cached ticket
  refine keeps_of_progress ?_ (fun h => absurd price h) fun h => absurd lines h
  rw [tells nonzero, agrees nonzero _ e₁ cached ticket]

/-- A record that is read from the cache mirrors it. -/
theorem mirrors_of_read {key : String} (holds : AllAgree trace s) (wf : s.cache.WellFormed)
    (may : lifecycleContract.may req trace o c s) (steady : o.Steady)
    (mem : e.ticketId ∈ o.tickets c s) (cached : s.cache.Cached key e) :
    e.ticketId ∈ byTicket.usedIn (trace ++ [⟨o, c, s⟩]) ∧ Mirrors (o.exec c s).2 e := by
  have used : e.ticketId ∈ byTicket.usedIn (trace ++ [⟨o, c, s⟩]) :=
    Keyed.mem_usedIn_append_singleton.mpr (.inr mem)
  have agrees := Keyed.idle_of_may holds may used
  have mirrors : Mirrors s e := by
    refine ⟨fun nonzero => agrees nonzero key e cached rfl, fun nonzero e₁ cached₁ ticket => ?_⟩
    rw [wf.key_eq cached] at cached₁
    cases wf.eq_of_ticketId cached₁ cached ticket (by rw [ticket]; exact nonzero)
    exact ⟨rfl, rfl, rfl⟩
  refine ⟨used, ?_⟩
  rcases undisturbed_or_uncached steady may.1 agrees with same | ⟨-, uncached, -⟩
  · exact same.mirrors mirrors
  · exact absurd rfl (uncached.ne cached)

/-- What a lookup saves is current: it is rebuilt from a row, or was filled in the cache. -/
theorem fresh_of_writes {write : EtdrWrite} (writes : lifecycleFacts.Writes trace s write)
    (may : lifecycleContract.may req trace (.saveEtdr write) c s) (holds : AllAgree trace s) :
    write.etdr.ticketId ∈ byTicket.usedIn trace ∧ Fresh s write.etdr := by
  cases writes with
  | @fromStage row known now =>
    have tells : row.transportTransId ≠ 0 → _ := known.2
    exact ⟨known.1, tells, current_of_unpriced (holds _ known.1) may.1 tells⟩
  | filled known => exact ⟨known.1, known.2.fresh⟩

/-- What a lookup saves leaves other snapshots current. -/
theorem keeps_of_writes {write : EtdrWrite} {snapshot : Etdr}
    (writes : lifecycleFacts.Writes trace s write)
    (may : lifecycleContract.may req trace (.saveEtdr write) c s) (fresh : Fresh s snapshot)
    (nonzero : snapshot.ticketId ≠ 0) (ticket : write.etdr.ticketId = snapshot.ticketId)
    (tag : normalizeEtag snapshot.etagId = normalizeEtag write.etdr.etagId) :
    Keeps write.etdr snapshot := by
  cases writes with
  | @fromStage row known now =>
    have here : row.transportTransId = snapshot.ticketId := ticket
    refine keeps_of_progress ?_ (fun h => absurd rfl h) fun h => absurd rfl h
    rw [fresh.progress nonzero, ← here]
    exact (known.2 (by rw [here]; exact nonzero)).symm
  | @filled e known =>
    -- the filled record mirrors a cached one, and that one has no more than the snapshot
    obtain ⟨kv, inData, key, entry, mem, own⟩ := may.1
    have cached : s.cache.Cached (normalizeEtag e.etagId) entry.etdr :=
      ⟨kv.2, key ▸ inData, entry, mem, rfl⟩
    have mine : e.ticketId = snapshot.ticketId := ticket
    have same : SameLifecycle entry.etdr e :=
      known.2.cached (by rw [mine]; exact nonzero) entry.etdr cached own
    refine same.symm.keeps.trans (fresh.current nonzero entry.etdr ?_ (own.trans mine))
    rw [tag]
    exact cached

theorem steady_of_lookupRead {scope : LookupScope} (read : LookupRead scope o) : o.Steady := by
  cases read <;> trivial

/-- A lookup keeps what is known. -/
theorem lifecycleFacts_keptBy : lifecycleFacts.KeptBy lifecycleContract req where
  others _ _ _ holds rely _ := lasts_of_rely holds rely
  filled _ _ _ _ _ rely _ known := ⟨known.1, (rely _ known.1).undisturbed.mirrors known.2⟩
  read _ _ _ _ read holds wf may := by
    have steady := steady_of_lookupRead read
    exact ⟨(steady_exec steady wf may holds).2.1, wellFormed_exec wf,
      steady_lasts steady wf may holds⟩
  save tr s write c writes holds wf may := by
    obtain ⟨used, fresh⟩ := fresh_of_writes writes may holds
    have put := cachePut_saveEtdr write c s
    have agrees : ∀ t ∈ byTicket.usedIn (tr ++ [⟨.saveEtdr write, c, s⟩]), Agrees t s :=
      fun t mem => Keyed.idle_of_may holds may mem
    have mem : ∀ t ∈ byTicket.usedIn tr,
        t ∈ byTicket.usedIn (tr ++ [⟨.saveEtdr write, c, s⟩]) :=
      fun t used => Keyed.mem_usedIn_append_singleton.mpr (.inl used)
    obtain ⟨keeps, after⟩ :=
      cachePut_exec put wf agrees (holds _ used) fresh.current fresh.progress
    refine ⟨fun t used => ?_, wellFormed_exec wf, ⟨after, fun row known => ?_, fun e known => ?_⟩,
      mem _ used, fun nonzero => (fresh.progress nonzero).trans (put.progressOf _).symm,
      put.current wf⟩
    · rw [List.mem_singleton.mp used]
      exact keeps
    · -- rows are the same after a save
      exact ⟨mem _ known.1, fun nonzero => (known.2 nonzero).trans (put.progressOf _).symm⟩
    · refine ⟨mem _ known.1, fun nonzero => (known.2.progress nonzero).trans
        (put.progressOf _).symm, put.current_of_keeps known.2.current ?_⟩
      exact keeps_of_writes writes may known.2
  normalized _ _ := trivial
  sync _ _ _ _ _ _ _ _ _ := trivial
  latest tr s c etag row _ _ _ _ found stored _ := by
    refine ⟨Keyed.mem_usedIn_append_singleton.mpr (.inr ?_), fun _ => ?_⟩
    · exact Option.mem_toList.mpr (Option.mem_map.mpr ⟨_, found, rfl⟩)
    · rw [Sys.progressOf, TransportTransactionStage.selectRow_transportTransId, stored]
      rfl
  byId tr s c id row _ _ _ stored := by
    have own : row.transportTransId = id := StageTable.transportTransId_of_row? stored
    refine ⟨Keyed.mem_usedIn_append_singleton.mpr (.inr (List.mem_singleton.mpr own)), fun _ => ?_⟩
    rw [Sys.progressOf, TransportTransactionStage.selectRow_transportTransId, own, stored]
    rfl
  latestCached tr s c etag e _ holds wf may read := by
    have mem : e.ticketId ∈ (Op.cacheGetLatestCheckin etag).tickets c s :=
      Option.mem_toList.mpr (Option.mem_map.mpr ⟨e, read, rfl⟩)
    have found := mirrors_of_read holds wf may trivial mem (EtdrCache.getLatestCheckin_cached read)
    exact ⟨found.1, found.2.fresh⟩
  allCached tr s c etag e _ holds wf may read := by
    have mem : e.ticketId ∈ (Op.cacheGetAllByEtag etag).tickets c s :=
      List.mem_map.mpr ⟨e, read, rfl⟩
    exact mirrors_of_read holds wf may trivial mem (EtdrCache.getAllByEtag_cached read)

/-! ### Between the row and the record -/

/-- What is known of a ticket lasts while it is left alone. -/
def LastsFor (t : Int) (M : Sys → Prop) : Prop :=
  ∀ s s', Undisturbed t s s' → M s → M s'

/-- Operations that change neither the main table nor the cache. -/
def Op.Calm (o : Op) : Prop :=
  ∀ c s, (o.exec c s).2.stages = s.stages ∧ (o.exec c s).2.cache = s.cache

variable {M : Sys → Prop}

theorem agrees_of_same (t : Int) (s s' : Sys) (agrees : Agrees t s) (same : SameTicket t s s') :
    Agrees t s' :=
  same.undisturbed.agrees agrees

theorem LastsFor.lastsWith (lasts : LastsFor t M) : byTicket.LastsWith t M :=
  fun s s' same => lasts s s' (SameTicket.undisturbed same)

theorem keepsTicket_of_cache (cache : s'.cache = s.cache) (wf : s.cache.WellFormed) (t : Int) :
    KeepsTicket t s s' := by
  intro key e e' cached cached' ticket ticket' nonzero
  rw [cache] at cached'
  cases wf.eq_of_ticketId cached' cached (ticket'.trans ticket.symm)
    (by rw [ticket']; exact nonzero)
  exact .refl _

theorem Op.Calm.undisturbed (calm : o.Calm) (t : Int) : Undisturbed t s (o.exec c s).2 where
  progress := by
    rw [Sys.progressOf, (calm c s).1]
    rfl
  cached _ key e cached ticket := by
    rw [(calm c s).2] at cached
    exact ⟨e, cached, ticket, rfl, rfl, rfl⟩

/-- Calm operations between the two writes of a ticket. -/
theorem underWay_of_calm {p : Program α} (underWay : byTicket.UnderWay Agrees t M trace s)
    (lasts : LastsFor t M) (only : p.Only Op.Calm) :
    lifecycleContract.Safe req p (fun _ tr s' => byTicket.UnderWay Agrees t M tr s') trace s := by
  refine Contract.safe_of_only (J := byTicket.UnderWay Agrees t M) only underWay ?_ ?_
  · exact fun tr s₁ s₂ underWay rely _ => underWay.of_rely agrees_of_same lasts.lastsWith rely
  · intro tr s₁ o c calm underWay wf may
    have same : ∀ u, Undisturbed u s₁ (o.exec c s₁).2 := calm.undisturbed
    exact ⟨fun u _ => (same u).keepsTicket wf, wellFormed_exec wf,
      underWay.step may (fun u _ => (same u).agrees) (lasts _ _ (same t) underWay.here)⟩

end TollBackend

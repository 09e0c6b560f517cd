import TollBackend.Backend

/-!
# What a lookup keeps

A lookup saves only records that it built from a row of the table or that it found in the
cache. So what is known of the rows and records that it reads, and lasts while the others do
what they may, is known of the record that it returns.

## Main definitions

* `LookupFacts`: what is known in the course of a lookup.
* `LookupFacts.KeptBy`: the operations of a lookup keep what is known.
* `LookupKept`: the same for what is known of rows and records whatever the state.

## Main results

* `LookupFacts.KeptBy.resolveLatestEtdr`, `LookupKept.resolveLatestEtdr`: a lookup keeps what
  is known, and so it is known of the record that it returns.
-/

namespace TollBackend

open Concurrent

/-- What a task has performed. -/
abbrev Past : Type :=
  List (Event Op Choice Sys)

/-- The tags that a lookup looks for, and the sync records that it handles. -/
structure LookupScope where
  tag : String → Prop
  sync : TransportTransStageSync → Prop

/-- The operations of a lookup that save no record. What it inserts and fills from are good
sync records. -/
inductive LookupRead (scope : LookupScope) : Op → Prop
  | ask (q : Query) : LookupRead scope (.ask q)
  | insertRow {sync : TransportTransStageSync} (ok : scope.sync sync) (env : Ambient)
      (ticketId id : Int) :
      LookupRead scope (.stageInsertRow ((buildTransportStageFromSync sync env ticketId).withId id))
  | getLatest {etag : String} (ok : scope.tag etag) : LookupRead scope (.cacheGetLatestCheckin etag)
  | getAll {etag : String} (ok : scope.tag etag) : LookupRead scope (.cacheGetAllByEtag etag)
  | fill {etag : String} {sync : TransportTransStageSync} (tag : scope.tag etag)
      (ok : scope.sync sync) (refTransId : Int) :
      LookupRead scope (.cacheFillFromSync etag refTransId sync)

variable {K : Contract backend} {req : Req} {trace tr : Past} {s s' : Sys} {α : Type}

/-! ### What is known in a state -/

/-- What is known in the course of a lookup, in terms of its past and of the state: of the
state, of the rows and records that it has read, and of a cached record that it has just
filled. -/
structure LookupFacts extends LookupScope where
  holds : Past → Sys → Prop
  row : Past → Sys → TransportTransactionStage → Prop
  etdr : Past → Sys → Etdr → Prop
  filled : Past → Sys → Etdr → Prop

namespace LookupFacts

variable (F : LookupFacts)

/-- What was known in `s` is known in `s'`. -/
structure Lasts (tr : Past) (s : Sys) (tr' : Past) (s' : Sys) : Prop where
  holds : F.holds tr' s'
  row : ∀ row, F.row tr s row → F.row tr' s' row
  etdr : ∀ e, F.etdr tr s e → F.etdr tr' s' e

variable {F}

theorem Lasts.refl (holds : F.holds tr s) : F.Lasts tr s tr s :=
  ⟨holds, fun _ known => known, fun _ known => known⟩

theorem Lasts.trans {tr' tr'' : Past} {s'' : Sys} (first : F.Lasts tr s tr' s')
    (second : F.Lasts tr' s' tr'' s'') : F.Lasts tr s tr'' s'' where
  holds := second.holds
  row row known := second.row row (first.row row known)
  etdr e known := second.etdr e (first.etdr e known)

/-- A program that keeps what is known at its start keeps what was known before. -/
theorem Lasts.safe {tr' : Past} {p : Program α} {post : α → Past → Sys → Prop}
    (lasts : F.Lasts tr s tr' s')
    (safe : K.Safe req p (fun a tr'' s'' => F.Lasts tr' s' tr'' s'' ∧ post a tr'' s'') tr' s') :
    K.Safe req p (fun a tr'' s'' => F.Lasts tr s tr'' s'' ∧ post a tr'' s'') tr' s' :=
  safe.mono fun _ _ _ ⟨after, known⟩ => ⟨lasts.trans after, known⟩

variable (F)

/-- The records that a lookup saves. -/
inductive Writes (tr : Past) (s : Sys) : EtdrWrite → Prop
  | fromStage {row : TransportTransactionStage} (ok : F.row tr s row) (now : Clock) :
      Writes tr s (.fromStage row now)
  | filled {e : Etdr} (ok : F.filled tr s e) : Writes tr s (.filledFromSync e)

/-- The operations of a lookup and what the other tasks do keep what is known, and the rows and
records that are read are known. -/
structure KeptBy (K : Contract backend) (req : Req) : Prop where
  others : ∀ tr s s', F.holds tr s → K.rely req tr s s' → K.inv s' → F.Lasts tr s tr s'
  filled : ∀ tr s s' e, F.holds tr s → K.rely req tr s s' → K.inv s' → F.filled tr s e →
    F.filled tr s' e
  read : ∀ tr s o c, LookupRead F.toLookupScope o → F.holds tr s → K.inv s → K.may req tr o c s →
    K.must req tr o c s ∧ K.inv (o.exec c s).2 ∧
      F.Lasts tr s (tr ++ [⟨o, c, s⟩]) (o.exec c s).2
  save : ∀ tr s write c, F.Writes tr s write → F.holds tr s → K.inv s →
    K.may req tr (.saveEtdr write) c s → K.must req tr (.saveEtdr write) c s ∧
      K.inv ((Op.saveEtdr write).exec c s).2 ∧
      F.Lasts tr s (tr ++ [⟨.saveEtdr write, c, s⟩]) ((Op.saveEtdr write).exec c s).2 ∧
      F.etdr (tr ++ [⟨.saveEtdr write, c, s⟩]) ((Op.saveEtdr write).exec c s).2 write.etdr
  normalized : ∀ etag, F.tag etag → F.tag (normalizeEtag etag)
  sync : ∀ tr s c etag sync, F.tag etag → F.holds tr s →
    K.may req tr (.ask (.syncFindLatestByEtag etag)) c s →
    syncFindLatestByEtag s.syncs etag = some sync → F.sync sync
  latest : ∀ tr s c etag row, F.tag etag → F.holds tr s → K.inv s →
    K.may req tr (.ask (.stageFindLatestByEtag etag)) c s →
    s.stages.findLatestByEtag etag c.rank = some row.selectRow →
    s.stages.row? row.transportTransId = some row → row.etagNumber = some etag →
    F.row (tr ++ [⟨.ask (.stageFindLatestByEtag etag), c, s⟩]) s row.selectRow
  byId : ∀ tr s c id row, F.holds tr s → K.inv s → K.may req tr (.ask (.stageFindById id)) c s →
    s.stages.row? id = some row → F.row (tr ++ [⟨.ask (.stageFindById id), c, s⟩]) s row.selectRow
  latestCached : ∀ tr s c etag e, F.tag etag → F.holds tr s → K.inv s →
    K.may req tr (.cacheGetLatestCheckin etag) c s →
    ((Op.cacheGetLatestCheckin etag).exec c s).1 = some e →
    F.etdr (tr ++ [⟨.cacheGetLatestCheckin etag, c, s⟩])
      ((Op.cacheGetLatestCheckin etag).exec c s).2 e
  allCached : ∀ tr s c etag e, F.tag etag → F.holds tr s → K.inv s →
    K.may req tr (.cacheGetAllByEtag etag) c s → e ∈ ((Op.cacheGetAllByEtag etag).exec c s).1 →
    F.filled (tr ++ [⟨.cacheGetAllByEtag etag, c, s⟩]) ((Op.cacheGetAllByEtag etag).exec c s).2 e

namespace KeptBy

variable {F} (kept : F.KeptBy K req)
include kept

/-- A read, and what follows it. -/
theorem read_bind {o : Op} {next : o.Res → Program α} {post : α → Past → Sys → Prop}
    (read : LookupRead F.toLookupScope o) (holds : F.holds trace s)
    (rest : ∀ c s', F.Lasts trace s trace s' → K.inv s' → K.may req trace o c s' →
      F.Lasts trace s (trace ++ [⟨o, c, s'⟩]) (o.exec c s').2 →
      K.Safe req (next (o.exec c s').1) post (trace ++ [⟨o, c, s'⟩]) (o.exec c s').2) :
    K.Safe req (perform o >>= next) post trace s := by
  refine Contract.safe_perform_bind.mpr fun s' rely inv c may => ?_
  have before := kept.others _ _ _ holds rely inv
  obtain ⟨must, inv', after⟩ := kept.read _ _ _ _ read before.holds inv may
  exact ⟨must, inv', rest c s' before inv may (before.trans after)⟩

theorem ask_bind {q : Query} {next : q.Reply → Program α} {post : α → Past → Sys → Prop}
    (holds : F.holds trace s)
    (rest : ∀ c s', F.Lasts trace s trace s' → K.inv s' → K.may req trace (.ask q) c s' →
      F.Lasts trace s (trace ++ [⟨.ask q, c, s'⟩]) s' →
      K.Safe req (next (q.reply c s')) post (trace ++ [⟨.ask q, c, s'⟩]) s') :
    K.Safe req (ask q >>= next) post trace s :=
  kept.read_bind (.ask q) holds rest

/-- A save, and what follows it. -/
theorem save_bind {write : EtdrWrite} {next : Unit → Program α} {post : α → Past → Sys → Prop}
    (holds : F.holds trace s) (ok : F.Writes trace s write)
    (rest : ∀ s' tr, F.Lasts trace s tr s' → F.etdr tr s' write.etdr →
      K.Safe req (next ()) post tr s') :
    K.Safe req (perform (.saveEtdr write) >>= next) post trace s := by
  refine Contract.safe_perform_bind.mpr fun s' rely inv c may => ?_
  have before := kept.others _ _ _ holds rely inv
  -- what is saved was known before the other tasks moved, and is known after
  have ok' : F.Writes trace s' write := by
    cases ok with
    | fromStage ok now => exact .fromStage (before.row _ ok) now
    | filled ok => exact .filled (kept.filled _ _ _ _ holds rely inv ok)
  obtain ⟨must, inv', after, saved⟩ := kept.save _ _ _ _ ok' before.holds inv may
  exact ⟨must, inv', rest _ _ (before.trans after) saved⟩

theorem of_only {p : Program α} (only : p.Only (LookupRead F.toLookupScope))
    (holds : F.holds trace s) : K.Safe req p (fun _ tr s' => F.Lasts trace s tr s') trace s := by
  refine Contract.safe_of_only (J := fun tr s' => F.Lasts trace s tr s') only (.refl holds) ?_ ?_
  · intro tr s₁ s₂ lasts rely inv
    exact lasts.trans (kept.others _ _ _ lasts.holds rely inv)
  · intro tr s₁ o c read lasts inv may
    obtain ⟨must, inv', after⟩ := kept.read _ _ _ _ read lasts.holds inv may
    exact ⟨must, inv', lasts.trans after⟩

theorem saveFromStage {record : TransportTransactionStage} (holds : F.holds trace s)
    (ok : F.row trace s record) :
    K.Safe req (saveFromStage record)
      (fun saved tr s' => F.Lasts trace s tr s' ∧ ∀ e ∈ saved, F.etdr tr s' e) trace s := by
  refine kept.ask_bind holds fun c s₁ _ _ _ lasts => ?_
  refine kept.save_bind lasts.holds (.fromStage (lasts.row _ ok) _) fun s₂ tr after saved => ?_
  refine Contract.safe_pure.mpr ⟨lasts.trans after, fun e returned => ?_⟩
  cases returned
  exact saved

/-- The newest sync record of a good tag is a good one. -/
theorem latestSyncWithDetails {etag : String} (tag : F.tag etag) (holds : F.holds trace s) :
    K.Safe req (latestSyncWithDetails etag)
      (fun found tr s' => F.Lasts trace s tr s' ∧ ∀ sd ∈ found, F.sync sd.1) trace s := by
  refine kept.ask_bind holds fun c s₁ before _ may lasts => ?_
  split
  · next sync found =>
    have ok : F.sync sync :=
      kept.sync trace s₁ c etag sync tag before.holds may (Choice.eq_of_ok found)
    refine kept.ask_bind lasts.holds fun c s₂ _ _ _ after => ?_
    refine Contract.safe_pure.mpr ⟨lasts.trans after, fun sd found => ?_⟩
    cases found
    exact ok
  · exact Contract.safe_pure.mpr ⟨lasts, fun sd found => by cases found⟩

/-- The candidate that the lookup chooses is a good one. -/
theorem findBestPending {etag : String} (tag : F.tag etag) (holds : F.holds trace s) :
    K.Safe req (findBestPending etag)
      (fun best tr s' => F.Lasts trace s tr s' ∧
        (∀ row, best = some (.bect row) → F.row tr s' row) ∧
        ∀ sync details, best = some (.sync sync details) → F.sync sync) trace s := by
  refine Contract.safe_bind.mpr ((kept.latestSyncWithDetails tag holds).mono ?_)
  rintro syncWithDetails tr s₁ ⟨lasts, syncs⟩
  refine kept.ask_bind lasts.holds fun c s₂ before inv may after => ?_
  refine Contract.safe_pure.mpr ⟨lasts.trans after, fun row chosen => ?_, fun sync details chosen => ?_⟩
  · have read := Choice.eq_some_of_orFault (eq_some_of_bestPendingRecord chosen)
    obtain ⟨stored, found, column, -, rfl⟩ := StageTable.findLatestByEtag_eq_some read
    exact kept.latest tr s₂ c etag stored tag before.holds inv may read found column
  · exact syncs _ (eq_some_of_bestPendingRecord_sync chosen)

theorem tryCheckinFromSync {sync : TransportTransStageSync} (ok : F.sync sync)
    (details : List TransportTransStageSyncDt) (holds : F.holds trace s) :
    K.Safe req (tryCheckinFromSync sync details)
      (fun saved tr s' => F.Lasts trace s tr s' ∧ ∀ e ∈ saved, F.etdr tr s' e) trace s := by
  have nothing : ∀ tr s', F.Lasts trace s tr s' → K.Safe req (pure none : Program (Option Etdr))
      (fun saved tr s' => F.Lasts trace s tr s' ∧ ∀ e ∈ saved, F.etdr tr s' e) tr s' :=
    fun _ _ lasts => Contract.safe_pure.mpr ⟨lasts, fun e saved => by cases saved⟩
  refine Contract.safe_bind.mpr ((kept.of_only (existingPendingTicketId_only .ask _) holds).mono
    fun existing tr s₁ first => ?_)
  refine Contract.safe_bind.mpr ((kept.of_only (ticketIdForSync_only .ask existing) first.holds).mono
    fun ticketId tr s₂ second => ?_)
  refine kept.ask_bind second.holds fun c s₃ _ _ _ third => ?_
  have insert := (stageInsert_only (buildTransportStageFromSync sync (Query.observe.reply c s₃)
    ticketId)).mono fun o op => (show LookupRead F.toLookupScope o by
      cases op with
      | ask q => exact .ask q
      | insertRow id => exact .insertRow ok _ ticketId id)
  refine Contract.safe_bind.mpr ((kept.of_only insert third.holds).mono
    fun inserted tr s₄ fourth => ?_)
  have sofar := (first.trans second).trans (third.trans fourth)
  split
  · exact nothing _ _ sofar
  · next newId =>
    refine kept.ask_bind sofar.holds fun c s₅ before inv may fifth => ?_
    have read_after := sofar.trans fifth
    split
    · next record found =>
      obtain ⟨row, stored, rfl⟩ := StageTable.findById_eq_some (Choice.eq_of_ok found)
      -- the row that was inserted is read back by its id
      have known := kept.byId tr s₅ c newId row before.holds inv may stored
      have tcd : ∀ skipped list, (saveTcdFromSync skipped row.selectRow.transportTransId list).Only
          (LookupRead F.toLookupScope) := by
        intro skipped list
        unfold saveTcdFromSync
        split
        · trivial
        · exact (only_ask_bind _ _).mpr ⟨.ask _, fun _ => trivial⟩
      refine Contract.safe_bind.mpr ((kept.of_only (tcd _ _) read_after.holds).mono
        fun _ tr s₆ sixth => ?_)
      exact (read_after.trans sixth).safe
        (kept.saveFromStage sixth.holds (sixth.row _ known))
    · exact nothing _ _ read_after

/-- The record that is filled is one of the cache. -/
theorem fillCachedFromSync {etag : String} (tag : F.tag etag) {sync : TransportTransStageSync}
    (ok : F.sync sync) (ticketInId : Int) (holds : F.holds trace s) :
    K.Safe req (fillCachedFromSync etag sync ticketInId)
      (fun filled tr s' => F.Lasts trace s tr s' ∧ ∀ e ∈ filled, F.filled tr s' e) trace s := by
  refine kept.read_bind (.getAll tag) holds fun c s₁ _ _ _ first => ?_
  split
  · exact Contract.safe_pure.mpr ⟨first, fun e filled => by cases filled⟩
  · refine kept.read_bind (.fill tag ok _) first.holds fun c s₂ _ _ _ second => ?_
    refine kept.read_bind (.getAll tag) second.holds fun c s₃ before inv may third => ?_
    refine Contract.safe_pure.mpr ⟨first.trans (second.trans third), fun e filled => ?_⟩
    exact kept.allCached _ s₃ c etag e tag before.holds inv may (List.mem_of_find?_eq_some filled)

theorem lookup {etag : String} (tag : F.tag etag) (holds : F.holds trace s) :
    K.Safe req (getBestPendingFromSyncOrMainBect etag)
      (fun stored tr s' => F.Lasts trace s tr s' ∧ ∀ e ∈ stored, F.etdr tr s' e) trace s := by
  have tag' := kept.normalized etag tag
  refine Contract.safe_bind.mpr ((kept.findBestPending tag' holds).mono ?_)
  rintro best tr s₁ ⟨lasts, rows, syncs⟩
  split
  · exact Contract.safe_pure.mpr ⟨lasts, fun e stored => by cases stored⟩
  · next sync details =>
    have ok := syncs sync details rfl
    unfold lookupFromSync
    split
    · exact lasts.safe (kept.tryCheckinFromSync ok details lasts.holds)
    · refine Contract.safe_bind.mpr ((kept.fillCachedFromSync tag' ok _ lasts.holds).mono ?_)
      rintro filled tr s₂ ⟨after, known⟩
      have both := lasts.trans after
      split
      · next etdr =>
        refine kept.save_bind both.holds (.filled (known etdr rfl)) fun s₃ tr last saved => ?_
        refine Contract.safe_pure.mpr ⟨both.trans last, fun e stored => ?_⟩
        cases stored
        exact saved
      · exact both.safe (kept.tryCheckinFromSync ok details both.holds)
  · next record => exact lasts.safe (kept.saveFromStage lasts.holds (rows record rfl))

/-- A lookup of a good tag keeps what is known, also of the record it returns, if any. -/
theorem resolveLatestEtdr {etag : String} (tag : F.tag etag) (holds : F.holds trace s) :
    K.Safe req (resolveLatestEtdr etag)
      (fun latest tr s' => F.Lasts trace s tr s' ∧ ∀ e ∈ latest, F.etdr tr s' e) trace s := by
  refine kept.read_bind (.getLatest tag) holds fun c s₁ before inv may first => ?_
  refine Contract.safe_bind.mpr ((kept.lookup tag first.holds).mono ?_)
  rintro stored tr s₂ ⟨second, known⟩
  refine Contract.safe_pure.mpr ⟨first.trans second, fun e merged => ?_⟩
  -- the record is the cached one or the one that was looked up
  rcases mergeLatestCheckinEtdr_mem merged with cached | found
  · exact second.etdr e (kept.latestCached _ s₁ c etag e tag before.holds inv may cached)
  · exact known e found

end KeptBy

end LookupFacts

/-! ### What is known whatever the state -/

/-- What a lookup takes to be good: the tags that it looks for, and the sync records, rows
and records that it handles. -/
structure LookupGoals extends LookupScope where
  row : TransportTransactionStage → Prop
  etdr : Etdr → Prop

/-- The operations of a lookup keep the invariant `J`, under which what it reads is good. -/
structure LookupKept (K : Contract backend) (req : Req) (J : Sys → Prop) (good : LookupGoals) :
    Prop where
  others : ∀ tr s s', J s → K.rely req tr s s' → K.inv s' → J s'
  read : ∀ tr s o c, LookupRead good.toLookupScope o → J s → K.inv s → K.may req tr o c s →
    K.must req tr o c s ∧ K.inv (o.exec c s).2 ∧ J (o.exec c s).2
  save : ∀ tr s write c, good.etdr (EtdrWrite.etdr write) → J s → K.inv s →
    K.may req tr (.saveEtdr write) c s → K.must req tr (.saveEtdr write) c s ∧
      K.inv ((Op.saveEtdr write).exec c s).2 ∧ J ((Op.saveEtdr write).exec c s).2
  normalized : ∀ etag, good.tag etag → good.tag (normalizeEtag etag)
  sync : ∀ tr s c etag sync, good.tag etag → J s →
    K.may req tr (.ask (.syncFindLatestByEtag etag)) c s →
    syncFindLatestByEtag s.syncs etag = some sync → good.sync sync
  latest : ∀ s etag row, good.tag etag → J s → s.stages.row? row.transportTransId = some row →
    row.etagNumber = some etag → good.row row.selectRow
  byId : ∀ tr s c id row, J s → K.may req tr (.ask (.stageFindById id)) c s →
    s.stages.row? id = some row → good.row row.selectRow
  record : ∀ row now, good.row row → good.etdr (.fromTransportTransactionStage row now)
  cached : ∀ s key e, good.tag key → J s → s.cache.Cached key e → good.etdr e

/-- What is good whatever the state. -/
def LookupGoals.facts (good : LookupGoals) (J : Sys → Prop) : LookupFacts where
  toLookupScope := good.toLookupScope
  holds _ s := J s
  row _ _ row := good.row row
  etdr _ _ e := good.etdr e
  filled _ _ e := good.etdr e

namespace LookupKept

variable {J : Sys → Prop} {good : LookupGoals}

theorem facts (kept : LookupKept K req J good) : (good.facts J).KeptBy K req where
  others tr s s' holds rely inv :=
    ⟨kept.others tr s s' holds rely inv, fun _ known => known, fun _ known => known⟩
  filled _ _ _ _ _ _ _ known := known
  read tr s o c read holds inv may := by
    obtain ⟨must, inv', after⟩ := kept.read tr s o c read holds inv may
    exact ⟨must, inv', after, fun _ known => known, fun _ known => known⟩
  save tr s write c ok holds inv may := by
    have good : good.etdr write.etdr := by
      cases ok with
      | fromStage ok now => exact kept.record _ now ok
      | filled ok => exact ok
    obtain ⟨must, inv', after⟩ := kept.save tr s write c good holds inv may
    exact ⟨must, inv', ⟨after, fun _ known => known, fun _ known => known⟩, good⟩
  normalized := kept.normalized
  sync := kept.sync
  latest tr s c etag row tag holds _ _ _ found column := kept.latest s etag row tag holds found column
  byId tr s c id row holds _ may found := kept.byId tr s c id row holds may found
  latestCached tr s c etag e tag holds _ _ read :=
    kept.cached s _ e (kept.normalized etag tag) holds (EtdrCache.getLatestCheckin_cached read)
  allCached tr s c etag e tag holds _ _ read :=
    kept.cached s _ e (kept.normalized etag tag) holds (EtdrCache.getAllByEtag_cached read)

theorem lookup (kept : LookupKept K req J good) {etag : String} (tag : good.tag etag)
    (holds : J s) :
    K.Safe req (getBestPendingFromSyncOrMainBect etag)
      (fun stored _ s => J s ∧ ∀ e ∈ stored, good.etdr e) trace s :=
  (kept.facts.lookup tag holds).mono fun _ _ _ ⟨lasts, known⟩ => ⟨lasts.holds, known⟩

/-- A lookup of a good tag keeps the invariant, and returns a good record, if any. -/
theorem resolveLatestEtdr (kept : LookupKept K req J good) {etag : String} (tag : good.tag etag)
    (holds : J s) :
    K.Safe req (resolveLatestEtdr etag) (fun latest _ s => J s ∧ ∀ e ∈ latest, good.etdr e)
      trace s :=
  (kept.facts.resolveLatestEtdr tag holds).mono fun _ _ _ ⟨lasts, known⟩ => ⟨lasts.holds, known⟩

end LookupKept

end TollBackend

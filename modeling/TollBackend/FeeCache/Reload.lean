import TollBackend.FeeCache.ListContext
import TollBackend.FeeCache.Prices
import TollBackend.FeeCache.Segments
import TollBackend.FeeCache.Store

/-!
# Reloads of the fee caches

All loaders of the fee caches work alike: what they have read from the database replaces what is
in the stores and in memory; where the database gave an error, they fall back to KeyDB if they are
told to. Whether a row that is not fetched counts as an error is up to the loop of each loader.

## Main definitions

* `CacheLoader`, `CacheLoader.reload`: a loader, and its reload.
* `FeeCache`: the six caches, and the loader of each.
* `AllOrNothing`: a failed read changes nothing, and a successful one gives all of its rows.

## Main results

* `CacheLoader.Laws.replacesAll_iff`: when the reload of a loader is all or nothing.
* `FeeCache.allOrNothing_iff`: when the reload of a fee cache is all or nothing.
-/

namespace TollBackend

open Rows

/-! ### Loaders -/

/-- A loader: how it reads its tables, what it puts under the keys of its prefix, and what it puts
into memory, from the database or from KeyDB. -/
structure CacheLoader where
  Answers : Type
  Data : Type
  Value : Type
  Memory : Type
  read : Answers → Except DbError Data
  ReadFails : Answers → Prop
  ReportsFailure : Answers → Prop
  Complete : Answers → Data → Prop
  entries : Data → List (String × Value)
  fill : (String → Nat) → Data → Memory
  fillFromKeydb : (String → Nat) → List (String × Value) → Memory → Memory
  /-- what was found in KeyDB is written to the stores -/
  writesBack : Bool

/-- The stores under the prefix of a loader, and its memory. -/
@[ext] structure LoaderState (L : CacheLoader) where
  store : PrefixStore L.Value
  memory : L.Memory

namespace CacheLoader

variable (L : CacheLoader)

/-- What the database gives; without a pool, an error. -/
def readFrom (answers : Option L.Answers) : Except DbError L.Data :=
  match answers with
  | some answers => L.read answers
  | none => .error (.executionError "DB pool not available")

/-- `get_toll_fee_list_cache`, `get_price_cache`, `get_closed_cycle_transition_stage_cache` and
`get_subscription_history_cache`. -/
def reload (answers : Option L.Answers) (loadFromKeydb : Bool) (env : StoreAnswers)
    (s : LoaderState L) : LoaderState L :=
  match L.readFrom answers with
  | .ok data =>
      { store := atomicReloadPrefix env (L.entries data) s.store
        memory := L.fill env.rank data }
  | .error _ =>
      if loadFromKeydb = false then s
      else
        let loaded := loadPrefixFromKeydb env s.store
        if loaded.isEmpty then s
        else
          { store := if L.writesBack then atomicReloadPrefix env loaded s.store else s.store
            memory := L.fillFromKeydb env.rank loaded s.memory }

/-- The table could not be read: there is no pool, or reading it fails. -/
def Failed (answers : Option L.Answers) : Prop :=
  ∀ a, answers = some a → L.ReadFails a

/-- The loader says that the table could not be read. -/
def Reported (answers : Option L.Answers) : Prop :=
  ∀ a, answers = some a → L.ReportsFailure a

/-- Whatever there was before: a failed read changes nothing, and a successful one gives the stores
and the memory of all of its rows. -/
structure AllOrNothing (answers : Option L.Answers) (loadFromKeydb : Bool) : Prop where
  kept : L.Failed answers → ∀ env s, L.reload answers loadFromKeydb env s = s
  replaced : ¬ L.Failed answers → ∃ a data, answers = some a ∧ L.Complete a data ∧
    ∀ env s, (L.reload answers loadFromKeydb env s).memory = L.fill env.rank data ∧
      ReplacedBy (L.entries data) s.store (L.reload answers loadFromKeydb env s).store

/-- What the loops of a loader have in common: they end with an error at the failures that they
report, and without a failure they read everything. -/
structure Laws : Prop where
  fails_read_iff : ∀ a, Fails (L.read a) ↔ L.ReportsFailure a
  readFails : ∀ a, L.ReportsFailure a → L.ReadFails a
  complete : ∀ a, ¬ L.ReadFails a → ∃ data, L.read a = .ok data ∧ L.Complete a data
  value : Nonempty L.Value
  memory : Nonempty L.Memory
  fallback : L.writesBack = false → ∃ key value memory,
    L.fillFromKeydb (fun _ => 0) [(key, value)] memory ≠ memory

variable {L} {answers : Option L.Answers} {loadFromKeydb : Bool}

theorem Laws.fails_readFrom_iff (laws : L.Laws) :
    Fails (L.readFrom answers) ↔ L.Reported answers := by
  cases answers with
  | none => exact iff_of_true (fails_error _) fun a impossible => by cases impossible
  | some a =>
    refine (laws.fails_read_iff a).trans ⟨fun reports b same => ?_, fun reports => reports a rfl⟩
    cases same
    exact reports

theorem reload_of_error {e : DbError} (error : L.readFrom answers = .error e) (env : StoreAnswers)
    (s : LoaderState L) : L.reload answers loadFromKeydb env s =
      if loadFromKeydb = false then s
      else if (loadPrefixFromKeydb env s.store).isEmpty then s
      else
        { store :=
            if L.writesBack then atomicReloadPrefix env (loadPrefixFromKeydb env s.store) s.store
            else s.store
          memory := L.fillFromKeydb env.rank (loadPrefixFromKeydb env s.store) s.memory } := by
  rw [reload, error]

theorem reload_of_ok {data : L.Data} (loaded : L.readFrom answers = .ok data) (env : StoreAnswers)
    (s : LoaderState L) : L.reload answers loadFromKeydb env s =
      { store := atomicReloadPrefix env (L.entries data) s.store
        memory := L.fill env.rank data } := by
  rw [reload, loaded]

/-- KeyDB answers every command. -/
def keydbWorks : StoreAnswers where
  sets := 5000
  scans := true
  gets := true
  removes := true

/-- No data leave all stores unchanged. -/
theorem exists_atomicReloadPrefix_ne {Value : Type} (v : Value) (data : List (String × Value)) :
    ∃ s, atomicReloadPrefix keydbWorks data s ≠ s := by
  cases ends : data.reverse with
  | nil =>
    -- a single key in Moka is stale
    have empty : data = [] := List.reverse_eq_nil_iff.mp ends
    refine ⟨{ moka := [("", v)] }, fun same => ?_⟩
    have kept := congrArg (fun s => s.moka.length) same
    rw [empty] at kept
    simp [atomicReloadPrefix, setNewData, staleKeys, keysWithPrefix, assocSetAll, assocEraseAll,
      keydbWorks, atomicReloadStaleCap] at kept
  | cons kv rest =>
    refine ⟨{}, fun same => ?_⟩
    have found : data.reverse.lookup kv.1 = some kv.2 := by
      rw [ends, List.lookup_cons, beq_self_eq_true]
    have new := (replacedBy_atomicReloadPrefix keydbWorks data {}).moka_new _ _ found
    rw [same] at new
    cases new

/-- A reload that has read something changes some state. -/
theorem Laws.exists_reload_ne_of_ok (laws : L.Laws) (loadFromKeydb : Bool) {data : L.Data}
    (loaded : L.readFrom answers = .ok data) :
    ∃ env s, L.reload answers loadFromKeydb env s ≠ s := by
  obtain ⟨v⟩ := laws.value
  obtain ⟨memory⟩ := laws.memory
  obtain ⟨store, changed⟩ := exists_atomicReloadPrefix_ne v (L.entries data)
  refine ⟨keydbWorks, ⟨store, memory⟩, fun same => changed ?_⟩
  rw [reload_of_ok loaded] at same
  exact congrArg LoaderState.store same

/-- A fallback to KeyDB changes some state. -/
theorem Laws.exists_reload_ne_of_error (laws : L.Laws) {e : DbError}
    (error : L.readFrom answers = .error e) :
    ∃ env s, L.reload answers true env s ≠ s := by
  cases writes : L.writesBack with
  | true =>
    obtain ⟨v⟩ := laws.value
    obtain ⟨memory⟩ := laws.memory
    refine ⟨keydbWorks, ⟨{ keydb := [("", some v)] }, memory⟩, fun same => ?_⟩
    rw [reload_of_error error] at same
    have found : loadPrefixFromKeydb keydbWorks
        ({ keydb := [("", some v)] } : PrefixStore L.Value) = [("", v)] := rfl
    have store := congrArg LoaderState.store same
    simp only [found, writes, Bool.true_eq_false, if_false, List.isEmpty_cons,
      Bool.false_eq_true, if_true] at store
    have new := (replacedBy_atomicReloadPrefix keydbWorks [("", v)]
      { keydb := [("", some v)] }).moka_new "" v rfl
    rw [store] at new
    cases new
  | false =>
    obtain ⟨key, value, memory, changed⟩ := laws.fallback writes
    refine ⟨keydbWorks, ⟨{ keydb := [(key, some value)] }, memory⟩, fun same => changed ?_⟩
    rw [reload_of_error error] at same
    have found : loadPrefixFromKeydb keydbWorks
        ({ keydb := [(key, some value)] } : PrefixStore L.Value) = [(key, value)] := rfl
    have filled := congrArg LoaderState.memory same
    simp only [found, Bool.true_eq_false, if_false, List.isEmpty_cons, Bool.false_eq_true] at filled
    exact filled

/-- The reload of a loader is all or nothing exactly where each failure to read is reported, and
no fallback to KeyDB follows it. -/
theorem Laws.replacesAll_iff (laws : L.Laws) (answers : Option L.Answers)
    (loadFromKeydb : Bool) : L.AllOrNothing answers loadFromKeydb ↔
      (L.Failed answers → L.Reported answers ∧ loadFromKeydb = false) := by
  constructor
  · intro all failed
    constructor
    · rw [← laws.fails_readFrom_iff]
      by_contra ok
      obtain ⟨data, loaded⟩ := exists_eq_ok_of_not_fails ok
      obtain ⟨env, s, changed⟩ := laws.exists_reload_ne_of_ok loadFromKeydb loaded
      exact changed (all.kept failed env s)
    · by_contra fallback
      rw [Bool.not_eq_false] at fallback
      subst fallback
      cases outcome : L.readFrom answers with
      | error e =>
        obtain ⟨env, s, changed⟩ := laws.exists_reload_ne_of_error outcome
        exact changed (all.kept failed env s)
      | ok data =>
        obtain ⟨env, s, changed⟩ := laws.exists_reload_ne_of_ok true outcome
        exact changed (all.kept failed env s)
  · intro reported
    constructor
    · intro failed env s
      obtain ⟨reports, off⟩ := reported failed
      obtain ⟨e, error⟩ := laws.fails_readFrom_iff.mpr reports
      rw [reload_of_error error, if_pos off]
    · intro readable
      obtain ⟨a, given, ok⟩ : ∃ a, answers = some a ∧ ¬ L.ReadFails a := by
        unfold Failed at readable
        push Not at readable
        exact readable
      obtain ⟨data, read, complete⟩ := laws.complete a ok
      refine ⟨a, data, given, complete, fun env s => ?_⟩
      have loaded : L.readFrom answers = .ok data := by rw [given, readFrom, read]
      rw [reload_of_ok loaded]
      exact ⟨rfl, replacedBy_atomicReloadPrefix _ _ _⟩

end CacheLoader

/-! ### The six caches -/

/-- A loader of one query, whose rows are the data. -/
def TableQuery.loader {Dto Value Memory : Type} (query : TableQuery Dto)
    (entries : List Dto → List (String × Value)) (fill : (String → Nat) → List Dto → Memory)
    (fillFromKeydb : (String → Nat) → List (String × Value) → Memory) : CacheLoader where
  Answers := QueryResult
  Data := List Dto
  Value := Value
  Memory := Memory
  read := query.load
  ReadFails := query.ReadFails
  ReportsFailure := query.ReportsFailure
  Complete := query.Complete
  entries := entries
  fill := fill
  fillFromKeydb rank loaded _ := fillFromKeydb rank loaded
  writesBack := true

theorem TableQuery.loader_laws {Dto Value Memory : Type} [Nonempty Value] [Nonempty Memory]
    (query : TableQuery Dto) (entries : List Dto → List (String × Value))
    (fill : (String → Nat) → List Dto → Memory)
    (fillFromKeydb : (String → Nat) → List (String × Value) → Memory) :
    (query.loader entries fill fillFromKeydb).Laws where
  fails_read_iff _ := query.fails_load_iff
  readFails _ reports := reports.readFails
  complete _ readable := exists_load_of_not_readFails readable
  value := ‹Nonempty Value›
  memory := ‹Nonempty Memory›
  fallback writes := by cases writes

/-- The loader of `WB_LIST`, `EX_LIST` or `EX_PRICE_LIST`. -/
def ListSource.loader {Dto : Type} (source : ListSource Dto) : CacheLoader :=
  source.query.loader
    (fun rows => (source.groupByEtag rows).map fun kv => (source.cachePrefix ++ ":" ++ kv.1, kv.2))
    (fun _ rows => source.groupByEtag rows)
    (fun _ loaded => source.fromKeydb loaded)

/-- The loader of the prices. -/
def priceLoader : CacheLoader :=
  activePrice.loader priceEntries (fun rank rows => replaceAllPrices rank (priceEntries rows))
    replaceAllPrices

/-- The subscriptions of each tag. -/
def groupSubscriptions (rows : List (String × SubscriptionHistoryDto)) :
    List (String × List SubscriptionHistoryDto) :=
  rows.foldl (fun byEtag row =>
    assocSet byEtag row.1 ((byEtag.lookup row.1).getD [] ++ [row.2])) []

/-- The loader of the subscriptions, which are in no memory but Moka. -/
def subscriptionLoader : CacheLoader :=
  subscriptionHistory.loader
    (fun rows => ((groupSubscriptions rows).filter fun kv => kv.1 != "").map
      fun kv => ("11_subscription_history:" ++ kv.1, kv.2))
    (fun _ _ => ()) (fun _ _ => ())

/-- The stages that a load of the segments asks for. -/
def SegmentAnswers.stageIds (answers : SegmentAnswers) : List Int :=
  match transitionStages.load answers.stages with
  | .ok rows => SegmentMaps.stageIdsOf (SegmentMaps.groupSegments rows)
  | .error _ => []

/-- One of the queries that a load makes cannot be read. -/
def SegmentAnswers.ReadFails (answers : SegmentAnswers) : Prop :=
  transitionStages.ReadFails answers.stages ∨ (answers.stageIds ≠ [] ∧
    (cycleByStage.ReadFails (answers.cycles answers.stageIds) ∨
      tollAbByStage.ReadFails (answers.tollAbs answers.stageIds)))

/-- One of the queries that a load makes ends it with an error. -/
def SegmentAnswers.ReportsFailure (answers : SegmentAnswers) : Prop :=
  transitionStages.ReportsFailure answers.stages ∨ (answers.stageIds ≠ [] ∧
    (cycleByStage.ReportsFailure (answers.cycles answers.stageIds) ∨
      tollAbByStage.ReportsFailure (answers.tollAbs answers.stageIds)))

/-- The maps are made of all rows of the three tables. -/
def SegmentAnswers.Complete (answers : SegmentAnswers) (maps : SegmentMaps) : Prop :=
  ∃ rows cycles tollAbs, transitionStages.Complete answers.stages rows ∧
    (answers.stageIds = [] ∧ cycles = [] ∧ tollAbs = [] ∨
      cycleByStage.Complete (answers.cycles answers.stageIds) cycles ∧
        tollAbByStage.Complete (answers.tollAbs answers.stageIds) tollAbs) ∧
    maps = SegmentMaps.ofRows rows cycles tollAbs

/-- The loader of the closed-cycle segments. Its fallback fills one of the three maps. -/
def segmentLoader : CacheLoader where
  Answers := SegmentAnswers
  Data := SegmentMaps
  Value := List Int
  Memory := SegmentMaps
  read := SegmentMaps.loadSegments
  ReadFails answers := answers.ReadFails
  ReportsFailure answers := answers.ReportsFailure
  Complete answers maps := answers.Complete maps
  entries := SegmentMaps.segmentEntries
  fill _ maps := maps
  fillFromKeydb _ loaded maps := { maps with segments := SegmentMaps.segmentsFromKeydb loaded }
  writesBack := false

section Segments

variable {answers : SegmentAnswers}

/-- A query that is made only for some stages. -/
theorem fails_loadForStages_iff {Dto : Type} (query : TableQuery Dto)
    (result : List Int → QueryResult) (stageIds : List Int) :
    Fails (SegmentMaps.loadForStages query result stageIds) ↔
      stageIds ≠ [] ∧ query.ReportsFailure (result stageIds) := by
  unfold SegmentMaps.loadForStages
  by_cases none : stageIds = []
  · rw [if_pos none]
    exact iff_of_false (not_fails_ok _) fun h => h.1 none
  · rw [if_neg none, TableQuery.fails_load_iff]
    exact (and_iff_right none).symm

theorem stageIds_of_load {rows : List (Int × Int × Int)}
    (loaded : transitionStages.load answers.stages = .ok rows) :
    answers.stageIds = SegmentMaps.stageIdsOf (SegmentMaps.groupSegments rows) := by
  unfold SegmentAnswers.stageIds
  rw [loaded]

theorem fails_loadSegments_iff :
    Fails (SegmentMaps.loadSegments answers) ↔ answers.ReportsFailure := by
  unfold SegmentMaps.loadSegments SegmentAnswers.ReportsFailure
  rw [← TableQuery.fails_load_iff]
  cases loaded : transitionStages.load answers.stages with
  | error e => exact iff_of_true (fails_error _) (.inl (fails_error _))
  | ok rows =>
    rw [and_or_left, stageIds_of_load loaded]
    refine Iff.trans ?_ (or_iff_right (not_fails_ok rows)).symm
    have last : ∀ cycles tollAbs, Fails (pure (SegmentMaps.ofRows rows cycles tollAbs) :
        Except DbError SegmentMaps) ↔ False :=
      fun _ _ => iff_of_false (not_fails_pure _) id
    change Fails (do
      let cycles ← SegmentMaps.loadForStages cycleByStage answers.cycles
        (SegmentMaps.stageIdsOf (SegmentMaps.groupSegments rows))
      let tollAbs ← SegmentMaps.loadForStages tollAbByStage answers.tollAbs
        (SegmentMaps.stageIdsOf (SegmentMaps.groupSegments rows))
      pure (SegmentMaps.ofRows rows cycles tollAbs)) ↔ _
    refine fails_bind_iff (fails_loadForStages_iff _ _ _) fun cycles => ?_
    rw [← or_false (_ ∧ tollAbByStage.ReportsFailure _)]
    exact fails_bind_iff (fails_loadForStages_iff _ _ _) (last cycles)

/-- Without a failure, all three queries are read. -/
theorem exists_loadSegments_of_not_readFails (readable : ¬ answers.ReadFails) :
    ∃ maps, SegmentMaps.loadSegments answers = .ok maps ∧ answers.Complete maps := by
  unfold SegmentAnswers.ReadFails at readable
  rw [not_or, not_and, not_or] at readable
  obtain ⟨stages, others⟩ := readable
  obtain ⟨rows, loaded, complete⟩ := TableQuery.exists_load_of_not_readFails stages
  have ids := stageIds_of_load loaded
  unfold SegmentMaps.loadSegments
  rw [loaded]
  by_cases none : answers.stageIds = []
  · refine ⟨SegmentMaps.ofRows rows [] [], ?_, rows, [], [], complete, .inl ⟨none, rfl, rfl⟩, rfl⟩
    simp only [bind, Except.bind, SegmentMaps.loadForStages, ← ids, if_pos none]
    rfl
  · obtain ⟨cyclesRead, tollAbsRead⟩ := others none
    obtain ⟨cycles, cyclesLoaded, cyclesComplete⟩ :=
      TableQuery.exists_load_of_not_readFails cyclesRead
    obtain ⟨tollAbs, tollAbsLoaded, tollAbsComplete⟩ :=
      TableQuery.exists_load_of_not_readFails tollAbsRead
    refine ⟨SegmentMaps.ofRows rows cycles tollAbs, ?_, rows, cycles, tollAbs, complete,
      .inr ⟨cyclesComplete, tollAbsComplete⟩, rfl⟩
    simp only [bind, Except.bind, SegmentMaps.loadForStages, ← ids, if_neg none, cyclesLoaded,
      tollAbsLoaded]
    rfl

theorem segmentLoader_laws : segmentLoader.Laws where
  fails_read_iff _ := fails_loadSegments_iff
  readFails answers reports := by
    rcases reports with stages | ⟨some, cycles | tollAbs⟩
    · exact .inl stages.readFails
    · exact .inr ⟨some, .inl cycles.readFails⟩
    · exact .inr ⟨some, .inr tollAbs.readFails⟩
  complete _ readable := exists_loadSegments_of_not_readFails readable
  value := ⟨[]⟩
  memory := ⟨{}⟩
  fallback _ := by
    refine ⟨"7_closed_cycle_transition_stage:1:2", ([] : List Int), ({} : SegmentMaps), ?_⟩
    intro same
    have segments := congrArg (fun maps : SegmentMaps => maps.segments.length) same
    revert segments
    decide +kernel

end Segments

/-- The fee caches. -/
inductive FeeCache
  | wb
  | ex
  | exPrice
  | price
  | segments
  | subscription
deriving DecidableEq

namespace FeeCache

/-- The loader of a cache. -/
def loader : FeeCache → CacheLoader
  | wb => ListSource.wb.loader
  | ex => ListSource.ex.loader
  | exPrice => ListSource.exPrice.loader
  | price => priceLoader
  | segments => segmentLoader
  | subscription => subscriptionLoader

theorem loader_laws (cache : FeeCache) : cache.loader.Laws := by
  have lists : ∀ {Dto : Type} (source : ListSource Dto), source.loader.Laws := by
    intro Dto source
    have value : Nonempty (List Dto) := ⟨[]⟩
    have memory : Nonempty (List (String × List Dto)) := ⟨[]⟩
    exact source.query.loader_laws _ _ _
  cases cache with
  | wb => exact lists _
  | ex => exact lists _
  | exPrice => exact lists _
  | price =>
    have value : Nonempty PriceDto := ⟨{}⟩
    have memory : Nonempty PriceMemory := ⟨{}⟩
    exact activePrice.loader_laws _ _ _
  | segments => exact segmentLoader_laws
  | subscription =>
    have value : Nonempty (List SubscriptionHistoryDto) := ⟨[]⟩
    exact subscriptionHistory.loader_laws _ _ _

/-- The reload of a fee cache is all or nothing exactly where every failure to read its tables is
one that its loop reports, and no fallback to KeyDB follows it. -/
theorem allOrNothing_iff (cache : FeeCache) (answers : Option cache.loader.Answers)
    (loadFromKeydb : Bool) : cache.loader.AllOrNothing answers loadFromKeydb ↔
      (cache.loader.Failed answers →
        cache.loader.Reported answers ∧ loadFromKeydb = false) :=
  cache.loader_laws.replacesAll_iff answers loadFromKeydb

/-! ### A truncated black list -/

/-- A row of `WB_LIST`: tag `T1` is on the black list. -/
def blackRow : CursorRow where
  getData column := .ok (if column = 1 then some 0 else none)
  getText column := .ok (match column with
    | 3 => some "B"
    | 4 => some "T1"
    | _ => none)

/-- A result of which only the first row is fetched. -/
def brokenOff : QueryResult :=
  .ok (some (.row blackRow (.fails "connection lost")))

/-- The rest of the black list is lost, although nothing falls back to KeyDB. -/
theorem truncatedBlackList : ¬ wb.loader.AllOrNothing (some brokenOff) false := by
  intro all
  have failed : wb.loader.Failed (some brokenOff) := by
    intro answers given
    cases given
    exact .inr ⟨_, rfl, .inl ⟨_, rfl⟩⟩
  have kept := all.kept failed CacheLoader.keydbWorks
    ⟨{}, ([("T2", [])] : List (String × List WbListRouteDto))⟩
  have memory := congrArg (fun s : LoaderState wb.loader =>
    ((show List (String × List WbListRouteDto) from s.memory).lookup "T2").isSome) kept
  revert memory
  decide +kernel

end FeeCache

end TollBackend

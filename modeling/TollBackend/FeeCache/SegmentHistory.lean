import TollBackend.FeeCache.SegmentNodes

/-!
# Segments do not depend on their history

Whatever has brought a segment to the memory of a node, it is that of the table, and the node knows
its stages. This is kept by every call at which segments come without their stages only to a node
that knows the stages. At another node they are kept without a cycle.

## Main definitions

* `SegmentTable.InMemory`, `SegmentTable.InKeydb`: memory and KeyDB have the segments of the table.

## Main results

* `SegmentTable.At.reload`, `SegmentTable.At.getSegmentsForLeg`: what the calls leave.
* `SegmentTable.sameAnswers_of_reaches`: the answers do not depend on the history.
* `SegmentTable.cycle_lost_at_restart`: a restart at which the database is missing.
-/

namespace TollBackend

open Concurrent Rows SegmentMaps

/-! ### The keys of segments -/

namespace SegmentMaps

theorem segmentKey_comm (a b : Int) : segmentKey a b = segmentKey b a := by
  unfold SegmentMaps.segmentKey
  split <;> split <;> simp only [Prod.mk.injEq] <;> omega

theorem segmentKey_eq_iff (a b c d : Int) :
    segmentKey a b = segmentKey c d ↔ (a = c ∧ b = d) ∨ (a = d ∧ b = c) := by
  unfold segmentKey
  split <;> split <;> simp only [Prod.mk.injEq] <;> omega

end SegmentMaps

namespace SegmentTable

variable (t : SegmentTable)

/-- The query for a leg asks for both directions, as the key of its segment does. -/
theorem legIds_eq (tollA tollB : Int) :
    t.legIds tollA tollB = t.idsOf (SegmentMaps.segmentKey tollA tollB) := by
  unfold legIds idsOf
  congr 2
  funext row
  rw [decide_eq_decide]
  exact (segmentKey_eq_iff _ _ _ _).symm

variable {t}

/-- The stations of a segment have 64 bits. -/
theorem fits_of_segmentAt {key : Int × Int} {seg : List Int} (found : t.segmentAt key = some seg) :
    FitsI64 key.1 ∧ FitsI64 key.2 := by
  unfold segmentAt at found
  split at found
  · cases found
  · next nonempty =>
    unfold idsOf at nonempty
    rw [List.map_eq_nil_iff, List.filter_eq_nil_iff] at nonempty
    push Not at nonempty
    obtain ⟨row, mem, same⟩ := nonempty
    rw [decide_eq_true_iff] at same
    obtain ⟨first, second⟩ := t.stations_fit row mem
    rw [← same, SegmentMaps.segmentKey]
    split
    · exact ⟨first, second⟩
    · exact ⟨second, first⟩

end SegmentTable

/-! ### A load of all segments -/

namespace SegmentMaps

/-- The transitions of a segment are those of its rows, in their order. -/
theorem lookup_groupSegments (rows : List (Int × Int × Int)) (key : Int × Int) :
    (groupSegments rows).lookup key =
      if (rows.filter fun row => segmentKey row.1 row.2.1 = key) = [] then none
      else some ((rows.filter fun row => segmentKey row.1 row.2.1 = key).map
        fun row => row.2.2) := by
  induction rows using List.reverseRecOn with
  | nil => rfl
  | append_singleton rows row ih =>
    have step : groupSegments (rows ++ [row]) = assocSet (groupSegments rows)
        (segmentKey row.1 row.2.1)
        (((groupSegments rows).lookup (segmentKey row.1 row.2.1)).getD [] ++ [row.2.2]) := by
      rw [groupSegments, List.foldl_append]
      rfl
    rw [step, lookup_assocSet, List.filter_append]
    by_cases own : key = segmentKey row.1 row.2.1
    · subst own
      rw [if_pos rfl, ih]
      split
      · next empty => simp [empty]
      · simp
    · have other : ([row].filter fun row => segmentKey row.1 row.2.1 = key) = [] := by
        simp [Ne.symm own]
      rw [if_neg own, ih, other, List.append_nil]

theorem nodup_keys_groupSegments (rows : List (Int × Int × Int)) :
    ((groupSegments rows).map fun kv => kv.1).Nodup := by
  induction rows using List.reverseRecOn with
  | nil => exact List.nodup_nil
  | append_singleton rows row ih =>
    rw [groupSegments, List.foldl_append]
    exact nodup_keys_assocSet ih _ _

/-- A stage occurs in the map if it occurs in a row. -/
theorem mem_stageIdsOf (rows : List (Int × Int × Int)) (stageId : Int) :
    stageId ∈ stageIdsOf (groupSegments rows) ↔ stageId ∈ rows.map fun row => row.2.2 := by
  rw [stageIdsOf, List.mem_dedup, List.mem_flatMap, List.mem_map]
  constructor
  · rintro ⟨⟨key, ids⟩, mem, listed⟩
    have found := (lookup_eq_some_iff_mem (nodup_keys_groupSegments rows) key ids).mpr mem
    rw [lookup_groupSegments] at found
    split at found
    · cases found
    · cases found
      obtain ⟨row, own, same⟩ := List.mem_map.mp listed
      exact ⟨row, List.mem_of_mem_filter own, same⟩
  · rintro ⟨row, mem, rfl⟩
    have own : row ∈ rows.filter fun other => segmentKey other.1 other.2.1 =
        segmentKey row.1 row.2.1 :=
      List.mem_filter.mpr ⟨mem, decide_eq_true rfl⟩
    have found := lookup_groupSegments rows (segmentKey row.1 row.2.1)
    rw [if_neg (List.ne_nil_of_mem own)] at found
    exact ⟨_, (lookup_eq_some_iff_mem (nodup_keys_groupSegments rows) _ _).mp found,
      List.mem_map.mpr ⟨row, own, rfl⟩⟩

/-- The stations of a stage come from the rows of the stage. -/
theorem filter_stations (tollAbs : List (Int × Option Int × Option Int)) (stageId : Int) :
    ((tollAbs.filterMap fun (stageId, tollA, tollB) =>
        tollA.bind fun a => tollB.map fun b => (stageId, a, b)).filter fun kv => kv.1 = stageId) =
      (tollAbs.filter fun row => row.1 = stageId).filterMap fun (stageId, tollA, tollB) =>
        tollA.bind fun a => tollB.map fun b => (stageId, a, b) := by
  induction tollAbs with
  | nil => rfl
  | cons row tollAbs ih =>
    obtain ⟨id, tollA, tollB⟩ := row
    by_cases own : id = stageId
    · cases tollA <;> cases tollB <;> simp [own, ih]
    · cases tollA <;> cases tollB <;> simp [own, ih]

end SegmentMaps

/-- Under each key of a map the last row of the key counts. -/
theorem lookup_assocSetAll_of_keepsOrder {κ ν : Type} [DecidableEq κ] [BEq κ] [LawfulBEq κ]
    {data data' : List (κ × ν)} {k : κ}
    (same : (data.filter fun kv => kv.1 = k) = data'.filter fun kv => kv.1 = k) :
    (assocSetAll [] data).lookup k = (assocSetAll [] data').lookup k := by
  have only : ∀ data : List (κ × ν),
      (assocSetAll [] data).lookup k = (data.filter fun kv => kv.1 = k).reverse.lookup k := by
    intro data
    have kept := lookup_filter_keys data.reverse (fun key => decide (key = k)) k
    rw [if_pos (decide_eq_true rfl)] at kept
    rw [lookup_assocSetAll, List.lookup_nil, Option.or_none, ← kept, List.filter_reverse]
  rw [only, only, same]

namespace SegmentTable

variable {t : SegmentTable}

/-- A load of all segments in the order of the table gives the maps of the table. -/
structure Loads (t : SegmentTable) (maps : SegmentMaps) : Prop where
  segments : ∀ key, maps.segments.lookup key = t.segmentAt key
  stagesIn : t.StagesIn maps

theorem loads_of_keepsOrder {rows : List (Int × Int × Int)} {cycles : List (Int × Int)}
    {tollAbs : List (Int × Option Int × Option Int)} {stageIds : List Int}
    (same_ids : ∀ stageId, stageId ∈ stageIds ↔ stageId ∈ t.stageIds)
    (rows_kept : ∀ key, (rows.filter fun row => SegmentMaps.segmentKey row.1 row.2.1 = key) =
      t.transitions.filter fun row => SegmentMaps.segmentKey row.1 row.2.1 = key)
    (cycles_kept : ∀ stageId, (cycles.filter fun row => row.1 = stageId) =
      (t.cycleRows stageIds).filter fun row => row.1 = stageId)
    (tollAbs_kept : ∀ stageId, (tollAbs.filter fun row => row.1 = stageId) =
      (t.tollAbRows stageIds).filter fun row => row.1 = stageId) :
    t.Loads (ofRows rows cycles tollAbs) where
  segments key := by
    change (groupSegments rows).lookup key = _
    rw [lookup_groupSegments, rows_kept key]
    simp only [segmentAt, idsOf, List.map_eq_nil_iff]
  stagesIn := by
    have asked : (fun stage : Int × Int × Option Int × Option Int => decide (stage.1 ∈ stageIds)) =
        fun stage => decide (stage.1 ∈ t.stageIds) := by
      funext stage
      rw [decide_eq_decide]
      exact same_ids stage.1
    constructor
    · intro stageId
      apply lookup_assocSetAll_of_keepsOrder
      rw [cycles_kept stageId, cycleRows, asked]
      rfl
    · intro stageId
      apply lookup_assocSetAll_of_keepsOrder
      rw [filter_stations, filter_stations, tollAbs_kept stageId, tollAbRows, asked]
      rfl

/-- A query for stages is not made without any. -/
theorem loadForStages_eq_ok {Dto : Type} {query : TableQuery Dto}
    {result : List Int → QueryResult} {stageIds : List Int} {read : List Dto}
    (loaded : loadForStages query result stageIds = .ok read) :
    (stageIds = [] ∧ read = []) ∨ query.load (result stageIds) = .ok read := by
  unfold loadForStages at loaded
  split at loaded
  · next none =>
    cases loaded
    exact .inl ⟨none, rfl⟩
  · exact .inr loaded

/-- Rows that are asked for some keys come in their order, also if there are no keys. -/
theorem keepsOrder_of_loadForStages {Dto : Type} {query : TableQuery Dto} {key : Dto → Int}
    {result : List Int → QueryResult} {stageIds : List Int} {read : List Dto}
    {rows : List Int → List Dto} (none : rows [] = [])
    (keeps : query.KeepsOrder (result stageIds) key (rows stageIds))
    (loaded : loadForStages query result stageIds = .ok read) (stageId : Int) :
    (read.filter fun row => key row = stageId) =
      (rows stageIds).filter fun row => key row = stageId := by
  rcases loadForStages_eq_ok loaded with ⟨empty, rfl⟩ | loads
  · rw [empty, none]
  · exact keeps read loads stageId

theorem nodup_keys_of_loadSegments {answers : SegmentAnswers} {maps : SegmentMaps}
    (loaded : loadSegments answers = .ok maps) : (maps.segments.map fun kv => kv.1).Nodup := by
  obtain ⟨rows, -, more⟩ := bind_eq_ok_iff.mp loaded
  obtain ⟨cycles, -, more⟩ := bind_eq_ok_iff.mp more
  obtain ⟨tollAbs, -, made⟩ := bind_eq_ok_iff.mp more
  obtain rfl := Except.ok.inj made
  exact nodup_keys_groupSegments rows

/-- A load of all segments gives the maps of the table. -/
theorem loads_of_loadSegments {answers : SegmentAnswers} {maps : SegmentMaps}
    (gives : transitionStages.Gives answers.stages t.transitions)
    (keeps : transitionStages.KeepsOrder answers.stages
      (fun row => SegmentMaps.segmentKey row.1 row.2.1) t.transitions)
    (stages_keep : ∀ ids,
      cycleByStage.KeepsOrder (answers.cycles ids) (fun row => row.1) (t.cycleRows ids) ∧
        tollAbByStage.KeepsOrder (answers.tollAbs ids) (fun row => row.1) (t.tollAbRows ids))
    (loaded : loadSegments answers = .ok maps) : t.Loads maps := by
  obtain ⟨rows, read, more⟩ := bind_eq_ok_iff.mp loaded
  obtain ⟨cycles, cycles_read, more⟩ := bind_eq_ok_iff.mp more
  obtain ⟨tollAbs, tollAbs_read, made⟩ := bind_eq_ok_iff.mp more
  obtain rfl := Except.ok.inj made
  have same_ids : ∀ stageId, stageId ∈ stageIdsOf (groupSegments rows) ↔ stageId ∈ t.stageIds :=
    fun stageId => (mem_stageIdsOf rows stageId).trans ((gives rows read).map _).mem_iff
  refine loads_of_keepsOrder same_ids (keeps rows read) (fun stageId => ?_) (fun stageId => ?_)
  · exact keepsOrder_of_loadForStages (by simp [cycleRows]) (stages_keep _).1 cycles_read stageId
  · exact keepsOrder_of_loadForStages (by simp [tollAbRows]) (stages_keep _).2 tollAbs_read stageId

end SegmentTable

/-! ### What the nodes have -/

namespace SegmentTable

variable (t : SegmentTable)

/-- The segments in memory are those of the table, and their stages are known. -/
structure InMemory (maps : SegmentMaps) : Prop where
  segments : ∀ key seg, maps.segments.lookup key = some seg → t.segmentAt key = some seg
  stagesIn : ∀ key seg, maps.segments.lookup key = some seg → t.StagesIn maps

/-- The segments in KeyDB are those of the table. -/
def InKeydb (keydb : List (String × Option (List Int))) : Prop :=
  ∀ entry ∈ keydb, ∀ seg, entry.2 = some seg →
    ∃ key, entry.1 = segmentText key ∧ t.segmentAt key = some seg

/-- This holds at every node. -/
structure Everywhere {Node : Type} (s : SegmentNodes Node) : Prop where
  memory : ∀ node, t.InMemory (s.memory node)
  keydb : t.InKeydb s.keydb

variable {t} {maps : SegmentMaps} {keydb : List (String × Option (List Int))}

theorem inMemory_empty : t.InMemory {} where
  segments _ _ found := by cases found
  stagesIn _ _ found := by cases found

theorem Loads.inMemory (loads : t.Loads maps) : t.InMemory maps where
  segments key _ found := (loads.segments key).symm.trans found
  stagesIn _ _ _ := loads.stagesIn

/-- A segment is put into a memory that knows its stages. -/
theorem InMemory.set (before : t.InMemory maps) (known : t.StagesIn maps) {tollA tollB : Int}
    {seg : List Int} (own : t.segmentAt (SegmentMaps.segmentKey tollA tollB) = some seg) :
    t.InMemory (maps.setSegmentMemory tollA tollB seg) where
  segments key seg' found := by
    have found : (assocSet maps.segments (SegmentMaps.segmentKey tollA tollB) seg).lookup key =
        some seg' := found
    rw [lookup_assocSet] at found
    split at found
    · next same =>
      cases found
      rw [same]
      exact own
    · exact before.segments key seg' found
  stagesIn _ _ _ := ⟨known.cycles, known.stations⟩

/-- The fallback finds the segments under their stations. -/
theorem InKeydb.lookup_segmentsFromKeydb (stored : t.InKeydb keydb)
    {moka : List (String × List Int)} {env : StoreAnswers} {key : Int × Int} {seg : List Int}
    (found : (segmentsFromKeydb (loadPrefixFromKeydb env ⟨moka, keydb⟩)).lookup key = some seg) :
    t.segmentAt key = some seg := by
  rw [segmentsFromKeydb, lookup_assocSetAll, List.lookup_nil, Option.or_none] at found
  have mem := List.mem_reverse.mp (mem_of_lookup found)
  obtain ⟨⟨text, ids⟩, loaded, parsed⟩ := List.mem_filterMap.mp mem
  obtain ⟨key', read, same⟩ := Option.map_eq_some_iff.mp parsed
  obtain ⟨rfl, rfl⟩ : key' = key ∧ ids = seg := Prod.mk.inj same
  have entry : (text, some ids) ∈ keydb := mem_keydb_of_mem_load loaded
  obtain ⟨own, written, of_table⟩ := stored _ entry ids rfl
  have fits := fits_of_segmentAt of_table
  have read_back := parseSegmentText_segmentText fits.1 fits.2
  rw [← written, read] at read_back
  cases read_back
  exact of_table

/-- An entry of a load. -/
theorem Loads.of_entry (loads : t.Loads maps) (nodup : (maps.segments.map fun kv => kv.1).Nodup)
    {text : String} {seg : List Int} (entry : (text, seg) ∈ segmentEntries maps) :
    ∃ key, text = segmentText key ∧ t.segmentAt key = some seg := by
  obtain ⟨⟨key, ids⟩, listed, written⟩ := List.mem_map.mp entry
  obtain ⟨rfl, rfl⟩ : segmentText key = text ∧ ids = seg := Prod.mk.inj written
  have found := (lookup_eq_some_iff_mem nodup key ids).mpr listed
  exact ⟨key, rfl, (loads.segments key).symm.trans found⟩

theorem InKeydb.atomicReload (stored : t.InKeydb keydb) (loads : t.Loads maps)
    (nodup : (maps.segments.map fun kv => kv.1).Nodup) (env : StoreAnswers)
    (moka : List (String × List Int)) :
    t.InKeydb (atomicReloadPrefix env (segmentEntries maps) ⟨moka, keydb⟩).keydb := by
  intro entry mem seg value
  rcases mem_keydb_atomicReload mem with before | ⟨⟨text, ids⟩, new, rfl⟩
  · exact stored entry before seg value
  · obtain rfl : ids = seg := Option.some.inj value
    exact loads.of_entry nodup new

end SegmentTable

/-! ### Calls -/

namespace SegmentTable

variable {t : SegmentTable} {v : LoaderState segmentLoader}

/-- What a call leaves at its node. -/
structure At (t : SegmentTable) (v : LoaderState segmentLoader) : Prop where
  memory : t.InMemory v.memory
  keydb : t.InKeydb v.store.keydb

/-- A segment that is found or read is that of the table. -/
theorem At.getSegmentsForLeg (before : t.At v) {result : QueryResult} {keydbSets : Bool}
    {tollA tollB : Int}
    (read_rows : ∀ read, segmentIds.load result = .ok read → read = t.legIds tollA tollB)
    (known : v.memory.getSegmentsFromMemory tollA tollB = none →
      (∃ seg, loadSegment result = .ok (some seg)) → t.StagesIn v.memory) :
    t.At (getSegmentsForLeg result keydbSets tollA tollB v).2 := by
  unfold TollBackend.getSegmentsForLeg
  split
  · exact before
  · next missing =>
    split
    · exact before
    · split
      · next seg loaded =>
        have own : t.segmentAt (SegmentMaps.segmentKey tollA tollB) = some seg := by
          obtain ⟨read, rows, made⟩ := bind_eq_ok_iff.mp loaded
          have same := read_rows read rows
          rw [legIds_eq] at same
          rw [segmentAt, ← same]
          exact Except.ok.inj made
        refine ⟨before.memory.set (known missing ⟨seg, loaded⟩) own, ?_⟩
        intro entry mem seg' value
        rcases mem_keydb_set mem with rfl | old
        · obtain rfl : seg = seg' := Option.some.inj value
          exact ⟨_, rfl, own⟩
        · exact before.keydb entry old seg' value
      · exact before
      · exact before

/-- A reload from the database leaves what the table has, and so does the fallback. -/
theorem At.reload (before : t.At v) {answers : Option SegmentAnswers} {loadFromKeydb : Bool}
    {env : StoreAnswers}
    (loads : ∀ maps, segmentLoader.readFrom answers = .ok maps →
      t.Loads maps ∧ (maps.segments.map fun kv => kv.1).Nodup)
    (known : Fails (segmentLoader.readFrom answers) → loadFromKeydb = true →
      loadPrefixFromKeydb env v.store ≠ [] → t.StagesIn v.memory) :
    t.At (segmentLoader.reload answers loadFromKeydb env v) := by
  cases outcome : segmentLoader.readFrom answers with
  | ok maps =>
    obtain ⟨of_table, nodup⟩ := loads maps outcome
    rw [CacheLoader.reload_of_ok outcome]
    exact ⟨of_table.inMemory, before.keydb.atomicReload of_table nodup env _⟩
  | error e =>
    rw [CacheLoader.reload_of_error outcome]
    split
    · exact before
    · next on =>
      split
      · exact before
      · next nonempty =>
        rw [List.isEmpty_iff] at nonempty
        have stages := known ⟨e, outcome⟩ (by simpa using on) nonempty
        have found : ∀ key seg, (segmentsFromKeydb (loadPrefixFromKeydb env v.store)).lookup key =
            some seg → t.segmentAt key = some seg :=
          fun key seg lookup => before.keydb.lookup_segmentsFromKeydb lookup
        exact ⟨⟨found, fun _ _ _ => ⟨stages.cycles, stages.stations⟩⟩, before.keydb⟩

/-! ### Histories -/

section Histories

variable {Node : Type} [DecidableEq Node] {s s' : SegmentNodes Node}

omit [DecidableEq Node] in
theorem Everywhere.at_view (everywhere : t.Everywhere s) (node : Node) : t.At (s.view node) :=
  ⟨everywhere.memory node, everywhere.keydb⟩

theorem Everywhere.setView (everywhere : t.Everywhere s) {node : Node} (own : t.At v) :
    t.Everywhere (s.setView node v) where
  memory other := by
    by_cases same : other = node
    · subst same
      have here : (s.setView other v).memory other = v.memory := Function.update_self _ _ _
      rw [here]
      exact own.memory
    · have there : (s.setView node v).memory other = s.memory other :=
        Function.update_of_ne same _ _
      rw [there]
      exact everywhere.memory other
  keydb := own.keydb

/-- Every call leaves at every node what the table has. -/
theorem Everywhere.exec (everywhere : t.Everywhere s) {call : SegmentCall Node}
    (admitted : t.Admitted call s) : t.Everywhere (s.exec call) := by
  obtain ⟨gives, keepsOrder, knows⟩ := admitted
  cases call with
  | reload node answers loadFromKeydb env =>
    refine everywhere.setView ((everywhere.at_view node).reload (fun maps loaded => ?_) knows)
    cases answers with
    | none => cases loaded
    | some a =>
      obtain ⟨transitions_kept, stages_kept⟩ := keepsOrder a rfl
      refine ⟨loads_of_loadSegments (gives a rfl).1 transitions_kept stages_kept loaded, ?_⟩
      exact nodup_keys_of_loadSegments loaded
  | leg node tollA tollB result keydbSets =>
    exact everywhere.setView ((everywhere.at_view node).getSegmentsForLeg keepsOrder knows)
  | restart node => exact everywhere.setView ⟨inMemory_empty, everywhere.keydb⟩

theorem everywhere_of_reaches (reached : (segmentMachine Node).Reaches t.Admitted {} s) :
    t.Everywhere s := by
  apply reached.invariant
  · exact ⟨fun _ => inMemory_empty, fun entry mem => by cases mem⟩
  · intro call a b everywhere admitted moves
    obtain rfl := Option.some.inj moves
    exact everywhere.exec admitted

end Histories

/-! ### Answers -/

section Answers

theorem InMemory.getSegmentsFromMemory_eq {maps : SegmentMaps} (of_table : t.InMemory maps)
    {tollA tollB : Int} (reached : maps.getSegmentsFromMemory tollA tollB ≠ none) :
    maps.getSegmentsFromMemory tollA tollB = t.segmentAt (SegmentMaps.segmentKey tollA tollB) := by
  obtain ⟨seg, found⟩ := Option.ne_none_iff_exists'.mp reached
  rw [found]
  exact (of_table.segments _ _ found).symm

theorem InMemory.stagesIn_of_reached {maps : SegmentMaps} (of_table : t.InMemory maps)
    {tollA tollB : Int} (reached : maps.getSegmentsFromMemory tollA tollB ≠ none) :
    t.StagesIn maps := by
  obtain ⟨seg, found⟩ := Option.ne_none_iff_exists'.mp reached
  exact of_table.stagesIn _ _ found

/-- The cycle of a segment is that of its first transition. -/
theorem InMemory.getSegmentCycleId_eq {maps : SegmentMaps} (of_table : t.InMemory maps)
    {tollA tollB : Int} (reached : maps.getSegmentsFromMemory tollA tollB ≠ none) :
    maps.getSegmentCycleId tollA tollB =
      ((t.segmentAt (SegmentMaps.segmentKey tollA tollB)).bind List.head?).bind fun stageId =>
        t.maps.cycleByStage.lookup stageId := by
  have cycles : (fun stageId => maps.cycleByStage.lookup stageId) =
      fun stageId => t.maps.cycleByStage.lookup stageId :=
    funext (of_table.stagesIn_of_reached reached).cycles
  rw [← cycles, ← of_table.getSegmentsFromMemory_eq reached]
  rfl

theorem At.getSegmentsForLeg_eq (own : t.At v) {result : QueryResult} {tollA tollB : Int}
    (answered : t.Answered v result tollA tollB) (keydbSets : Bool) :
    (TollBackend.getSegmentsForLeg result keydbSets tollA tollB v).1 =
      t.segmentAt (SegmentMaps.segmentKey tollA tollB) := by
  have found : ∀ a b seg, v.memory.getSegmentsFromMemory a b = some seg →
      some seg = t.segmentAt (SegmentMaps.segmentKey a b) :=
    fun a b seg hit => (own.memory.segments _ _ hit).symm
  unfold TollBackend.getSegmentsForLeg
  split
  · next seg hit => exact found _ _ _ hit
  · next missing =>
    split
    · next seg hit =>
      rw [SegmentMaps.segmentKey_comm]
      exact found _ _ _ hit
    · have read := answered.resolve_left (not_not_intro missing)
      have loaded : loadSegment result =
          .ok (t.segmentAt (SegmentMaps.segmentKey tollA tollB)) := by
        rw [loadSegment, read, legIds_eq]
        rfl
      rw [loaded]
      cases t.segmentAt (SegmentMaps.segmentKey tollA tollB) <;> rfl

theorem Answered.swap {result : QueryResult} {tollA tollB : Int}
    (answered : t.Answered v result tollA tollB) : t.Answered v result tollB tollA := by
  unfold Answered getSegmentsFromMemory at *
  rwa [legIds_eq, SegmentMaps.segmentKey_comm, ← legIds_eq]

/-- The answers for a segment do not depend on how it has reached memory, and they are the same in
both directions, in all histories in which segments come without their stages only to nodes that
know the stages, and in which the database keeps its order. -/
theorem sameAnswers_of_reaches {Node : Type} [DecidableEq Node] (t : SegmentTable)
    {s s' : SegmentNodes Node} (reached : (segmentMachine Node).Reaches t.Admitted {} s)
    (reached' : (segmentMachine Node).Reaches t.Admitted {} s') (node node' : Node)
    (tollA tollB : Int) : t.SameAnswers (s.view node) (s'.view node') tollA tollB := by
  have own := (everywhere_of_reaches reached).at_view node
  have own' := (everywhere_of_reaches reached').at_view node'
  have swap := SegmentMaps.segmentKey_comm tollB tollA
  refine ⟨fun result result' sets sets' answered answered' => ?_, fun found found' => ?_,
    fun found found' stageId => ?_⟩
  · rw [own.getSegmentsForLeg_eq answered, own'.getSegmentsForLeg_eq answered',
      own'.getSegmentsForLeg_eq answered'.swap, swap]
    exact ⟨rfl, rfl⟩
  · have swapped : (s'.view node').memory.getSegmentsFromMemory tollB tollA ≠ none := by
      unfold getSegmentsFromMemory at found' ⊢
      rwa [swap]
    rw [own.memory.getSegmentCycleId_eq found, own'.memory.getSegmentCycleId_eq found',
      own'.memory.getSegmentCycleId_eq swapped, swap]
    exact ⟨rfl, rfl⟩
  · have stations := (own.memory.stagesIn_of_reached found).stations stageId
    exact stations.trans ((own'.memory.stagesIn_of_reached found').stations stageId).symm

end Answers

/-! ### Restarts with and without the database -/

/-- A segment between stations 1 and 2 with transition 10, which is a stage of cycle 100. -/
def oneSegment : SegmentTable where
  transitions := [(1, 2, 10)]
  stages := [(10, 100, some 1, some 2)]
  stations_fit row mem := by
    rw [List.mem_singleton] at mem
    subst mem
    exact ⟨⟨by decide, by decide⟩, ⟨by decide, by decide⟩⟩

/-- A row of numbers. -/
def numberRow (numbers : List Int) : CursorRow where
  getData column := .ok numbers[column - 1]?
  getText _ := .ok none

/-- The answers to a load of this table. -/
def oneSegmentAnswers : SegmentAnswers where
  stages := .ok (some (.row (numberRow [1, 2, 10]) .done))
  cycles ids := if 10 ∈ ids then .ok (some (.row (numberRow [10, 100]) .done)) else .ok none
  tollAbs ids := if 10 ∈ ids then .ok (some (.row (numberRow [10, 1, 2]) .done)) else .ok none

/-- A load of this table. -/
def oneSegmentLoad : SegmentCall Unit :=
  .reload () (some oneSegmentAnswers) true CacheLoader.keydbWorks

theorem load_oneSegment :
    transitionStages.load oneSegmentAnswers.stages = .ok oneSegment.transitions ∧
      ∀ ids, cycleByStage.load (oneSegmentAnswers.cycles ids) = .ok (oneSegment.cycleRows ids) ∧
        tollAbByStage.load (oneSegmentAnswers.tollAbs ids) = .ok (oneSegment.tollAbRows ids) := by
  refine ⟨rfl, fun ids => ?_⟩
  by_cases asked : 10 ∈ ids
  · simp only [oneSegmentAnswers, cycleRows, tollAbRows, oneSegment, List.filter_cons, asked,
      decide_true]
    exact ⟨rfl, rfl⟩
  · simp only [oneSegmentAnswers, cycleRows, tollAbRows, oneSegment, List.filter_cons, asked,
      decide_false]
    exact ⟨rfl, rfl⟩

/-- A query that gives the rows as they are gives them in their order. -/
theorem gives_of_load {Dto κ : Type} [DecidableEq κ] {query : TableQuery Dto}
    {result : QueryResult} {rows : List Dto} (loads : query.load result = .ok rows)
    (key : Dto → κ) : query.Gives result rows ∧ query.KeepsOrder result key rows := by
  constructor
  · intro read loaded
    rw [loads] at loaded
    rw [Except.ok.inj loaded]
  · intro read loaded k
    rw [loads] at loaded
    rw [Except.ok.inj loaded]

theorem gives_oneSegmentLoad :
    oneSegment.Gives oneSegmentLoad ∧ oneSegment.KeepsOrder oneSegmentLoad := by
  obtain ⟨transitions, stages⟩ := load_oneSegment
  have rows := gives_of_load transitions fun row => SegmentMaps.segmentKey row.1 row.2.1
  have cycles := fun ids => gives_of_load (stages ids).1 fun row => row.1
  have tollAbs := fun ids => gives_of_load (stages ids).2 fun row => row.1
  constructor
  · intro a given
    cases given
    exact ⟨rows.1, fun ids => ⟨(cycles ids).1, (tollAbs ids).1⟩⟩
  · intro a given
    cases given
    exact ⟨rows.2, fun ids => ⟨(cycles ids).2, (tollAbs ids).2⟩⟩

theorem admitted_oneSegmentLoad (s : SegmentNodes Unit) : oneSegment.Admitted oneSegmentLoad s where
  gives := gives_oneSegmentLoad.1
  keepsOrder := gives_oneSegmentLoad.2
  knowsStages fails := by
    obtain ⟨e, failed⟩ := fails
    cases failed

theorem reaches_foldl {cond : SegmentCall Unit → SegmentNodes Unit → Prop}
    {calls : List (SegmentCall Unit)} (allowed : ∀ call ∈ calls, ∀ s, cond call s)
    (s : SegmentNodes Unit) : (segmentMachine Unit).Reaches cond s (calls.foldl .exec s) := by
  induction calls using List.reverseRecOn with
  | nil => exact .refl
  | append_singleton calls call ih =>
    rw [List.foldl_append]
    have before := ih fun call mem => allowed call (List.mem_append_left _ mem)
    exact .step call before (allowed call (List.mem_append_right _ List.mem_cons_self) _) rfl

/-- A restart with the database changes no answer. -/
theorem sameAnswers_after_load :
    oneSegment.SameAnswers (([oneSegmentLoad].foldl SegmentNodes.exec {}).view ())
      (([oneSegmentLoad, .restart (), oneSegmentLoad].foldl SegmentNodes.exec {}).view ()) 2 1 := by
  refine sameAnswers_of_reaches oneSegment (reaches_foldl (fun call mem s => ?_) {})
    (reaches_foldl (fun call mem s => ?_) {}) () () 2 1
  · obtain rfl := List.mem_singleton.mp mem
    exact admitted_oneSegmentLoad s
  · simp only [List.mem_cons, List.not_mem_nil, or_false] at mem
    rcases mem with rfl | rfl | rfl
    · exact admitted_oneSegmentLoad s
    · exact ⟨trivial, trivial, trivial⟩
    · exact admitted_oneSegmentLoad s

/-- A segment has a cycle after a load, and none after a restart at which the pool is missing and
KeyDB gives the segments alone. -/
theorem cycle_lost_at_restart :
    ∃ s s' : SegmentNodes Unit,
      (segmentMachine Unit).Reaches
        (fun call _ => oneSegment.Gives call ∧ oneSegment.KeepsOrder call) {} s ∧
      (segmentMachine Unit).Reaches
        (fun call _ => oneSegment.Gives call ∧ oneSegment.KeepsOrder call) {} s' ∧
      ¬ oneSegment.SameAnswers (s.view ()) (s'.view ()) 1 2 := by
  have first : ∀ call ∈ [oneSegmentLoad], ∀ _ : SegmentNodes Unit,
      oneSegment.Gives call ∧ oneSegment.KeepsOrder call := by
    intro call mem _
    obtain rfl := List.mem_singleton.mp mem
    exact gives_oneSegmentLoad
  have calls : ∀ call ∈ [oneSegmentLoad, .restart (), .reload () none true CacheLoader.keydbWorks],
      ∀ _ : SegmentNodes Unit, oneSegment.Gives call ∧ oneSegment.KeepsOrder call := by
    intro call mem _
    simp only [List.mem_cons, List.not_mem_nil, or_false] at mem
    rcases mem with rfl | rfl | rfl
    · exact gives_oneSegmentLoad
    · exact ⟨trivial, trivial⟩
    · exact ⟨fun a given => (nomatch given), fun a given => (nomatch given)⟩
  refine ⟨_, _, reaches_foldl first {}, reaches_foldl calls {}, fun same => ?_⟩
  have cycle := (same.cycle (by decide +kernel) (by decide +kernel)).1
  revert cycle
  decide +kernel

end SegmentTable

end TollBackend

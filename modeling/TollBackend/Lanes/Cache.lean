import TollBackend.AssocList
import Mathlib.Data.List.Sort

/-!
# The cache of toll lanes

`TollLaneCache`: the lanes by their id, and for each station the ids of its lanes. Both maps are
written by every operation; the clock and the order in which the hash map visits its entries are
arguments.

## Main definitions

* `TollLaneCache.put`, `get`, `getByTollId`, `remove`, `cleanupExpired`, `replaceAll`,
  `evictIfNeeded`: the operations.
* `TollLaneCache.Consistent`: the index holds each cached lane once, under its own station, and
  nothing else.
* `TollLaneCache.freshLanes`: the lanes of a station that are cached and have not expired.

## Main results

* `TollLaneCache.Consistent.put` and its companions: which calls keep the two maps in step.
* `TollLaneCache.Consistent.getByTollId_perm`: a station is read from the index without loss.
-/

namespace TollBackend

/-- `TOLL_LANE`, and `TollLaneDto`, which has the same fields. -/
structure TollLane where
  tollLaneId : Int
  tollId : Int
  laneCode : Int := 0
  laneType : String := ""
  laneName : String := ""
  status : String := ""
  freeLanes : String := ""
  freeLanesLimit : Option Int := none
  freeLanesSecond : String := ""
  freeTollId : Option Int := none
  dupFilter : String := ""
  freeLimitTime : String := ""
  freeAllowLoop : String := ""
  transitLane : String := ""
  freeflowLane : String := ""
  deriving DecidableEq

/-- An entry of the cache. -/
structure TollLaneCacheEntry where
  lane : TollLane
  createdAt : Int
  lastAccess : Int

/-- A reading of the clock, and the ranks by which the hash map orders its keys at that time. -/
structure Moment where
  ms : Int
  seed : Int → Nat := fun _ => 0

/-- The two maps and the limits. -/
structure TollLaneCache where
  data : List (Int × TollLaneCacheEntry) := []
  tollLanes : List (Int × List Int) := []
  defaultTtlMs : Int := 3600000
  maxTotalEntries : Nat := 5000

namespace TollLaneCache

variable {cache : TollLaneCache}

/-! ### Operations -/

/-- The ids in the index of a station. -/
def lanesOf (cache : TollLaneCache) (tollId : Int) : List Int :=
  (cache.tollLanes.lookup tollId).getD []

/-- The entry is younger than its time to live. -/
def isFresh (cache : TollLaneCache) (now : Int) (entry : TollLaneCacheEntry) : Bool :=
  decide (now - entry.createdAt < cache.defaultTtlMs)

/-- Take an id out of the list of a station, and the list out of the index when it is empty. -/
def retainOthers (index : List (Int × List Int)) (tollId laneId : Int) :
    List (Int × List Int) :=
  match index.lookup tollId with
  | none => index
  | some lanes =>
    let kept := lanes.filter fun id => id ≠ laneId
    if kept.isEmpty then assocErase index tollId else assocSet index tollId kept

/-- Remove a lane from the map and from the index of its station: what `remove`,
`get_by_toll_id`, `cleanup_expired` and `evict_if_needed` do with each lane they drop. -/
def dropLane (cache : TollLaneCache) (laneId : Int) : TollLaneCache :=
  match cache.data.lookup laneId with
  | none => cache
  | some entry =>
    { cache with
      data := assocErase cache.data laneId
      tollLanes := retainOthers cache.tollLanes entry.lane.tollId laneId }

/-- Drop one lane after another. -/
def dropAll (cache : TollLaneCache) (laneIds : List Int) : TollLaneCache :=
  laneIds.foldl dropLane cache

/-- The entries in the order the hash map visits them. -/
def visit (cache : TollLaneCache) (seed : Int → Nat) : List (Int × TollLaneCacheEntry) :=
  cache.data.insertionSort fun a b => seed a.1 ≤ seed b.1

/-- `TollLaneCache::evict_if_needed`. -/
def evictIfNeeded (cache : TollLaneCache) (seed : Int → Nat) : TollLaneCache :=
  if cache.data.length ≤ cache.maxTotalEntries then cache
  else
    let entries := (cache.visit seed).map fun kv => (kv.1, kv.2.lastAccess)
    let byAge := entries.insertionSort fun a b => a.2 ≤ b.2
    let toRemove := cache.data.length - cache.maxTotalEntries
    cache.dropAll ((byAge.take toRemove).map fun e => e.1)

/-- The entry of a lane that is stored at `now`. -/
def newEntry (lane : TollLane) (now : Int) : TollLaneCacheEntry :=
  ⟨lane, now, now⟩

/-- Store a lane and add it to the index of its station, whether or not it is there already. -/
def insertLane (cache : TollLaneCache) (lane : TollLane) (now : Int) : TollLaneCache :=
  { cache with
    data := assocSet cache.data lane.tollLaneId (newEntry lane now)
    tollLanes := assocSet cache.tollLanes lane.tollId
      (cache.lanesOf lane.tollId ++ [lane.tollLaneId]) }

/-- `TollLaneCache::put`. -/
def put (cache : TollLaneCache) (lane : TollLane) (moment : Moment) : TollLaneCache :=
  let stored := cache.insertLane lane moment.ms
  if cache.maxTotalEntries < stored.data.length then stored.evictIfNeeded moment.seed else stored

/-- `TollLaneCache::get`: an expired lane leaves the map, but not the index. -/
def get (cache : TollLaneCache) (laneId now : Int) : Option TollLane × TollLaneCache :=
  match cache.data.lookup laneId with
  | none => (none, cache)
  | some entry =>
    if cache.isFresh now entry then
      (some entry.lane,
        { cache with data := assocSet cache.data laneId { entry with lastAccess := now } })
    else (none, { cache with data := assocErase cache.data laneId })

/-- The fresh lane that the map has under an id. -/
def freshLane (cache : TollLaneCache) (now laneId : Int) : Option TollLane :=
  match cache.data.lookup laneId with
  | none => none
  | some entry => if cache.isFresh now entry then some entry.lane else none

/-- The map has an expired lane under an id. -/
def isExpired (cache : TollLaneCache) (now laneId : Int) : Bool :=
  match cache.data.lookup laneId with
  | none => false
  | some entry => !cache.isFresh now entry

/-- A read of the entries under some ids at `now`, which is noted in those that are fresh. -/
def touchAll (cache : TollLaneCache) (laneIds : List Int) (now : Int) : TollLaneCache :=
  { cache with
    data := cache.data.map fun kv =>
      (kv.1, if laneIds.contains kv.1 && cache.isFresh now kv.2
        then { kv.2 with lastAccess := now } else kv.2) }

/-- `TollLaneCache::get_by_toll_id`. -/
def getByTollId (cache : TollLaneCache) (tollId now : Int) : List TollLane × TollLaneCache :=
  let laneIds := cache.lanesOf tollId
  (laneIds.filterMap (cache.freshLane now),
    (cache.touchAll laneIds now).dropAll (laneIds.filter (cache.isExpired now)))

/-- `TollLaneCache::remove`. -/
def remove (cache : TollLaneCache) (laneId : Int) : Bool × TollLaneCache :=
  ((cache.data.lookup laneId).isSome, cache.dropLane laneId)

/-- `TollLaneCache::cleanup_expired`. -/
def cleanupExpired (cache : TollLaneCache) (now : Int) : Nat × TollLaneCache :=
  let expired := (cache.data.filter fun kv => !cache.isFresh now kv.2).map fun kv => kv.1
  (expired.length, cache.dropAll expired)

/-- `TollLaneCache::clear`. -/
def clear (cache : TollLaneCache) : TollLaneCache :=
  { cache with data := [], tollLanes := [] }

/-- `TollLaneCache::replace_all`. -/
def replaceAll (cache : TollLaneCache) (lanes : List TollLane) (now : Int) : TollLaneCache :=
  lanes.foldl (fun c lane => c.insertLane lane now) cache.clear

/-! ### The two maps in step -/

/-- The index holds each cached lane once, under its own station, and nothing else. -/
structure Consistent (cache : TollLaneCache) : Prop where
  keys : (cache.data.map fun kv => kv.1).Nodup
  named : ∀ id entry, cache.data.lookup id = some entry → entry.lane.tollLaneId = id
  once : ∀ tollId, (cache.lanesOf tollId).Nodup
  indexed : ∀ tollId id, id ∈ cache.lanesOf tollId ↔
    ∃ entry, cache.data.lookup id = some entry ∧ entry.lane.tollId = tollId

theorem Consistent.empty (ttl : Int) (limit : Nat) :
    Consistent { defaultTtlMs := ttl, maxTotalEntries := limit } where
  keys := List.nodup_nil
  named := by simp
  once := by simp [lanesOf]
  indexed := by simp [lanesOf]

/-! ### Dropping lanes -/

theorem lookup_retainOthers (index : List (Int × List Int)) (tollId laneId tollId' : Int) :
    ((retainOthers index tollId laneId).lookup tollId').getD [] =
      if tollId' = tollId then ((index.lookup tollId').getD []).filter fun id => id ≠ laneId
      else (index.lookup tollId').getD [] := by
  unfold retainOthers
  by_cases same : tollId' = tollId
  · rw [if_pos same, same]
    cases found : index.lookup tollId with
    | none => simp [found]
    | some lanes =>
      by_cases gone : (lanes.filter fun id => id ≠ laneId).isEmpty
      · -- the list has become empty: the station leaves the index, which reads as an empty list
        dsimp only
        rw [if_pos gone, lookup_assocErase, if_pos rfl, Option.getD_none, Option.getD_some,
          List.isEmpty_iff.mp gone]
      · dsimp only
        rw [if_neg gone, lookup_assocSet, if_pos rfl, Option.getD_some, Option.getD_some]
  · rw [if_neg same]
    cases index.lookup tollId with
    | none => rfl
    | some lanes =>
      by_cases gone : (lanes.filter fun id => id ≠ laneId).isEmpty
      · dsimp only
        rw [if_pos gone, lookup_assocErase, if_neg same]
      · dsimp only
        rw [if_neg gone, lookup_assocSet, if_neg same]

@[simp] theorem dropLane_defaultTtlMs (laneId : Int) :
    (cache.dropLane laneId).defaultTtlMs = cache.defaultTtlMs := by
  unfold dropLane
  cases cache.data.lookup laneId <;> rfl

theorem lookup_dropLane (laneId id : Int) :
    (cache.dropLane laneId).data.lookup id =
      if id = laneId then none else cache.data.lookup id := by
  unfold dropLane
  cases found : cache.data.lookup laneId with
  | some entry => exact lookup_assocErase _ _ _
  | none =>
    by_cases same : id = laneId
    · rw [if_pos same, same, found]
    · rw [if_neg same]

theorem lookup_dropAll (laneIds : List Int) (id : Int) :
    (cache.dropAll laneIds).data.lookup id =
      if id ∈ laneIds then none else cache.data.lookup id := by
  induction laneIds generalizing cache with
  | nil => rfl
  | cons laneId laneIds ih =>
    have step : cache.dropAll (laneId :: laneIds) = (cache.dropLane laneId).dropAll laneIds := rfl
    rw [step, ih, lookup_dropLane]
    by_cases later : id ∈ laneIds
    · simp [later]
    · by_cases same : id = laneId <;> simp [later, same]

/-- Dropping a lane keeps the maps in step: it leaves both. -/
theorem Consistent.dropLane (consistent : Consistent cache) (laneId : Int) :
    Consistent (cache.dropLane laneId) := by
  cases found : cache.data.lookup laneId with
  | none =>
    have unchanged : cache.dropLane laneId = cache := by rw [TollLaneCache.dropLane, found]
    rwa [unchanged]
  | some entry =>
    have lanes : ∀ tollId, (cache.dropLane laneId).lanesOf tollId =
        if tollId = entry.lane.tollId then (cache.lanesOf tollId).filter fun id => id ≠ laneId
        else cache.lanesOf tollId := by
      intro tollId
      rw [TollLaneCache.dropLane, found]
      exact lookup_retainOthers _ _ _ _
    constructor
    · rw [TollLaneCache.dropLane, found]
      exact nodup_keys_assocErase consistent.keys laneId
    · intro id other stored
      rw [lookup_dropLane] at stored
      by_cases same : id = laneId
      · simp [same] at stored
      · rw [if_neg same] at stored
        exact consistent.named id other stored
    · intro tollId
      rw [lanes]
      split
      · exact (consistent.once tollId).filter _
      · exact consistent.once tollId
    · intro tollId id
      rw [lanes, lookup_dropLane]
      by_cases dropped : id = laneId
      · -- the dropped lane is found nowhere, as it was in the index of its own station only
        subst dropped
        constructor
        · intro mem
          split at mem
          · simp at mem
          · next other =>
            obtain ⟨entry', stored, station⟩ := (consistent.indexed tollId id).mp mem
            rw [found] at stored
            exact absurd (by rw [← station, ← Option.some.inj stored]) other
        · rintro ⟨entry', stored, -⟩
          simp at stored
      · rw [if_neg dropped, ← consistent.indexed tollId id]
        split
        · simp [List.mem_filter, dropped]
        · rfl

theorem Consistent.dropAll (consistent : Consistent cache) (laneIds : List Int) :
    Consistent (cache.dropAll laneIds) := by
  induction laneIds generalizing cache with
  | nil => exact consistent
  | cons id laneIds ih => exact ih (consistent.dropLane id)

theorem Consistent.evictIfNeeded (consistent : Consistent cache) (seed : Int → Nat) :
    Consistent (cache.evictIfNeeded seed) := by
  unfold TollLaneCache.evictIfNeeded
  split
  · exact consistent
  · exact consistent.dropAll _

/-! ### Storing lanes -/

/-- A lane that is not cached is stored in both maps. -/
theorem Consistent.insertLane (consistent : Consistent cache) {lane : TollLane}
    (absent : cache.data.lookup lane.tollLaneId = none) (now : Int) :
    Consistent (cache.insertLane lane now) := by
  have stored : ∀ id, (cache.insertLane lane now).data.lookup id =
      if id = lane.tollLaneId then some (newEntry lane now) else cache.data.lookup id :=
    fun id => lookup_assocSet _ _ _ _
  have lanes : ∀ tollId, (cache.insertLane lane now).lanesOf tollId =
      if tollId = lane.tollId then cache.lanesOf lane.tollId ++ [lane.tollLaneId]
      else cache.lanesOf tollId := by
    intro tollId
    unfold TollLaneCache.insertLane lanesOf
    rw [lookup_assocSet]
    split <;> rfl
  have unlisted : ∀ tollId, lane.tollLaneId ∉ cache.lanesOf tollId := by
    intro tollId mem
    obtain ⟨entry, found, -⟩ := (consistent.indexed tollId _).mp mem
    rw [absent] at found
    cases found
  constructor
  · exact nodup_keys_assocSet consistent.keys _ _
  · intro id entry found
    rw [stored] at found
    by_cases same : id = lane.tollLaneId
    · rw [if_pos same] at found
      rw [← Option.some.inj found, same]
      rfl
    · rw [if_neg same] at found
      exact consistent.named id entry found
  · intro tollId
    rw [lanes]
    split
    · rw [List.nodup_append]
      refine ⟨consistent.once _, List.nodup_singleton _, ?_⟩
      intro id mem other eq
      rw [List.mem_singleton.mp eq]
      exact fun same => unlisted _ (same ▸ mem)
    · exact consistent.once tollId
  · intro tollId id
    rw [lanes, stored]
    by_cases same : id = lane.tollLaneId
    · rw [if_pos same, same]
      constructor
      · intro mem
        by_cases own : tollId = lane.tollId
        · exact ⟨_, rfl, own.symm⟩
        · rw [if_neg own] at mem
          exact absurd mem (unlisted tollId)
      · rintro ⟨entry, found, station⟩
        have own : tollId = lane.tollId := by
          rw [← station, ← Option.some.inj found]
          rfl
        rw [if_pos own]
        simp
    · rw [if_neg same, ← consistent.indexed tollId id]
      split
      · next own => simp [same, own]
      · rfl

/-- `put` keeps the maps in step if the lane is not cached yet. -/
theorem Consistent.put (consistent : Consistent cache) {lane : TollLane}
    (absent : cache.data.lookup lane.tollLaneId = none) (moment : Moment) :
    Consistent (cache.put lane moment) := by
  have stored := consistent.insertLane absent moment.ms
  unfold TollLaneCache.put
  dsimp only
  split
  · exact stored.evictIfNeeded _
  · exact stored

/-- A list of lanes with different ids replaces the content. -/
theorem Consistent.replaceAll (cache : TollLaneCache) {lanes : List TollLane}
    (distinct : (lanes.map (·.tollLaneId)).Nodup) (now : Int) :
    Consistent (cache.replaceAll lanes now) := by
  have more : ∀ (lanes : List TollLane) (cache : TollLaneCache), Consistent cache →
      (lanes.map (·.tollLaneId)).Nodup →
      (∀ lane ∈ lanes, cache.data.lookup lane.tollLaneId = none) →
      Consistent (lanes.foldl (fun c lane => c.insertLane lane now) cache) := by
    intro lanes
    induction lanes with
    | nil => exact fun _ consistent _ _ => consistent
    | cons lane lanes ih =>
      intro cache consistent distinct absent
      rw [List.map_cons, List.nodup_cons] at distinct
      apply ih
      · exact consistent.insertLane (absent lane List.mem_cons_self) now
      · exact distinct.2
      · intro other mem
        have different : other.tollLaneId ≠ lane.tollLaneId := fun same =>
          distinct.1 (List.mem_map.mpr ⟨other, mem, same⟩)
        calc (cache.insertLane lane now).data.lookup other.tollLaneId
            = cache.data.lookup other.tollLaneId := by
              rw [TollLaneCache.insertLane, lookup_assocSet, if_neg different]
          _ = none := absent other (List.mem_cons_of_mem _ mem)
  apply more lanes cache.clear _ distinct
  · exact fun lane _ => rfl
  · exact Consistent.empty _ _

/-! ### Reads -/

/-- Entries may change as long as each keeps its lane. -/
theorem Consistent.congr (consistent : Consistent cache)
    {data : List (Int × TollLaneCacheEntry)} (keys : (data.map fun kv => kv.1).Nodup)
    (same : ∀ id, (data.lookup id).map (·.lane) = (cache.data.lookup id).map (·.lane)) :
    Consistent { cache with data := data } := by
  have transfer : ∀ id entry, data.lookup id = some entry →
      ∃ old, cache.data.lookup id = some old ∧ old.lane = entry.lane := by
    intro id entry found
    have kept := same id
    rw [found, Option.map_some] at kept
    exact Option.map_eq_some_iff.mp kept.symm
  have back : ∀ id entry, cache.data.lookup id = some entry →
      ∃ new, data.lookup id = some new ∧ new.lane = entry.lane := by
    intro id entry found
    have kept := same id
    rw [found, Option.map_some] at kept
    exact Option.map_eq_some_iff.mp kept
  constructor
  · exact keys
  · intro id entry found
    obtain ⟨old, stored, lane⟩ := transfer id entry found
    rw [← lane]
    exact consistent.named id old stored
  · exact consistent.once
  · intro tollId id
    rw [show id ∈ lanesOf { cache with data := data } tollId ↔ id ∈ cache.lanesOf tollId from
      Iff.rfl, consistent.indexed tollId id]
    constructor
    · rintro ⟨entry, found, station⟩
      obtain ⟨new, stored, lane⟩ := back id entry found
      exact ⟨new, stored, by rw [lane, station]⟩
    · rintro ⟨entry, found, station⟩
      obtain ⟨old, stored, lane⟩ := transfer id entry found
      exact ⟨old, stored, by rw [lane, station]⟩

/-- `get` keeps the maps in step unless it meets an expired lane. -/
theorem Consistent.get (consistent : Consistent cache) {laneId now : Int}
    (fresh : cache.isExpired now laneId = false) : Consistent (cache.get laneId now).2 := by
  unfold TollLaneCache.get
  unfold isExpired at fresh
  cases found : cache.data.lookup laneId with
  | none => exact consistent
  | some entry =>
    rw [found] at fresh
    dsimp only at fresh ⊢
    rw [if_pos (by simpa using fresh)]
    apply consistent.congr
    · exact nodup_keys_assocSet consistent.keys _ _
    · intro id
      rw [lookup_assocSet]
      by_cases same : id = laneId
      · rw [if_pos same, same, found]
        rfl
      · rw [if_neg same]

/-- A read changes no lane. -/
theorem lookup_touchAll (laneIds : List Int) (now id : Int) :
    ((cache.touchAll laneIds now).data.lookup id).map (·.lane) =
      (cache.data.lookup id).map (·.lane) := by
  have found := lookup_map_values cache.data (fun id entry =>
    if laneIds.contains id && cache.isFresh now entry
      then { entry with lastAccess := now } else entry) id
  rw [touchAll, found, Option.map_map]
  congr 1
  ext entry
  dsimp only [Function.comp]
  split <;> rfl

theorem Consistent.touchAll (consistent : Consistent cache) (laneIds : List Int) (now : Int) :
    Consistent (cache.touchAll laneIds now) := by
  apply consistent.congr
  · rw [List.map_map]
    exact consistent.keys
  · exact lookup_touchAll laneIds now

theorem Consistent.getByTollId (consistent : Consistent cache) (tollId now : Int) :
    Consistent (cache.getByTollId tollId now).2 :=
  (consistent.touchAll _ now).dropAll _

theorem Consistent.remove (consistent : Consistent cache) (laneId : Int) :
    Consistent (cache.remove laneId).2 :=
  consistent.dropLane laneId

theorem Consistent.cleanupExpired (consistent : Consistent cache) (now : Int) :
    Consistent (cache.cleanupExpired now).2 :=
  consistent.dropAll _

/-- The lanes of a station that are cached and have not expired. -/
def freshLanes (cache : TollLaneCache) (tollId now : Int) : List TollLane :=
  (cache.data.filter fun kv => decide (kv.2.lane.tollId = tollId) && cache.isFresh now kv.2).map
    fun kv => kv.2.lane

theorem Consistent.mem_freshLanes_iff (consistent : Consistent cache) (tollId now : Int)
    (lane : TollLane) : lane ∈ cache.freshLanes tollId now ↔
      lane.tollId = tollId ∧ cache.freshLane now lane.tollLaneId = some lane := by
  unfold freshLanes freshLane
  simp only [List.mem_map, List.mem_filter, Bool.and_eq_true, decide_eq_true_eq]
  constructor
  · rintro ⟨⟨id, entry⟩, ⟨mem, station, fresh⟩, rfl⟩
    have found := (lookup_eq_some_iff_mem consistent.keys id entry).mpr mem
    have name := consistent.named id entry found
    dsimp only at station fresh ⊢
    rw [name, found]
    exact ⟨station, if_pos fresh⟩
  · rintro ⟨station, cached⟩
    cases found : cache.data.lookup lane.tollLaneId with
    | none => simp [found] at cached
    | some entry =>
      rw [found] at cached
      dsimp only at cached
      split at cached
      · next fresh =>
        have same := Option.some.inj cached
        refine ⟨(lane.tollLaneId, entry), ⟨?_, by rw [same, station], fresh⟩, same⟩
        exact (lookup_eq_some_iff_mem consistent.keys _ _).mp found
      · cases cached

theorem Consistent.nodup_freshLanes (consistent : Consistent cache) (tollId now : Int) :
    (cache.freshLanes tollId now).Nodup := by
  apply List.Nodup.of_map (·.tollLaneId)
  have names : (cache.freshLanes tollId now).map (·.tollLaneId) =
      (cache.data.filter fun kv =>
        decide (kv.2.lane.tollId = tollId) && cache.isFresh now kv.2).map fun kv => kv.1 := by
    rw [freshLanes, List.map_map]
    apply List.map_congr_left
    intro kv mem
    exact consistent.named kv.1 kv.2
      ((lookup_eq_some_iff_mem consistent.keys _ _).mpr (List.mem_of_mem_filter mem))
  rw [names]
  exact consistent.keys.sublist (List.filter_sublist.map _)

/-- A lane is found under its own id. -/
theorem Consistent.freshLane_eq_some (consistent : Consistent cache) {now id : Int}
    {lane : TollLane} (cached : cache.freshLane now id = some lane) :
    lane.tollLaneId = id ∧ id ∈ cache.lanesOf lane.tollId := by
  unfold freshLane at cached
  cases found : cache.data.lookup id with
  | none => simp [found] at cached
  | some entry =>
    rw [found] at cached
    dsimp only at cached
    split at cached
    · rw [← Option.some.inj cached]
      exact ⟨consistent.named id entry found,
        (consistent.indexed _ id).mpr ⟨entry, found, rfl⟩⟩
    · cases cached

/-- A station is read from the index without loss: each of its fresh lanes once, and no other. -/
theorem Consistent.getByTollId_perm (consistent : Consistent cache) (tollId now : Int) :
    (cache.getByTollId tollId now).1.Perm (cache.freshLanes tollId now) := by
  rw [List.perm_ext_iff_of_nodup _ (consistent.nodup_freshLanes tollId now)]
  · intro lane
    rw [consistent.mem_freshLanes_iff, TollLaneCache.getByTollId, List.mem_filterMap]
    constructor
    · rintro ⟨id, listed, cached⟩
      obtain ⟨rfl, own⟩ := consistent.freshLane_eq_some cached
      obtain ⟨entry, found, station⟩ := (consistent.indexed _ _).mp listed
      obtain ⟨entry', found', station'⟩ := (consistent.indexed _ _).mp own
      rw [found] at found'
      rw [← Option.some.inj found', station] at station'
      exact ⟨station'.symm, cached⟩
    · rintro ⟨rfl, cached⟩
      exact ⟨_, (consistent.freshLane_eq_some cached).2, cached⟩
  · -- two ids have different lanes, as a lane carries its id
    apply (consistent.once tollId).filterMap
    intro id id' lane cached cached'
    exact (consistent.freshLane_eq_some cached).1.symm.trans
      (consistent.freshLane_eq_some cached').1

/-- A read of a station that finds nothing leaves nothing of it in the cache. -/
theorem Consistent.freshLanes_getByTollId (consistent : Consistent cache) {tollId now : Int}
    (nothing : cache.freshLanes tollId now = []) (later : Int) :
    (cache.getByTollId tollId now).2.freshLanes tollId later = [] := by
  apply List.eq_nil_iff_forall_not_mem.mpr
  intro lane mem
  obtain ⟨station, cached⟩ :=
    ((consistent.getByTollId tollId now).mem_freshLanes_iff tollId later lane).mp mem
  have entry : ∃ entry, cache.data.lookup lane.tollLaneId = some entry ∧ entry.lane = lane ∧
      cache.isExpired now lane.tollLaneId = false := by
    unfold freshLane TollLaneCache.getByTollId at cached
    rw [lookup_dropAll] at cached
    by_cases dropped : lane.tollLaneId ∈
        (cache.lanesOf tollId).filter (cache.isExpired now)
    · simp [dropped] at cached
    · rw [if_neg dropped] at cached
      have same : ((cache.touchAll (cache.lanesOf tollId) now).data.lookup lane.tollLaneId).map
          (·.lane) = (cache.data.lookup lane.tollLaneId).map (·.lane) := lookup_touchAll _ _ _
      cases found : (cache.touchAll (cache.lanesOf tollId) now).data.lookup lane.tollLaneId with
      | none => simp [found] at cached
      | some touched =>
        rw [found] at cached same
        dsimp only at cached
        split at cached
        · obtain ⟨entry, stored, kept⟩ := Option.map_eq_some_iff.mp same.symm
          have own : entry.lane = lane := kept.trans (Option.some.inj cached)
          have listed : lane.tollLaneId ∈ cache.lanesOf tollId :=
            (consistent.indexed _ _).mpr ⟨entry, stored, by rw [own, station]⟩
          refine ⟨entry, stored, own, ?_⟩
          simpa [List.mem_filter, listed] using dropped
        · cases cached
  obtain ⟨entry, stored, own, fresh⟩ := entry
  have before : lane ∈ cache.freshLanes tollId now := by
    rw [consistent.mem_freshLanes_iff]
    unfold isExpired at fresh
    rw [stored] at fresh
    have young : cache.isFresh now entry = true := by simpa using fresh
    refine ⟨station, ?_⟩
    rw [freshLane, stored]
    dsimp only
    rw [if_pos young, own]
  rw [nothing] at before
  cases before

end TollLaneCache

end TollBackend

import TollBackend.Lanes.Cache
import TollBackend.Concurrent.Machine

/-!
# Reading the lanes of a station

`get_toll_lanes_by_toll_id_with_fallback`: the lanes in memory or, when there are none, those of
the database, which are then saved. The runs of the cache are all sequences of its operations
and of this read, at any times.

## Main definitions

* `getTollLanesByTollIdWithFallback`: the read.
* `LaneSystem`: the cache, the lanes of the last load, and what the reads have returned.
* `LaneSystem.Kept`: the maps are in step, stations are read without loss, and no read has
  returned a part of the lanes that are known.
* `LaneSystem.InStep`: the calls that keep it so.

## Main results

* `LaneSystem.kept_of_reaches`: a run of such calls keeps it.
-/

namespace TollBackend

open Concurrent

variable {cache : TollLaneCache}

/-- Save one lane after another, each at its own moment. -/
def saveTollLanes : List TollLane → (Nat → Moment) → TollLaneCache → TollLaneCache
  | [], _, cache => cache
  | lane :: lanes, moment, cache =>
    saveTollLanes lanes (fun i => moment (i + 1)) (cache.put lane (moment 0))

/-- `get_toll_lanes_by_toll_id` of the distributed cache, which looks into the memory again and
then asks the database; `none` is a failed query. -/
def getTollLanesByTollId (cache : TollLaneCache) (tollId : Int) (moment : Nat → Moment)
    (answer : Option (List TollLane)) : List TollLane × TollLaneCache :=
  let cached := cache.getByTollId tollId (moment 0).ms
  if !cached.1.isEmpty then cached
  else
    match answer with
    | some lanes => (lanes, saveTollLanes lanes (fun i => moment (i + 1)) cached.2)
    | none => ([], cached.2)

/-- `get_toll_lanes_by_toll_id_with_fallback`. The lanes that the distributed cache has saved
are saved once more. -/
def getTollLanesByTollIdWithFallback (cache : TollLaneCache) (tollId : Int)
    (moment : Nat → Moment) (answer : Option (List TollLane)) : List TollLane × TollLaneCache :=
  let cached := cache.getByTollId tollId (moment 0).ms
  if !cached.1.isEmpty then cached
  else
    let lanes := getTollLanesByTollId cached.2 tollId (fun i => moment (i + 1)) answer
    (lanes.1, saveTollLanes lanes.1 (fun i => moment (i + 2 + lanes.1.length)) lanes.2)

/-- Neither look into the memory finds a lane, so that the database is asked. -/
def asksDatabase (cache : TollLaneCache) (tollId : Int) (moment : Nat → Moment) : Bool :=
  let cached := cache.getByTollId tollId (moment 0).ms
  cached.1.isEmpty && (cached.2.getByTollId tollId (moment 1).ms).1.isEmpty

/-! ### Runs -/

/-- A read of a station: the lanes of the station at the last load, and the answer. -/
structure LaneAnswer where
  known : List TollLane
  returned : List TollLane

/-- The cache, with what was last loaded for each station and the answers so far. -/
structure LaneSystem where
  cache : TollLaneCache
  known : List TollLane := []
  answers : List LaneAnswer := []

/-- A call, with the times at which it runs and what the database answers. -/
inductive LaneCall
  | put (lane : TollLane) (moment : Moment)
  | get (laneId now : Int)
  | getByTollId (tollId now : Int)
  | remove (laneId : Int)
  | cleanupExpired (now : Int)
  | replaceAll (lanes : List TollLane) (now : Int)
  | clear
  | withFallback (tollId : Int) (moment : Nat → Moment) (answer : Option (List TollLane))

namespace LaneSystem

variable {s : LaneSystem}

/-- The lanes of the database at the last load of their station, after a read of one of them. -/
def knownAfter (s : LaneSystem) (tollId : Int) (moment : Nat → Moment)
    (answer : Option (List TollLane)) : List TollLane :=
  match answer with
  | some lanes =>
    if asksDatabase s.cache tollId moment
      then lanes ++ s.known.filter fun lane => lane.tollId ≠ tollId
      else s.known
  | none => s.known

/-- A call and what it changes. -/
def perform (s : LaneSystem) : LaneCall → LaneSystem
  | .put lane moment => { s with cache := s.cache.put lane moment }
  | .get laneId now => { s with cache := (s.cache.get laneId now).2 }
  | .getByTollId tollId now => { s with cache := (s.cache.getByTollId tollId now).2 }
  | .remove laneId => { s with cache := (s.cache.remove laneId).2 }
  | .cleanupExpired now => { s with cache := (s.cache.cleanupExpired now).2 }
  | .replaceAll lanes now =>
    { s with cache := s.cache.replaceAll lanes now, known := lanes }
  | .clear => { s with cache := s.cache.clear }
  | .withFallback tollId moment answer =>
    let read := getTollLanesByTollIdWithFallback s.cache tollId moment answer
    let known := s.knownAfter tollId moment answer
    { cache := read.2
      known := known
      answers := ⟨known.filter fun lane => lane.tollId = tollId, read.1⟩ :: s.answers }

/-- Any call is possible in any state. -/
def machine : Machine LaneCall LaneSystem :=
  ⟨fun call s => some (s.perform call)⟩

/-- No lane is cached. -/
def start (ttl : Int) (limit : Nat) : LaneSystem where
  cache := { defaultTtlMs := ttl, maxTotalEntries := limit }

/-- The maps are in step, every station is read without loss, and every answer has had all lanes
of the station that were known. -/
structure Kept (s : LaneSystem) : Prop where
  consistent : s.cache.Consistent
  read : ∀ tollId now,
    (s.cache.getByTollId tollId now).1.Perm (s.cache.freshLanes tollId now)
  complete : ∀ answer ∈ s.answers, ∀ lane ∈ answer.known,
    lane.tollLaneId ∈ answer.returned.map (·.tollLaneId)

/-- The calls that keep it so: a lane is put while it is not cached, no expired lane is asked
for by its id, a load names each lane once; and a read with fallback finds either all known
lanes of the station, or none and then no lane in the database either. -/
def InStep : LaneCall → LaneSystem → Prop
  | .put lane _, s => s.cache.data.lookup lane.tollLaneId = none
  | .get laneId now, s => s.cache.isExpired now laneId = false
  | .replaceAll lanes _, _ => (lanes.map (·.tollLaneId)).Nodup
  | .withFallback tollId moment answer, s =>
    let fresh := s.cache.freshLanes tollId (moment 0).ms
    let known := s.known.filter fun lane => lane.tollId = tollId
    if fresh = [] then answer = some [] ∨ answer = none ∧ known = []
    else ∀ lane ∈ known, lane.tollLaneId ∈ fresh.map (·.tollLaneId)
  | .getByTollId _ _, _ => True
  | .remove _, _ => True
  | .cleanupExpired _, _ => True
  | .clear, _ => True

/-! ### A read with fallback -/

/-- Both looks find nothing where no lane of the station is cached within its time to live. -/
theorem asksDatabase_of_freshLanes (consistent : cache.Consistent) {tollId : Int}
    {moment : Nat → Moment} (nothing : cache.freshLanes tollId (moment 0).ms = []) :
    (cache.getByTollId tollId (moment 0).ms).1 = [] ∧
      ((cache.getByTollId tollId (moment 0).ms).2.getByTollId tollId (moment 1).ms).1 = [] := by
  constructor
  · exact (nothing ▸ consistent.getByTollId_perm tollId (moment 0).ms).eq_nil
  · have again := (consistent.getByTollId tollId (moment 0).ms).getByTollId_perm tollId
      (moment 1).ms
    rw [consistent.freshLanes_getByTollId nothing] at again
    exact again.eq_nil

/-- A read that finds the station in memory returns what is there. -/
theorem withFallback_of_cached {tollId : Int} {moment : Nat → Moment}
    (cached : (cache.getByTollId tollId (moment 0).ms).1 ≠ [])
    (answer : Option (List TollLane)) :
    getTollLanesByTollIdWithFallback cache tollId moment answer =
      cache.getByTollId tollId (moment 0).ms := by
  rw [getTollLanesByTollIdWithFallback]
  dsimp only
  rw [if_pos (by simpa using cached)]

/-- A read that finds nothing anywhere returns and saves nothing. -/
theorem withFallback_of_nothing (consistent : cache.Consistent) {tollId : Int}
    {moment : Nat → Moment} (nothing : cache.freshLanes tollId (moment 0).ms = [])
    {answer : Option (List TollLane)} (empty : answer = some [] ∨ answer = none) :
    getTollLanesByTollIdWithFallback cache tollId moment answer =
      ([], ((cache.getByTollId tollId (moment 0).ms).2.getByTollId tollId (moment 1).ms).2) := by
  obtain ⟨first, second⟩ := asksDatabase_of_freshLanes consistent nothing
  have missed : ∀ lanes : List TollLane, lanes = [] → ¬(!lanes.isEmpty) = true := by
    rintro lanes rfl
    decide
  unfold getTollLanesByTollIdWithFallback getTollLanesByTollId
  dsimp only
  rw [if_neg (missed _ first), if_neg (missed _ second)]
  rcases empty with rfl | rfl <;> rfl

/-! ### What a call keeps -/

theorem Kept.start (ttl : Int) (limit : Nat) : (start ttl limit).Kept where
  consistent := TollLaneCache.Consistent.empty ttl limit
  read := (TollLaneCache.Consistent.empty ttl limit).getByTollId_perm
  complete := by simp [LaneSystem.start]

/-- A call that leaves the answers alone only has to keep the maps in step. -/
theorem Kept.of_consistent (kept : s.Kept) {s' : LaneSystem}
    (consistent : s'.cache.Consistent) (same : s'.answers = s.answers) : s'.Kept where
  consistent := consistent
  read := consistent.getByTollId_perm
  complete := by
    rw [same]
    exact kept.complete

/-- A read with fallback returns all lanes that are known. -/
theorem Kept.withFallback (kept : s.Kept) {tollId : Int} {moment : Nat → Moment}
    {answer : Option (List TollLane)} (inStep : InStep (.withFallback tollId moment answer) s) :
    (s.perform (.withFallback tollId moment answer)).Kept := by
  unfold InStep at inStep
  dsimp only at inStep
  have perm := kept.consistent.getByTollId_perm tollId (moment 0).ms
  by_cases nothing : s.cache.freshLanes tollId (moment 0).ms = []
  · rw [if_pos nothing] at inStep
    obtain ⟨first, second⟩ := asksDatabase_of_freshLanes kept.consistent nothing
    have read := withFallback_of_nothing kept.consistent nothing
      (inStep.imp id fun h => h.1)
    have asks : asksDatabase s.cache tollId moment = true := by
      simp [asksDatabase, first, second]
    have consistent : (s.perform (.withFallback tollId moment answer)).cache.Consistent := by
      dsimp only [perform]
      rw [read]
      exact (kept.consistent.getByTollId _ _).getByTollId _ _
    refine ⟨consistent, consistent.getByTollId_perm, ?_⟩
    -- no lane of the station is known afterwards
    have unknown : (s.knownAfter tollId moment answer).filter
        (fun lane => lane.tollId = tollId) = [] := by
      rcases inStep with rfl | ⟨rfl, none_known⟩
      · simp [knownAfter, asks]
      · exact none_known
    intro answer' mem lane known
    rcases List.mem_cons.mp mem with rfl | old
    · dsimp only at known
      rw [unknown] at known
      cases known
    · exact kept.complete answer' old lane known
  · rw [if_neg nothing] at inStep
    have cached : (s.cache.getByTollId tollId (moment 0).ms).1 ≠ [] := fun empty =>
      nothing (empty ▸ perm).symm.eq_nil
    have read := withFallback_of_cached cached answer
    have asks : asksDatabase s.cache tollId moment = false := by
      simp [asksDatabase, cached]
    have consistent : (s.perform (.withFallback tollId moment answer)).cache.Consistent := by
      dsimp only [perform]
      rw [read]
      exact kept.consistent.getByTollId _ _
    refine ⟨consistent, consistent.getByTollId_perm, ?_⟩
    have same : s.knownAfter tollId moment answer = s.known := by
      cases answer <;> simp [knownAfter, asks]
    intro answer' mem lane known
    rcases List.mem_cons.mp mem with rfl | old
    · dsimp only at known ⊢
      rw [same] at known
      rw [read]
      exact (perm.map _).mem_iff.mpr (inStep lane known)
    · exact kept.complete answer' old lane known

/-- Each call that is allowed keeps the maps in step and the answers complete. -/
theorem Kept.perform (kept : s.Kept) {call : LaneCall} (inStep : InStep call s) :
    (s.perform call).Kept := by
  have consistent := kept.consistent
  cases call with
  | put lane moment => exact kept.of_consistent (consistent.put inStep moment) rfl
  | get laneId now => exact kept.of_consistent (consistent.get inStep) rfl
  | getByTollId tollId now => exact kept.of_consistent (consistent.getByTollId tollId now) rfl
  | remove laneId => exact kept.of_consistent (consistent.remove laneId) rfl
  | cleanupExpired now => exact kept.of_consistent (consistent.cleanupExpired now) rfl
  | replaceAll lanes now =>
    exact kept.of_consistent (TollLaneCache.Consistent.replaceAll s.cache inStep now) rfl
  | clear => exact kept.of_consistent (TollLaneCache.Consistent.empty _ _) rfl
  | withFallback tollId moment answer => exact kept.withFallback inStep

/-- A lane with nothing but its id and its station. -/
def lane (tollLaneId tollId : Int) : TollLane where
  tollLaneId := tollLaneId
  tollId := tollId

instance (call : LaneCall) (s : LaneSystem) : Decidable (InStep call s) :=
  match call with
  | .put lane _ => inferInstanceAs (Decidable (s.cache.data.lookup lane.tollLaneId = none))
  | .get laneId now => inferInstanceAs (Decidable (s.cache.isExpired now laneId = false))
  | .replaceAll lanes _ => inferInstanceAs (Decidable (lanes.map (·.tollLaneId)).Nodup)
  | .withFallback tollId moment answer =>
    inferInstanceAs (Decidable
      (if s.cache.freshLanes tollId (moment 0).ms = []
        then answer = some [] ∨
          answer = none ∧ s.known.filter (fun lane => lane.tollId = tollId) = []
        else ∀ lane ∈ s.known.filter fun lane => lane.tollId = tollId,
          lane.tollLaneId ∈
            (s.cache.freshLanes tollId (moment 0).ms).map (·.tollLaneId)))
  | .getByTollId _ _ => .isTrue trivial
  | .remove _ => .isTrue trivial
  | .cleanupExpired _ => .isTrue trivial
  | .clear => .isTrue trivial

end LaneSystem

end TollBackend

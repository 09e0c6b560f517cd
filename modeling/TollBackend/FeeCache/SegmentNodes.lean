import TollBackend.Concurrent.Machine
import TollBackend.FeeCache.Reload
import TollBackend.FeeCache.SegmentKeys

/-!
# How the segments have reached memory

Several nodes share the tables and KeyDB. A segment reaches the memory of a node with a load of
all segments, with a fallback to what an earlier load has left in KeyDB, or with a leg that asks
for it. Only a load brings the cycles and the stations of the stages as well.

## Main definitions

* `SegmentTable`: the rows of the two tables.
* `getSegmentsForLeg`, `SegmentMaps.getSegmentCycleId`, `SegmentMaps.getTollATollBForStageId`: the
  lookups.
* `SegmentNodes`, `SegmentCall`, `segmentMachine`: the nodes, and what happens at them.
* `SegmentTable.Admitted`: a call at which the database keeps its order, and no segment comes to a
  node that does not know its stages.
* `SegmentTable.SameAnswers`: two nodes answer alike for a segment.
-/

namespace TollBackend

open Concurrent Rows SegmentMaps

/-! ### Lookups -/

namespace SegmentMaps

/-- `get_segments_from_memory`. -/
def getSegmentsFromMemory (maps : SegmentMaps) (tollA tollB : Int) : Option (List Int) :=
  maps.segments.lookup (segmentKey tollA tollB)

/-- `get_stage_id_for_segment`. -/
def getStageIdForSegment (maps : SegmentMaps) (tollA tollB : Int) : Option Int :=
  (maps.getSegmentsFromMemory tollA tollB).bind List.head?

/-- `get_segment_cycle_id`. -/
def getSegmentCycleId (maps : SegmentMaps) (tollA tollB : Int) : Option Int := do
  let stageId ← maps.getStageIdForSegment tollA tollB
  maps.cycleByStage.lookup stageId

/-- `get_toll_a_toll_b_for_stage_id`. -/
def getTollATollBForStageId (maps : SegmentMaps) (stageId : Int) : Option (Int × Int) :=
  maps.tollAbByStage.lookup stageId

/-- `set_segment_memory`. -/
def setSegmentMemory (maps : SegmentMaps) (tollA tollB : Int) (transitionIds : List Int) :
    SegmentMaps :=
  { maps with segments := assocSet maps.segments (segmentKey tollA tollB) transitionIds }

end SegmentMaps

/-- The query of `load_segment_from_db`. -/
def segmentIds : TableQuery Int where
  columns := [.i64 1]
  decode row := getI64 row 1
  onFault e := some
    (.executionError s!"[ClosedCycleTransitionStageCache] Error fetching segment: {e}")
  fails_decode_iff row := by simp [fails_getI64]

/-- `load_segment_from_db`. -/
def loadSegment (result : QueryResult) : Except DbError (Option (List Int)) := do
  let transitionIds ← segmentIds.load result
  pure (if transitionIds = [] then none else some transitionIds)

/-- `get_segments_for_leg`: the answer, and what is then in the stores and in memory. -/
def getSegmentsForLeg (result : QueryResult) (keydbSets : Bool) (tollA tollB : Int)
    (s : LoaderState segmentLoader) : Option (List Int) × LoaderState segmentLoader :=
  match s.memory.getSegmentsFromMemory tollA tollB with
  | some seg => (some seg, s)
  | none =>
    match s.memory.getSegmentsFromMemory tollB tollA with
    | some seg => (some seg, s)
    | none =>
      match loadSegment result with
      | .ok (some seg) =>
          let key := segmentText (SegmentMaps.segmentKey tollA tollB)
          (some seg,
            { store := s.store.set keydbSets key seg
              memory := s.memory.setSegmentMemory tollA tollB seg })
      | .ok none => (none, s)
      | .error _ => (none, s)

/-! ### Tables -/

/-- `CLOSED_CYCLE_TRANSITION_STAGE`, and of `TOLL_STAGE` the stages with their cycles and stations.
The rows of a table come in the order of the list. -/
structure SegmentTable where
  transitions : List (Int × Int × Int)
  stages : List (Int × Int × Option Int × Option Int)
  stations_fit : ∀ row ∈ transitions, FitsI64 row.1 ∧ FitsI64 row.2.1

namespace SegmentTable

variable (t : SegmentTable)

/-- The transitions between two stations. -/
def idsOf (key : Int × Int) : List Int :=
  (t.transitions.filter fun row => SegmentMaps.segmentKey row.1 row.2.1 = key).map
    fun row => row.2.2

/-- The transitions, if there are some. -/
def segmentAt (key : Int × Int) : Option (List Int) :=
  if t.idsOf key = [] then none else some (t.idsOf key)

/-- The rows of the query of `load_segment_from_db`. -/
def legIds (tollA tollB : Int) : List Int :=
  (t.transitions.filter fun row =>
    (row.1 = tollA ∧ row.2.1 = tollB) ∨ (row.1 = tollB ∧ row.2.1 = tollA)).map fun row => row.2.2

/-- The rows of the query of `load_cycle_by_stage`. -/
def cycleRows (stageIds : List Int) : List (Int × Int) :=
  (t.stages.filter fun stage => stage.1 ∈ stageIds).map fun stage => (stage.1, stage.2.1)

/-- The rows of the query of `load_toll_ab_by_stage`. -/
def tollAbRows (stageIds : List Int) : List (Int × Option Int × Option Int) :=
  (t.stages.filter fun stage => stage.1 ∈ stageIds).map fun stage => (stage.1, stage.2.2)

/-- The stages of the segments. -/
def stageIds : List Int :=
  t.transitions.map fun row => row.2.2

/-- The maps of a load in the order of the table. -/
def maps : SegmentMaps :=
  ofRows t.transitions (t.cycleRows t.stageIds) (t.tollAbRows t.stageIds)

/-- The memory knows the cycles and the stations of all stages. -/
structure StagesIn (maps : SegmentMaps) : Prop where
  cycles : ∀ stageId, maps.cycleByStage.lookup stageId = t.maps.cycleByStage.lookup stageId
  stations : ∀ stageId, maps.tollAbByStage.lookup stageId = t.maps.tollAbByStage.lookup stageId

end SegmentTable

/-! ### Nodes -/

/-- The memory and Moka of each node, and KeyDB. -/
structure SegmentNodes (Node : Type) where
  memory : Node → SegmentMaps := fun _ => {}
  moka : Node → List (String × List Int) := fun _ => []
  keydb : List (String × Option (List Int)) := []

/-- What happens at a node: `get_closed_cycle_transition_stage_cache` at startup or later,
`get_segments_for_leg`, or a restart of the process. -/
inductive SegmentCall (Node : Type)
  | reload (node : Node) (answers : Option SegmentAnswers) (loadFromKeydb : Bool)
      (env : StoreAnswers)
  | leg (node : Node) (tollA tollB : Int) (result : QueryResult) (keydbSets : Bool)
  | restart (node : Node)

namespace SegmentNodes

variable {Node : Type} [DecidableEq Node]

/-- The stores and the memory as a node sees them. -/
def view (s : SegmentNodes Node) (node : Node) : LoaderState segmentLoader where
  store := { moka := s.moka node, keydb := s.keydb }
  memory := s.memory node

/-- A node has changed its stores and its memory. -/
def setView (s : SegmentNodes Node) (node : Node) (v : LoaderState segmentLoader) :
    SegmentNodes Node where
  memory := Function.update s.memory node v.memory
  moka := Function.update s.moka node v.store.moka
  keydb := v.store.keydb

/-- What a call leaves. -/
def exec (s : SegmentNodes Node) : SegmentCall Node → SegmentNodes Node
  | .reload node answers loadFromKeydb env =>
      s.setView node (segmentLoader.reload answers loadFromKeydb env (s.view node))
  | .leg node tollA tollB result keydbSets =>
      s.setView node (getSegmentsForLeg result keydbSets tollA tollB (s.view node)).2
  | .restart node => s.setView node { store := { keydb := s.keydb }, memory := {} }

end SegmentNodes

/-- The histories of the nodes. -/
def segmentMachine (Node : Type) [DecidableEq Node] :
    Machine (SegmentCall Node) (SegmentNodes Node) where
  step call s := some (s.exec call)

/-! ### What a history may be -/

/-- Rows of one key come in their order. -/
def TableQuery.KeepsOrder {Dto κ : Type} [DecidableEq κ] (query : TableQuery Dto)
    (result : QueryResult) (key : Dto → κ) (rows : List Dto) : Prop :=
  ∀ read, query.load result = .ok read → ∀ k,
    (read.filter fun row => key row = k) = rows.filter fun row => key row = k

namespace SegmentTable

variable (t : SegmentTable) {Node : Type} [DecidableEq Node]

/-- The database has the table. -/
def Gives : SegmentCall Node → Prop
  | .reload _ answers _ _ => ∀ a, answers = some a →
      transitionStages.Gives a.stages t.transitions ∧
        ∀ ids, cycleByStage.Gives (a.cycles ids) (t.cycleRows ids) ∧
          tollAbByStage.Gives (a.tollAbs ids) (t.tollAbRows ids)
  | .leg _ tollA tollB result _ => segmentIds.Gives result (t.legIds tollA tollB)
  | .restart _ => True

/-- The database gives the transitions of a segment, and the rows of a stage, always in one
order. -/
def KeepsOrder : SegmentCall Node → Prop
  | .reload _ answers _ _ => ∀ a, answers = some a →
      transitionStages.KeepsOrder a.stages (fun row => SegmentMaps.segmentKey row.1 row.2.1)
          t.transitions ∧
        ∀ ids, cycleByStage.KeepsOrder (a.cycles ids) (fun row => row.1) (t.cycleRows ids) ∧
          tollAbByStage.KeepsOrder (a.tollAbs ids) (fun row => row.1) (t.tollAbRows ids)
  | .leg _ tollA tollB result _ => ∀ read, segmentIds.load result = .ok read →
      read = t.legIds tollA tollB
  | .restart _ => True

/-- Segments come without their stages only to a node that knows the stages. -/
def KnowsStages (s : SegmentNodes Node) : SegmentCall Node → Prop
  | .reload node answers loadFromKeydb env => Fails (segmentLoader.readFrom answers) →
      loadFromKeydb = true → loadPrefixFromKeydb env (s.view node).store ≠ [] →
        t.StagesIn (s.memory node)
  | .leg node tollA tollB result _ =>
      (s.memory node).getSegmentsFromMemory tollA tollB = none →
        (∃ seg, loadSegment result = .ok (some seg)) → t.StagesIn (s.memory node)
  | .restart _ => True

/-- A call at which all this holds. -/
structure Admitted (call : SegmentCall Node) (s : SegmentNodes Node) : Prop where
  gives : t.Gives call
  keepsOrder : t.KeepsOrder call
  knowsStages : t.KnowsStages s call

end SegmentTable

/-! ### Answers -/

namespace SegmentTable

variable (t : SegmentTable)

/-- The segment is in memory, or else the database is asked for it and answers. -/
def Answered (v : LoaderState segmentLoader) (result : QueryResult) (tollA tollB : Int) : Prop :=
  v.memory.getSegmentsFromMemory tollA tollB ≠ none ∨
    segmentIds.load result = .ok (t.legIds tollA tollB)

/-- For a segment, two nodes give the same answers in both directions. Those from memory alone
are compared where the segment has reached both memories. -/
structure SameAnswers (v v' : LoaderState segmentLoader) (tollA tollB : Int) : Prop where
  segments : ∀ result result' keydbSets keydbSets', t.Answered v result tollA tollB →
    t.Answered v' result' tollA tollB →
      (getSegmentsForLeg result keydbSets tollA tollB v).1 =
          (getSegmentsForLeg result' keydbSets' tollA tollB v').1 ∧
        (getSegmentsForLeg result keydbSets tollA tollB v).1 =
          (getSegmentsForLeg result' keydbSets' tollB tollA v').1
  cycle : v.memory.getSegmentsFromMemory tollA tollB ≠ none →
    v'.memory.getSegmentsFromMemory tollA tollB ≠ none →
      v.memory.getSegmentCycleId tollA tollB = v'.memory.getSegmentCycleId tollA tollB ∧
        v.memory.getSegmentCycleId tollA tollB = v'.memory.getSegmentCycleId tollB tollA
  stations : v.memory.getSegmentsFromMemory tollA tollB ≠ none →
    v'.memory.getSegmentsFromMemory tollA tollB ≠ none → ∀ stageId,
      v.memory.getTollATollBForStageId stageId = v'.memory.getTollATollBForStageId stageId

end SegmentTable

end TollBackend

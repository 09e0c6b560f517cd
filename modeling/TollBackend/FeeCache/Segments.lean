import TollBackend.AssocList
import TollBackend.FeeCache.Loaders
import TollBackend.Network.ServerConfig

/-!
# The segments of the closed cycles in memory

Three maps: the transitions between two stations, the cycle of a stage, and the stations of a
stage. A load from the database reads the first one and then asks for the stages that occur in it.

## Main definitions

* `SegmentMaps`: the three maps.
* `SegmentMaps.loadSegments`: what a load from the database gives.
* `SegmentMaps.segmentsFromKeydb`: what a fallback to KeyDB gives, the first map only.
-/

namespace TollBackend

open Rows

/-- `SEGMENT_MEMORY`, `CYCLE_BY_STAGE` and `TOLL_AB_BY_STAGE`. -/
structure SegmentMaps where
  segments : List ((Int × Int) × List Int) := []
  cycleByStage : List (Int × Int) := []
  tollAbByStage : List (Int × Int × Int) := []

namespace SegmentMaps

/-- `segment_key`: both directions have one key. -/
def segmentKey (a b : Int) : Int × Int :=
  if a ≤ b then (a, b) else (b, a)

/-- The key of a segment in Moka and KeyDB. -/
def segmentText (key : Int × Int) : String :=
  s!"7_closed_cycle_transition_stage:{key.1}:{key.2}"

/-- The stations in a key: what stands behind its first two colons. -/
def parseSegmentText (key : String) : Option (Int × Int) :=
  match splitAtChar ':' key with
  | _ :: lo :: hi :: rest => do
      let lo ← parseInt 64 lo
      let hi ← parseInt 64 (":".intercalate (hi :: rest))
      pure (lo, hi)
  | [] => none
  | [_] => none
  | [_, _] => none

/-- The transitions of each segment, in the order of the rows. -/
def groupSegments (rows : List (Int × Int × Int)) : List ((Int × Int) × List Int) :=
  rows.foldl (fun map row =>
    let key := segmentKey row.1 row.2.1
    assocSet map key ((map.lookup key).getD [] ++ [row.2.2])) []

/-- The stages that occur in the map. -/
def stageIdsOf (segments : List ((Int × Int) × List Int)) : List Int :=
  (segments.flatMap fun kv => kv.2).dedup

end SegmentMaps

/-- The answers to the three queries of a load; those about stages are asked with their ids. -/
structure SegmentAnswers where
  stages : QueryResult
  cycles : List Int → QueryResult
  tollAbs : List Int → QueryResult

namespace SegmentMaps

/-- The maps of the rows of the three queries. A stage without one of its stations is left out. -/
def ofRows (rows : List (Int × Int × Int)) (cycles : List (Int × Int))
    (tollAbs : List (Int × Option Int × Option Int)) : SegmentMaps where
  segments := groupSegments rows
  cycleByStage := assocSetAll [] cycles
  tollAbByStage := assocSetAll [] (tollAbs.filterMap fun (stageId, tollA, tollB) =>
    tollA.bind fun a => tollB.map fun b => (stageId, a, b))

/-- `load_cycle_by_stage` and `load_toll_ab_by_stage`: without any stage nothing is asked. -/
def loadForStages {Dto : Type} (query : TableQuery Dto) (result : List Int → QueryResult)
    (stageIds : List Int) : Except DbError (List Dto) :=
  if stageIds = [] then .ok [] else query.load (result stageIds)

/-- `load_closed_cycle_transition_stage_from_db`. -/
def loadSegments (answers : SegmentAnswers) : Except DbError SegmentMaps := do
  let rows ← transitionStages.load answers.stages
  let stageIds := stageIdsOf (groupSegments rows)
  let cycles ← loadForStages TollBackend.cycleByStage answers.cycles stageIds
  let tollAbs ← loadForStages TollBackend.tollAbByStage answers.tollAbs stageIds
  pure (ofRows rows cycles tollAbs)

/-- The map of the entries that KeyDB has. -/
def segmentsFromKeydb (loaded : List (String × List Int)) : List ((Int × Int) × List Int) :=
  assocSetAll [] (loaded.filterMap fun kv => (parseSegmentText kv.1).map fun key => (key, kv.2))

/-- The entries that a load puts into Moka and KeyDB. -/
def segmentEntries (maps : SegmentMaps) : List (String × List Int) :=
  maps.segments.map fun kv => (segmentText kv.1, kv.2)

end SegmentMaps

end TollBackend

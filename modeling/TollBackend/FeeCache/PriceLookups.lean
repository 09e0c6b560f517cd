import TollBackend.Concurrent.Machine
import TollBackend.FeeCache.Reload
import TollBackend.Sql.Literals

/-!
# Price lookups

Several nodes share the tables and KeyDB. A price is looked up in the memory of a node, under its
stations in both directions or under its stage. Only where memory has none, the database is asked
for the prices at this time, and its first row is kept. The query by stations asks for the prices
within an hour of it.

## Main definitions

* `PriceDto.EffectiveAt`, `PriceDto.WithinHourOf`: the conditions of the queries on the time.
* `PriceCache.getPrice`, `PriceCache.getPriceByStageId`: the lookups.
* `PriceNodes`, `PriceCall`, `priceMachine`: the nodes, and what happens at them.
* `PriceRequest.Timely`: the prices that a lookup may find are effective.
* `PriceRequest.Finds`: a lookup finds an effective price, if there is one.
-/

namespace TollBackend

open Concurrent Rows

/-! ### Prices at a time -/

namespace PriceDto

variable (toDate : String → Int)

/-- The price is effective at a time. What `TO_DATE` makes of a datetime is counted in seconds. -/
def EffectiveAt (p : PriceDto) (now : Int) : Prop :=
  (∃ d ∈ p.effectDatetime, toDate d ≤ now) ∧ ∀ d ∈ p.endDatetime, now ≤ toDate d

/-- The price is effective at some time not more than an hour away (`1/24` of a day). -/
def WithinHourOf (p : PriceDto) (now : Int) : Prop :=
  (∃ d ∈ p.effectDatetime, toDate d ≤ now + 3600) ∧ ∀ d ∈ p.endDatetime, now - 3600 ≤ toDate d

instance (p : PriceDto) (now : Int) : Decidable (p.EffectiveAt toDate now) := by
  unfold EffectiveAt
  infer_instance

instance (p : PriceDto) (now : Int) : Decidable (p.WithinHourOf toDate now) := by
  unfold WithinHourOf
  infer_instance

/-- `swap_toll_direction`. -/
def swapTollDirection (p : PriceDto) : PriceDto :=
  { p with tollA := p.tollB, tollB := p.tollA }

end PriceDto

/-- The active prices, joined to the stages. Each has a stage, and a vehicle type is no empty
text. -/
structure PriceTable where
  rows : List PriceDto
  joined : ∀ p ∈ rows, p.stageId ≠ none ∧ p.vehicleType ≠ some ""

namespace PriceTable

variable (t : PriceTable) (toDate : String → Int)

/-- What the vehicle type of a row is compared with: escaped twice, and then read once. -/
def writtenVehicleType (vehicleType : String) : String :=
  String.ofList (Sql.escape vehicleType.toList)

/-- The rows of the query of `get_active_price`. -/
def activeRows (now : Int) : List PriceDto :=
  t.rows.filter fun p => p.WithinHourOf toDate now

/-- The rows of the query of `get_price_from_db`. -/
def rowsByTolls (tollA tollB : Int) (vehicleType : String) (now : Int) : List PriceDto :=
  t.rows.filter fun p => p.tollA = some tollA ∧ p.tollB = some tollB ∧
    p.vehicleType = some (writtenVehicleType vehicleType) ∧ p.WithinHourOf toDate now

/-- The rows of the query of `get_price_by_stage_id_from_db`. -/
def rowsByStage (stageId : Int) (vehicleType : String) (now : Int) : List PriceDto :=
  t.rows.filter fun p => p.stageId = some stageId ∧
    p.vehicleType = some (writtenVehicleType vehicleType) ∧ p.EffectiveAt toDate now

end PriceTable

/-- The first row of a result, if there is one. -/
def firstPrice (fetching : String) (result : QueryResult) : Except DbError (Option PriceDto) := do
  match ← result with
  | none => pure none
  | some .done => pure none
  | some (.fails e) => .error (.executionError s!"[PriceCache] Error fetching {fetching}: {e}")
  | some (.row row _) =>
    let price ← priceRow row
    pure (some price)

/-- `get_price_from_db`. -/
def getPriceFromDb : QueryResult → Except DbError (Option PriceDto) :=
  firstPrice "row"

/-- `get_price_by_stage_id_from_db`. -/
def getPriceByStageIdFromDb : QueryResult → Except DbError (Option PriceDto) :=
  firstPrice "row by stage_id"

/-- A read of the first row answers with any one of the rows. -/
def GivesFirst (read : Except DbError (Option PriceDto)) (rows : List PriceDto) : Prop :=
  ∀ answer, read = .ok answer → (answer = none → rows = []) ∧ ∀ p ∈ answer, p ∈ rows

/-! ### Lookups -/

/-- A vehicle type in a key. -/
def vehicleTypeText (vehicleType : String) : String :=
  if vehicleType = "" then "None" else vehicleType

/-- The key under which a price between two stations is looked up. -/
def askedKey (tollA tollB : Int) (vehicleType : String) : String :=
  priceKey (toString tollA) (toString tollB) (vehicleTypeText vehicleType)

/-- What a lookup answers, and the price that it has read and keeps. -/
structure PriceLookup where
  answer : Option PriceDto
  kept : Option PriceDto := none

namespace PriceMemory

/-- `get_price`, with the results of the queries in both directions. -/
def getPrice (memory : PriceMemory) (tollA tollB : Int) (vehicleType : String)
    (there back : QueryResult) : PriceLookup :=
  match memory.prices.lookup (askedKey tollA tollB vehicleType) with
  | some price => { answer := some price }
  | none =>
    match memory.prices.lookup (askedKey tollB tollA vehicleType) with
    | some price => { answer := some price.swapTollDirection }
    | none =>
      match getPriceFromDb there with
      | .ok (some price) => { answer := some price, kept := some price }
      | .error _ => { answer := none }
      | .ok none =>
        match getPriceFromDb back with
        | .ok (some price) =>
            { answer := some price.swapTollDirection, kept := some price.swapTollDirection }
        | .ok none => { answer := none }
        | .error _ => { answer := none }

/-- `get_price_by_stage_id`. -/
def getPriceByStageId (memory : PriceMemory) (stageId : Int) (vehicleType : String)
    (result : QueryResult) : PriceLookup :=
  match memory.stagePrices.lookup (stageId, vehicleTypeText vehicleType) with
  | some price => { answer := some price }
  | none =>
    match getPriceByStageIdFromDb result with
    | .ok (some price) => { answer := some price, kept := some price }
    | .ok none => { answer := none }
    | .error _ => { answer := none }

end PriceMemory

/-- What is asked for, with the results of the queries if they are made. -/
inductive PriceRequest
  | tolls (tollA tollB : Int) (vehicleType : String) (there back : QueryResult)
  | stage (stageId : Int) (vehicleType : String) (result : QueryResult)

/-- A lookup. -/
def PriceRequest.lookUp (memory : PriceMemory) : PriceRequest → PriceLookup
  | .tolls tollA tollB vehicleType there back =>
      memory.getPrice tollA tollB vehicleType there back
  | .stage stageId vehicleType result => memory.getPriceByStageId stageId vehicleType result

/-! ### Nodes -/

/-- What a node has, and which prices its memory comes from: those of the last load, and those
that lookups have read since. -/
structure PriceNode where
  memory : PriceMemory := {}
  moka : List (String × PriceDto) := []
  loaded : List PriceDto := []
  filled : List PriceDto := []
  stageFilled : List PriceDto := []

/-- The nodes, and KeyDB. -/
structure PriceNodes (Node : Type) where
  nodes : Node → PriceNode := fun _ => {}
  keydb : List (String × Option PriceDto) := []

/-- What happens at a node: `get_price_cache` at startup or later, a lookup, or a restart of the
process. -/
inductive PriceEvent
  | reload (answers : Option QueryResult) (loadFromKeydb : Bool) (env : StoreAnswers)
  | lookUp (request : PriceRequest) (keydbSets : Bool)
  | restart

/-- What happens where and when, and the tables at this time. -/
structure PriceCall (Node : Type) where
  node : Node
  now : Int
  table : PriceTable
  event : PriceEvent

namespace PriceNode

/-- The stores and the memory of a node. -/
def view (n : PriceNode) (keydb : List (String × Option PriceDto)) : LoaderState priceLoader where
  store := { moka := n.moka, keydb }
  memory := n.memory

/-- The prices that a reload fills the memory with, if it does. -/
def loadedBy (n : PriceNode) (keydb : List (String × Option PriceDto))
    (answers : Option QueryResult) (loadFromKeydb : Bool) (env : StoreAnswers) :
    Option (List PriceDto) :=
  match priceLoader.readFrom answers with
  | .ok prices => some prices
  | .error _ =>
    if loadFromKeydb = false then none
    else
      let loaded := loadPrefixFromKeydb env (n.view keydb).store
      if loaded.isEmpty then none else some (loaded.map fun kv => kv.2)

/-- A reload. -/
def reload (n : PriceNode) (keydb : List (String × Option PriceDto))
    (answers : Option QueryResult) (loadFromKeydb : Bool) (env : StoreAnswers) :
    PriceNode × List (String × Option PriceDto) :=
  let after := priceLoader.reload answers loadFromKeydb env (n.view keydb)
  let sources := match n.loadedBy keydb answers loadFromKeydb env with
    | some prices => { n with loaded := prices, filled := [], stageFilled := [] }
    | none => n
  ({ sources with memory := after.memory, moka := after.store.moka }, after.store.keydb)

/-- A price that a lookup has read is put where the lookup looks first. -/
def keep (n : PriceNode) (keydb : List (String × Option PriceDto)) (keydbSets : Bool)
    (price : PriceDto) : PriceRequest → PriceNode × List (String × Option PriceDto)
  | .tolls tollA tollB vehicleType _ _ =>
      let key := askedKey tollA tollB vehicleType
      let store := (n.view keydb).store.set keydbSets key price
      let memory := { n.memory with prices := assocSet n.memory.prices key price }
      ({ n with memory, moka := store.moka, filled := price :: n.filled }, store.keydb)
  | .stage stageId vehicleType _ =>
      let key := (stageId, vehicleTypeText vehicleType)
      let memory := { n.memory with stagePrices := assocSet n.memory.stagePrices key price }
      ({ n with memory, stageFilled := price :: n.stageFilled }, keydb)

/-- What an event leaves. -/
def exec (n : PriceNode) (keydb : List (String × Option PriceDto)) :
    PriceEvent → PriceNode × List (String × Option PriceDto)
  | .reload answers loadFromKeydb env => n.reload keydb answers loadFromKeydb env
  | .restart => ({}, keydb)
  | .lookUp request keydbSets =>
    match (request.lookUp n.memory).kept with
    | some price => n.keep keydb keydbSets price request
    | none => (n, keydb)

end PriceNode

/-- What a call leaves. -/
def PriceNodes.exec {Node : Type} [DecidableEq Node] (s : PriceNodes Node)
    (call : PriceCall Node) : PriceNodes Node :=
  let after := (s.nodes call.node).exec s.keydb call.event
  { nodes := Function.update s.nodes call.node after.1, keydb := after.2 }

/-- The histories of the nodes. -/
def priceMachine (Node : Type) [DecidableEq Node] : Machine (PriceCall Node) (PriceNodes Node) where
  step call s := some (s.exec call)

/-! ### What a history may be -/

section Histories

variable (toDate : String → Int)

/-- The database has the table. -/
def PriceEvent.Gives (t : PriceTable) (now : Int) : PriceEvent → Prop
  | .reload answers _ _ => ∀ result, answers = some result →
      activePrice.Gives result (t.activeRows toDate now)
  | .lookUp (.tolls tollA tollB vehicleType there back) _ =>
      GivesFirst (getPriceFromDb there) (t.rowsByTolls toDate tollA tollB vehicleType now) ∧
        GivesFirst (getPriceFromDb back) (t.rowsByTolls toDate tollB tollA vehicleType now)
  | .lookUp (.stage stageId vehicleType result) _ =>
      GivesFirst (getPriceByStageIdFromDb result) (t.rowsByStage toDate stageId vehicleType now)
  | .restart => True

/-- The vehicle type that is asked for. -/
def PriceRequest.vehicleType : PriceRequest → String
  | .tolls _ _ vehicleType _ _ => vehicleType
  | .stage _ vehicleType _ => vehicleType

/-- The database has the table, in which no vehicle type has the text that stands for a missing
one, and no vehicle type with a quote is asked for. -/
structure PriceCall.Admitted {Node : Type} (call : PriceCall Node) : Prop where
  gives : call.event.Gives toDate call.table call.now
  named : ∀ p ∈ call.table.rows, p.vehicleType ≠ some "None"
  unquoted : ∀ request keydbSets, call.event = .lookUp request keydbSets →
    Sql.quote ∉ request.vehicleType.toList

/-! ### Lookups in time -/

/-- Of the prices of the last load with its key, it has the last effect date. -/
def PriceNode.Newest (n : PriceNode) (p : PriceDto) : Prop :=
  p ∈ n.loaded ∧ ∀ q ∈ n.loaded, q.key = p.key → q.sortKey ≤ p.sortKey

/-- The prices that memory may have under a key are effective. -/
structure PriceNode.KeyTimely (n : PriceNode) (key : String) (now : Int) : Prop where
  loaded : ∀ p, n.Newest p → p.key = key → p.EffectiveAt toDate now
  filled : ∀ p ∈ n.filled, p.key = key → p.EffectiveAt toDate now

/-- The prices that memory may have for a stage are effective. -/
structure PriceNode.StageTimely (n : PriceNode) (key : Int × String) (now : Int) : Prop where
  loaded : ∀ p, n.Newest p → p.stageKey = key → p.EffectiveAt toDate now
  filled : ∀ p ∈ n.stageFilled, p.stageKey = key → p.EffectiveAt toDate now

/-- What memory may have is effective; and where it has nothing, a vehicle type is given, and the
database answers, with effective prices only. -/
def PriceRequest.Timely (n : PriceNode) (t : PriceTable) (now : Int) : PriceRequest → Prop
  | .tolls tollA tollB vehicleType there back =>
      let has := fun key => (n.memory.prices.lookup key).isSome
      let key := askedKey tollA tollB vehicleType
      let reverse := askedKey tollB tollA vehicleType
      if has key then n.KeyTimely toDate key now
      else if has reverse then n.KeyTimely toDate reverse now
      else vehicleType ≠ "" ∧ ¬ Fails (getPriceFromDb there) ∧
        (∀ p ∈ t.rowsByTolls toDate tollA tollB vehicleType now, p.EffectiveAt toDate now) ∧
        (t.rowsByTolls toDate tollA tollB vehicleType now = [] → ¬ Fails (getPriceFromDb back) ∧
          ∀ p ∈ t.rowsByTolls toDate tollB tollA vehicleType now, p.EffectiveAt toDate now)
  | .stage stageId vehicleType result =>
      let key := (stageId, vehicleTypeText vehicleType)
      if (n.memory.stagePrices.lookup key).isSome then n.StageTimely toDate key now
      else vehicleType ≠ "" ∧ ¬ Fails (getPriceByStageIdFromDb result)

/-- The price is one of the vehicle type; a missing one is asked for with an empty text. -/
def PriceDto.OfVehicleType (p : PriceDto) (vehicleType : String) : Prop :=
  p.vehicleType = if vehicleType = "" then none else some vehicleType

/-- The price is one between the stations, in one of the directions, or one of the stage. -/
def PriceRequest.Asks (p : PriceDto) : PriceRequest → Prop
  | .tolls tollA tollB vehicleType _ _ => p.OfVehicleType vehicleType ∧
      ((p.tollA = some tollA ∧ p.tollB = some tollB) ∨
        (p.tollA = some tollB ∧ p.tollB = some tollA))
  | .stage stageId vehicleType _ => p.OfVehicleType vehicleType ∧ p.stageId = some stageId

/-- If the table has an effective price of what is asked for, the answer is an effective price of
it. -/
def PriceRequest.Finds (t : PriceTable) (now : Int) (request : PriceRequest)
    (answer : Option PriceDto) : Prop :=
  (∃ p ∈ t.rows, request.Asks p ∧ p.EffectiveAt toDate now) →
    ∃ p ∈ answer, request.Asks p ∧ p.EffectiveAt toDate now

end Histories

end TollBackend

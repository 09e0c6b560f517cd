import TollBackend.AssocList
import TollBackend.FeeCache.Loaders

/-!
# The prices in memory

`get_active_price` reads the active prices of all stages. They are kept under the two stations and
the vehicle type, and a second map, made from the first, has them under the stage. Of several rows
with one key the row with the latest effect date is kept.

## Main definitions

* `PriceMemory`: the two maps.
* `priceEntries`: the rows with their keys, in the order in which they are set.
* `replaceAllPrices`: the maps of some entries.
-/

namespace TollBackend

/-- `PRICE_MEMORY` and `STAGE_PRICE_MEMORY`. -/
structure PriceMemory where
  prices : List (String × PriceDto) := []
  stagePrices : List ((Int × String) × PriceDto) := []

/-- The key of a price in all stores. -/
def priceKey (tollA tollB vehicleType : String) : String :=
  s!"3_price:{tollA}:{tollB}:{vehicleType}"

/-- An id in a key. -/
def idText (id : Option Int) : String :=
  (id.map toString).getD "None"

/-- The key under which a loaded price is kept. -/
def PriceDto.key (p : PriceDto) : String :=
  priceKey (idText p.tollA) (idText p.tollB) (p.vehicleType.getD "None")

/-- The key of the index by stage. -/
def PriceDto.stageKey (p : PriceDto) : Int × String :=
  (p.stageId.getD 0, p.vehicleType.getD "None")

/-- What the rows are sorted by: stations, vehicle type and effect date. -/
def PriceDto.sortKey (p : PriceDto) : Int ×ₗ Int ×ₗ String ×ₗ String :=
  toLex (p.tollA.getD 0, toLex (p.tollB.getD 0, toLex (p.vehicleType.getD "",
    p.effectDatetime.getD "")))

/-- The entries of a reload. Of several with one key, the last one counts. -/
def priceEntries (prices : List PriceDto) : List (String × PriceDto) :=
  (prices.insertionSort fun a b => a.sortKey ≤ b.sortKey).map fun p => (p.key, p)

/-- `replace_all_prices`. The index is filled in the order in which the map is visited. -/
def replaceAllPrices (rank : String → Nat) (data : List (String × PriceDto)) : PriceMemory :=
  let map := assocSetAll [] data
  { prices := map
    stagePrices := assocSetAll [] ((map.insertionSort fun a b => rank a.1 ≤ rank b.1).map
      fun kv => (kv.2.stageKey, kv.2)) }

end TollBackend

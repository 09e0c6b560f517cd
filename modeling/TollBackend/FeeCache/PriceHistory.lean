import TollBackend.FeeCache.PriceLookups
import TollBackend.FeeCache.SegmentKeys

/-!
# Which prices the lookups find

Under a key of its own, memory has the newest price of the last load, or one that a lookup has
read since; and a price of a stage is one of these. So a lookup finds an effective price, unless
the newest one is not yet or no longer effective.

## Main definitions

* `PriceNode.Sound`, `KeydbPrices`: where the prices in memory and in KeyDB come from.

## Main results

* `PriceNode.Sound.reload`, `PriceNode.Sound.keep`: what the events at a node leave.
* `PriceRequest.finds_of_reaches`: a lookup in time finds an effective price, after every history.
* `PriceRequest.future_price_found`: a price of the next hour hides the one of today.
-/

namespace TollBackend

open Concurrent Rows

/-! ### Keys -/

/-- Two texts of which the fronts have no colon agree in front of the colon and behind it. -/
theorem append_colon_inj {x x' z z' : List Char} (first : ':' ∉ x) (second : ':' ∉ x')
    (same : x ++ ':' :: z = x' ++ ':' :: z') : x = x' ∧ z = z' := by
  induction x generalizing x' with
  | nil =>
    cases x' with
    | nil => exact ⟨rfl, (List.cons.inj same).2⟩
    | cons c x' =>
      have colon := (List.cons.inj same).1
      exact absurd (colon ▸ List.mem_cons_self) second
  | cons c x ih =>
    cases x' with
    | nil =>
      have colon := (List.cons.inj same).1
      exact absurd (colon ▸ List.mem_cons_self) first
    | cons c' x' =>
      obtain ⟨rfl, rest⟩ := List.cons.inj same
      obtain ⟨rfl, behind⟩ := ih (fun mem => first (List.mem_cons_of_mem _ mem))
        (fun mem => second (List.mem_cons_of_mem _ mem)) rest
      exact ⟨rfl, behind⟩

/-- The parts of a key are read off from it. -/
theorem priceKey_inj {a b v a' b' v' : String} (ha : ':' ∉ a.toList) (hb : ':' ∉ b.toList)
    (ha' : ':' ∉ a'.toList) (hb' : ':' ∉ b'.toList)
    (same : priceKey a b v = priceKey a' b' v') : a = a' ∧ b = b' ∧ v = v' := by
  have text : ∀ a b v : String, (priceKey a b v).toList =
      "3_price:".toList ++ (a.toList ++ ':' :: (b.toList ++ ':' :: v.toList)) := by
    intro a b v
    change ("3_price:" ++ a ++ ":" ++ b ++ ":" ++ v).toList = _
    have colon : ":".toList = [':'] := by decide +kernel
    simp only [String.toList_append, colon, List.append_assoc, List.cons_append, List.nil_append]
  have lists := congrArg String.toList same
  rw [text, text] at lists
  obtain ⟨first, rest⟩ := append_colon_inj ha ha' (List.append_cancel_left lists)
  obtain ⟨second, third⟩ := append_colon_inj hb hb' rest
  exact ⟨String.toList_inj.mp first, String.toList_inj.mp second, String.toList_inj.mp third⟩

theorem colon_not_mem_idText (id : Option Int) : ':' ∉ (idText id).toList := by
  cases id with
  | none => decide
  | some n => exact colon_not_mem_int n

theorem idText_eq_iff (id : Option Int) (n : Int) : idText id = toString n ↔ id = some n := by
  constructor
  · intro same
    cases id with
    | none =>
      have letter : 'N' ∉ (toString n).toList := not_mem_toString_int (by decide) (by decide) n
      rw [← same] at letter
      exact absurd (by decide) letter
    | some m => exact congrArg some (Int.repr_injective same)
  · rintro rfl
    rfl

namespace PriceDto

/-- The price has a stage, and its vehicle type is told from a missing one by its text. -/
structure Plain (p : PriceDto) : Prop where
  stage : p.stageId ≠ none
  nonempty : p.vehicleType ≠ some ""
  named : p.vehicleType ≠ some "None"

variable {p : PriceDto} {vehicleType : String}

/-- The key says what the price is a price of. -/
theorem key_eq_askedKey_iff (tollA tollB : Int) : p.key = askedKey tollA tollB vehicleType ↔
    p.tollA = some tollA ∧ p.tollB = some tollB ∧
      p.vehicleType.getD "None" = vehicleTypeText vehicleType := by
  constructor
  · intro same
    obtain ⟨first, second, third⟩ := priceKey_inj (colon_not_mem_idText _) (colon_not_mem_idText _)
      (colon_not_mem_int _) (colon_not_mem_int _) same
    exact ⟨(idText_eq_iff _ _).mp first, (idText_eq_iff _ _).mp second, third⟩
  · rintro ⟨first, second, third⟩
    rw [key, first, second, third]
    rfl

/-- A vehicle type is told by its text, but for the text that stands for a missing one. -/
theorem Plain.ofVehicleType (plain : p.Plain) (some_name : vehicleType ≠ "None")
    (same : p.vehicleType.getD "None" = vehicleTypeText vehicleType) :
    p.OfVehicleType vehicleType := by
  unfold vehicleTypeText at same
  unfold OfVehicleType
  cases given : p.vehicleType with
  | none =>
    rw [given] at same
    split at same
    · next empty => rw [if_pos empty]
    · exact absurd same.symm some_name
  | some v =>
    rw [given] at same
    split at same
    · exact absurd (given.trans (congrArg some same)) plain.named
    · next nonempty => rw [if_neg nonempty, ← same, Option.getD_some]

end PriceDto

/-! ### The maps of a load -/

/-- Under a key the last value is found, which in a sorted list is the largest one. -/
theorem lookup_reverse_of_sorted {l : List PriceDto} {key : String} {p : PriceDto}
    (sorted : l.Pairwise fun a b => a.sortKey ≤ b.sortKey)
    (found : (l.map fun q => (q.key, q)).reverse.lookup key = some p) :
    p ∈ l ∧ p.key = key ∧ ∀ q ∈ l, q.key = key → q.sortKey ≤ p.sortKey := by
  induction l using List.reverseRecOn with
  | nil => cases found
  | append_singleton l last ih =>
    obtain ⟨front, -, before⟩ := List.pairwise_append.mp sorted
    rw [List.map_append, List.map_singleton, List.reverse_append, List.reverse_singleton,
      List.singleton_append, List.lookup_cons] at found
    by_cases own : key = last.key
    · rw [own, beq_self_eq_true] at found
      obtain rfl := Option.some.inj found
      refine ⟨List.mem_append_right _ List.mem_cons_self, own.symm, fun q mem _ => ?_⟩
      rcases List.mem_append.mp mem with earlier | itself
      · exact before q earlier last List.mem_cons_self
      · rw [List.mem_singleton.mp itself]
    · rw [beq_false_of_ne own] at found
      obtain ⟨mem, keyed, largest⟩ := ih front found
      refine ⟨List.mem_append_left _ mem, keyed, fun q mem' same => ?_⟩
      rcases List.mem_append.mp mem' with earlier | itself
      · exact largest q earlier same
      · rw [List.mem_singleton.mp itself] at same
        exact absurd same.symm own

/-- Of the loaded prices with one key, the newest one is found. -/
theorem lookup_priceEntries {prices : List PriceDto} {key : String} {p : PriceDto}
    (found : (priceEntries prices).reverse.lookup key = some p) :
    p ∈ prices ∧ p.key = key ∧ ∀ q ∈ prices, q.key = key → q.sortKey ≤ p.sortKey := by
  have sorted : (prices.insertionSort fun a b => a.sortKey ≤ b.sortKey).Pairwise
      fun a b => a.sortKey ≤ b.sortKey :=
    List.pairwise_insertionSort (fun a b : PriceDto => a.sortKey ≤ b.sortKey) prices
  obtain ⟨mem, keyed, largest⟩ := lookup_reverse_of_sorted sorted found
  refine ⟨(List.mem_insertionSort _).mp mem, keyed, fun q mem' => ?_⟩
  exact largest q ((List.mem_insertionSort _).mpr mem')

variable {rank : String → Nat} {data : List (String × PriceDto)}

theorem lookup_replaceAllPrices (rank : String → Nat) (key : String) :
    (replaceAllPrices rank data).prices.lookup key = data.reverse.lookup key := by
  change (assocSetAll [] data).lookup key = _
  rw [lookup_assocSetAll, List.lookup_nil, Option.or_none]

/-- A price of the index is one of the other map. -/
theorem lookup_stagePrices {key : Int × String} {p : PriceDto}
    (found : (replaceAllPrices rank data).stagePrices.lookup key = some p) :
    p.stageKey = key ∧ ∃ k, data.reverse.lookup k = some p := by
  have mem := mem_of_lookup found
  rcases mem_of_mem_assocSetAll mem with indexed | none
  · obtain ⟨⟨k, q⟩, visited, same⟩ := List.mem_map.mp indexed
    obtain ⟨staged, rfl⟩ : q.stageKey = key ∧ q = p := Prod.mk.inj same
    have entry := (List.mem_insertionSort _).mp visited
    have nodup := nodup_keys_assocSetAll (l := []) List.nodup_nil data
    refine ⟨staged, k, ?_⟩
    rw [← lookup_replaceAllPrices rank]
    exact (lookup_eq_some_iff_mem nodup k q).mpr entry
  · cases none

/-! ### Where the prices come from -/

/-- Every price in KeyDB is under its own key. -/
structure KeydbPrices (keydb : List (String × Option PriceDto)) : Prop where
  nodup : (keydb.map fun kv => kv.1).Nodup
  own : ∀ key p, (key, some p) ∈ keydb → p.key = key ∧ p.Plain

/-- Every price in memory is under its own key, and it is the newest of the last load, or it was
read since. -/
structure PriceNode.Sound (n : PriceNode) : Prop where
  prices : ∀ key p, n.memory.prices.lookup key = some p →
    p.key = key ∧ p.Plain ∧ (n.Newest p ∨ p ∈ n.filled)
  stages : ∀ key p, n.memory.stagePrices.lookup key = some p →
    p.stageKey = key ∧ p.Plain ∧ (n.Newest p ∨ p ∈ n.stageFilled)

theorem PriceNode.sound_empty : PriceNode.Sound {} where
  prices _ _ found := by cases found
  stages _ _ found := by cases found

/-- What makes the entries of a load those of its newest prices. -/
structure LoadsNewest (data : List (String × PriceDto)) (loaded : List PriceDto) : Prop where
  plain : ∀ p ∈ loaded, p.Plain
  newest : ∀ key p, data.reverse.lookup key = some p →
    p ∈ loaded ∧ p.key = key ∧ ∀ q ∈ loaded, q.key = key → q.sortKey ≤ p.sortKey

theorem LoadsNewest.sound {loaded : List PriceDto} (loads : LoadsNewest data loaded)
    (moka : List (String × PriceDto)) : PriceNode.Sound
      { memory := replaceAllPrices rank data, moka, loaded } where
  prices key p found := by
    rw [lookup_replaceAllPrices] at found
    obtain ⟨mem, keyed, largest⟩ := loads.newest key p found
    rw [← keyed] at largest
    exact ⟨keyed, loads.plain p mem, .inl ⟨mem, largest⟩⟩
  stages key p found := by
    obtain ⟨staged, k, entry⟩ := lookup_stagePrices found
    obtain ⟨mem, keyed, largest⟩ := loads.newest k p entry
    rw [← keyed] at largest
    exact ⟨staged, loads.plain p mem, .inl ⟨mem, largest⟩⟩

theorem loadsNewest_priceEntries {prices : List PriceDto} (plain : ∀ p ∈ prices, p.Plain) :
    LoadsNewest (priceEntries prices) prices where
  plain := plain
  newest _ _ found := lookup_priceEntries found

/-- A fallback finds one price under each key. -/
theorem KeydbPrices.loadsNewest {keydb : List (String × Option PriceDto)}
    (stored : KeydbPrices keydb) (moka : List (String × PriceDto)) (env : StoreAnswers) :
    LoadsNewest (loadPrefixFromKeydb env ⟨moka, keydb⟩)
      ((loadPrefixFromKeydb env ⟨moka, keydb⟩).map fun kv => kv.2) where
  plain p mem := by
    obtain ⟨⟨key, q⟩, loaded, rfl⟩ := List.mem_map.mp mem
    exact (stored.own key q (mem_keydb_of_mem_load loaded)).2
  newest key p found := by
    have loaded := List.mem_reverse.mp (mem_of_lookup found)
    have entry := mem_keydb_of_mem_load loaded
    refine ⟨List.mem_map.mpr ⟨_, loaded, rfl⟩, (stored.own key p entry).1, fun q mem same => ?_⟩
    obtain ⟨⟨key', q'⟩, loaded', rfl⟩ := List.mem_map.mp mem
    have entry' := mem_keydb_of_mem_load loaded'
    -- both are under the same key, and KeyDB has one value for it
    rw [show key' = key from (stored.own key' q' entry').1.symm.trans same] at entry'
    have first := (lookup_eq_some_iff_mem stored.nodup key (some p)).mpr entry
    have second := (lookup_eq_some_iff_mem stored.nodup key (some q')).mpr entry'
    rw [first] at second
    cases second
    exact le_refl _

/-! ### What the events leave -/

section Events

variable {keydb : List (String × Option PriceDto)} {n : PriceNode}

/-- A reload writes prices under their own keys. -/
theorem KeydbPrices.atomicReload (stored : KeydbPrices keydb)
    (new : ∀ kv ∈ data, kv.2.key = kv.1 ∧ kv.2.Plain) (moka : List (String × PriceDto))
    (env : StoreAnswers) : KeydbPrices (atomicReloadPrefix env data ⟨moka, keydb⟩).keydb where
  nodup := nodup_keydb_atomicReload stored.nodup
  own key p mem := by
    rcases mem_keydb_atomicReload mem with before | ⟨kv, listed, same⟩
    · exact stored.own key p before
    · obtain ⟨rfl, value⟩ := Prod.mk.inj same
      obtain rfl := Option.some.inj value
      exact new kv listed

theorem KeydbPrices.set (stored : KeydbPrices keydb) {key : String} {p : PriceDto}
    (keyed : p.key = key) (plain : p.Plain) (moka : List (String × PriceDto)) (keydbSets : Bool) :
    KeydbPrices ((⟨moka, keydb⟩ : PrefixStore PriceDto).set keydbSets key p).keydb where
  nodup := nodup_keydb_set stored.nodup
  own key' q mem := by
    rcases mem_keydb_set mem with new | before
    · obtain ⟨rfl, value⟩ := Prod.mk.inj new
      obtain rfl := Option.some.inj value
      exact ⟨keyed, plain⟩
    · exact stored.own key' q before

theorem PriceNode.reload_of_ok (n : PriceNode) (keydb : List (String × Option PriceDto))
    {answers : Option QueryResult} {prices : List PriceDto}
    (read : priceLoader.readFrom answers = .ok prices) (loadFromKeydb : Bool)
    (env : StoreAnswers) : n.reload keydb answers loadFromKeydb env =
      let store := atomicReloadPrefix env (priceEntries prices) ⟨n.moka, keydb⟩
      ({ memory := replaceAllPrices env.rank (priceEntries prices)
         moka := store.moka
         loaded := prices }, store.keydb) := by
  unfold PriceNode.reload PriceNode.loadedBy
  rw [CacheLoader.reload_of_ok read, read]
  rfl

/-- A reload leaves the newest prices of what it has read, or else everything as it is. -/
theorem PriceNode.Sound.reload (sound : n.Sound) (stored : KeydbPrices keydb)
    {answers : Option QueryResult} {loadFromKeydb : Bool} {env : StoreAnswers}
    (plain : ∀ prices : List PriceDto, priceLoader.readFrom answers = .ok prices →
      ∀ p ∈ prices, p.Plain) :
    (n.reload keydb answers loadFromKeydb env).1.Sound ∧
      KeydbPrices (n.reload keydb answers loadFromKeydb env).2 := by
  cases outcome : priceLoader.readFrom answers with
  | ok prices =>
    rw [PriceNode.reload_of_ok n keydb outcome]
    have loads := loadsNewest_priceEntries (plain prices outcome)
    refine ⟨loads.sound _, stored.atomicReload (fun kv listed => ?_) _ _⟩
    obtain ⟨p, sorted, rfl⟩ := List.mem_map.mp listed
    exact ⟨rfl, loads.plain p ((List.mem_insertionSort _).mp sorted)⟩
  | error e =>
    unfold PriceNode.reload PriceNode.loadedBy
    rw [CacheLoader.reload_of_error outcome, outcome]
    cases loadFromKeydb with
    | false => exact ⟨sound, stored⟩
    | true =>
      by_cases empty : (loadPrefixFromKeydb env (n.view keydb).store).isEmpty
      · simp only [empty, if_true, Bool.true_eq_false, if_false]
        exact ⟨sound, stored⟩
      · simp only [empty, Bool.true_eq_false, Bool.false_eq_true, if_false]
        have loads := stored.loadsNewest n.moka env
        refine ⟨loads.sound _, stored.atomicReload (fun kv listed => ?_) _ _⟩
        exact stored.own kv.1 kv.2 (mem_keydb_of_mem_load listed)

/-- What a lookup has read is kept under its own key. -/
theorem PriceNode.Sound.keep_tolls (sound : n.Sound) (stored : KeydbPrices keydb)
    {tollA tollB : Int} {vehicleType : String} {p : PriceDto}
    (keyed : p.key = askedKey tollA tollB vehicleType) (plain : p.Plain) (there back : QueryResult)
    (keydbSets : Bool) :
    (n.keep keydb keydbSets p (.tolls tollA tollB vehicleType there back)).1.Sound ∧
      KeydbPrices (n.keep keydb keydbSets p (.tolls tollA tollB vehicleType there back)).2 := by
  refine ⟨⟨fun key q found => ?_, sound.stages⟩, stored.set keyed plain _ _⟩
  have found : (assocSet n.memory.prices (askedKey tollA tollB vehicleType) p).lookup key =
      some q := found
  rw [lookup_assocSet] at found
  split at found
  · next own =>
    obtain rfl := Option.some.inj found
    exact ⟨keyed.trans own.symm, plain, .inr List.mem_cons_self⟩
  · obtain ⟨same, plain', source⟩ := sound.prices key q found
    exact ⟨same, plain', source.imp id (List.mem_cons_of_mem _)⟩

theorem PriceNode.Sound.keep_stage (sound : n.Sound) (stored : KeydbPrices keydb)
    {stageId : Int} {vehicleType : String} {p : PriceDto}
    (keyed : p.stageKey = (stageId, vehicleTypeText vehicleType)) (plain : p.Plain)
    (result : QueryResult) (keydbSets : Bool) :
    (n.keep keydb keydbSets p (.stage stageId vehicleType result)).1.Sound ∧
      KeydbPrices (n.keep keydb keydbSets p (.stage stageId vehicleType result)).2 := by
  refine ⟨⟨sound.prices, fun key q found => ?_⟩, stored⟩
  have found : (assocSet n.memory.stagePrices (stageId, vehicleTypeText vehicleType) p).lookup
      key = some q := found
  rw [lookup_assocSet] at found
  split at found
  · next own =>
    obtain rfl := Option.some.inj found
    exact ⟨keyed.trans own.symm, plain, .inr List.mem_cons_self⟩
  · obtain ⟨same, plain', source⟩ := sound.stages key q found
    exact ⟨same, plain', source.imp id (List.mem_cons_of_mem _)⟩

end Events

/-! ### Histories -/

section Tables

variable {t : PriceTable} {toDate : String → Int} {now : Int} {vehicleType : String}

theorem PriceTable.plain (named : ∀ p ∈ t.rows, p.vehicleType ≠ some "None") {p : PriceDto}
    (mem : p ∈ t.rows) : p.Plain where
  stage := (t.joined p mem).1
  nonempty := (t.joined p mem).2
  named := named p mem

theorem PriceDto.Plain.swap {p : PriceDto} (plain : p.Plain) : p.swapTollDirection.Plain :=
  ⟨plain.stage, plain.nonempty, plain.named⟩

/-- A vehicle type without a quote is compared as it is. -/
theorem writtenVehicleType_eq (unquoted : Sql.quote ∉ vehicleType.toList) :
    PriceTable.writtenVehicleType vehicleType = vehicleType := by
  rw [PriceTable.writtenVehicleType, Sql.escape_eq_self_iff.mpr unquoted, String.ofList_toList]

theorem vehicleTypeText_of_plain {p : PriceDto} (plain : p.Plain)
    (given : p.vehicleType = some vehicleType) :
    p.vehicleType.getD "None" = vehicleTypeText vehicleType := by
  have nonempty : vehicleType ≠ "" := fun empty => plain.nonempty (empty ▸ given)
  rw [given, vehicleTypeText, if_neg nonempty, Option.getD_some]

/-- The rows of the query by stations have their key. -/
theorem PriceTable.of_mem_rowsByTolls (named : ∀ p ∈ t.rows, p.vehicleType ≠ some "None")
    (unquoted : Sql.quote ∉ vehicleType.toList) {tollA tollB : Int} {p : PriceDto}
    (mem : p ∈ t.rowsByTolls toDate tollA tollB vehicleType now) :
    p.Plain ∧ p.tollA = some tollA ∧ p.tollB = some tollB ∧ p.vehicleType = some vehicleType := by
  obtain ⟨row, asked⟩ := List.mem_filter.mp mem
  obtain ⟨first, second, type, -⟩ := of_decide_eq_true asked
  rw [writtenVehicleType_eq unquoted] at type
  exact ⟨t.plain named row, first, second, type⟩

theorem PriceTable.of_mem_rowsByStage (named : ∀ p ∈ t.rows, p.vehicleType ≠ some "None")
    (unquoted : Sql.quote ∉ vehicleType.toList) {stageId : Int} {p : PriceDto}
    (mem : p ∈ t.rowsByStage toDate stageId vehicleType now) :
    p.Plain ∧ p.stageId = some stageId ∧ p.vehicleType = some vehicleType ∧
      p.EffectiveAt toDate now := by
  obtain ⟨row, asked⟩ := List.mem_filter.mp mem
  obtain ⟨stage, type, effective⟩ := of_decide_eq_true asked
  rw [writtenVehicleType_eq unquoted] at type
  exact ⟨t.plain named row, stage, type, effective⟩

/-- What a lookup by stations keeps has the key that is looked up. -/
theorem PriceMemory.kept_getPrice {memory : PriceMemory} {tollA tollB : Int}
    {there back : QueryResult} {p : PriceDto}
    (named : ∀ p ∈ t.rows, p.vehicleType ≠ some "None")
    (unquoted : Sql.quote ∉ vehicleType.toList)
    (gives_there : GivesFirst (getPriceFromDb there)
      (t.rowsByTolls toDate tollA tollB vehicleType now))
    (gives_back : GivesFirst (getPriceFromDb back)
      (t.rowsByTolls toDate tollB tollA vehicleType now))
    (kept : (memory.getPrice tollA tollB vehicleType there back).kept = some p) :
    p.key = askedKey tollA tollB vehicleType ∧ p.Plain := by
  unfold PriceMemory.getPrice at kept
  split at kept
  · cases kept
  split at kept
  · cases kept
  split at kept
  · next price read =>
    obtain rfl := Option.some.inj kept
    obtain ⟨plain, first, second, type⟩ :=
      PriceTable.of_mem_rowsByTolls named unquoted ((gives_there _ read).2 price rfl)
    exact ⟨(PriceDto.key_eq_askedKey_iff _ _).mpr
      ⟨first, second, vehicleTypeText_of_plain plain type⟩, plain⟩
  · cases kept
  · split at kept
    · next price read =>
      obtain rfl := Option.some.inj kept
      obtain ⟨plain, first, second, type⟩ :=
        PriceTable.of_mem_rowsByTolls named unquoted ((gives_back _ read).2 price rfl)
      exact ⟨(PriceDto.key_eq_askedKey_iff _ _).mpr
        ⟨second, first, vehicleTypeText_of_plain plain.swap type⟩, plain.swap⟩
    · cases kept
    · cases kept

/-- What a lookup by stage keeps is a price of the stage. -/
theorem PriceMemory.kept_getPriceByStageId {memory : PriceMemory} {stageId : Int}
    {result : QueryResult} {p : PriceDto}
    (named : ∀ p ∈ t.rows, p.vehicleType ≠ some "None")
    (unquoted : Sql.quote ∉ vehicleType.toList)
    (gives : GivesFirst (getPriceByStageIdFromDb result)
      (t.rowsByStage toDate stageId vehicleType now))
    (kept : (memory.getPriceByStageId stageId vehicleType result).kept = some p) :
    p.stageKey = (stageId, vehicleTypeText vehicleType) ∧ p.Plain := by
  unfold PriceMemory.getPriceByStageId at kept
  split at kept
  · cases kept
  split at kept
  · next price read =>
    obtain rfl := Option.some.inj kept
    obtain ⟨plain, stage, type, -⟩ :=
      PriceTable.of_mem_rowsByStage named unquoted ((gives _ read).2 price rfl)
    rw [PriceDto.stageKey, stage, vehicleTypeText_of_plain plain type]
    exact ⟨rfl, plain⟩
  · cases kept
  · cases kept

end Tables

/-- All prices in memory and in KeyDB are where they belong. -/
structure PriceNodes.Sound {Node : Type} (s : PriceNodes Node) : Prop where
  nodes : ∀ node, (s.nodes node).Sound
  keydb : KeydbPrices s.keydb

section Runs

variable {Node : Type} [DecidableEq Node] {toDate : String → Int} {s : PriceNodes Node}

omit [DecidableEq Node] in
/-- What one event leaves at its node and in KeyDB. -/
theorem PriceNode.Sound.exec {n : PriceNode} (sound : n.Sound)
    {keydb : List (String × Option PriceDto)} (stored : KeydbPrices keydb)
    {call : PriceCall Node} (admitted : call.Admitted toDate) :
    (n.exec keydb call.event).1.Sound ∧ KeydbPrices (n.exec keydb call.event).2 := by
  obtain ⟨gives, named, unquoted⟩ := admitted
  obtain ⟨node, now, t, event⟩ := call
  cases event with
  | reload answers loadFromKeydb env =>
    refine sound.reload stored fun prices read p mem => ?_
    cases answers with
    | none => cases read
    | some result =>
      have row := (gives result rfl prices read).mem_iff.mp mem
      exact t.plain named (List.mem_of_mem_filter row)
  | restart => exact ⟨PriceNode.sound_empty, stored⟩
  | lookUp request keydbSets =>
    have unquoted := unquoted request keydbSets rfl
    unfold PriceNode.exec
    dsimp only
    split
    · next price kept =>
      cases request with
      | tolls tollA tollB vehicleType there back =>
        obtain ⟨keyed, plain⟩ :=
          PriceMemory.kept_getPrice named unquoted gives.1 gives.2 kept
        exact sound.keep_tolls stored keyed plain there back keydbSets
      | stage stageId vehicleType result =>
        obtain ⟨keyed, plain⟩ := PriceMemory.kept_getPriceByStageId named unquoted gives kept
        exact sound.keep_stage stored keyed plain result keydbSets
    · exact ⟨sound, stored⟩

theorem PriceNodes.Sound.exec (sound : s.Sound) {call : PriceCall Node}
    (admitted : call.Admitted toDate) : (s.exec call).Sound := by
  obtain ⟨own, stored⟩ := (sound.nodes call.node).exec sound.keydb admitted
  refine ⟨fun node => ?_, stored⟩
  by_cases same : node = call.node
  · subst same
    have here : (s.exec call).nodes call.node = ((s.nodes call.node).exec s.keydb call.event).1 :=
      Function.update_self _ _ _
    rw [here]
    exact own
  · have there : (s.exec call).nodes node = s.nodes node := Function.update_of_ne same _ _
    rw [there]
    exact sound.nodes node

theorem PriceNodes.sound_of_reaches
    (reached : (priceMachine Node).Reaches (fun call _ => call.Admitted toDate) {} s) :
    s.Sound := by
  apply reached.invariant
  · exact ⟨fun _ => PriceNode.sound_empty, ⟨List.nodup_nil, fun _ _ mem => by cases mem⟩⟩
  · intro call a b sound admitted moves
    obtain rfl := Option.some.inj moves
    exact sound.exec admitted

end Runs

/-! ### Lookups in time -/

section Lookups

variable {t : PriceTable} {toDate : String → Int} {now : Int} {n : PriceNode}
  {vehicleType : String}

/-- A vehicle type of the table is not the text that stands for a missing one. -/
theorem ne_none_of_ofVehicleType {p : PriceDto} (named : p.vehicleType ≠ some "None")
    (own : p.OfVehicleType vehicleType) : vehicleType ≠ "None" := by
  rintro rfl
  exact named own

theorem PriceNode.KeyTimely.effective {key : String} {p : PriceDto}
    (timely : n.KeyTimely toDate key now) (keyed : p.key = key)
    (source : n.Newest p ∨ p ∈ n.filled) : p.EffectiveAt toDate now := by
  rcases source with newest | filled
  · exact timely.loaded p newest keyed
  · exact timely.filled p filled keyed

theorem PriceNode.StageTimely.effective {key : Int × String} {p : PriceDto}
    (timely : n.StageTimely toDate key now) (keyed : p.stageKey = key)
    (source : n.Newest p ∨ p ∈ n.stageFilled) : p.EffectiveAt toDate now := by
  rcases source with newest | filled
  · exact timely.loaded p newest keyed
  · exact timely.filled p filled keyed

/-- A price that is found under a key is one between the stations of the key. -/
theorem PriceNode.Sound.asks_of_hit (sound : n.Sound) (some_name : vehicleType ≠ "None")
    {tollA tollB : Int} {p : PriceDto}
    (hit : n.memory.prices.lookup (askedKey tollA tollB vehicleType) = some p) :
    p.OfVehicleType vehicleType ∧ p.tollA = some tollA ∧ p.tollB = some tollB := by
  obtain ⟨keyed, plain, -⟩ := sound.prices _ _ hit
  obtain ⟨first, second, type⟩ := (PriceDto.key_eq_askedKey_iff _ _).mp keyed
  exact ⟨plain.ofVehicleType some_name type, first, second⟩

/-- The database has a row for an effective price, since it asks for an hour around the time. -/
theorem PriceTable.mem_rowsByTolls {p : PriceDto} (row : p ∈ t.rows) (nonempty : vehicleType ≠ "")
    (unquoted : Sql.quote ∉ vehicleType.toList) (own : p.OfVehicleType vehicleType)
    (effective : p.EffectiveAt toDate now) {tollA tollB : Int} (first : p.tollA = some tollA)
    (second : p.tollB = some tollB) : p ∈ t.rowsByTolls toDate tollA tollB vehicleType now := by
  unfold PriceDto.OfVehicleType at own
  rw [if_neg nonempty, ← writtenVehicleType_eq unquoted] at own
  obtain ⟨⟨d, given, started⟩, ends⟩ := effective
  have near : p.WithinHourOf toDate now :=
    ⟨⟨d, given, by omega⟩, fun d' given' => by have := ends d' given'; omega⟩
  exact List.mem_filter.mpr ⟨row, decide_eq_true ⟨first, second, own, near⟩⟩

theorem PriceTable.mem_rowsByStage {p : PriceDto} (row : p ∈ t.rows) (nonempty : vehicleType ≠ "")
    (unquoted : Sql.quote ∉ vehicleType.toList) (own : p.OfVehicleType vehicleType)
    (effective : p.EffectiveAt toDate now) {stageId : Int} (stage : p.stageId = some stageId) :
    p ∈ t.rowsByStage toDate stageId vehicleType now := by
  unfold PriceDto.OfVehicleType at own
  rw [if_neg nonempty, ← writtenVehicleType_eq unquoted] at own
  exact List.mem_filter.mpr ⟨row, decide_eq_true ⟨stage, own, effective⟩⟩

/-- A lookup by stations in time. -/
theorem PriceNode.Sound.finds_tolls (sound : n.Sound) {tollA tollB : Int}
    {there back : QueryResult} (named : ∀ p ∈ t.rows, p.vehicleType ≠ some "None")
    (unquoted : Sql.quote ∉ vehicleType.toList)
    (gives_there : GivesFirst (getPriceFromDb there)
      (t.rowsByTolls toDate tollA tollB vehicleType now))
    (gives_back : GivesFirst (getPriceFromDb back)
      (t.rowsByTolls toDate tollB tollA vehicleType now))
    (timely : (PriceRequest.tolls tollA tollB vehicleType there back).Timely toDate n t now) :
    (PriceRequest.tolls tollA tollB vehicleType there back).Finds toDate t now
      (n.memory.getPrice tollA tollB vehicleType there back).answer := by
  rintro ⟨present, row, ⟨own, between⟩, effective⟩
  have some_name := ne_none_of_ofVehicleType (named present row) own
  unfold PriceRequest.Timely at timely
  unfold PriceMemory.getPrice
  cases hit : n.memory.prices.lookup (askedKey tollA tollB vehicleType) with
  | some p =>
    obtain ⟨keyed, -, source⟩ := sound.prices _ _ hit
    obtain ⟨type, stations⟩ := sound.asks_of_hit some_name hit
    simp only [hit, Option.isSome_some, if_true] at timely
    exact ⟨p, rfl, ⟨type, .inl stations⟩, timely.effective keyed source⟩
  | none =>
    cases hit' : n.memory.prices.lookup (askedKey tollB tollA vehicleType) with
    | some p =>
      obtain ⟨keyed, -, source⟩ := sound.prices _ _ hit'
      obtain ⟨type, first, second⟩ := sound.asks_of_hit some_name hit'
      simp only [hit, hit', Option.isSome_none, Option.isSome_some, Bool.false_eq_true, if_true,
        if_false] at timely
      have early : p.EffectiveAt toDate now := timely.effective keyed source
      exact ⟨p.swapTollDirection, rfl, ⟨type, .inl ⟨second, first⟩⟩, early⟩
    | none =>
      simp only [hit, hit', Option.isSome_none, Bool.false_eq_true, if_false] at timely
      obtain ⟨nonempty, answered, early, reverse⟩ := timely
      have type : ∀ p : PriceDto, p.vehicleType = some vehicleType →
          p.OfVehicleType vehicleType := by
        intro p given
        rw [PriceDto.OfVehicleType, if_neg nonempty, given]
      obtain ⟨answer, read⟩ := exists_eq_ok_of_not_fails answered
      cases answer with
      | some p =>
        have mem := (gives_there _ read).2 p rfl
        obtain ⟨-, first, second, given⟩ := PriceTable.of_mem_rowsByTolls named unquoted mem
        rw [read]
        exact ⟨p, rfl, ⟨type p given, .inl ⟨first, second⟩⟩, early p mem⟩
      | none =>
        -- no row in this direction, so the present price is one of the other direction
        have nothing := (gives_there _ read).1 rfl
        obtain ⟨answered', early'⟩ := reverse nothing
        obtain ⟨answer', read'⟩ := exists_eq_ok_of_not_fails answered'
        have present_back : present ∈ t.rowsByTolls toDate tollB tollA vehicleType now := by
          rcases between with ⟨first, second⟩ | ⟨first, second⟩
          · have listed :=
              t.mem_rowsByTolls row nonempty unquoted own effective first second
            rw [nothing] at listed
            cases listed
          · exact t.mem_rowsByTolls row nonempty unquoted own effective first second
        cases answer' with
        | none =>
          rw [(gives_back _ read').1 rfl] at present_back
          cases present_back
        | some p =>
          have mem := (gives_back _ read').2 p rfl
          obtain ⟨-, first, second, given⟩ := PriceTable.of_mem_rowsByTolls named unquoted mem
          rw [read, read']
          exact ⟨p.swapTollDirection, rfl, ⟨type _ given, .inl ⟨second, first⟩⟩, early' p mem⟩

/-- A lookup by stage in time. -/
theorem PriceNode.Sound.finds_stage (sound : n.Sound) {stageId : Int} {result : QueryResult}
    (named : ∀ p ∈ t.rows, p.vehicleType ≠ some "None")
    (unquoted : Sql.quote ∉ vehicleType.toList)
    (gives : GivesFirst (getPriceByStageIdFromDb result)
      (t.rowsByStage toDate stageId vehicleType now))
    (timely : (PriceRequest.stage stageId vehicleType result).Timely toDate n t now) :
    (PriceRequest.stage stageId vehicleType result).Finds toDate t now
      (n.memory.getPriceByStageId stageId vehicleType result).answer := by
  rintro ⟨present, row, ⟨own, staged⟩, effective⟩
  have some_name := ne_none_of_ofVehicleType (named present row) own
  unfold PriceRequest.Timely at timely
  unfold PriceMemory.getPriceByStageId
  cases hit : n.memory.stagePrices.lookup (stageId, vehicleTypeText vehicleType) with
  | some p =>
    obtain ⟨keyed, plain, source⟩ := sound.stages _ _ hit
    simp only [hit, Option.isSome_some, if_true] at timely
    obtain ⟨stage, type⟩ := Prod.mk.inj keyed
    have stage : p.stageId = some stageId := by
      obtain ⟨id, given⟩ := Option.ne_none_iff_exists'.mp plain.stage
      rw [given, Option.getD_some] at stage
      rw [given, stage]
    exact ⟨p, rfl, ⟨plain.ofVehicleType some_name type, stage⟩, timely.effective keyed source⟩
  | none =>
    simp only [hit, Option.isSome_none, Bool.false_eq_true, if_false] at timely
    obtain ⟨nonempty, answered⟩ := timely
    obtain ⟨answer, read⟩ := exists_eq_ok_of_not_fails answered
    cases answer with
    | none =>
      have listed := t.mem_rowsByStage row nonempty unquoted own effective staged
      rw [(gives _ read).1 rfl] at listed
      cases listed
    | some p =>
      obtain ⟨-, stage, type, in_time⟩ :=
        PriceTable.of_mem_rowsByStage named unquoted ((gives _ read).2 p rfl)
      rw [read]
      refine ⟨p, rfl, ⟨?_, stage⟩, in_time⟩
      rw [PriceDto.OfVehicleType, if_neg nonempty, type]

/-- After every history, a lookup finds an effective price if there is one, provided that the
newest price of the last load under its key, or what a lookup has read since, is effective. -/
theorem PriceRequest.finds_of_reaches {Node : Type} [DecidableEq Node] (toDate : String → Int)
    {s : PriceNodes Node}
    (reached : (priceMachine Node).Reaches (fun call _ => call.Admitted toDate) {} s)
    (node : Node) (now : Int) (t : PriceTable) (request : PriceRequest) (keydbSets : Bool)
    (admitted : (⟨node, now, t, .lookUp request keydbSets⟩ : PriceCall Node).Admitted toDate)
    (timely : request.Timely toDate (s.nodes node) t now) :
    request.Finds toDate t now (request.lookUp (s.nodes node).memory).answer := by
  have sound := (PriceNodes.sound_of_reaches reached).nodes node
  obtain ⟨gives, named, unquoted⟩ := admitted
  have unquoted := unquoted request keydbSets rfl
  cases request with
  | tolls tollA tollB vehicleType there back =>
    exact sound.finds_tolls named unquoted gives.1 gives.2 timely
  | stage stageId vehicleType result => exact sound.finds_stage named unquoted gives timely

end Lookups

/-! ### A price of the next half hour -/

/-- A price for vehicles of type 1 between the stations 1 and 2, at stage 10. -/
def samplePrice (priceId : Int) (effect : String) : PriceDto where
  priceId := priceId
  tollA := some 1
  tollB := some 2
  vehicleType := some "1"
  effectDatetime := some effect
  stageId := some 10

/-- The row of the price. -/
def sampleRow (priceId : Int) (effect : String) : CursorRow where
  getData column := .ok (match column with
    | 1 => some priceId
    | 2 => some 1
    | 3 => some 2
    | 13 => some 10
    | _ => none)
  getText column := .ok (match column with
    | 6 => some "1"
    | 10 => some effect
    | _ => none)

theorem priceRow_sampleRow (priceId : Int) (effect : String) (trimmed : trim effect = effect)
    (nonempty : effect ≠ "") (normal : normalizeDatetimeString effect = some effect) :
    priceRow (sampleRow priceId effect) = .ok (samplePrice priceId effect) := by
  have type : trim "1" = "1" := by decide +kernel
  simp [priceRow, getI64, getNullableI64, getNullableString, getNullableDatetimeString, sampleRow,
    samplePrice, bind, Except.bind, pure, Except.pure, trimmed, nonempty, normal, type]

/-- The price since ten, and the price from half past twelve. -/
def twoPrices : PriceTable where
  rows := [samplePrice 1 "2024-01-01 10:00:00", samplePrice 2 "2024-01-01 12:30:00"]
  joined := by decide +kernel

/-- The seconds of this day. -/
def secondsOfDay (d : String) : Int :=
  if d = "2024-01-01 12:30:00" then 45000 else 36000

/-- The result of the query for all prices. -/
def twoPricesResult : QueryResult :=
  .ok (some (.row (sampleRow 1 "2024-01-01 10:00:00") (.row (sampleRow 2 "2024-01-01 12:30:00")
    .done)))

/-- A load at noon. -/
def loadAtNoon : PriceCall Unit where
  node := ()
  now := 43200
  table := twoPrices
  event := .reload (some twoPricesResult) true CacheLoader.keydbWorks

/-- A lookup that makes no query. -/
def sampleRequest : PriceRequest :=
  .tolls 1 2 "1" (.error (.poolError "")) (.error (.poolError ""))

theorem load_twoPricesResult : activePrice.load twoPricesResult = .ok twoPrices.rows := by
  have first := priceRow_sampleRow 1 "2024-01-01 10:00:00" (by decide +kernel) (by decide)
    (by decide +kernel)
  have second := priceRow_sampleRow 2 "2024-01-01 12:30:00" (by decide +kernel) (by decide)
    (by decide +kernel)
  change (do
    let p ← priceRow _
    let rest ← (do
      let q ← priceRow _
      let rest ← (pure [] : Except DbError (List PriceDto))
      pure (q :: rest))
    pure (p :: rest)) = _
  rw [first, second]
  rfl

theorem admitted_loadAtNoon : loadAtNoon.Admitted secondsOfDay where
  gives result given read loaded := by
    obtain rfl := Option.some.inj given
    rw [load_twoPricesResult] at loaded
    obtain rfl := Except.ok.inj loaded
    have all : twoPrices.activeRows secondsOfDay 43200 = twoPrices.rows := by
      rw [PriceTable.activeRows, List.filter_eq_self]
      decide +kernel
    exact .of_eq all.symm
  named := by decide +kernel
  unquoted _ _ is := by cases is

theorem admitted_sampleRequest (now : Int) (keydbSets : Bool) :
    (⟨(), now, twoPrices, .lookUp sampleRequest keydbSets⟩ : PriceCall Unit).Admitted
      secondsOfDay where
  gives := by
    constructor
    · intro answer read
      cases read
    · intro answer read
      cases read
  named := admitted_loadAtNoon.named
  unquoted request keydbSets is := by
    obtain ⟨rfl, -⟩ := PriceEvent.lookUp.inj is
    decide +kernel

/-- What the node has after the load. -/
def nodeAtNoon : PriceNode :=
  ((({} : PriceNodes Unit).exec loadAtNoon).nodes ())

theorem nodeAtNoon_eq : nodeAtNoon.memory = replaceAllPrices (fun _ => 0)
    (priceEntries twoPrices.rows) ∧ nodeAtNoon.loaded = twoPrices.rows ∧
      nodeAtNoon.filled = [] := by
  have after := PriceNode.reload_of_ok {} []
    (show priceLoader.readFrom (some twoPricesResult) = .ok twoPrices.rows from
      load_twoPricesResult) true CacheLoader.keydbWorks
  have node : nodeAtNoon = _ := congrArg Prod.fst after
  rw [node]
  exact ⟨rfl, rfl, rfl⟩

/-- The price from half past twelve is found. -/
theorem lookup_nodeAtNoon : nodeAtNoon.memory.prices.lookup (askedKey 1 2 "1") =
    some (samplePrice 2 "2024-01-01 12:30:00") := by
  rw [nodeAtNoon_eq.1, lookup_replaceAllPrices]
  have number : ((priceEntries twoPrices.rows).reverse.lookup (askedKey 1 2 "1")).map
      (fun p => p.priceId) = some 2 := by decide +kernel
  obtain ⟨p, found, second⟩ := Option.map_eq_some_iff.mp number
  have mem := (lookup_priceEntries found).1
  simp only [twoPrices, List.mem_cons, List.not_mem_nil, or_false] at mem
  rcases mem with rfl | rfl
  · cases second
  · exact found

/-- At one, the price of the load is in force. -/
theorem PriceRequest.finds_at_one : sampleRequest.Finds secondsOfDay twoPrices 46800
    (sampleRequest.lookUp nodeAtNoon.memory).answer := by
  refine PriceRequest.finds_of_reaches secondsOfDay (.step loadAtNoon .refl admitted_loadAtNoon rfl)
    () 46800 twoPrices sampleRequest true (admitted_sampleRequest 46800 true) ?_
  change (if (nodeAtNoon.memory.prices.lookup (askedKey 1 2 "1")).isSome then
    nodeAtNoon.KeyTimely secondsOfDay (askedKey 1 2 "1") 46800 else _)
  rw [lookup_nodeAtNoon]
  have effective : ∀ p ∈ twoPrices.rows, p.EffectiveAt secondsOfDay 46800 := by decide +kernel
  refine ⟨fun p newest _ => ?_, fun p mem => ?_⟩
  · have mem := newest.1
    rw [nodeAtNoon_eq.2.1] at mem
    exact effective p mem
  · rw [nodeAtNoon_eq.2.2] at mem
    cases mem

/-- At noon, the price of the next half hour hides the one in force. -/
theorem PriceRequest.next_price_hides :
    (priceMachine Unit).Reaches (fun call _ => call.Admitted secondsOfDay) {}
      (({} : PriceNodes Unit).exec loadAtNoon) ∧
    (⟨(), 43200, loadAtNoon.table, .lookUp sampleRequest true⟩ : PriceCall Unit).Admitted
      secondsOfDay ∧
    ¬ sampleRequest.Finds secondsOfDay loadAtNoon.table 43200
      (sampleRequest.lookUp ((({} : PriceNodes Unit).exec loadAtNoon).nodes ()).memory).answer := by
  refine ⟨.step loadAtNoon .refl admitted_loadAtNoon rfl, admitted_sampleRequest 43200 true,
    fun finds => ?_⟩
  have in_force : ∃ p ∈ twoPrices.rows, sampleRequest.Asks p ∧ p.EffectiveAt secondsOfDay 43200 :=
    ⟨samplePrice 1 "2024-01-01 10:00:00", List.mem_cons_self, ⟨rfl, .inl ⟨rfl, rfl⟩⟩,
      by decide +kernel⟩
  obtain ⟨p, answered, -, effective⟩ := finds in_force
  have answer : (sampleRequest.lookUp nodeAtNoon.memory).answer =
      some (samplePrice 2 "2024-01-01 12:30:00") := by
    change (nodeAtNoon.memory.getPrice 1 2 "1" _ _).answer = _
    rw [PriceMemory.getPrice, lookup_nodeAtNoon]
  obtain rfl := Option.some.inj (answer.symm.trans answered)
  revert effective
  decide +kernel

end TollBackend

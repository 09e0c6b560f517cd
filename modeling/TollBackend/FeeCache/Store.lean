import TollBackend.AssocList

/-!
# The stores under a prefix

`CacheManager` keeps what a loader has read twice: in Moka, inside of the process, and in KeyDB,
where the process finds it when the database is lost. A reload sets all new entries in both and
then removes the other keys of the prefix, at most five thousand of them. KeyDB may refuse any of
its commands.

## Main definitions

* `PrefixStore`: what Moka and KeyDB have under a prefix.
* `atomicReloadPrefix`, `loadPrefixFromKeydb`: the operations of a reload.
* `ReplacedBy`: the entries of the stores are those of some data, or were there before.

## Main results

* `replacedBy_atomicReloadPrefix`: what `atomicReloadPrefix` leaves in the stores.
-/

namespace TollBackend

variable {κ ν : Type} [DecidableEq κ]

/-- Take some keys out. -/
def assocEraseAll (l : List (κ × ν)) (keys : List κ) : List (κ × ν) :=
  l.filter fun kv => decide (kv.1 ∉ keys)

theorem lookup_assocEraseAll (l : List (κ × ν)) (keys : List κ) (k : κ) :
    (assocEraseAll l keys).lookup k = if k ∈ keys then none else l.lookup k := by
  have others := lookup_filter_keys l (fun key => decide (key ∉ keys)) k
  rw [assocEraseAll, others]
  by_cases gone : k ∈ keys <;> simp [gone]

/-- `ATOMIC_RELOAD_STALE_CAP`. -/
def atomicReloadStaleCap : Nat := 5000

/-- What Moka and KeyDB have under a prefix. A value of KeyDB is `none` where its text cannot be
read back. -/
structure PrefixStore (Value : Type) where
  moka : List (String × Value) := []
  keydb : List (String × Option Value) := []

/-- What is not in the hands of a reload: the order in which hash maps are visited, how many keys
Moka lists, how many `SET`s reach KeyDB, and which commands KeyDB answers. -/
structure StoreAnswers where
  mokaRank : String → Nat := fun _ => 0
  mokaCap : Nat := 10000
  rank : String → Nat := fun _ => 0
  sets : Nat
  scans : Bool
  gets : Bool
  removes : Bool

section Operations

variable {Value : Type} (answers : StoreAnswers)

/-- `CacheManager::set`, where KeyDB may refuse. -/
def PrefixStore.set (keydbSets : Bool) (key : String) (value : Value) (s : PrefixStore Value) :
    PrefixStore Value where
  moka := assocSet s.moka key value
  keydb := if keydbSets then assocSet s.keydb key (some value) else s.keydb

/-- `get_keys_with_prefix`: the keys of both stores, each once. -/
def keysWithPrefix (s : PrefixStore Value) : List String :=
  let mokaKeys := ((s.moka.map fun kv => kv.1).insertionSort
    fun a b => answers.mokaRank a ≤ answers.mokaRank b).take answers.mokaCap
  let keydbKeys := if answers.scans then s.keydb.map fun kv => kv.1 else []
  (mokaKeys ++ keydbKeys).dedup.insertionSort fun a b => answers.rank a ≤ answers.rank b

/-- The keys that `atomic_reload_prefix` removes. -/
def staleKeys (newData : List (String × Value)) (s : PrefixStore Value) : List String :=
  ((keysWithPrefix answers s).filter fun k =>
    decide (k ∉ newData.map fun kv => kv.1)).take atomicReloadStaleCap

/-- `atomic_reload_prefix` has set the new entries. -/
def setNewData (newData : List (String × Value)) (s : PrefixStore Value) : PrefixStore Value where
  moka := assocSetAll s.moka newData
  keydb := assocSetAll s.keydb ((newData.take answers.sets).map fun kv => (kv.1, some kv.2))

/-- `atomic_reload_prefix`. -/
def atomicReloadPrefix (newData : List (String × Value)) (s : PrefixStore Value) :
    PrefixStore Value :=
  let written := setNewData answers newData s
  let stale := staleKeys answers newData written
  { moka := assocEraseAll written.moka stale
    keydb := if answers.removes then assocEraseAll written.keydb stale else written.keydb }

/-- `load_prefix_from_keydb`. -/
def loadPrefixFromKeydb (s : PrefixStore Value) : List (String × Value) :=
  if answers.scans && answers.gets then s.keydb.filterMap fun kv => kv.2.map fun v => (kv.1, v)
  else []

end Operations

/-! ### What a reload leaves in the stores -/

section Replaced

variable {Value : Type}

/-- Moka has all entries of the data, and what else the stores have was there before. Of two
entries with one key the later one counts. -/
structure ReplacedBy (data : List (String × Value)) (before after : PrefixStore Value) :
    Prop where
  moka_new : ∀ k v, data.reverse.lookup k = some v → after.moka.lookup k = some v
  moka_only : ∀ k v, after.moka.lookup k = some v →
    data.reverse.lookup k = some v ∨ before.moka.lookup k = some v
  keydb_only : ∀ k v, after.keydb.lookup k = some v →
    (∃ w, v = some w ∧ (k, w) ∈ data) ∨ before.keydb.lookup k = some v

variable {answers : StoreAnswers} {data : List (String × Value)} {s : PrefixStore Value}

theorem not_stale_of_new {k : String} (new : k ∈ data.map fun kv => kv.1) :
    k ∉ staleKeys answers data s := by
  intro stale
  have others := List.mem_of_mem_take stale
  rw [List.mem_filter, decide_eq_true_iff] at others
  exact others.2 new

theorem replacedBy_atomicReloadPrefix (answers : StoreAnswers) (data : List (String × Value))
    (s : PrefixStore Value) : ReplacedBy data s (atomicReloadPrefix answers data s) where
  moka_new k v found := by
    have new : k ∈ data.map fun kv => kv.1 :=
      List.mem_map.mpr ⟨(k, v), List.mem_reverse.mp (mem_of_lookup found), rfl⟩
    simp only [atomicReloadPrefix, setNewData, lookup_assocEraseAll, lookup_assocSetAll, found,
      Option.some_or]
    exact if_neg (not_stale_of_new new)
  moka_only k v found := by
    simp only [atomicReloadPrefix, setNewData, lookup_assocEraseAll, lookup_assocSetAll] at found
    split at found
    · cases found
    · exact Option.or_eq_some_iff.mp found |>.imp id And.right
  keydb_only k v found := by
    have kept : (setNewData answers data s).keydb.lookup k = some v := by
      simp only [atomicReloadPrefix] at found
      split at found
      · rw [lookup_assocEraseAll] at found
        split at found
        · cases found
        · exact found
      · exact found
    rw [setNewData, lookup_assocSetAll] at kept
    rcases Option.or_eq_some_iff.mp kept with new | ⟨_, old⟩
    · have mem := List.mem_reverse.mp (mem_of_lookup new)
      obtain ⟨⟨k', w⟩, taken, same⟩ := List.mem_map.mp mem
      cases same
      exact .inl ⟨w, rfl, List.mem_of_mem_take taken⟩
    · exact .inr old

/-! ### What is in KeyDB -/

variable {keydb : List (String × Option Value)} {moka : List (String × Value)}
  {entry : String × Option Value}

/-- What a fallback finds is in KeyDB. -/
theorem mem_keydb_of_mem_load {env : StoreAnswers} {key : String} {value : Value}
    (loaded : (key, value) ∈ loadPrefixFromKeydb env ⟨moka, keydb⟩) :
    (key, some value) ∈ keydb := by
  unfold loadPrefixFromKeydb at loaded
  split at loaded
  · obtain ⟨⟨key', read⟩, stored, readable⟩ := List.mem_filterMap.mp loaded
    obtain ⟨value', eq, same⟩ := Option.map_eq_some_iff.mp readable
    obtain ⟨rfl, rfl⟩ : key' = key ∧ value' = value := Prod.mk.inj same
    rw [← eq]
    exact stored
  · cases loaded

/-- After a reload KeyDB has entries that were there before, and new ones. -/
theorem mem_keydb_atomicReload {env : StoreAnswers}
    (mem : entry ∈ (atomicReloadPrefix env data ⟨moka, keydb⟩).keydb) :
    entry ∈ keydb ∨ ∃ kv ∈ data, entry = (kv.1, some kv.2) := by
  have written : entry ∈ (setNewData env data ⟨moka, keydb⟩).keydb := by
    unfold atomicReloadPrefix at mem
    dsimp only at mem
    split at mem
    · exact List.mem_of_mem_filter mem
    · exact mem
  rcases mem_of_mem_assocSetAll written with new | old
  · obtain ⟨kv, taken, rfl⟩ := List.mem_map.mp new
    exact .inr ⟨kv, List.mem_of_mem_take taken, rfl⟩
  · exact .inl old

theorem nodup_keydb_atomicReload {env : StoreAnswers}
    (nodup : (keydb.map fun kv => kv.1).Nodup) :
    ((atomicReloadPrefix env data ⟨moka, keydb⟩).keydb.map fun kv => kv.1).Nodup := by
  have written := nodup_keys_assocSetAll nodup
    ((data.take env.sets).map fun kv => (kv.1, some kv.2))
  unfold atomicReloadPrefix
  dsimp only
  split
  · exact written.sublist (List.filter_sublist.map _)
  · exact written

theorem nodup_keydb_set {keydbSets : Bool} {key : String} {value : Value}
    (nodup : (keydb.map fun kv => kv.1).Nodup) :
    (((⟨moka, keydb⟩ : PrefixStore Value).set keydbSets key value).keydb.map
      fun kv => kv.1).Nodup := by
  unfold PrefixStore.set
  dsimp only
  split
  · exact nodup_keys_assocSet nodup _ _
  · exact nodup

theorem mem_keydb_set {keydbSets : Bool} {key : String} {value : Value}
    (mem : entry ∈ ((⟨moka, keydb⟩ : PrefixStore Value).set keydbSets key value).keydb) :
    entry = (key, some value) ∨ entry ∈ keydb := by
  unfold PrefixStore.set at mem
  dsimp only at mem
  split at mem
  · exact mem_of_mem_assocSet mem
  · exact .inr mem

end Replaced

end TollBackend

import TollBackend.Etdr.CacheCalls
import TollBackend.System

/-!
# The cleanup task

One round of `start_cache_cleanup_task`: records past their time to live leave the memory, then
KeyDB loses the old records without a checkout and the memory every record of their tags, and at
last the old records without a checkout leave the memory.

## Main definitions

* `cleanupKeydbNoCheckoutOlderThan`: the part of a round that reads KeyDB.
* `CleanupRound.run`: the round.
* `CleanupRound.Keeps`: only what is due leaves the memory, and no unsaved record leaves every
  store.

## Main results

* `CleanupRound.roundKeeps_iff`: when a round keeps what it should.
-/

namespace TollBackend

/-- The record has no checkout, and its check-in is longer ago than `maxAgeMs`. -/
def noCheckoutOlderThan (maxAgeMs : Int) (now : Clock) (etdr : Etdr) : Bool :=
  decide (etdr.checkoutDatetime = 0) &&
    decide (maxAgeMs < min (now.ms - etdr.checkinDatetime) (2 ^ 63 - 1))

namespace EtdrCache

variable {cache : EtdrCache} {key : String} {e : Etdr}

theorem cached_retain (keep : Etdr → Bool) :
    (cache.retain fun entry => keep entry.etdr).Cached key e ↔
      cache.Cached key e ∧ keep e = true := by
  constructor
  · rintro ⟨recs, inData, entry, mem, rfl⟩
    obtain ⟨kv, old, eq⟩ := List.mem_map.mp (List.mem_filter.mp inData).1
    cases eq
    obtain ⟨inList, kept⟩ := List.mem_filter.mp mem
    exact ⟨⟨kv.2, old, entry, inList, rfl⟩, kept⟩
  · rintro ⟨⟨recs, inData, entry, mem, rfl⟩, kept⟩
    have stays : entry ∈ recs.filter fun entry => keep entry.etdr :=
      List.mem_filter.mpr ⟨mem, kept⟩
    refine ⟨_, List.mem_filter.mpr ⟨List.mem_map_of_mem inData, ?_⟩, entry, stays, rfl⟩
    simpa using ⟨entry, mem, kept⟩

theorem cached_cleanupExpired {now : Clock} :
    (cache.cleanupExpired now).Cached key e ↔
      cache.Cached key e ∧ etdrWithinTtl now e = true :=
  cached_retain _

theorem cached_cleanupNoCheckoutOlderThan {maxAgeMs : Int} {now : Clock} :
    (cache.cleanupNoCheckoutOlderThan maxAgeMs now).Cached key e ↔
      cache.Cached key e ∧ noCheckoutOlderThan maxAgeMs now e = false := by
  rw [← Bool.not_eq_true']
  exact cached_retain fun etdr => !noCheckoutOlderThan maxAgeMs now etdr

theorem cached_removeEtag {etag : String} :
    (cache.removeEtag etag).Cached key e ↔ cache.Cached key e ∧ key ≠ normalizeEtag etag := by
  constructor
  · rintro ⟨recs, inData, stored⟩
    obtain ⟨old, other⟩ := List.mem_filter.mp inData
    exact ⟨⟨recs, old, stored⟩, by simpa using other⟩
  · rintro ⟨⟨recs, inData, stored⟩, other⟩
    exact ⟨recs, List.mem_filter.mpr ⟨inData, by simpa using other⟩, stored⟩

theorem cached_removeEtags {etags : List String} :
    (etags.foldl removeEtag cache).Cached key e ↔
      cache.Cached key e ∧ ∀ etag ∈ etags, key ≠ normalizeEtag etag := by
  induction etags generalizing cache with
  | nil => simp
  | cons etag etags ih => simp [ih, cached_removeEtag, and_assoc]

end EtdrCache

/-! ### A round -/

/-- How far `cleanup_keydb_no_checkout_older_than` gets: KeyDB is not there or cannot be read, it
refuses the `DEL`, the reply to the `DEL` is lost, or all goes well. -/
inductive KeydbCleanup
  | unreadable
  | refused
  | unanswered
  | done
  deriving DecidableEq

/-- The entries `etdr:` with an old record without a checkout. -/
def keydbToRemove (maxAgeMs : Int) (now : Clock) (keydb : List (KeydbKey × Etdr)) :
    List (KeydbKey × Etdr) :=
  keydb.filter fun kv => !kv.1.isRetry && noCheckoutOlderThan maxAgeMs now kv.2

/-- `remove_many`. -/
def keydbRemoveMany (keys : List KeydbKey) (keydb : List (KeydbKey × Etdr)) :
    List (KeydbKey × Etdr) :=
  keydb.filter fun kv => !keys.contains kv.1

/-- `cleanup_keydb_no_checkout_older_than`, with the memory and KeyDB afterwards. -/
def cleanupKeydbNoCheckoutOlderThan (maxAgeMs : Int) (now : Clock) (outcome : KeydbCleanup)
    (cache : EtdrCache) (keydb : List (KeydbKey × Etdr)) :
    Nat × EtdrCache × List (KeydbKey × Etdr) :=
  let toRemove := keydbToRemove maxAgeMs now keydb
  let left := keydbRemoveMany (toRemove.map fun kv => kv.1) keydb
  match outcome with
  | .unreadable => (0, cache, keydb)
  | .refused => (0, cache, keydb)
  | .unanswered => (0, cache, left)
  | .done =>
    (toRemove.length,
      (toRemove.map fun kv => trim kv.2.etagId).foldl EtdrCache.removeEtag cache, left)

/-- A round of the task: the maximum age, the clock at its three steps, and what KeyDB does. -/
structure CleanupRound where
  maxAgeMs : Int
  expiry : Clock
  keydbCheck : Clock
  memoryCheck : Clock
  outcome : KeydbCleanup

namespace CleanupRound

variable (round : CleanupRound) (cache : EtdrCache) (keydb : List (KeydbKey × Etdr))

/-- The loop body of `start_cache_cleanup_task`. -/
def run : EtdrCache × List (KeydbKey × Etdr) :=
  let expired := cache.cleanupExpired round.expiry
  let (_, emptied, left) := cleanupKeydbNoCheckoutOlderThan round.maxAgeMs round.keydbCheck
    round.outcome expired keydb
  (emptied.cleanupNoCheckoutOlderThan round.maxAgeMs round.memoryCheck, left)

/-- The record is checked out and past its time to live, or not checked out and too old, at one
of the three steps. -/
def Due (e : Etdr) : Prop :=
  ∃ now ∈ [round.expiry, round.keydbCheck, round.memoryCheck],
    etdrWithinTtl now e = false ∨ noCheckoutOlderThan round.maxAgeMs now e = true

/-- The record is in the memory or in KeyDB. -/
def InStores (cache : EtdrCache) (keydb : List (KeydbKey × Etdr)) (e : Etdr) : Prop :=
  (∃ key, cache.Cached key e) ∨ ∃ key, (key, e) ∈ keydb

/-- Only what is due leaves the memory, and each record that the database does not have is still
in one of the stores, with all that KeyDB keeps of it. -/
structure Keeps : Prop where
  due : ∀ key e, cache.Cached key e → ¬ (round.run cache keydb).1.Cached key e → round.Due e
  unsaved : ∀ e, InStores cache keydb e → e.dbSaved = false →
    ∃ copy, InStores (round.run cache keydb).1 (round.run cache keydb).2 copy ∧
      copy.readBack = e.readBack

/-- The tags that the memory loses with the records of KeyDB. -/
def emptiedTags : List String :=
  if round.outcome = .done
    then (keydbToRemove round.maxAgeMs round.keydbCheck keydb).map fun kv =>
      normalizeEtag (trim kv.2.etagId)
    else []

/-- The keys that KeyDB loses. -/
def deletedKeys : List KeydbKey :=
  if round.outcome = .done ∨ round.outcome = .unanswered
    then (keydbToRemove round.maxAgeMs round.keydbCheck keydb).map fun kv => kv.1
    else []

/-- A record in the memory that no step takes away: it is neither past its time to live nor old,
and KeyDB has no old record with its tag. -/
def StaysInMemory (e : Etdr) : Prop :=
  ∃ key, cache.Cached key e ∧ key ∉ round.emptiedTags keydb ∧
    etdrWithinTtl round.expiry e = true ∧
    noCheckoutOlderThan round.maxAgeMs round.memoryCheck e = false

/-- A record in KeyDB whose key does not stand for an old record without a checkout. -/
def StaysInKeydb (e : Etdr) : Prop :=
  ∃ key, (key, e) ∈ keydb ∧ key ∉ round.deletedKeys keydb

/-! ### What a round leaves -/

theorem cached_run {key : String} {e : Etdr} :
    (round.run cache keydb).1.Cached key e ↔
      cache.Cached key e ∧ key ∉ round.emptiedTags keydb ∧
        etdrWithinTtl round.expiry e = true ∧
        noCheckoutOlderThan round.maxAgeMs round.memoryCheck e = false := by
  have emptied : (cleanupKeydbNoCheckoutOlderThan round.maxAgeMs round.keydbCheck round.outcome
      (cache.cleanupExpired round.expiry) keydb).2.1.Cached key e ↔
        (cache.cleanupExpired round.expiry).Cached key e ∧ key ∉ round.emptiedTags keydb := by
    unfold cleanupKeydbNoCheckoutOlderThan emptiedTags
    cases round.outcome with
    | unreadable => simp
    | refused => simp
    | unanswered => simp
    | done =>
      dsimp only
      rw [EtdrCache.cached_removeEtags, if_pos rfl, List.forall_mem_map, List.mem_map]
      apply and_congr Iff.rfl
      constructor
      · rintro others ⟨kv, mem, rfl⟩
        exact others kv mem rfl
      · intro absent kv mem same
        exact absent ⟨kv, mem, same.symm⟩
  unfold run
  dsimp only
  rw [EtdrCache.cached_cleanupNoCheckoutOlderThan, emptied, EtdrCache.cached_cleanupExpired]
  simp only [and_assoc, and_left_comm]

theorem mem_run {key : KeydbKey} {e : Etdr} :
    (key, e) ∈ (round.run cache keydb).2 ↔
      (key, e) ∈ keydb ∧ key ∉ round.deletedKeys keydb := by
  unfold run cleanupKeydbNoCheckoutOlderThan deletedKeys
  cases round.outcome with
  | unreadable => simp
  | refused => simp
  | unanswered => simp [keydbRemoveMany]
  | done => simp [keydbRemoveMany]

/-- What is in the stores after a round. -/
theorem inStores_run {e : Etdr} :
    InStores (round.run cache keydb).1 (round.run cache keydb).2 e ↔
      round.StaysInMemory cache keydb e ∨ round.StaysInKeydb keydb e := by
  unfold InStores StaysInMemory StaysInKeydb
  simp only [cached_run, mem_run]

/-- For every state of the memory and of KeyDB, every maximum age, all readings of the clock and
every outcome of the KeyDB commands: a round keeps what it should if and only if each cached
record under the tag of an old record of KeyDB is due itself, and each unsaved record has a copy
that no step takes away. -/
theorem roundKeeps_iff : round.Keeps cache keydb ↔
    (∀ key e, cache.Cached key e → key ∈ round.emptiedTags keydb → round.Due e) ∧
      ∀ e, InStores cache keydb e → e.dbSaved = false →
        ∃ copy, (round.StaysInMemory cache keydb copy ∨ round.StaysInKeydb keydb copy) ∧
          copy.readBack = e.readBack := by
  constructor
  · rintro ⟨due, unsaved⟩
    constructor
    · intro key e cached emptied
      apply due key e cached
      rw [cached_run]
      exact fun stays => stays.2.1 emptied
    · intro e stored notSaved
      obtain ⟨copy, left, same⟩ := unsaved e stored notSaved
      exact ⟨copy, (round.inStores_run cache keydb).mp left, same⟩
  · rintro ⟨due, unsaved⟩
    constructor
    · intro key e cached gone
      by_cases emptied : key ∈ round.emptiedTags keydb
      · exact due key e cached emptied
      · -- the first or the last step has removed it
        by_cases expired : etdrWithinTtl round.expiry e = false
        · exact ⟨round.expiry, by simp, .inl expired⟩
        · refine ⟨round.memoryCheck, by simp, .inr ?_⟩
          by_contra young
          apply gone
          rw [cached_run]
          exact ⟨cached, emptied, by simpa using expired, by simpa using young⟩
    · intro e stored notSaved
      obtain ⟨copy, stays, same⟩ := unsaved e stored notSaved
      exact ⟨copy, (round.inStores_run cache keydb).mpr stays, same⟩

/-- A round at one time, in which all commands work. -/
def atOnce (maxAgeMs : Int) (now : Clock) : CleanupRound :=
  ⟨maxAgeMs, now, now, now, .done⟩

/-- A check-in three days after an older one of the same tag. -/
def newerRecord : Etdr where
  etagId := "A"
  ticketId := 21
  checkinDatetime := 259200500

/-- The older one is the record of the tag in KeyDB, and takes the newer one, which is not saved
yet, out of the memory. -/
theorem cleanup_loses_newer : ¬ ∀ (round : CleanupRound) (cache : EtdrCache)
    (keydb : List (KeydbKey × Etdr)), round.Keeps cache keydb := by
  intro all
  let round := atOnce 259200000 ⟨259201001, by decide⟩
  let cache : EtdrCache := { data := [("A", [⟨newerRecord, 259200500, 259200500⟩])] }
  let keydb : List (KeydbKey × Etdr) :=
    [(.etag "A", { etagId := "A", ticketId := 11, checkinDatetime := 1000 })]
  have cached : cache.Cached "A" newerRecord :=
    ⟨_, List.mem_singleton_self _, _, List.mem_singleton_self _, rfl⟩
  have emptied : "A" ∈ round.emptiedTags keydb := by decide +kernel
  have gone : ¬ (round.run cache keydb).1.Cached "A" newerRecord := by
    rw [cached_run]
    exact fun stays => stays.2.1 emptied
  obtain ⟨now, mem, due⟩ := (all round cache keydb).due "A" newerRecord cached gone
  have here : now = ⟨259201001, by decide⟩ := by simpa [round, atOnce] using mem
  subst here
  revert due
  decide +kernel

end CleanupRound

end TollBackend

import TollBackend.Etdr.Cache
import TollBackend.Sorting.Rank

/-!
# Eviction

`evict_if_needed` after a `put`: the entries that are least recently used are chosen one by one,
and then every entry of the same tag with such a ticket goes.

## Main definitions

* `EtdrCache.stored`: the cache as `put` leaves it to `evict_if_needed`.
* `EtdrCache.EvictsExactly`: as many entries go as there are too many, the least recently used
  ones, and the new one stays.
* `EtdrCache.TicketsTogether`, `EtdrCache.NewestKept`: when it is so.

## Main results

* `EtdrCache.evictsExactly_iff`: when an eviction removes what it should.
-/

namespace TollBackend

namespace EtdrCache

variable {cache : EtdrCache} {seed : String → Nat} {e : Etdr} {now : Clock}

/-- The entries, each with its tag. -/
def listed (cache : EtdrCache) : List (String × CacheEntry) :=
  cache.data.flatMap fun kv => kv.2.map fun entry => (kv.1, entry)

/-- The entries in the order in which the hash map is visited. -/
def visited (cache : EtdrCache) (seed : String → Nat) : List (String × CacheEntry) :=
  (cache.visit seed).flatMap fun kv => kv.2.map fun entry => (kv.1, entry)

/-- What an eviction knows of an entry: its tag and its ticket. -/
def nameOf (entry : String × CacheEntry) : String × Int :=
  (entry.1, entry.2.etdr.ticketId)

/-- The order of the last access. -/
def NotLater (a b : String × CacheEntry) : Prop :=
  a.2.lastAccess ≤ b.2.lastAccess

instance : DecidableRel NotLater := fun a b =>
  inferInstanceAs (Decidable (a.2.lastAccess ≤ b.2.lastAccess))

instance : Std.Total NotLater := ⟨fun _ _ => le_total _ _⟩

instance : IsTrans (String × CacheEntry) NotLater := ⟨fun _ _ _ => le_trans⟩

/-- How many entries the cache has too many. -/
def excess (cache : EtdrCache) : Nat :=
  cache.size - cache.maxTotalEntries

/-- The cache as `put` leaves it to `evict_if_needed`. -/
def stored (cache : EtdrCache) (e : Etdr) (now : Clock) : EtdrCache :=
  let key := normalizeEtag e.etagId
  cache.setRecords key ((putRecords (cache.records key) e now).take cache.maxEntriesPerEtag)

theorem put_eq (cache : EtdrCache) (e : Etdr) (now : Clock) (seed : String → Nat) :
    cache.put e now seed = (cache.stored e now).evictIfNeeded seed := rfl

/-! ### What goes -/

theorem size_eq_length_listed (cache : EtdrCache) : cache.size = cache.listed.length := by
  simp [size, listed, List.length_flatMap]

theorem visited_perm (cache : EtdrCache) (seed : String → Nat) :
    (cache.visited seed).Perm cache.listed :=
  (List.perm_insertionSort _ _).flatMap_right _

/-- The entries that are chosen: the least recently used ones, as many as there are too many. -/
def chosen (cache : EtdrCache) (seed : String → Nat) : List (String × CacheEntry) :=
  ((cache.visited seed).insertionSort NotLater).take cache.excess

/-- The entries that are not chosen. -/
def spared (cache : EtdrCache) (seed : String → Nat) : List (String × CacheEntry) :=
  ((cache.visited seed).insertionSort NotLater).drop cache.excess

theorem chosen_append_spared (cache : EtdrCache) (seed : String → Nat) :
    (cache.chosen seed ++ cache.spared seed).Perm cache.listed := by
  rw [chosen, spared, List.take_append_drop]
  exact (List.perm_insertionSort _ _).trans (cache.visited_perm seed)

/-- Every entry that shares its tag and ticket with a chosen one goes. -/
theorem listed_evictIfNeeded (cache : EtdrCache) (seed : String → Nat) :
    (cache.evictIfNeeded seed).listed =
      cache.listed.filter fun entry =>
        !((cache.chosen seed).map nameOf).contains (nameOf entry) := by
  have all : ∀ (keep : String × CacheEntry → Bool) (data : List (String × List CacheEntry)),
      ((data.map fun kv => (kv.1, kv.2.filter fun entry => keep (kv.1, entry))).filter
          fun kv => !kv.2.isEmpty).flatMap (fun kv => kv.2.map fun entry => (kv.1, entry)) =
        (data.flatMap fun kv => kv.2.map fun entry => (kv.1, entry)).filter keep := by
    intro keep data
    induction data with
    | nil => rfl
    | cons kv data ih =>
      have here : ((kv.2.filter fun entry => keep (kv.1, entry)).map
          fun entry => (kv.1, entry)) = (kv.2.map fun entry => (kv.1, entry)).filter keep := by
        rw [List.filter_map]
        rfl
      rw [List.flatMap_cons, List.filter_append, ← ih, ← here, List.map_cons]
      by_cases empty : (kv.2.filter fun entry => keep (kv.1, entry)) = []
      · rw [List.filter_cons_of_neg (by simp [empty]), empty]
        rfl
      · rw [List.filter_cons_of_pos (by simpa using empty)]
        rfl
  by_cases large : cache.maxTotalEntries < cache.size
  · have evicts : cache.evictIfNeeded seed = { cache with
        data := (cache.data.map fun kv => (kv.1, kv.2.filter fun entry =>
          !((cache.chosen seed).map nameOf).contains (nameOf (kv.1, entry)))).filter
            fun kv => !kv.2.isEmpty } := by
      unfold evictIfNeeded
      exact if_pos large
    rw [evicts]
    exact all (fun entry => !((cache.chosen seed).map nameOf).contains (nameOf entry)) cache.data
  · have none_chosen : cache.chosen seed = [] := by
      rw [chosen, excess, Nat.sub_eq_zero_of_le (not_lt.mp large), List.take_zero]
    rw [evictIfNeeded_of_size_le (not_lt.mp large), none_chosen]
    simp

theorem mem_listed_evictIfNeeded {entry : String × CacheEntry} :
    entry ∈ (cache.evictIfNeeded seed).listed ↔
      entry ∈ cache.listed ∧ ∀ other ∈ cache.chosen seed, nameOf other ≠ nameOf entry := by
  rw [listed_evictIfNeeded, List.mem_filter]
  simp

/-- No chosen entry shares its tag and ticket with one that is not chosen. -/
def Apart (cache : EtdrCache) (seed : String → Nat) : Prop :=
  ∀ entry ∈ cache.chosen seed, ∀ other ∈ cache.spared seed, nameOf entry ≠ nameOf other

/-- As many entries go as there are too many exactly when the chosen ones are apart. -/
theorem size_evictIfNeeded_iff (cache : EtdrCache) (seed : String → Nat) :
    (cache.evictIfNeeded seed).size + cache.excess = cache.size ↔ cache.Apart seed := by
  let keep : String × CacheEntry → Bool := fun entry =>
    !((cache.chosen seed).map nameOf).contains (nameOf entry)
  have perm := cache.chosen_append_spared seed
  have lengths : (cache.chosen seed).length = cache.excess ∧
      (cache.spared seed).length + cache.excess = cache.size := by
    have total : ((cache.visited seed).insertionSort NotLater).length = cache.size := by
      rw [List.length_insertionSort, size_eq_length_listed]
      exact (cache.visited_perm seed).length_eq
    have few : cache.excess ≤ cache.size := Nat.sub_le _ _
    rw [chosen, spared, List.length_take, List.length_drop, total]
    omega
  have left : (cache.evictIfNeeded seed).size = ((cache.spared seed).filter keep).length := by
    have gone : (cache.chosen seed).filter keep = [] := by
      apply List.filter_eq_nil_iff.mpr
      intro entry mem
      have named : nameOf entry ∈ (cache.chosen seed).map nameOf := List.mem_map_of_mem mem
      simp [keep, named]
    rw [size_eq_length_listed, listed_evictIfNeeded, ← (perm.filter keep).length_eq,
      List.filter_append, gone, List.nil_append]
  have all_kept : ((cache.spared seed).filter keep).length = (cache.spared seed).length ↔
      ∀ other ∈ cache.spared seed, keep other = true :=
    List.length_filter_eq_length_iff
  have kept_iff : (∀ other ∈ cache.spared seed, keep other = true) ↔ cache.Apart seed := by
    constructor
    · intro kept entry mem other spared same
      have keeps := kept other spared
      simp only [keep, Bool.not_eq_true', List.contains_eq_mem, decide_eq_false_iff_not] at keeps
      exact keeps (List.mem_map.mpr ⟨entry, mem, same⟩)
    · intro apart other spared
      simp only [keep, Bool.not_eq_true', List.contains_eq_mem, decide_eq_false_iff_not]
      intro mem
      obtain ⟨entry, chosen, same⟩ := List.mem_map.mp mem
      exact apart entry chosen other spared same
  rw [left, ← kept_iff, ← all_kept]
  omega

/-- If the chosen entries are apart, no entry that goes was used later than one that stays. -/
theorem Apart.notLater (apart : cache.Apart seed) {entry other : String × CacheEntry}
    (mem : entry ∈ cache.listed) (gone : entry ∉ (cache.evictIfNeeded seed).listed)
    (stays : other ∈ (cache.evictIfNeeded seed).listed) : NotLater entry other := by
  have sorted : (cache.chosen seed ++ cache.spared seed).Pairwise NotLater := by
    rw [chosen, spared, List.take_append_drop]
    exact List.pairwise_insertionSort _ _
  have perm := cache.chosen_append_spared seed
  rw [mem_listed_evictIfNeeded] at gone stays
  have chosen : entry ∈ cache.chosen seed := by
    by_contra absent
    have spared := (List.mem_append.mp (perm.mem_iff.mpr mem)).resolve_left absent
    exact gone ⟨mem, fun other chosen => apart other chosen entry spared⟩
  have spared : other ∈ cache.spared seed :=
    (List.mem_append.mp (perm.mem_iff.mpr stays.1)).resolve_left
      fun chosen => stays.2 other chosen rfl
  exact (List.pairwise_append.mp sorted).2.2 entry chosen other spared

/-! ### The entry that was put -/

/-- How many entries of the tag stand before a new entry: those with a larger ticket, and those
with the same ticket and a later check-in that the new entry does not replace. -/
def ahead (recs : List CacheEntry) (e : Etdr) : Nat :=
  (recs.eraseP (sameTicket e)).countP fun entry =>
    decide (e.ticketId < entry.etdr.ticketId ∨
      entry.etdr.ticketId = e.ticketId ∧ e.checkinDatetime < entry.createdAt)

/-- Where a new entry is put into the list of its tag before this is sorted. -/
theorem exists_putRecords_eq (recs : List CacheEntry) (e : Etdr) (now : Clock) :
    ∃ before after, putRecords recs e now =
        (before ++ newEntry e now :: after).insertionSort CacheEntry.Before ∧
      recs.eraseP (sameTicket e) = before ++ after ∧
      ∀ entry ∈ before, entry.etdr.ticketId ≠ e.ticketId := by
  have found : ∀ recs : List CacheEntry, recs.any (sameTicket e) = true →
      ∃ before after, modifyFirst (sameTicket e) (fun _ => newEntry e now) recs =
          before ++ newEntry e now :: after ∧
        recs.eraseP (sameTicket e) = before ++ after ∧
        ∀ entry ∈ before, entry.etdr.ticketId ≠ e.ticketId := by
    intro recs some_hit
    induction recs with
    | nil => simp at some_hit
    | cons entry recs ih =>
      by_cases hit : sameTicket e entry = true
      · refine ⟨[], recs, ?_, ?_, by simp⟩
        · simp [modifyFirst, hit]
        · simp [hit]
      · obtain ⟨before, after, changed, erased, others⟩ := ih (by simpa [hit] using some_hit)
        refine ⟨entry :: before, after, ?_, ?_, ?_⟩
        · simp [modifyFirst, hit, changed]
        · simp [hit, erased]
        · intro other mem
          rcases List.mem_cons.mp mem with rfl | mem
          · -- another entry has the ticket, which is not zero, so this one has a different one
            intro same
            obtain ⟨twin, -, twinHit⟩ := List.any_eq_true.mp some_hit
            have nonzero : e.ticketId ≠ 0 := (of_decide_eq_true twinHit).1
            exact hit ((sameTicket_iff nonzero).mpr same)
          · exact others other mem
  by_cases hit : recs.any (sameTicket e) = true
  · obtain ⟨before, after, changed, erased, others⟩ := found recs hit
    refine ⟨before, after, ?_, erased, others⟩
    rw [putRecords, if_pos hit, changed]
  · refine ⟨[], recs, ?_, ?_, by simp⟩
    · rw [putRecords, if_neg hit]
      rfl
    · apply List.eraseP_of_forall_not
      intro entry mem same
      exact hit (List.any_eq_true.mpr ⟨entry, mem, same⟩)

/-- The new entry is in the list of its tag unless too many entries stand before it. -/
theorem newEntry_mem_take_iff (recs : List CacheEntry) (e : Etdr) (now : Clock) (n : Nat) :
    newEntry e now ∈ (putRecords recs e now).take n ↔ ahead recs e < n := by
  obtain ⟨before, after, sorted, erased, others⟩ := exists_putRecords_eq recs e now
  have first : ∀ entry ∈ before, CacheEntry.Before entry (newEntry e now) →
      ¬ CacheEntry.Before (newEntry e now) entry := by
    intro entry mem le ge
    have different := others entry mem
    unfold CacheEntry.Before newEntry at le ge
    dsimp only at le ge
    omega
  rw [sorted, Sorting.mem_take_insertionSort_iff_countP CacheEntry.Before _ n rfl first]
  have strict : ∀ entry : CacheEntry,
      decide (¬ CacheEntry.Before (newEntry e now) entry) =
        decide (e.ticketId < entry.etdr.ticketId ∨
          entry.etdr.ticketId = e.ticketId ∧ e.checkinDatetime < entry.createdAt) := by
    intro entry
    apply decide_eq_decide.mpr
    unfold CacheEntry.Before newEntry
    dsimp only
    omega
  have self : decide (¬ CacheEntry.Before (newEntry e now) (newEntry e now)) = false := by
    rw [strict]
    unfold newEntry
    dsimp only
    simp
  rw [ahead, erased, List.countP_append, List.countP_append, List.countP_cons, self]
  simp only [strict]
  simp

theorem mem_listed {key : String} {entry : CacheEntry} :
    (key, entry) ∈ cache.listed ↔ ∃ recs, (key, recs) ∈ cache.data ∧ entry ∈ recs := by
  simp only [listed, List.mem_flatMap, List.mem_map, Prod.mk.injEq]
  constructor
  · rintro ⟨⟨key', recs⟩, mem, other, inList, rfl, rfl⟩
    exact ⟨recs, mem, inList⟩
  · rintro ⟨recs, mem, inList⟩
    exact ⟨(key, recs), mem, entry, inList, rfl, rfl⟩

/-- The list of a tag is replaced by the new one. -/
theorem mem_listed_setRecords {key : String} {recs : List CacheEntry} {entry : CacheEntry} :
    (key, entry) ∈ (cache.setRecords key recs).listed ↔ entry ∈ recs := by
  rw [mem_listed]
  constructor
  · rintro ⟨recs', mem, inList⟩
    rcases mem_setRecords mem with ⟨-, rfl⟩ | ⟨other, -⟩
    · exact inList
    · exact absurd rfl other
  · intro inList
    refine ⟨recs, ?_, inList⟩
    unfold setRecords
    by_cases known : cache.data.any (·.1 == key) = true
    · rw [if_pos known]
      obtain ⟨kv, mem, same⟩ := List.any_eq_true.mp known
      exact List.mem_map.mpr ⟨kv, mem, if_pos (beq_iff_eq.mp same)⟩
    · rw [if_neg known]
      exact List.mem_cons_self

/-- The new entry is cached, and a read by its ticket finds a record with this ticket while it
is within its time to live: the new one, if no other record has the ticket. -/
def Retrievable (cache : EtdrCache) (e : Etdr) (now : Clock) : Prop :=
  (normalizeEtag e.etagId, newEntry e now) ∈ cache.listed ∧
    ∀ later seed, etdrWithinTtl later e = true →
      ∃ e', (cache.getByTicketId e.ticketId later seed).1 = some e' ∧
        e'.ticketId = e.ticketId ∧
        ((∀ key other, cache.Cached key other → other.ticketId = e.ticketId → other = e) → e' = e)

/-- A cached entry is found by its ticket. -/
theorem retrievable_iff (cache : EtdrCache) (e : Etdr) (now : Clock) :
    cache.Retrievable e now ↔ (normalizeEtag e.etagId, newEntry e now) ∈ cache.listed := by
  constructor
  · exact fun retrievable => retrievable.1
  · intro mem
    refine ⟨mem, fun later seed live => ?_⟩
    obtain ⟨recs, inData, inList⟩ := mem_listed.mp mem
    have isSome : ((cache.getByTicketId e.ticketId later seed).1).isSome := by
      unfold getByTicketId firstTag
      dsimp only
      have hit : recs.any (fun entry : CacheEntry => etdrWithinTtl later entry.etdr &&
          entry.etdr.ticketId == e.ticketId) = true :=
        List.any_eq_true.mpr ⟨newEntry e now, inList, by simp [newEntry, live]⟩
      cases first : (cache.visit seed).find? fun kv => kv.2.any fun entry : CacheEntry =>
          etdrWithinTtl later entry.etdr && entry.etdr.ticketId == e.ticketId with
      | none =>
        have visited : (normalizeEtag e.etagId, recs) ∈ cache.visit seed := by
          rw [visit, List.mem_insertionSort]
          exact inData
        exact absurd hit (List.find?_eq_none.mp first _ visited)
      | some kv =>
        dsimp only
        have live_hit := List.find?_some first
        rw [Option.isSome_map, List.find?_isSome]
        exact List.any_eq_true.mp live_hit
    obtain ⟨e', read⟩ := Option.isSome_iff_exists.mp isSome
    obtain ⟨⟨key, cached⟩, ticket⟩ := getByTicketId_cached read
    exact ⟨e', read, ticket, fun only => only key e' cached ticket⟩

/-! ### What an eviction should do -/

/-- How many entries of a tag have a larger ticket. -/
def larger (recs : List CacheEntry) (e : Etdr) : Nat :=
  recs.countP fun entry => decide (e.ticketId < entry.etdr.ticketId)

/-- As many entries go as there are too many, none that was used later than one that stays, and
the new entry stays, if the limits have room for it. -/
structure EvictsExactly (cache : EtdrCache) (e : Etdr) (now : Clock) (seed : String → Nat) :
    Prop where
  removes : (cache.put e now seed).listed.Sublist (cache.stored e now).listed
  count : (cache.put e now seed).size + (cache.stored e now).excess = (cache.stored e now).size
  oldest : ∀ entry ∈ (cache.stored e now).listed, entry ∉ (cache.put e now seed).listed →
    ∀ other ∈ (cache.put e now seed).listed, entry.2.lastAccess ≤ other.2.lastAccess
  retrievable : 1 ≤ cache.maxTotalEntries →
    larger (cache.records (normalizeEtag e.etagId)) e < cache.maxEntriesPerEtag →
      (cache.put e now seed).Retrievable e now

/-- The entry at a position of the hash map is one of the least recently used ones that are too
many: fewer others were used before it, or at the same time and are visited first. -/
def Surplus (cache : EtdrCache) (seed : String → Nat) (i : Fin (cache.visited seed).length) :
    Prop :=
  Sorting.rank NotLater (cache.visited seed) i < cache.excess

/-- Of the entries of a tag with one ticket, either all or none are surplus. -/
def TicketsTogether (cache : EtdrCache) (seed : String → Nat) : Prop :=
  ∀ i j, nameOf ((cache.visited seed).get i) = nameOf ((cache.visited seed).get j) →
    cache.Surplus seed i → cache.Surplus seed j

/-- If the limits have room for the new record, fewer entries of its tag stand before it than
the tag may have, and none with its ticket is surplus. -/
def NewestKept (cache : EtdrCache) (e : Etdr) (now : Clock) (seed : String → Nat) : Prop :=
  1 ≤ cache.maxTotalEntries →
    larger (cache.records (normalizeEtag e.etagId)) e < cache.maxEntriesPerEtag →
      ahead (cache.records (normalizeEtag e.etagId)) e < cache.maxEntriesPerEtag ∧
        ∀ i, nameOf (((cache.stored e now).visited seed).get i) =
          (normalizeEtag e.etagId, e.ticketId) → ¬ (cache.stored e now).Surplus seed i

theorem mem_chosen_iff {entry : String × CacheEntry} :
    entry ∈ cache.chosen seed ↔
      ∃ i, (cache.visited seed).get i = entry ∧ cache.Surplus seed i :=
  Sorting.mem_take_insertionSort_iff _ _ _ _

theorem mem_spared_iff {entry : String × CacheEntry} :
    entry ∈ cache.spared seed ↔
      ∃ i, (cache.visited seed).get i = entry ∧ ¬ cache.Surplus seed i := by
  rw [spared, Sorting.mem_drop_insertionSort_iff]
  simp only [Surplus, not_lt]

theorem apart_iff : cache.Apart seed ↔ cache.TicketsTogether seed := by
  constructor
  · intro apart i j same surplus
    by_contra kept
    exact apart _ (mem_chosen_iff.mpr ⟨i, rfl, surplus⟩) _ (mem_spared_iff.mpr ⟨j, rfl, kept⟩) same
  · intro together entry chosen other spared same
    obtain ⟨i, rfl, surplus⟩ := mem_chosen_iff.mp chosen
    obtain ⟨j, rfl, kept⟩ := mem_spared_iff.mp spared
    exact kept (together i j same surplus)

/-- The new entry is found afterwards unless it is cut off or shares its name with a surplus
entry. -/
theorem retrievable_put_iff (cache : EtdrCache) (e : Etdr) (now : Clock) (seed : String → Nat) :
    (cache.put e now seed).Retrievable e now ↔
      ahead (cache.records (normalizeEtag e.etagId)) e < cache.maxEntriesPerEtag ∧
        ∀ i, nameOf (((cache.stored e now).visited seed).get i) =
          (normalizeEtag e.etagId, e.ticketId) → ¬ (cache.stored e now).Surplus seed i := by
  rw [retrievable_iff, put_eq, mem_listed_evictIfNeeded, stored, mem_listed_setRecords,
    newEntry_mem_take_iff]
  apply and_congr Iff.rfl
  constructor
  · intro unnamed i same surplus
    exact unnamed _ (mem_chosen_iff.mpr ⟨i, rfl, surplus⟩) same
  · intro kept other chosen same
    obtain ⟨i, rfl, surplus⟩ := mem_chosen_iff.mp chosen
    exact kept i same surplus

/-- For every cache, record, clock and order of the hash map: the eviction of a `put` removes
exactly what it should, and leaves the new entry, if and only if entries of one tag and ticket
are surplus together and the new entry is neither cut off nor surplus. -/
theorem evictsExactly_iff (cache : EtdrCache) (e : Etdr) (now : Clock) (seed : String → Nat) :
    cache.EvictsExactly e now seed ↔
      (cache.stored e now).TicketsTogether seed ∧ cache.NewestKept e now seed := by
  constructor
  · rintro ⟨-, count, -, retrievable⟩
    constructor
    · exact apart_iff.mp ((size_evictIfNeeded_iff _ _).mp count)
    · intro room few
      exact (retrievable_put_iff cache e now seed).mp (retrievable room few)
  · rintro ⟨together, newest⟩
    have apart := apart_iff.mpr together
    constructor
    · rw [put_eq, listed_evictIfNeeded]
      exact List.filter_sublist
    · exact (size_evictIfNeeded_iff _ _).mpr apart
    · intro entry mem gone other stays
      exact apart.notLater mem gone stays
    · intro room few
      exact (retrievable_put_iff cache e now seed).mpr (newest room few)

/-- A cache for two entries with two records of a tag that have no ticket yet. -/
def twoWithoutTicket : EtdrCache where
  data := [("A", [⟨{ etagId := "A", checkinDatetime := 1000 }, 1000, 1000⟩,
    ⟨{ etagId := "A", checkinDatetime := 500 }, 500, 2000⟩])]
  maxTotalEntries := 2

/-- One entry is too many after the put, and both records without a ticket go. -/
theorem eviction_removes_both : ¬ ∀ (cache : EtdrCache) (e : Etdr) (now : Clock)
    (seed : String → Nat), cache.EvictsExactly e now seed := by
  intro all
  have count := (all twoWithoutTicket { etagId := "B", ticketId := 11, checkinDatetime := 3000 }
    ⟨3000, by decide⟩ fun _ => 0).count
  revert count
  decide +kernel

end EtdrCache

end TollBackend

import TollBackend.Etdr.Convert

/-!
# The cache of records

`ETDRCache`: for each tag a list of entries, newest ticket first. Every operation is a
function of the cache, of the clock, and of `seed`, which ranks the tags in the order the
hash map happens to visit them.

## Main definitions

* `EtdrCache.put`, `EtdrCache.evictIfNeeded`: the write, and the bound on the total size.
* `EtdrCache.getLatestCheckin`, `getAllByEtag`, `getByTicketId`: the reads.
* `EtdrCache.updateEtdr`, `removeByTicketId`, `updateHubIdByTicketId`: the other updates.
* `EtdrCache.Cached`: a record is stored under a tag.
* `EtdrCache.WellFormed`: keys and nonzero tickets are unique, and a record stands under its
  own tag.

## Main results

* `EtdrCache.put_cached`: what is stored after a write.
* `EtdrCache.WellFormed.put`, and its companions: the operations keep the cache well formed.
-/

namespace TollBackend

/-- Apply `f` to the first element that satisfies `p`. -/
def modifyFirst {α : Type} (p : α → Bool) (f : α → α) : List α → List α
  | [] => []
  | a :: as => if p a then f a :: as else a :: modifyFirst p f as

theorem mem_modifyFirst {α : Type} {p : α → Bool} {f : α → α} {l : List α} {b : α}
    (mem : b ∈ modifyFirst p f l) : b ∈ l ∨ ∃ a ∈ l, p a = true ∧ b = f a := by
  induction l with
  | nil => simp [modifyFirst] at mem
  | cons a as ih =>
    unfold modifyFirst at mem
    split at mem
    · next hit =>
      rcases List.mem_cons.mp mem with rfl | mem
      · exact .inr ⟨a, List.mem_cons_self, hit, rfl⟩
      · exact .inl (List.mem_cons_of_mem _ mem)
    · next miss =>
      rcases List.mem_cons.mp mem with rfl | mem
      · exact .inl List.mem_cons_self
      · rcases ih mem with old | ⟨c, inTail, hit, rfl⟩
        · exact .inl (List.mem_cons_of_mem _ old)
        · exact .inr ⟨c, List.mem_cons_of_mem _ inTail, hit, rfl⟩

theorem map_modifyFirst {α β : Type} {p : α → Bool} {f : α → α} {g : α → β}
    (same : ∀ a, p a = true → g (f a) = g a) (l : List α) :
    (modifyFirst p f l).map g = l.map g := by
  induction l with
  | nil => rfl
  | cons a as ih =>
    unfold modifyFirst
    split
    · next hit => simp [same a hit]
    · simp [ih]

/-- When the elements of a list are told apart by `g`, the one that `modifyFirst` changed was
the only one of its kind. -/
theorem modifyFirst_unique {α β : Type} {p : α → Bool} {f : α → α} {g : α → β} {l : List α}
    {b : α} {v : β} (distinct : (l.map g).Pairwise fun x y => x = y → x ≠ v)
    (hit : ∀ a, p a = true ↔ g a = v) (some_hit : l.any p = true) (mem : b ∈ modifyFirst p f l)
    (hb : g b = v) : ∃ a ∈ l, p a = true ∧ b = f a := by
  induction l with
  | nil => simp at some_hit
  | cons a as ih =>
    rw [List.map_cons, List.pairwise_cons] at distinct
    unfold modifyFirst at mem
    split at mem
    · next ha =>
      rcases List.mem_cons.mp mem with rfl | inTail
      · exact ⟨a, List.mem_cons_self, ha, rfl⟩
      · exact absurd ((hit a).mp ha)
          (distinct.1 (g b) (List.mem_map_of_mem inTail) (((hit a).mp ha).trans hb.symm))
    · next ha =>
      have tail_hit : as.any p = true := by simpa [ha] using some_hit
      rcases List.mem_cons.mp mem with rfl | inTail
      · exact absurd ((hit b).mpr hb) ha
      · obtain ⟨c, hc, hit_c, rfl⟩ := ih distinct.2 tail_hit inTail
        exact ⟨c, List.mem_cons_of_mem _ hc, hit_c, rfl⟩

/-- An entry of the cache. -/
structure CacheEntry where
  etdr : Etdr
  createdAt : Int
  lastAccess : Int

/-- The cache, with its two limits. -/
structure EtdrCache where
  data : List (String × List CacheEntry) := []
  maxEntriesPerEtag : Nat := 100
  maxTotalEntries : Nat := 10000

/-- `constants::etdr::ETDR_TTL_MS`. -/
def etdrTtlMs : Int := 3600000

/-- A record lives for an hour after its checkout, and without limit before it. -/
def etdrWithinTtl (now : Clock) (etdr : Etdr) : Bool :=
  decide (etdr.checkoutDatetime = 0 ∨ now.ms - etdr.checkoutDatetime ≤ etdrTtlMs)

namespace CacheEntry

/-- A read of the entry at `now`. -/
def touch (now : Clock) (entry : CacheEntry) : CacheEntry :=
  { entry with lastAccess := now.ms }

@[simp] theorem touch_etdr (now : Clock) (entry : CacheEntry) :
    (entry.touch now).etdr = entry.etdr := rfl

/-- The order of a tag's list: larger tickets first, then later check-ins. -/
def Before (a b : CacheEntry) : Prop :=
  b.etdr.ticketId < a.etdr.ticketId ∨
    b.etdr.ticketId = a.etdr.ticketId ∧ b.createdAt ≤ a.createdAt

instance : DecidableRel Before := fun a b => by
  unfold Before; infer_instance

end CacheEntry

instance : Std.Total CacheEntry.Before where
  total a b := by
    unfold CacheEntry.Before
    omega

instance : IsTrans CacheEntry CacheEntry.Before where
  trans a b c ab bc := by
    unfold CacheEntry.Before at *
    omega

namespace EtdrCache

/-! ### Operations -/

/-- The entries of a tag. -/
def records (cache : EtdrCache) (key : String) : List CacheEntry :=
  (cache.data.lookup key).getD []

/-- Replace the entries of a tag, which may be new. -/
def setRecords (cache : EtdrCache) (key : String) (recs : List CacheEntry) : EtdrCache :=
  { cache with
    data := if cache.data.any (·.1 == key)
      then cache.data.map fun kv => if kv.1 = key then (key, recs) else kv
      else (key, recs) :: cache.data }

/-- The tags in the order the hash map visits them. -/
def visit (cache : EtdrCache) (seed : String → Nat) : List (String × List CacheEntry) :=
  cache.data.insertionSort fun a b => seed a.1 ≤ seed b.1

/-- `evict_if_needed`: when the cache is too large, the least recently used entries name
tickets, and every entry of the same tag with such a ticket goes. -/
def evictIfNeeded (cache : EtdrCache) (seed : String → Nat) : EtdrCache :=
  let total := (cache.data.map fun kv => kv.2.length).sum
  if cache.maxTotalEntries < total then
    let allEntries := (cache.visit seed).flatMap fun kv => kv.2.map fun entry => (kv.1, entry)
    let byAge := allEntries.insertionSort fun a b => a.2.lastAccess ≤ b.2.lastAccess
    let doomed := (byAge.take (total - cache.maxTotalEntries)).map fun ke =>
      (ke.1, ke.2.etdr.ticketId)
    { cache with
      data := (cache.data.map fun kv =>
        (kv.1, kv.2.filter fun entry => !doomed.contains (kv.1, entry.etdr.ticketId))).filter
          fun kv => !kv.2.isEmpty }
  else cache

/-- The entry `put` creates or replaces an older one with. -/
def newEntry (etdr : Etdr) (now : Clock) : CacheEntry :=
  ⟨etdr, etdr.checkinDatetime, now.ms⟩

/-- Whether `put etdr` replaces this entry: the same ticket, not zero. -/
def sameTicket (etdr : Etdr) (entry : CacheEntry) : Bool :=
  decide (etdr.ticketId ≠ 0 ∧ entry.etdr.ticketId = etdr.ticketId)

/-- The list of the tag after `put`, before it is bounded. -/
def putRecords (recs : List CacheEntry) (etdr : Etdr) (now : Clock) : List CacheEntry :=
  List.insertionSort CacheEntry.Before
    (if recs.any (sameTicket etdr) then
      modifyFirst (sameTicket etdr) (fun _ => newEntry etdr now) recs
    else newEntry etdr now :: recs)

/-- `ETDRCache::put`. -/
def put (cache : EtdrCache) (etdr : Etdr) (now : Clock) (seed : String → Nat) : EtdrCache :=
  let key := normalizeEtag etdr.etagId
  let recs := (putRecords (cache.records key) etdr now).take cache.maxEntriesPerEtag
  (cache.setRecords key recs).evictIfNeeded seed

/-- Change the first entry of a tag that satisfies `p`. -/
def modifyEntry (cache : EtdrCache) (key : String) (p : CacheEntry → Bool)
    (f : CacheEntry → CacheEntry) : EtdrCache :=
  { cache with
    data := cache.data.map fun kv =>
      if kv.1 = key then (kv.1, modifyFirst p f kv.2) else kv }

/-- `ETDRCache::get_latest_checkin`: the first entry of the tag within its time to live. -/
def getLatestCheckin (cache : EtdrCache) (etag : String) (now : Clock) :
    Option Etdr × EtdrCache :=
  let key := normalizeEtag etag
  let live := fun entry : CacheEntry => etdrWithinTtl now entry.etdr
  (((cache.records key).find? live).map (·.etdr), cache.modifyEntry key live (·.touch now))

/-- `ETDRCache::get_all_by_etag`. -/
def getAllByEtag (cache : EtdrCache) (etag : String) (now : Clock) : List Etdr × EtdrCache :=
  let key := normalizeEtag etag
  let live := fun entry : CacheEntry => etdrWithinTtl now entry.etdr
  (((cache.records key).filter live).map (·.etdr),
    { cache with
      data := cache.data.map fun kv =>
        if kv.1 = key then (kv.1, kv.2.map fun e => if live e then e.touch now else e) else kv })

/-- `ETDRCache::update_etdr`. -/
def updateEtdr (cache : EtdrCache) (etag : String) (refTransId : Int) (updater : Etdr → Etdr)
    (now : Clock) : EtdrCache :=
  cache.modifyEntry (normalizeEtag etag) (fun entry => entry.etdr.refTransId == refTransId)
    fun entry => { entry with etdr := updater entry.etdr, lastAccess := now.ms }

/-- The first tag, in the order of the map, with an entry that satisfies `p`. -/
def firstTag (cache : EtdrCache) (seed : String → Nat) (p : CacheEntry → Bool) :
    Option (String × List CacheEntry) :=
  (cache.visit seed).find? fun kv => kv.2.any p

/-- `ETDRCache::get_by_ticket_id`: the first such entry of any tag. -/
def getByTicketId (cache : EtdrCache) (ticketId : Int) (now : Clock) (seed : String → Nat) :
    Option Etdr × EtdrCache :=
  let p := fun entry : CacheEntry =>
    etdrWithinTtl now entry.etdr && entry.etdr.ticketId == ticketId
  match cache.firstTag seed p with
  | none => (none, cache)
  | some (key, recs) => ((recs.find? p).map (·.etdr), cache.modifyEntry key p (·.touch now))

/-- `ETDRCache::update_hub_id_by_ticket_id`, with the record it changed. -/
def updateHubIdByTicketId (cache : EtdrCache) (ticketId hubId : Int) (now : Clock)
    (seed : String → Nat) : Option Etdr × EtdrCache :=
  let p := fun entry : CacheEntry => entry.etdr.ticketId == ticketId
  let setHubId := fun entry : CacheEntry =>
    { entry with etdr := { entry.etdr with hubId := some hubId }, lastAccess := now.ms }
  match cache.firstTag seed p with
  | none => (none, cache)
  | some (key, recs) =>
      ((recs.find? p).map fun entry => (setHubId entry).etdr, cache.modifyEntry key p setHubId)

/-- `ETDRCache::remove_by_ticket_id`: only the first tag that has the ticket loses it. -/
def removeByTicketId (cache : EtdrCache) (ticketId : Int) (seed : String → Nat) : EtdrCache :=
  if ticketId = 0 then cache
  else
    match cache.firstTag seed fun entry => entry.etdr.ticketId == ticketId with
    | none => cache
    | some (key, _) =>
        { cache with
          data := (cache.data.map fun kv =>
            if kv.1 = key then
              (kv.1, kv.2.filter fun entry => entry.etdr.ticketId != ticketId)
            else kv).filter fun kv => !kv.2.isEmpty }

/-- `ETDRCache::get_all_unsaved_etdrs`, with the tag of each record. -/
def getAllUnsavedEtdrs (cache : EtdrCache) (now : Clock) (seed : String → Nat) :
    List (String × Etdr) :=
  (cache.visit seed).flatMap fun kv =>
    (kv.2.filter fun entry => etdrWithinTtl now entry.etdr && !entry.etdr.dbSaved).map
      fun entry => (kv.1, entry.etdr)

/-! ### What is stored -/

/-- The record `e` is stored under the tag `key`. -/
def Cached (cache : EtdrCache) (key : String) (e : Etdr) : Prop :=
  ∃ recs, (key, recs) ∈ cache.data ∧ ∃ entry ∈ recs, entry.etdr = e

variable {cache : EtdrCache} {key : String} {e e' : Etdr}

instance {P : Etdr → Prop} [DecidablePred P] (cache : EtdrCache) (key : String) :
    Decidable (∀ e, cache.Cached key e → P e) :=
  decidable_of_iff (∀ kv ∈ cache.data, kv.1 = key → ∀ entry ∈ kv.2, P entry.etdr)
    ⟨by rintro all e ⟨recs, inData, entry, mem, rfl⟩; exact all _ inData rfl entry mem,
      by rintro all kv inData rfl entry mem; exact all _ ⟨kv.2, inData, entry, mem, rfl⟩⟩

theorem cached_of_mem_records {entry : CacheEntry} (mem : entry ∈ cache.records key) :
    cache.Cached key entry.etdr := by
  unfold records at mem
  cases found : cache.data.lookup key with
  | none => simp [found] at mem
  | some recs =>
    simp only [found, Option.getD_some] at mem
    obtain ⟨before, after, split, -⟩ := List.lookup_eq_some_iff.mp found
    exact ⟨recs, by simp [split], entry, mem, rfl⟩

theorem mem_setRecords {recs recs' : List CacheEntry} {k : String}
    (mem : (k, recs') ∈ (cache.setRecords key recs).data) :
    (k = key ∧ recs' = recs) ∨ (k ≠ key ∧ (k, recs') ∈ cache.data) := by
  simp only [setRecords] at mem
  split at mem
  · obtain ⟨kv, inData, eq⟩ := List.mem_map.mp mem
    split at eq
    · cases eq
      exact .inl ⟨rfl, rfl⟩
    · next ne =>
      subst eq
      exact .inr ⟨ne, inData⟩
  · next absent =>
    rcases List.mem_cons.mp mem with eq | inData
    · cases eq
      exact .inl ⟨rfl, rfl⟩
    · refine .inr ⟨?_, inData⟩
      rintro rfl
      exact absent (List.any_eq_true.mpr ⟨_, inData, by simp⟩)

theorem evictIfNeeded_cached {seed : String → Nat}
    (cached : (cache.evictIfNeeded seed).Cached key e) : cache.Cached key e := by
  obtain ⟨recs, inData, entry, mem, rfl⟩ := cached
  simp only [evictIfNeeded] at inData
  split at inData
  · obtain ⟨kv, old, eq⟩ := List.mem_map.mp (List.mem_filter.mp inData).1
    cases eq
    exact ⟨kv.2, old, entry, (List.mem_filter.mp mem).1, rfl⟩
  · exact ⟨recs, inData, entry, mem, rfl⟩

/-! ### Well-formed caches -/

/-- No nonzero ticket occurs twice in a tag's list. -/
def TicketsUnique (recs : List CacheEntry) : Prop :=
  (recs.map fun entry => entry.etdr.ticketId).Pairwise fun s t => s = t → s = 0

/-- The shape every operation keeps: one list for each tag, one entry for each ticket of a
tag, and each record under its own tag. -/
structure WellFormed (cache : EtdrCache) : Prop where
  keys : (cache.data.map (·.1)).Nodup
  tickets : ∀ kv ∈ cache.data, TicketsUnique kv.2
  tagged : ∀ kv ∈ cache.data, ∀ entry ∈ kv.2, normalizeEtag entry.etdr.etagId = kv.1

theorem WellFormed.empty (m n : Nat) : WellFormed { maxEntriesPerEtag := m, maxTotalEntries := n } :=
  ⟨List.nodup_nil, by simp, by simp⟩

theorem TicketsUnique.sublist {recs recs' : List CacheEntry} (unique : TicketsUnique recs)
    (sub : recs'.Sublist recs) : TicketsUnique recs' :=
  List.Pairwise.sublist (sub.map _) unique

theorem TicketsUnique.perm {recs recs' : List CacheEntry} (unique : TicketsUnique recs)
    (perm : recs'.Perm recs) : TicketsUnique recs' := by
  refine (List.Perm.pairwise_iff ?_ (perm.map _)).mpr unique
  intro s t zero eq
  rw [eq, zero eq.symm]

theorem TicketsUnique.eq {recs : List CacheEntry} (unique : TicketsUnique recs)
    {a b : CacheEntry} (ha : a ∈ recs) (hb : b ∈ recs)
    (same : a.etdr.ticketId = b.etdr.ticketId) (ne : a.etdr.ticketId ≠ 0) : a = b := by
  induction recs with
  | nil => simp at ha
  | cons c rest ih =>
    obtain ⟨head, tail⟩ := List.pairwise_cons.mp unique
    rcases List.mem_cons.mp ha with rfl | inTail <;> rcases List.mem_cons.mp hb with rfl | inTail'
    · rfl
    · exact absurd (head _ (List.mem_map_of_mem inTail') same) ne
    · exact absurd (same.trans (head _ (List.mem_map_of_mem inTail) same.symm)) ne
    · exact ih tail inTail inTail'

theorem WellFormed.records_unique (wf : cache.WellFormed) (key : String) :
    TicketsUnique (cache.records key) := by
  unfold records
  cases found : cache.data.lookup key with
  | none => exact List.Pairwise.nil
  | some recs =>
    obtain ⟨before, after, split, -⟩ := List.lookup_eq_some_iff.mp found
    exact wf.tickets (key, recs) (by simp [split])

/-- A well-formed cache stores at most one record for a tag and a nonzero ticket. -/
theorem WellFormed.eq_of_ticketId (wf : cache.WellFormed) (cached : cache.Cached key e)
    (cached' : cache.Cached key e') (same : e.ticketId = e'.ticketId) (ne : e.ticketId ≠ 0) :
    e = e' := by
  obtain ⟨recs, inData, entry, mem, rfl⟩ := cached
  obtain ⟨recs', inData', entry', mem', rfl⟩ := cached'
  have lists : recs = recs' := by
    have := List.inj_on_of_nodup_map wf.keys inData inData' rfl
    exact (Prod.mk.inj this).2
  subst lists
  rw [(wf.tickets _ inData).eq mem mem' same ne]

/-- A record of a well-formed cache stands under its own tag. -/
theorem WellFormed.key_eq (wf : cache.WellFormed) (cached : cache.Cached key e) :
    normalizeEtag e.etagId = key := by
  obtain ⟨recs, inData, entry, mem, rfl⟩ := cached
  exact wf.tagged _ inData entry mem

/-! ### The write -/

section Put

variable {recs : List CacheEntry} {now : Clock} {seed : String → Nat} {entry : CacheEntry}

theorem mem_putRecords (mem : entry ∈ putRecords recs e now) :
    entry = newEntry e now ∨ entry ∈ recs := by
  rw [putRecords, List.mem_insertionSort] at mem
  split at mem
  · rcases mem_modifyFirst mem with old | ⟨_, _, _, rfl⟩
    · exact .inr old
    · exact .inl rfl
  · exact List.mem_cons.mp mem

theorem sameTicket_iff (ne : e.ticketId ≠ 0) :
    sameTicket e entry = true ↔ entry.etdr.ticketId = e.ticketId := by
  simp [sameTicket, ne]

/-- In a list without repeated tickets, `put` leaves the ticket to the new record alone. -/
theorem eq_newEntry_of_mem_putRecords (unique : TicketsUnique recs) (ne : e.ticketId ≠ 0)
    (mem : entry ∈ putRecords recs e now) (same : entry.etdr.ticketId = e.ticketId) :
    entry = newEntry e now := by
  rw [putRecords, List.mem_insertionSort] at mem
  split at mem
  · next found =>
    have distinct : (recs.map fun entry => entry.etdr.ticketId).Pairwise
        fun x y => x = y → x ≠ e.ticketId :=
      unique.imp fun zero eq => by rw [zero eq]; exact ne.symm
    obtain ⟨_, _, _, rfl⟩ := modifyFirst_unique distinct (fun _ => sameTicket_iff ne) found mem same
    rfl
  · next absent =>
    rcases List.mem_cons.mp mem with rfl | old
    · rfl
    · exact absurd (List.any_eq_true.mpr ⟨entry, old, (sameTicket_iff ne).mpr same⟩) absent

theorem TicketsUnique.putRecords (unique : TicketsUnique recs) :
    TicketsUnique (putRecords recs e now) := by
  refine TicketsUnique.perm ?_ (List.perm_insertionSort _ _)
  split
  · unfold TicketsUnique
    rw [map_modifyFirst]
    · exact unique
    · intro a hit
      simp only [sameTicket, decide_eq_true_eq] at hit
      exact hit.2.symm
  · next absent =>
    refine List.pairwise_cons.mpr ⟨?_, unique⟩
    intro t mem same
    obtain ⟨a, ha, rfl⟩ := List.mem_map.mp mem
    by_contra ne
    exact absent (List.any_eq_true.mpr ⟨a, ha, (sameTicket_iff ne).mpr same.symm⟩)

/-- After `put`, a stored record is the new one under its own tag, or an old one. -/
theorem put_cached (cached : (cache.put e now seed).Cached key e') :
    (key = normalizeEtag e.etagId ∧ e' = e) ∨ cache.Cached key e' := by
  obtain ⟨recs, inData, entry, mem, rfl⟩ := evictIfNeeded_cached cached
  rcases mem_setRecords inData with ⟨rfl, rfl⟩ | ⟨-, old⟩
  · rcases mem_putRecords (List.mem_of_mem_take mem) with rfl | old
    · exact .inl ⟨rfl, rfl⟩
    · exact .inr (cached_of_mem_records old)
  · exact .inr ⟨recs, old, entry, mem, rfl⟩

/-- After `put` in a well-formed cache, the ticket of the new record has no other record under
its tag. -/
theorem WellFormed.eq_of_put_cached (wf : cache.WellFormed) (ne : e.ticketId ≠ 0)
    (cached : (cache.put e now seed).Cached (normalizeEtag e.etagId) e')
    (same : e'.ticketId = e.ticketId) : e' = e := by
  obtain ⟨recs, inData, entry, mem, rfl⟩ := evictIfNeeded_cached cached
  rcases mem_setRecords inData with ⟨-, rfl⟩ | ⟨ne', -⟩
  · rw [eq_newEntry_of_mem_putRecords (wf.records_unique _) ne (List.mem_of_mem_take mem) same]
    rfl
  · exact absurd rfl ne'

theorem WellFormed.evictIfNeeded (wf : cache.WellFormed) (seed : String → Nat) :
    (cache.evictIfNeeded seed).WellFormed := by
  unfold EtdrCache.evictIfNeeded
  dsimp only
  split
  · refine ⟨?_, ?_, ?_⟩
    · refine List.Nodup.sublist (List.filter_sublist.map _) ?_
      simpa [Function.comp_def] using wf.keys
    · intro kv mem
      obtain ⟨kv, old, rfl⟩ := List.mem_map.mp (List.mem_filter.mp mem).1
      exact (wf.tickets kv old).sublist List.filter_sublist
    · intro kv mem entry inList
      obtain ⟨kv, old, rfl⟩ := List.mem_map.mp (List.mem_filter.mp mem).1
      exact wf.tagged kv old entry (List.mem_filter.mp inList).1
  · exact wf

theorem WellFormed.setRecords (wf : cache.WellFormed) (unique : TicketsUnique recs)
    (tagged : ∀ entry ∈ recs, normalizeEtag entry.etdr.etagId = key) :
    (cache.setRecords key recs).WellFormed := by
  refine ⟨?_, ?_, ?_⟩
  · unfold EtdrCache.setRecords
    dsimp only
    split
    · have keys : (cache.data.map fun kv => if kv.1 = key then (key, recs) else kv).map (·.1) =
          cache.data.map (·.1) := by
        rw [List.map_map]
        refine List.map_congr_left fun kv _ => ?_
        simp only [Function.comp]
        split
        · next eq => exact eq.symm
        · rfl
      rw [keys]
      exact wf.keys
    · next absent =>
      refine List.nodup_cons.mpr ⟨?_, wf.keys⟩
      intro mem
      obtain ⟨kv, inData, eq⟩ := List.mem_map.mp mem
      exact absent (List.any_eq_true.mpr ⟨kv, inData, by simpa using eq⟩)
  · rintro ⟨k, recs'⟩ mem
    rcases mem_setRecords mem with ⟨-, rfl⟩ | ⟨-, old⟩
    · exact unique
    · exact wf.tickets _ old
  · rintro ⟨k, recs'⟩ mem entry inList
    rcases mem_setRecords mem with ⟨rfl, rfl⟩ | ⟨-, old⟩
    · exact tagged entry inList
    · exact wf.tagged _ old entry inList

theorem WellFormed.put (wf : cache.WellFormed) (e : Etdr) (now : Clock) (seed : String → Nat) :
    (cache.put e now seed).WellFormed := by
  refine (wf.setRecords ((wf.records_unique _).putRecords.sublist (List.take_sublist _ _))
    ?_).evictIfNeeded seed
  intro entry mem
  rcases mem_putRecords (List.mem_of_mem_take mem) with rfl | old
  · rfl
  · exact wf.key_eq (cached_of_mem_records old)

end Put

/-! ### The other updates -/

section Modify

variable {now : Clock} {seed : String → Nat} {k : String} {p : CacheEntry → Bool}
variable {f : CacheEntry → CacheEntry}

theorem modifyEntry_cached (cached : (cache.modifyEntry key p f).Cached k e') :
    cache.Cached k e' ∨
      ∃ entry, k = key ∧ cache.Cached key entry.etdr ∧ p entry = true ∧ e' = (f entry).etdr := by
  obtain ⟨recs, inData, entry, mem, rfl⟩ := cached
  obtain ⟨kv, old, eq⟩ := List.mem_map.mp inData
  split at eq
  · next here =>
    cases eq
    rcases mem_modifyFirst mem with inList | ⟨a, inList, hit, rfl⟩
    · exact .inl ⟨kv.2, old, entry, inList, rfl⟩
    · exact .inr ⟨a, here, ⟨kv.2, here ▸ old, a, inList, rfl⟩, hit, rfl⟩
  · cases eq
    exact .inl ⟨recs, old, entry, mem, rfl⟩

/-- An update that changes only bookkeeping stores the same records. -/
theorem modifyEntry_cached_same (same : ∀ entry, (f entry).etdr = entry.etdr)
    (cached : (cache.modifyEntry key p f).Cached k e') : cache.Cached k e' := by
  rcases modifyEntry_cached cached with old | ⟨entry, rfl, old, -, rfl⟩
  · exact old
  · rw [same]
    exact old

theorem WellFormed.modifyEntry (wf : cache.WellFormed)
    (ticket : ∀ entry, (f entry).etdr.ticketId = entry.etdr.ticketId)
    (etag : ∀ entry, (f entry).etdr.etagId = entry.etdr.etagId) :
    (cache.modifyEntry key p f).WellFormed := by
  refine ⟨?_, ?_, ?_⟩
  · have keys : (cache.modifyEntry key p f).data.map (·.1) = cache.data.map (·.1) := by
      simp only [EtdrCache.modifyEntry, List.map_map]
      refine List.map_congr_left fun kv _ => ?_
      simp only [Function.comp]
      split <;> rfl
    rw [keys]
    exact wf.keys
  · intro kv mem
    obtain ⟨kv, old, rfl⟩ := List.mem_map.mp mem
    split
    · unfold TicketsUnique
      rw [map_modifyFirst fun a _ => ticket a]
      exact wf.tickets kv old
    · exact wf.tickets kv old
  · intro kv mem entry inList
    obtain ⟨kv, old, rfl⟩ := List.mem_map.mp mem
    split at inList
    · next here =>
      rw [if_pos here]
      rcases mem_modifyFirst inList with same | ⟨a, inOld, -, rfl⟩
      · exact wf.tagged kv old entry same
      · rw [etag]
        exact wf.tagged kv old a inOld
    · next elsewhere =>
      rw [if_neg elsewhere]
      exact wf.tagged kv old entry inList

theorem getLatestCheckin_cached {etag : String}
    (read : (cache.getLatestCheckin etag now).1 = some e) :
    cache.Cached (normalizeEtag etag) e := by
  obtain ⟨entry, found, rfl⟩ := Option.map_eq_some_iff.mp read
  exact cached_of_mem_records (List.mem_of_find?_eq_some found)

theorem getAllByEtag_cached {etag : String} (read : e ∈ (cache.getAllByEtag etag now).1) :
    cache.Cached (normalizeEtag etag) e := by
  obtain ⟨entry, mem, rfl⟩ := List.mem_map.mp read
  exact cached_of_mem_records (List.mem_filter.mp mem).1

theorem mem_data_of_firstTag {kv : String × List CacheEntry}
    (found : cache.firstTag seed p = some kv) : kv ∈ cache.data ∧ kv.2.any p = true := by
  unfold firstTag at found
  have mem := List.mem_of_find?_eq_some found
  have hit := List.find?_some found
  rw [visit, List.mem_insertionSort] at mem
  exact ⟨mem, hit⟩

theorem getByTicketId_cached {ticketId : Int}
    (read : (cache.getByTicketId ticketId now seed).1 = some e) :
    (∃ k, cache.Cached k e) ∧ e.ticketId = ticketId := by
  simp only [getByTicketId] at read
  split at read
  · simp at read
  · next key recs found =>
    obtain ⟨entry, first, rfl⟩ := Option.map_eq_some_iff.mp read
    have hit := List.find?_some first
    simp only [Bool.and_eq_true, beq_iff_eq] at hit
    exact ⟨⟨key, recs, (mem_data_of_firstTag found).1, entry, List.mem_of_find?_eq_some first,
      rfl⟩, hit.2⟩

theorem getLatestCheckin_snd_cached {etag : String}
    (cached : (cache.getLatestCheckin etag now).2.Cached k e) : cache.Cached k e :=
  modifyEntry_cached_same (CacheEntry.touch_etdr now) cached

theorem getAllByEtag_snd_cached {etag : String}
    (cached : (cache.getAllByEtag etag now).2.Cached k e) : cache.Cached k e := by
  obtain ⟨recs, inData, entry, mem, rfl⟩ := cached
  obtain ⟨kv, old, eq⟩ := List.mem_map.mp inData
  split at eq
  · cases eq
    obtain ⟨a, inList, rfl⟩ := List.mem_map.mp mem
    refine ⟨kv.2, old, a, inList, ?_⟩
    split <;> rfl
  · cases eq
    exact ⟨recs, old, entry, mem, rfl⟩

theorem getByTicketId_snd_cached {ticketId : Int}
    (cached : (cache.getByTicketId ticketId now seed).2.Cached k e) : cache.Cached k e := by
  unfold getByTicketId at cached
  dsimp only at cached
  split at cached
  · exact cached
  · exact modifyEntry_cached_same (CacheEntry.touch_etdr now) cached

theorem WellFormed.getLatestCheckin (wf : cache.WellFormed) (etag : String) (now : Clock) :
    (cache.getLatestCheckin etag now).2.WellFormed :=
  wf.modifyEntry (fun _ => rfl) fun _ => rfl

theorem WellFormed.getAllByEtag (wf : cache.WellFormed) (etag : String) (now : Clock) :
    (cache.getAllByEtag etag now).2.WellFormed := by
  refine ⟨?_, ?_, ?_⟩
  · have keys : (cache.getAllByEtag etag now).2.data.map (·.1) = cache.data.map (·.1) := by
      simp only [EtdrCache.getAllByEtag, List.map_map]
      refine List.map_congr_left fun kv _ => ?_
      simp only [Function.comp]
      split <;> rfl
    rw [keys]
    exact wf.keys
  · intro kv mem
    obtain ⟨kv, old, rfl⟩ := List.mem_map.mp mem
    split
    · have tickets : (kv.2.map fun entry : CacheEntry =>
          if etdrWithinTtl now entry.etdr then entry.touch now else entry).map
            (fun entry => entry.etdr.ticketId) = kv.2.map fun entry => entry.etdr.ticketId := by
        rw [List.map_map]
        refine List.map_congr_left fun entry _ => ?_
        simp only [Function.comp]
        split <;> rfl
      unfold TicketsUnique
      rw [tickets]
      exact wf.tickets kv old
    · exact wf.tickets kv old
  · intro kv mem entry inList
    obtain ⟨kv, old, rfl⟩ := List.mem_map.mp mem
    split at inList
    · next here =>
      rw [if_pos here]
      obtain ⟨a, inOld, rfl⟩ := List.mem_map.mp inList
      have tag : normalizeEtag a.etdr.etagId = kv.1 := wf.tagged kv old a inOld
      split <;> exact tag
    · next elsewhere =>
      rw [if_neg elsewhere]
      exact wf.tagged kv old entry inList

theorem WellFormed.getByTicketId (wf : cache.WellFormed) (ticketId : Int) (now : Clock)
    (seed : String → Nat) : (cache.getByTicketId ticketId now seed).2.WellFormed := by
  unfold EtdrCache.getByTicketId
  dsimp only
  split
  · exact wf
  · exact wf.modifyEntry (fun _ => rfl) fun _ => rfl

theorem WellFormed.updateEtdr (wf : cache.WellFormed) {updater : Etdr → Etdr}
    (ticket : ∀ e, (updater e).ticketId = e.ticketId)
    (etag : ∀ e, (updater e).etagId = e.etagId) (tag : String) (refTransId : Int)
    (now : Clock) : (cache.updateEtdr tag refTransId updater now).WellFormed :=
  wf.modifyEntry (fun entry => ticket entry.etdr) fun entry => etag entry.etdr

theorem updateEtdr_cached {updater : Etdr → Etdr} {tag : String} {refTransId : Int}
    (cached : (cache.updateEtdr tag refTransId updater now).Cached k e') :
    cache.Cached k e' ∨
      ∃ e, k = normalizeEtag tag ∧ cache.Cached k e ∧ e.refTransId = refTransId ∧
        e' = updater e := by
  rcases modifyEntry_cached cached with old | ⟨entry, rfl, old, hit, rfl⟩
  · exact .inl old
  · exact .inr ⟨entry.etdr, rfl, old, by simpa using hit, rfl⟩

theorem updateHubIdByTicketId_cached {ticketId hubId : Int}
    (cached : (cache.updateHubIdByTicketId ticketId hubId now seed).2.Cached k e') :
    cache.Cached k e' ∨
      ∃ e, cache.Cached k e ∧ e.ticketId = ticketId ∧ e' = { e with hubId := some hubId } := by
  unfold updateHubIdByTicketId at cached
  dsimp only at cached
  split at cached
  · exact .inl cached
  · rcases modifyEntry_cached cached with old | ⟨entry, rfl, old, hit, rfl⟩
    · exact .inl old
    · exact .inr ⟨entry.etdr, old, by simpa using hit, rfl⟩

/-- The record that a hub update returns is one that was stored. -/
theorem updateHubIdByTicketId_fst {ticketId hubId : Int}
    (updated : (cache.updateHubIdByTicketId ticketId hubId now seed).1 = some e') :
    ∃ k e, cache.Cached k e ∧ e' = { e with hubId := some hubId } := by
  unfold updateHubIdByTicketId at updated
  dsimp only at updated
  split at updated
  · simp at updated
  · next key recs found =>
    obtain ⟨entry, hit, rfl⟩ := Option.map_eq_some_iff.mp updated
    exact ⟨key, entry.etdr, ⟨recs, (mem_data_of_firstTag found).1, entry,
      List.mem_of_find?_eq_some hit, rfl⟩, rfl⟩

theorem WellFormed.updateHubIdByTicketId (wf : cache.WellFormed) (ticketId hubId : Int)
    (now : Clock) (seed : String → Nat) :
    (cache.updateHubIdByTicketId ticketId hubId now seed).2.WellFormed := by
  unfold EtdrCache.updateHubIdByTicketId
  dsimp only
  split
  · exact wf
  · exact wf.modifyEntry (fun _ => rfl) fun _ => rfl

theorem removeByTicketId_cached {ticketId : Int}
    (cached : (cache.removeByTicketId ticketId seed).Cached k e) : cache.Cached k e := by
  unfold removeByTicketId at cached
  split at cached
  · exact cached
  · split at cached
    · exact cached
    · obtain ⟨recs, inData, entry, mem, rfl⟩ := cached
      obtain ⟨kv, old, eq⟩ := List.mem_map.mp (List.mem_filter.mp inData).1
      split at eq
      · cases eq
        exact ⟨kv.2, old, entry, (List.mem_filter.mp mem).1, rfl⟩
      · cases eq
        exact ⟨recs, old, entry, mem, rfl⟩

/-- The ticket is cached under at most one tag. -/
def CachedOnce (cache : EtdrCache) (ticketId : Int) : Prop :=
  ∀ kv ∈ cache.data, ∀ kv' ∈ cache.data, (∃ entry ∈ kv.2, entry.etdr.ticketId = ticketId) →
    (∃ entry ∈ kv'.2, entry.etdr.ticketId = ticketId) → kv.1 = kv'.1

instance (cache : EtdrCache) (ticketId : Int) : Decidable (cache.CachedOnce ticketId) := by
  unfold CachedOnce; infer_instance

/-- A ticket that is cached under one tag only is gone when it is removed. -/
theorem ticketId_ne_of_removeByTicketId {ticketId : Int} (nonzero : ticketId ≠ 0)
    (once : cache.CachedOnce ticketId)
    (cached : (cache.removeByTicketId ticketId seed).Cached k e) : e.ticketId ≠ ticketId := by
  intro ticket
  unfold removeByTicketId at cached
  rw [if_neg nonzero] at cached
  split at cached
  · next absent =>
    obtain ⟨recs, inData, entry, mem, rfl⟩ := cached
    have hit := List.find?_eq_none.mp absent (k, recs)
      (by rw [visit, List.mem_insertionSort]; exact inData)
    exact hit (List.any_eq_true.mpr ⟨entry, mem, by simpa using ticket⟩)
  · next key recs found =>
    obtain ⟨first, hit⟩ := mem_data_of_firstTag found
    obtain ⟨entry', mem', ticket'⟩ := List.any_eq_true.mp hit
    obtain ⟨recs', inData, entry, mem, rfl⟩ := cached
    obtain ⟨kv, old, eq⟩ := List.mem_map.mp (List.mem_filter.mp inData).1
    split at eq
    · cases eq
      have kept := (List.mem_filter.mp mem).2
      simp [ticket] at kept
    · next elsewhere =>
      cases eq
      exact elsewhere (once _ old _ first ⟨entry, mem, ticket⟩ ⟨entry', mem', by simpa using ticket'⟩)

/-- The records that wait for the database are stored. -/
theorem cached_of_getAllUnsavedEtdrs {k : String}
    (mem : (k, e) ∈ cache.getAllUnsavedEtdrs now seed) : cache.Cached k e := by
  obtain ⟨kv, visited, mem⟩ := List.mem_flatMap.mp mem
  obtain ⟨entry, inList, eq⟩ := List.mem_map.mp mem
  cases eq
  rw [visit, List.mem_insertionSort] at visited
  exact ⟨kv.2, visited, entry, (List.mem_filter.mp inList).1, rfl⟩

theorem WellFormed.removeByTicketId (wf : cache.WellFormed) (ticketId : Int)
    (seed : String → Nat) : (cache.removeByTicketId ticketId seed).WellFormed := by
  unfold EtdrCache.removeByTicketId
  split
  · exact wf
  · split
    · exact wf
    · refine ⟨?_, ?_, ?_⟩
      · refine List.Nodup.sublist (List.filter_sublist.map _) ?_
        rw [List.map_map]
        refine (List.map_congr_left fun kv _ => ?_) ▸ wf.keys
        simp only [Function.comp]
        split <;> rfl
      · intro kv mem
        obtain ⟨kv, old, rfl⟩ := List.mem_map.mp (List.mem_filter.mp mem).1
        split
        · exact (wf.tickets kv old).sublist List.filter_sublist
        · exact wf.tickets kv old
      · intro kv mem entry inList
        obtain ⟨kv, old, rfl⟩ := List.mem_map.mp (List.mem_filter.mp mem).1
        split at inList
        · next here =>
          rw [if_pos here]
          exact wf.tagged kv old entry (List.mem_filter.mp inList).1
        · next elsewhere =>
          rw [if_neg elsewhere]
          exact wf.tagged kv old entry inList

end Modify

/-! ### Other tags -/

section OtherTags

variable {now : Clock} {seed : String → Nat} {k : String} {p : CacheEntry → Bool}
variable {f : CacheEntry → CacheEntry}

theorem cached_congr {cache' : EtdrCache}
    (same : ∀ recs, (k, recs) ∈ cache'.data ↔ (k, recs) ∈ cache.data) :
    cache'.Cached k e ↔ cache.Cached k e :=
  exists_congr fun recs => and_congr_left' (same recs)

theorem mem_modifyEntry_of_ne {recs : List CacheEntry} (ne : k ≠ key) :
    (k, recs) ∈ (cache.modifyEntry key p f).data ↔ (k, recs) ∈ cache.data := by
  simp only [modifyEntry, List.mem_map]
  constructor
  · rintro ⟨kv, mem, eq⟩
    split at eq
    · next here =>
      cases eq
      exact absurd here ne
    · exact eq ▸ mem
  · exact fun mem => ⟨(k, recs), mem, if_neg ne⟩

/-- An update that changes only bookkeeping stores the same records. -/
theorem cached_modifyEntry_same (same : ∀ entry, (f entry).etdr = entry.etdr) :
    (cache.modifyEntry key p f).Cached k e ↔ cache.Cached k e := by
  refine ⟨modifyEntry_cached_same same, ?_⟩
  rintro ⟨recs, inData, entry, mem, rfl⟩
  by_cases here : k = key
  · subst here
    have kept : entry.etdr ∈ (modifyFirst p f recs).map (·.etdr) := by
      rw [map_modifyFirst fun a _ => same a]
      exact List.mem_map_of_mem mem
    obtain ⟨entry', mem', eq⟩ := List.mem_map.mp kept
    exact ⟨_, List.mem_map.mpr ⟨(k, recs), inData, if_pos rfl⟩, entry', mem', eq⟩
  · exact ⟨recs, (mem_modifyEntry_of_ne here).mpr inData, entry, mem, rfl⟩

theorem cached_getAllByEtag {etag : String} :
    (cache.getAllByEtag etag now).2.Cached k e ↔ cache.Cached k e := by
  refine ⟨getAllByEtag_snd_cached, ?_⟩
  rintro ⟨recs, inData, entry, mem, rfl⟩
  by_cases here : k = normalizeEtag etag
  · refine ⟨_, List.mem_map.mpr ⟨(k, recs), inData, if_pos here⟩, _,
      List.mem_map_of_mem mem, ?_⟩
    split <;> rfl
  · exact ⟨recs, List.mem_map.mpr ⟨(k, recs), inData, if_neg here⟩, entry, mem, rfl⟩

theorem cached_getByTicketId {ticketId : Int} :
    (cache.getByTicketId ticketId now seed).2.Cached k e ↔ cache.Cached k e := by
  unfold getByTicketId
  dsimp only
  split
  · exact Iff.rfl
  · exact cached_modifyEntry_same (CacheEntry.touch_etdr now)

/-- The number of entries. -/
def size (cache : EtdrCache) : Nat :=
  (cache.data.map fun kv => kv.2.length).sum

/-- A write of the record does not make the cache too large. -/
def HasRoomFor (cache : EtdrCache) (etdr : Etdr) (now : Clock) : Prop :=
  let key := normalizeEtag etdr.etagId
  (cache.setRecords key
    ((putRecords (cache.records key) etdr now).take cache.maxEntriesPerEtag)).size ≤
      cache.maxTotalEntries

instance (cache : EtdrCache) (etdr : Etdr) (now : Clock) : Decidable (cache.HasRoomFor etdr now) := by
  unfold HasRoomFor; infer_instance

theorem evictIfNeeded_of_size_le (room : cache.size ≤ cache.maxTotalEntries) :
    cache.evictIfNeeded seed = cache := by
  unfold evictIfNeeded
  exact if_neg (not_lt.mpr room)

theorem mem_setRecords_of_ne {recs recs' : List CacheEntry} (ne : k ≠ key) :
    (k, recs') ∈ (cache.setRecords key recs).data ↔ (k, recs') ∈ cache.data := by
  constructor
  · intro mem
    rcases mem_setRecords mem with ⟨eq, -⟩ | ⟨-, old⟩
    · exact absurd eq ne
    · exact old
  · intro mem
    simp only [setRecords]
    split
    · exact List.mem_map.mpr ⟨(k, recs'), mem, if_neg ne⟩
    · exact List.mem_cons_of_mem _ mem

/-- A write that has room leaves the records of other tags alone. -/
theorem cached_put_of_ne (room : cache.HasRoomFor e' now) (ne : k ≠ normalizeEtag e'.etagId) :
    (cache.put e' now seed).Cached k e ↔ cache.Cached k e := by
  rw [put, evictIfNeeded_of_size_le room]
  exact cached_congr fun recs => mem_setRecords_of_ne ne

/-- The ticket is cached under no other tag. -/
def OnlyUnder (cache : EtdrCache) (tag : String) (ticketId : Int) : Prop :=
  ∀ kv ∈ cache.data, ∀ entry ∈ kv.2, entry.etdr.ticketId = ticketId → kv.1 = tag

instance (cache : EtdrCache) (tag : String) (ticketId : Int) :
    Decidable (cache.OnlyUnder tag ticketId) := by
  unfold OnlyUnder; infer_instance

theorem OnlyUnder.eq {ticketId : Int} (only : cache.OnlyUnder key ticketId)
    (cached : cache.Cached k e) (ticket : e.ticketId = ticketId) : k = key := by
  obtain ⟨recs, inData, entry, mem, rfl⟩ := cached
  exact only _ inData entry mem ticket

/-- Removing a ticket leaves the records of tags without it alone. -/
theorem cached_removeByTicketId_of_ne {ticketId : Int} (only : cache.OnlyUnder key ticketId)
    (ne : k ≠ key) : (cache.removeByTicketId ticketId seed).Cached k e ↔ cache.Cached k e := by
  refine ⟨removeByTicketId_cached, fun cached => ?_⟩
  unfold removeByTicketId
  split
  · exact cached
  · split
    · exact cached
    · next tag recs found =>
      obtain ⟨first, hit⟩ := mem_data_of_firstTag found
      obtain ⟨entry', mem', ticket'⟩ := List.any_eq_true.mp hit
      have here : tag = key := only _ first entry' mem' (by simpa using ticket')
      subst here
      obtain ⟨recs, inData, entry, mem, rfl⟩ := cached
      refine ⟨recs, List.mem_filter.mpr ⟨List.mem_map.mpr ⟨(k, recs), inData, if_neg ne⟩, ?_⟩,
        entry, mem, rfl⟩
      simp [List.ne_nil_of_mem mem]

end OtherTags

end EtdrCache

end TollBackend

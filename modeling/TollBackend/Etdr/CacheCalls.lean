import TollBackend.Etdr.Cache

/-!
# The calls of the record cache

`ETDRCache` is only reached through its methods, each of which holds the lock of the data from
its first access to its last. So a cache is what some sequence of calls has made of the empty
one, and what every call keeps holds of every cache.

## Main definitions

* `EtdrCache.getLatestCheckinWithoutCheckout`, `getByRefTransId`, `updateHubIdByRequestId`,
  `removeEtag`, `cleanupExpired`, `cleanupNoCheckoutOlderThan`, `clear`: the methods that the
  handlers do not use.
* `CacheCall`, `EtdrCache.run`: a call, and a sequence of calls.
* `EtdrCache.Represented`: what holds of the lists and of their sizes.
* `EtdrCache.LatestOf`: the record of the largest ticket among some.

## Main results

* `EtdrCache.Represented.exec`: every call keeps the representation.
* `EtdrCache.run_represented`: sequences of calls do, and the reads then return the latest
  record.
* `EtdrCache.updateEtdr_moves_tag`: an updater that changes the tag leaves the record in the
  list of the old one.
-/

namespace TollBackend

namespace EtdrCache

/-! ### The methods -/

/-- The first entry of the tag that satisfies `p`, which is touched. -/
def getLatestWhere (cache : EtdrCache) (etag : String) (p : Etdr → Bool) (now : Clock) :
    Option Etdr × EtdrCache :=
  let key := normalizeEtag etag
  let hit := fun entry : CacheEntry => p entry.etdr
  (((cache.records key).find? hit).map (·.etdr), cache.modifyEntry key hit (·.touch now))

/-- `ETDRCache::get_latest_checkin_without_checkout`. -/
def getLatestCheckinWithoutCheckout (cache : EtdrCache) (etag : String) (now : Clock) :
    Option Etdr × EtdrCache :=
  cache.getLatestWhere etag (fun etdr => etdrWithinTtl now etdr && etdr.tollOut == 0) now

/-- `ETDRCache::get_by_ref_trans_id`. -/
def getByRefTransId (cache : EtdrCache) (refTransId : Int) (now : Clock) (seed : String → Nat) :
    Option Etdr × EtdrCache :=
  let p := fun entry : CacheEntry =>
    etdrWithinTtl now entry.etdr && entry.etdr.refTransId == refTransId
  match cache.firstTag seed p with
  | none => (none, cache)
  | some (key, recs) => ((recs.find? p).map (·.etdr), cache.modifyEntry key p (·.touch now))

/-- `ETDRCache::update_hub_id_by_request_id`, with the record it changed. -/
def updateHubIdByRequestId (cache : EtdrCache) (requestId hubId : Int) (now : Clock)
    (seed : String → Nat) : Option Etdr × EtdrCache :=
  let p := fun entry : CacheEntry => entry.etdr.requestId == requestId
  let setHubId := fun entry : CacheEntry =>
    { entry with etdr := { entry.etdr with hubId := some hubId }, lastAccess := now.ms }
  match cache.firstTag seed p with
  | none => (none, cache)
  | some (key, recs) =>
      ((recs.find? p).map fun entry => (setHubId entry).etdr, cache.modifyEntry key p setHubId)

/-- `ETDRCache::get_max_ticket_id`: the largest ticket, own or foreign, of the live records. -/
def getMaxTicketId (cache : EtdrCache) (now : Clock) : Option Int :=
  ((cache.data.flatMap (·.2)).filter fun entry => etdrWithinTtl now entry.etdr).foldl
    (fun maxId entry =>
      let currentMax := max entry.etdr.ticketId entry.etdr.booTicketId
      some (maxId.elim currentMax fun m => max m currentMax)) none

/-- Keep the entries that satisfy `p`, and the tags that still have some. -/
def retain (cache : EtdrCache) (p : CacheEntry → Bool) : EtdrCache :=
  { cache with
    data := (cache.data.map fun kv => (kv.1, kv.2.filter p)).filter fun kv => !kv.2.isEmpty }

/-- `ETDRCache::cleanup_expired`. -/
def cleanupExpired (cache : EtdrCache) (now : Clock) : EtdrCache :=
  cache.retain fun entry => etdrWithinTtl now entry.etdr

/-- `ETDRCache::cleanup_no_checkout_older_than`. -/
def cleanupNoCheckoutOlderThan (cache : EtdrCache) (maxAgeMs : Int) (now : Clock) : EtdrCache :=
  cache.retain fun entry =>
    !(decide (entry.etdr.checkoutDatetime = 0) &&
      decide (maxAgeMs < min (now.ms - entry.etdr.checkinDatetime) (2 ^ 63 - 1)))

/-- `ETDRCache::remove_etag`. -/
def removeEtag (cache : EtdrCache) (etag : String) : EtdrCache :=
  { cache with data := cache.data.filter fun kv => kv.1 != normalizeEtag etag }

/-- `ETDRCache::clear`. -/
def clear (cache : EtdrCache) : EtdrCache :=
  { cache with data := [] }

end EtdrCache

/-- A call of a method. -/
inductive CacheCall : Type
  | put (etdr : Etdr)
  | getLatestCheckin (etag : String)
  | getLatestCheckinWithoutCheckout (etag : String)
  | getAllByEtag (etag : String)
  | getByRefTransId (refTransId : Int)
  | getByTicketId (ticketId : Int)
  | getMaxTicketId
  | getAllUnsavedEtdrs
  | updateEtdr (etag : String) (refTransId : Int) (updater : Etdr → Etdr)
  | updateHubIdByRequestId (requestId hubId : Int)
  | updateHubIdByTicketId (ticketId hubId : Int)
  | removeEtag (etag : String)
  | removeByTicketId (ticketId : Int)
  | cleanupExpired
  | cleanupNoCheckoutOlderThan (maxAgeMs : Int)
  | clear

/-- The cache after a call at `now`. -/
def CacheCall.exec (now : Clock) (seed : String → Nat) (cache : EtdrCache) : CacheCall → EtdrCache
  | .put etdr => cache.put etdr now seed
  | .getLatestCheckin etag => (cache.getLatestCheckin etag now).2
  | .getLatestCheckinWithoutCheckout etag => (cache.getLatestCheckinWithoutCheckout etag now).2
  | .getAllByEtag etag => (cache.getAllByEtag etag now).2
  | .getByRefTransId refTransId => (cache.getByRefTransId refTransId now seed).2
  | .getByTicketId ticketId => (cache.getByTicketId ticketId now seed).2
  | .getMaxTicketId => cache
  | .getAllUnsavedEtdrs => cache
  | .updateEtdr etag refTransId updater => cache.updateEtdr etag refTransId updater now
  | .updateHubIdByRequestId requestId hubId =>
      (cache.updateHubIdByRequestId requestId hubId now seed).2
  | .updateHubIdByTicketId ticketId hubId => (cache.updateHubIdByTicketId ticketId hubId now seed).2
  | .removeEtag etag => cache.removeEtag etag
  | .removeByTicketId ticketId => cache.removeByTicketId ticketId seed
  | .cleanupExpired => cache.cleanupExpired now
  | .cleanupNoCheckoutOlderThan maxAgeMs => cache.cleanupNoCheckoutOlderThan maxAgeMs now
  | .clear => cache.clear

/-- The updater of a call keeps the ticket of a record. -/
def CacheCall.KeepsTicket : CacheCall → Prop
  | .updateEtdr _ _ updater => ∀ e, (updater e).ticketId = e.ticketId
  | _ => True

/-- The updater of a call keeps the tag of a record. -/
def CacheCall.KeepsTag : CacheCall → Prop
  | .updateEtdr _ _ updater => ∀ e, normalizeEtag (updater e).etagId = normalizeEtag e.etagId
  | _ => True

namespace EtdrCache

/-- The cache after calls, each with its time and the order in which it visits the map. -/
def run (cache : EtdrCache) (calls : List (CacheCall × Clock × (String → Nat))) : EtdrCache :=
  calls.foldl (fun cache call => call.1.exec call.2.1 call.2.2 cache) cache

/-! ### The representation -/

/-- The order of the tickets, their uniqueness, and the bounds of the lists. -/
structure ListsRepresented (cache : EtdrCache) : Prop extends cache.WellFormed where
  sorted : ∀ kv ∈ cache.data, (kv.2.map (·.etdr.ticketId)).Pairwise (· ≥ ·)
  nonempty : ∀ kv ∈ cache.data, kv.2 ≠ []
  bounded : ∀ kv ∈ cache.data, kv.2.length ≤ cache.maxEntriesPerEtag

/-- The representation of a cache: its lists, and the bound of their total size. -/
structure Represented (cache : EtdrCache) : Prop extends cache.ListsRepresented where
  total : cache.size ≤ cache.maxTotalEntries

/-- The record of the largest ticket among those of the tag that satisfy `p`. Only records
without a ticket can tie with it. -/
def LatestOf (cache : EtdrCache) (key : String) (p : Etdr → Bool) : Option Etdr → Prop
  | none => ∀ e, cache.Cached key e → p e = false
  | some e => cache.Cached key e ∧ p e = true ∧ ∀ e', cache.Cached key e' → p e' = true →
      e' = e ∨ e'.ticketId < e.ticketId ∨ e'.ticketId = 0 ∧ e.ticketId = 0

/-! ### Lists that shrink -/

/-- What the representation depends on in an entry: its ticket and its tag. -/
def index (entry : CacheEntry) : Int × String :=
  (entry.etdr.ticketId, normalizeEtag entry.etdr.etagId)

variable {cache : EtdrCache} {key : String} {now : Clock} {seed : String → Nat}

theorem map_ticketId (recs : List CacheEntry) :
    recs.map (·.etdr.ticketId) = (recs.map index).map (·.1) := by
  rw [List.map_map]
  rfl

/-- Lists that only lose entries, under tags that were there, stay represented. -/
theorem ListsRepresented.of_sublists (valid : cache.ListsRepresented)
    {data : List (String × List CacheEntry)}
    (keys : (data.map (·.1)).Sublist (cache.data.map (·.1)))
    (lists : ∀ kv ∈ data, ∃ old ∈ cache.data, kv.1 = old.1 ∧
      (kv.2.map index).Sublist (old.2.map index))
    (nonempty : ∀ kv ∈ data, kv.2 ≠ []) : ListsRepresented { cache with data := data } where
  keys := valid.keys.sublist keys
  tickets kv mem := by
    obtain ⟨old, inData, -, sub⟩ := lists kv mem
    have unique := valid.tickets old inData
    rw [TicketsUnique, map_ticketId] at unique ⊢
    exact unique.sublist (sub.map _)
  tagged kv mem entry inList := by
    obtain ⟨old, inData, same, sub⟩ := lists kv mem
    obtain ⟨entry', inOld, eq⟩ := List.mem_map.mp (sub.subset (List.mem_map_of_mem inList))
    rw [same, ← valid.tagged old inData entry' inOld]
    exact (congrArg Prod.snd eq).symm
  sorted kv mem := by
    obtain ⟨old, inData, -, sub⟩ := lists kv mem
    have sorted := valid.sorted old inData
    rw [map_ticketId] at sorted ⊢
    exact sorted.sublist (sub.map _)
  nonempty := nonempty
  bounded kv mem := by
    obtain ⟨old, inData, -, sub⟩ := lists kv mem
    have short := sub.length_le
    rw [List.length_map, List.length_map] at short
    exact short.trans (valid.bounded old inData)

/-- Dropping the lists that became empty. -/
theorem ListsRepresented.shrink (valid : cache.ListsRepresented)
    {g : String × List CacheEntry → String × List CacheEntry} (key : ∀ kv, (g kv).1 = kv.1)
    (sub : ∀ kv, ((g kv).2.map index).Sublist (kv.2.map index)) :
    ListsRepresented { cache with data := (cache.data.map g).filter fun kv => !kv.2.isEmpty } := by
  apply valid.of_sublists
  · have keys : (cache.data.map g).map (·.1) = cache.data.map (·.1) := by
      rw [List.map_map]
      exact List.map_congr_left fun kv _ => key kv
    rw [← keys]
    exact List.filter_sublist.map _
  · intro kv mem
    obtain ⟨old, inData, rfl⟩ := List.mem_map.mp (List.mem_filter.mp mem).1
    exact ⟨old, inData, key old, sub old⟩
  · intro kv mem
    simpa using (List.mem_filter.mp mem).2

theorem size_shrink_le {g : String × List CacheEntry → String × List CacheEntry}
    (short : ∀ kv, (g kv).2.length ≤ kv.2.length) :
    size { cache with data := (cache.data.map g).filter fun kv => !kv.2.isEmpty } ≤ cache.size := by
  calc size { cache with data := (cache.data.map g).filter fun kv => !kv.2.isEmpty }
      ≤ size { cache with data := cache.data.map g } :=
        (List.filter_sublist.map _).sum_le_sum fun _ _ => Nat.zero_le _
    _ ≤ cache.size := by
        simp only [size, List.map_map]
        exact List.sum_le_sum fun kv _ => short kv

theorem Represented.shrink (valid : cache.Represented)
    {g : String × List CacheEntry → String × List CacheEntry} (key : ∀ kv, (g kv).1 = kv.1)
    (sub : ∀ kv, ((g kv).2.map index).Sublist (kv.2.map index)) :
    Represented { cache with data := (cache.data.map g).filter fun kv => !kv.2.isEmpty } where
  toListsRepresented := valid.toListsRepresented.shrink key sub
  total := by
    refine (size_shrink_le fun kv => ?_).trans valid.total
    simpa using (sub kv).length_le

/-- An update of entries that keeps their tickets and tags loses no list. -/
theorem Represented.touch (valid : cache.Represented)
    {g : String × List CacheEntry → String × List CacheEntry} (key : ∀ kv, (g kv).1 = kv.1)
    (same : ∀ kv, (g kv).2.map index = kv.2.map index) :
    Represented { cache with data := cache.data.map g } := by
  have kept : (cache.data.map g).filter (fun kv => !kv.2.isEmpty) = cache.data.map g := by
    apply List.filter_eq_self.mpr
    intro kv mem
    obtain ⟨old, inData, rfl⟩ := List.mem_map.mp mem
    have some_entry : (g old).2 ≠ [] := by
      intro none_left
      have none_before := same old
      rw [none_left, List.map_nil] at none_before
      exact valid.nonempty old inData (List.map_eq_nil_iff.mp none_before.symm)
    simpa using some_entry
  rw [← kept]
  exact valid.shrink key fun kv => (same kv) ▸ List.Sublist.refl _

theorem Represented.modifyEntry (valid : cache.Represented) {p : CacheEntry → Bool}
    {f : CacheEntry → CacheEntry} (same : ∀ entry, index (f entry) = index entry) :
    (cache.modifyEntry key p f).Represented := by
  apply valid.touch
  · intro kv
    split <;> rfl
  · intro kv
    split
    · exact map_modifyFirst (fun entry _ => same entry) kv.2
    · rfl

theorem Represented.retain (valid : cache.Represented) (p : CacheEntry → Bool) :
    (cache.retain p).Represented :=
  valid.shrink (fun _ => rfl) fun _ => List.filter_sublist.map _

/-! ### The bound of the total size -/

/-- The entries with their tags. -/
def entries (data : List (String × List CacheEntry)) : List (String × CacheEntry) :=
  data.flatMap fun kv => kv.2.map fun entry => (kv.1, entry)

theorem length_entries (data : List (String × List CacheEntry)) :
    (entries data).length = (data.map fun kv => kv.2.length).sum := by
  rw [entries, List.length_flatMap]
  simp only [List.length_map]

theorem entries_filter (data : List (String × List CacheEntry)) (p : String × CacheEntry → Bool) :
    entries (data.map fun kv => (kv.1, kv.2.filter fun entry => p (kv.1, entry))) =
      (entries data).filter p := by
  induction data with
  | nil => rfl
  | cons kv rest ih =>
    simp only [entries, List.map_cons, List.flatMap_cons, List.filter_append, List.filter_map] at ih ⊢
    rw [ih]
    rfl

/-- A list loses at least the elements of a prefix that all go. -/
theorem length_filter_not_le {α : Type} (p : α → Bool) (l : List α) (n : Nat)
    (doomed : ∀ a ∈ l.take n, p a = true) : (l.filter fun a => !p a).length ≤ l.length - n := by
  have none_left : (l.take n).filter (fun a => !p a) = [] :=
    List.filter_eq_nil_iff.mpr fun a mem => by simp [doomed a mem]
  calc (l.filter fun a => !p a).length
      = ((l.take n ++ l.drop n).filter fun a => !p a).length := by rw [List.take_append_drop]
    _ = ((l.drop n).filter fun a => !p a).length := by
        rw [List.filter_append, none_left, List.nil_append]
    _ ≤ (l.drop n).length := List.length_filter_le _ _
    _ = l.length - n := List.length_drop

/-- `evict_if_needed` brings the cache below its limit. -/
theorem size_evictIfNeeded_le (cache : EtdrCache) (seed : String → Nat) :
    (cache.evictIfNeeded seed).size ≤ (cache.evictIfNeeded seed).maxTotalEntries := by
  unfold evictIfNeeded
  dsimp only
  split
  · next tooLarge =>
    set byAge := List.insertionSort (fun a b : String × CacheEntry => a.2.lastAccess ≤ b.2.lastAccess)
      ((cache.visit seed).flatMap fun kv => kv.2.map fun entry => (kv.1, entry)) with byAge_eq
    set surplus := (cache.data.map fun kv => kv.2.length).sum - cache.maxTotalEntries
    set doomed := (byAge.take surplus).map fun ke => (ke.1, ke.2.etdr.ticketId)
    -- the entries in the order of their age are those of the cache
    have perm : byAge.Perm (entries cache.data) :=
      (List.perm_insertionSort _ _).trans
        ((List.perm_insertionSort _ cache.data).flatMap_right _)
    set gone := fun ke : String × CacheEntry => doomed.contains (ke.1, ke.2.etdr.ticketId)
    have taken : ∀ ke ∈ byAge.take surplus, gone ke = true := by
      intro ke mem
      exact List.contains_iff_mem.mpr (List.mem_map.mpr ⟨ke, mem, rfl⟩)
    calc size { cache with data := (cache.data.map fun kv => (kv.1, kv.2.filter fun entry =>
            !doomed.contains (kv.1, entry.etdr.ticketId))).filter fun kv => !kv.2.isEmpty }
        ≤ (entries (cache.data.map fun kv => (kv.1, kv.2.filter fun entry =>
            !doomed.contains (kv.1, entry.etdr.ticketId)))).length := by
          rw [length_entries]
          exact (List.filter_sublist.map _).sum_le_sum fun _ _ => Nat.zero_le _
      _ = ((entries cache.data).filter fun ke => !gone ke).length :=
          congrArg List.length (entries_filter cache.data fun ke => !gone ke)
      _ = (byAge.filter fun ke => !gone ke).length := (perm.filter _).length_eq.symm
      _ ≤ byAge.length - surplus := length_filter_not_le gone byAge surplus taken
      _ ≤ cache.maxTotalEntries := by
          rw [perm.length_eq, length_entries]
          omega
  · next fits => exact Nat.le_of_not_lt fits

/-! ### The write -/

theorem putRecords_sorted (recs : List CacheEntry) (etdr : Etdr) :
    ((putRecords recs etdr now).map (·.etdr.ticketId)).Pairwise (· ≥ ·) := by
  apply List.pairwise_map.mpr
  refine (List.pairwise_insertionSort CacheEntry.Before _).imp fun {a b} before => ?_
  unfold CacheEntry.Before at before
  omega

theorem putRecords_ne_nil (recs : List CacheEntry) (etdr : Etdr) (now : Clock) :
    putRecords recs etdr now ≠ [] := by
  apply List.ne_nil_of_length_pos
  rw [putRecords, List.length_insertionSort]
  split
  · next found =>
    -- the entry that is replaced is one of the list
    obtain ⟨entry, mem, -⟩ := List.any_eq_true.mp found
    have same := congrArg List.length
      (map_modifyFirst (p := sameTicket etdr) (f := fun _ => newEntry etdr now)
        (g := fun _ => ()) (fun _ _ => rfl) recs)
    rw [List.length_map, List.length_map] at same
    rw [same]
    exact List.length_pos_of_mem mem
  · exact Nat.succ_pos _

theorem ListsRepresented.setRecords (valid : cache.ListsRepresented) {recs : List CacheEntry}
    (wf : (cache.setRecords key recs).WellFormed)
    (sorted : (recs.map (·.etdr.ticketId)).Pairwise (· ≥ ·)) (nonempty : recs ≠ [])
    (bounded : recs.length ≤ cache.maxEntriesPerEtag) :
    (cache.setRecords key recs).ListsRepresented where
  toWellFormed := wf
  sorted kv mem := by
    rcases mem_setRecords mem with ⟨-, new⟩ | ⟨-, old⟩
    · exact new ▸ sorted
    · exact valid.sorted kv old
  nonempty kv mem := by
    rcases mem_setRecords mem with ⟨-, new⟩ | ⟨-, old⟩
    · exact new ▸ nonempty
    · exact valid.nonempty kv old
  bounded kv mem := by
    rcases mem_setRecords mem with ⟨-, new⟩ | ⟨-, old⟩
    · exact new ▸ bounded
    · exact valid.bounded kv old

theorem ListsRepresented.evictIfNeeded (valid : cache.ListsRepresented) (seed : String → Nat) :
    (cache.evictIfNeeded seed).Represented where
  toListsRepresented := by
    unfold EtdrCache.evictIfNeeded
    dsimp only
    split
    · exact valid.shrink (fun _ => rfl) fun _ => List.filter_sublist.map _
    · exact valid
  total := size_evictIfNeeded_le cache seed

theorem Represented.put (valid : cache.Represented) (room : 1 ≤ cache.maxEntriesPerEtag)
    (etdr : Etdr) (now : Clock) (seed : String → Nat) : (cache.put etdr now seed).Represented := by
  set recs := (putRecords (cache.records (normalizeEtag etdr.etagId)) etdr now).take
    cache.maxEntriesPerEtag
  have wf : (cache.setRecords (normalizeEtag etdr.etagId) recs).WellFormed := by
    apply valid.toWellFormed.setRecords
    · exact (valid.records_unique _).putRecords.sublist (List.take_sublist _ _)
    · intro entry mem
      rcases mem_putRecords (List.mem_of_mem_take mem) with rfl | old
      · rfl
      · exact valid.key_eq (cached_of_mem_records old)
  have nonempty : recs ≠ [] := by
    intro empty
    rcases List.take_eq_nil_iff.mp empty with zero | none_put
    · omega
    · exact putRecords_ne_nil _ etdr now none_put
  apply ListsRepresented.evictIfNeeded
  apply valid.toListsRepresented.setRecords wf
  · exact (putRecords_sorted _ _).sublist ((List.take_sublist _ _).map _)
  · exact nonempty
  · exact List.length_take_le _ _

/-! ### The calls -/

/-- Every call keeps the representation, given that an updater keeps the ticket and the tag. -/
theorem Represented.exec (valid : cache.Represented) (room : 1 ≤ cache.maxEntriesPerEtag)
    {call : CacheCall} (ticket : call.KeepsTicket) (tag : call.KeepsTag) :
    (call.exec now seed cache).Represented := by
  have touched : ∀ entry : CacheEntry, index (entry.touch now) = index entry := fun _ => rfl
  cases call with
  | put etdr => exact valid.put room etdr now seed
  | getLatestCheckin etag => exact valid.modifyEntry touched
  | getLatestCheckinWithoutCheckout etag => exact valid.modifyEntry touched
  | getAllByEtag etag =>
    apply valid.touch
    · intro kv
      split <;> rfl
    · intro kv
      split
      · rw [List.map_map]
        refine List.map_congr_left fun entry _ => ?_
        dsimp only [Function.comp]
        split <;> rfl
      · rfl
  | getByRefTransId refTransId =>
    simp only [CacheCall.exec, getByRefTransId]
    split
    · exact valid
    · exact valid.modifyEntry touched
  | getByTicketId ticketId =>
    simp only [CacheCall.exec, getByTicketId]
    split
    · exact valid
    · exact valid.modifyEntry touched
  | getMaxTicketId => exact valid
  | getAllUnsavedEtdrs => exact valid
  | updateEtdr etag refTransId updater =>
    apply valid.modifyEntry
    intro entry
    exact Prod.ext (ticket entry.etdr) (tag entry.etdr)
  | updateHubIdByRequestId requestId hubId =>
    simp only [CacheCall.exec, updateHubIdByRequestId]
    split
    · exact valid
    · exact valid.modifyEntry fun _ => rfl
  | updateHubIdByTicketId ticketId hubId =>
    simp only [CacheCall.exec, updateHubIdByTicketId]
    split
    · exact valid
    · exact valid.modifyEntry fun _ => rfl
  | removeEtag etag =>
    have sub : (cache.data.filter fun kv => kv.1 != normalizeEtag etag).Sublist cache.data :=
      List.filter_sublist
    refine ⟨valid.of_sublists (sub.map _) (fun kv mem => ?_) fun kv mem => ?_, ?_⟩
    · exact ⟨kv, sub.subset mem, rfl, List.Sublist.refl _⟩
    · exact valid.nonempty kv (sub.subset mem)
    · exact ((sub.map _).sum_le_sum fun _ _ => Nat.zero_le _).trans valid.total
  | removeByTicketId ticketId =>
    simp only [CacheCall.exec, removeByTicketId]
    split
    · exact valid
    · split
      · exact valid
      · apply valid.shrink
        · intro kv
          split <;> rfl
        · intro kv
          split
          · exact List.filter_sublist.map _
          · exact List.Sublist.refl _
  | cleanupExpired => exact valid.retain _
  | cleanupNoCheckoutOlderThan maxAgeMs => exact valid.retain _
  | clear =>
    refine ⟨valid.of_sublists (List.nil_sublist _) ?_ ?_, Nat.zero_le _⟩ <;>
      exact fun kv mem => absurd mem List.not_mem_nil

theorem maxEntriesPerEtag_evictIfNeeded (cache : EtdrCache) (seed : String → Nat) :
    (cache.evictIfNeeded seed).maxEntriesPerEtag = cache.maxEntriesPerEtag := by
  unfold evictIfNeeded
  dsimp only
  split <;> rfl

/-- No call changes the limit of a list. -/
theorem maxEntriesPerEtag_exec (call : CacheCall) :
    (call.exec now seed cache).maxEntriesPerEtag = cache.maxEntriesPerEtag := by
  cases call with
  | put etdr => exact maxEntriesPerEtag_evictIfNeeded _ seed
  | getByRefTransId refTransId =>
    simp only [CacheCall.exec, getByRefTransId]
    split <;> rfl
  | getByTicketId ticketId =>
    simp only [CacheCall.exec, getByTicketId]
    split <;> rfl
  | updateHubIdByRequestId requestId hubId =>
    simp only [CacheCall.exec, updateHubIdByRequestId]
    split <;> rfl
  | updateHubIdByTicketId ticketId hubId =>
    simp only [CacheCall.exec, updateHubIdByTicketId]
    split <;> rfl
  | removeByTicketId ticketId =>
    simp only [CacheCall.exec, removeByTicketId]
    split
    · rfl
    · split <;> rfl
  | _ => rfl

theorem Represented.run (valid : cache.Represented) (room : 1 ≤ cache.maxEntriesPerEtag)
    {calls : List (CacheCall × Clock × (String → Nat))}
    (kept : ∀ call ∈ calls, call.1.KeepsTicket ∧ call.1.KeepsTag) :
    (cache.run calls).Represented := by
  induction calls generalizing cache with
  | nil => exact valid
  | cons call calls ih =>
    obtain ⟨ticket, tag⟩ := kept call List.mem_cons_self
    apply ih
    · exact valid.exec room ticket tag
    · rw [maxEntriesPerEtag_exec]
      exact room
    · exact fun later mem => kept later (List.mem_cons_of_mem _ mem)

theorem Represented.empty (m n : Nat) :
    Represented { maxEntriesPerEtag := m, maxTotalEntries := n } where
  toWellFormed := .empty m n
  sorted _ mem := absurd mem List.not_mem_nil
  nonempty _ mem := absurd mem List.not_mem_nil
  bounded _ mem := absurd mem List.not_mem_nil
  total := Nat.zero_le n

/-! ### The latest record -/

theorem WellFormed.records_eq (wf : cache.WellFormed) {recs : List CacheEntry}
    (mem : (key, recs) ∈ cache.data) : cache.records key = recs := by
  have found : (cache.data.lookup key).isSome := by
    rw [List.lookup_isSome_iff]
    exact ⟨(key, recs), mem, beq_self_eq_true key⟩
  obtain ⟨recs', found⟩ := Option.isSome_iff_exists.mp found
  obtain ⟨before, after, split, -⟩ := List.lookup_eq_some_iff.mp found
  have there : (key, recs') ∈ cache.data := by simp [split]
  have same := List.inj_on_of_nodup_map wf.keys there mem rfl
  rw [records, found, Option.getD_some, (Prod.mk.inj same).2]

theorem WellFormed.cached_iff (wf : cache.WellFormed) {e : Etdr} :
    cache.Cached key e ↔ ∃ entry ∈ cache.records key, entry.etdr = e := by
  constructor
  · rintro ⟨recs, inData, entry, mem, rfl⟩
    exact ⟨entry, (wf.records_eq inData).symm ▸ mem, rfl⟩
  · rintro ⟨entry, mem, rfl⟩
    exact cached_of_mem_records mem

theorem ListsRepresented.records_sorted (valid : cache.ListsRepresented) (key : String) :
    ((cache.records key).map (·.etdr.ticketId)).Pairwise (· ≥ ·) := by
  unfold records
  cases found : cache.data.lookup key with
  | none => exact List.Pairwise.nil
  | some recs =>
    obtain ⟨before, after, split, -⟩ := List.lookup_eq_some_iff.mp found
    exact valid.sorted (key, recs) (by simp [split])

/-- The first record of a list that satisfies `p` is the latest one that does. -/
theorem ListsRepresented.latestOf (valid : cache.ListsRepresented) (etag : String)
    (p : Etdr → Bool) :
    cache.LatestOf (normalizeEtag etag) p (cache.getLatestWhere etag p now).1 := by
  unfold getLatestWhere
  dsimp only
  cases found : (cache.records (normalizeEtag etag)).find? fun entry => p entry.etdr with
  | none =>
    intro e cached
    obtain ⟨entry, mem, rfl⟩ := valid.cached_iff.mp cached
    simpa using List.find?_eq_none.mp found entry mem
  | some entry =>
    obtain ⟨hit, before, after, split, missed⟩ := List.find?_eq_some_iff_append.mp found
    refine ⟨cached_of_mem_records (List.mem_of_find?_eq_some found), hit, fun e' cached hit' => ?_⟩
    obtain ⟨entry', mem, rfl⟩ := valid.cached_iff.mp cached
    have order := valid.records_sorted (normalizeEtag etag)
    rw [split, List.map_append, List.map_cons] at order
    rw [split] at mem
    rcases List.mem_append.mp mem with earlier | here
    · have miss := missed entry' earlier
      rw [hit'] at miss
      cases miss
    · rcases List.mem_cons.mp here with rfl | later
      · exact .inl rfl
      · -- a later entry has no larger ticket, and the same one only if it is zero
        have le := (List.pairwise_cons.mp (List.pairwise_append.mp order).2.1).1 _
          (List.mem_map_of_mem later)
        by_cases same : entry'.etdr.ticketId = entry.etdr.ticketId
        · by_cases zero : entry.etdr.ticketId = 0
          · exact .inr (.inr ⟨same.trans zero, zero⟩)
          · exact .inl (valid.eq_of_ticketId cached
              (cached_of_mem_records (List.mem_of_find?_eq_some found)) same (by rwa [same]))
        · exact .inr (.inl (lt_of_le_of_ne le same))

/-! ### Sequences of calls -/

/-- After calls whose updaters keep the ticket and the tag, the cache is represented, and its
reads return the latest live record of a tag, of all and of those without an exit. -/
theorem run_represented (m n : Nat) (room : 1 ≤ m)
    (calls : List (CacheCall × Clock × (String → Nat)))
    (kept : ∀ call ∈ calls, call.1.KeepsTicket ∧ call.1.KeepsTag) (cache : EtdrCache)
    (reached : cache = run { maxEntriesPerEtag := m, maxTotalEntries := n } calls) :
    cache.Represented ∧ ∀ etag now,
      cache.LatestOf (normalizeEtag etag) (etdrWithinTtl now) (cache.getLatestCheckin etag now).1 ∧
      cache.LatestOf (normalizeEtag etag) (fun e => etdrWithinTtl now e && e.tollOut == 0)
        (cache.getLatestCheckinWithoutCheckout etag now).1 := by
  subst reached
  have valid := (Represented.empty m n).run room kept
  exact ⟨valid, fun etag now => ⟨valid.latestOf etag _, valid.latestOf etag _⟩⟩

/-- Two trips of a tag, the older one put last, in a cache of one entry for each tag. -/
theorem run_represented_newer :
    ∃ cache : EtdrCache, cache.Represented ∧
      (cache.getLatestCheckin "BECT01" default).1.map (·.ticketId) = some 2 := by
  refine ⟨_, (run_represented 1 10 (by decide)
    [(.put { ticketId := 2, etagId := "BECT01" }, default, fun _ => 0),
      (.put { ticketId := 1, etagId := "BECT01" }, default, fun _ => 0),
      (.updateEtdr "BECT01" 0 id, default, fun _ => 0)] ?_ _ rfl).1, by decide +kernel⟩
  intro call mem
  simp only [List.mem_cons, List.not_mem_nil, or_false] at mem
  obtain rfl | rfl | rfl := mem
  · exact ⟨trivial, trivial⟩
  · exact ⟨trivial, trivial⟩
  · exact ⟨fun _ => rfl, fun _ => rfl⟩

/-- An updater that keeps the ticket but changes the tag leaves the record in the list of the
old tag. -/
theorem updateEtdr_moves_tag :
    ¬ ∀ (m n : Nat) (calls : List (CacheCall × Clock × (String → Nat))), 1 ≤ m → 1 ≤ n →
      (∀ call ∈ calls, call.1.KeepsTicket) →
      Represented (run { maxEntriesPerEtag := m, maxTotalEntries := n } calls) := by
  intro claim
  have valid := claim 100 10000
    [(.put { ticketId := 1, etagId := "BECT01" }, default, fun _ => 0),
      (.updateEtdr "BECT01" 0 fun e => { e with etagId := "BECT02" }, default, fun _ => 0)]
    (by decide) (by decide) ?_
  · have moved : ((run { maxEntriesPerEtag := 100, maxTotalEntries := 10000 }
        [(.put { ticketId := 1, etagId := "BECT01" }, default, fun _ => 0),
          (.updateEtdr "BECT01" 0 fun e => { e with etagId := "BECT02" }, default,
            fun _ => 0)]).data.any fun kv =>
        kv.2.any fun entry => normalizeEtag entry.etdr.etagId != kv.1) = true := by
      decide +kernel
    obtain ⟨kv, inData, some_moved⟩ := List.any_eq_true.mp moved
    obtain ⟨entry, mem, other⟩ := List.any_eq_true.mp some_moved
    exact (bne_iff_ne.mp other) (valid.tagged kv inData entry mem)
  · intro call mem
    simp only [List.mem_cons, List.not_mem_nil, or_false] at mem
    obtain rfl | rfl := mem
    · trivial
    · exact fun _ => rfl

end EtdrCache

end TollBackend

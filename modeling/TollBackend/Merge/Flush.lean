import TollBackend.AssocList
import TollBackend.Effects
import TollBackend.Etdr.Retry
import TollBackend.Merge.Fields

/-!
# The flush before a restart

`flush_unsaved_etdrs_to_keydb` writes the records that are not in the database to KeyDB when the
server stops, so that the retry task finds them when it runs again. The copies of a ticket in
memory are merged, and the result is written without reading what the retry store has.

## Main definitions

* `flushUnsavedEtdrsToKeydb`: the flush.
* `FlushKeeps`: after the flush each unsaved ticket is found with all that its copies, and its
  entry in the retry store, had.
* `Flushable`: when a ticket is.

## Main results

* `flushKeeps_iff`: the flush keeps everything exactly when each ticket is flushable.
* `flush_loses_hub_id`: a hub id that only the retry store has is lost.
-/

namespace TollBackend

open Concurrent Merge RecordField

/-! ### The flush -/

/-- A `SET` of a record, if the command works. -/
def keydbPut (works : KeydbKey → Bool) (keydb : List (KeydbKey × Etdr)) (key : KeydbKey)
    (etdr : Etdr) : List (KeydbKey × Etdr) :=
  if works key then assocSet keydb key etdr.readBack else keydb

/-- One pass of the loop that fills `by_ticket`. The tag that stands beside a record there is
never used. -/
def flushStep (byTicket : List Etdr) (etdr : Etdr) : List Etdr :=
  if etdr.ticketId = 0 then byTicket
  else joinInto (·.ticketId) mergeEtdrSameTicketId byTicket etdr

/-- The writes for one ticket. -/
def flushTicket (works : KeydbKey → Bool) (s : Nat × List (KeydbKey × Etdr)) (etdr : Etdr) :
    Nat × List (KeydbKey × Etdr) :=
  if works (.retry etdr.ticketId) then
    (s.1 + 1, keydbPut works (keydbPut works s.2 (.retry etdr.ticketId) etdr)
      (.etag (normalizeEtag etdr.etagId)) etdr)
  else s

/-- `flush_unsaved_etdrs_to_keydb`, with the number of tickets that were written. -/
def flushUnsavedEtdrsToKeydb (works : KeydbKey → Bool) (cache : EtdrCache) (now : Clock)
    (seed : String → Nat) (order : Int → Nat) (keydb : List (KeydbKey × Etdr)) :
    Nat × List (KeydbKey × Etdr) :=
  let unsaved := (cache.getAllUnsavedEtdrs now seed).map (·.2)
  let byTicket := unsaved.foldl flushStep []
  (byTicket.insertionSort fun a b => order a.ticketId ≤ order b.ticketId).foldl
    (flushTicket works) (0, keydb)

/-- The state after a flush with a KeyDB that works. -/
def Sys.flushed (s : Sys) (now : Clock) (seed : String → Nat) (order : Int → Nat) : Sys :=
  { s with
    keydb := (flushUnsavedEtdrsToKeydb (fun _ => true) s.cache now seed order s.keydb).2 }

/-- The unsaved copies of a ticket in memory, in the order of the cache. -/
def Sys.unsavedCopies (s : Sys) (now : Clock) (seed : String → Nat) (t : Int) : List Etdr :=
  ((s.cache.getAllUnsavedEtdrs now seed).map (·.2)).filter fun etdr => etdr.ticketId = t

/-! ### What is kept -/

/-- Each field that a copy has is in the record, with the value of one of the copies. -/
structure HasAllData (copies : List Etdr) (e : Etdr) : Prop where
  fields : ∀ f ∈ Etdr.mergeFields, ∀ copy ∈ copies, f.get copy ≠ f.empty →
    ∃ x ∈ copies, f.get x ≠ f.empty ∧ f.get e = f.get x
  numbers : ∀ f ∈ Etdr.largerFields, ∀ copy ∈ copies, f copy ≠ 0 →
    ∃ x ∈ copies, f x ≠ 0 ∧ f e = f x

/-- Each field that the old record has is filled. -/
structure NoneLost (old e : Etdr) : Prop where
  fields : ∀ f ∈ Etdr.mergeFields, f.get old ≠ f.empty → f.get e ≠ f.empty
  numbers : ∀ f ∈ Etdr.largerFields, f old ≠ 0 → f e ≠ 0

/-- After the flush the retry task finds each unsaved ticket in the retry store, with all the data
of its copies and nothing missing that its entry there had. -/
def FlushKeeps (s : Sys) (now : Clock) (seed : String → Nat) (order : Int → Nat) : Prop :=
  ∀ t ≠ 0, s.unsavedCopies now seed t ≠ [] →
    ∀ choices : Nat → Choice, (∀ n, (choices n).fault = none) →
      ∃ e, (.retry t, e) ∈
          (etdrsFromKeydbForDbSync.run Op.exec choices (s.flushed now seed order)).1 ∧
        e.ticketId = t ∧ HasAllData (s.unsavedCopies now seed t) e ∧
        ∀ old ∈ s.keydb.lookup (.retry t), NoneLost old e

/-! ### What is read after the flush -/

/-- What is found when all commands work. -/
def unsavedOfKeydb (keydb : List (KeydbKey × Etdr)) : List (KeydbKey × Etdr) :=
  let keys := (keydb.map (·.1)).filter KeydbKey.isRetry ++
    (keydb.map (·.1)).filter fun key => !key.isRetry
  (keys.zip (keys.map fun key => keydb.lookup key)).filterMap fun kv =>
    kv.2.bind fun etdr => if etdr.dbSaved then none else some (kv.1, etdr)

theorem run_etdrsFromKeydbForDbSync {choices : Nat → Choice}
    (works : ∀ n, (choices n).fault = none) (s : Sys) :
    (etdrsFromKeydbForDbSync.run Op.exec choices s).1 = unsavedOfKeydb s.keydb := by
  have ok {α : Type} (n : Nat) (value : α) : (choices n).orFault value = .ok value := by
    rw [Choice.orFault, works n]
  simp only [etdrsFromKeydbForDbSync, ask, Prog.perform_bind, Prog.run, Op.exec, Query.reply, ok]
  set keys := (s.keydb.map (·.1)).filter KeydbKey.isRetry ++
    (s.keydb.map (·.1)).filter fun key => !key.isRetry with keys_eq
  have found : unsavedOfKeydb s.keydb =
      (keys.zip (keys.map fun key => s.keydb.lookup key)).filterMap fun kv =>
        kv.2.bind fun etdr => if etdr.dbSaved then none else some (kv.1, etdr) := rfl
  rw [found, ok]
  change (Prog.run Op.exec (if keys.isEmpty then _ else _) _ s).1 = _
  by_cases none : keys.isEmpty
  · rw [if_pos none, List.isEmpty_iff.mp none]
    rfl
  · rw [if_neg none]
    simp only [Prog.run, Op.exec, Query.reply, ok]
    rfl

/-- Under a key of the retry store, its entry is found if it is not marked as saved. -/
theorem mem_unsavedOfKeydb_iff {s : Sys} {t : Int} {e : Etdr} :
    (.retry t, e) ∈ unsavedOfKeydb s.keydb ↔
      s.keydb.lookup (.retry t) = some e ∧ e.dbSaved = false := by
  unfold unsavedOfKeydb
  dsimp only
  rw [← List.map_prod_left_eq_zip, List.mem_filterMap]
  constructor
  · rintro ⟨kv, mem, kept⟩
    obtain ⟨key, -, rfl⟩ := List.mem_map.mp mem
    obtain ⟨etdr, found, kept⟩ := Option.bind_eq_some_iff.mp kept
    by_cases saved : etdr.dbSaved
    · rw [if_pos saved] at kept
      cases kept
    · rw [if_neg saved] at kept
      cases kept
      exact ⟨found, by simpa using saved⟩
  · rintro ⟨found, unsaved⟩
    refine ⟨(.retry t, some e), List.mem_map.mpr ⟨.retry t, ?_, by rw [found]⟩, by simp [unsaved]⟩
    apply List.mem_append_left
    apply List.mem_filter.mpr ⟨_, rfl⟩
    exact List.mem_map_of_mem (f := (·.1)) (mem_keydb_of_lookup found)

theorem lookup_flushTicket (s : Nat × List (KeydbKey × Etdr)) (etdr : Etdr) (t : Int) :
    (flushTicket (fun _ => true) s etdr).2.lookup (.retry t) =
      if etdr.ticketId = t then some etdr.readBack else s.2.lookup (.retry t) := by
  unfold flushTicket keydbPut
  rw [if_pos rfl, if_pos rfl, if_pos rfl, lookup_assocSet, lookup_assocSet, if_neg nofun]
  by_cases same : etdr.ticketId = t
  · rw [if_pos same, if_pos (congrArg KeydbKey.retry same.symm)]
  · rw [if_neg same, if_neg fun eq => same (KeydbKey.retry.inj eq).symm]

/-- The last record of a ticket is in its entry of the retry store. -/
theorem lookup_foldl_flushTicket (l : List Etdr) (s : Nat × List (KeydbKey × Etdr)) (t : Int) :
    (l.foldl (flushTicket fun _ => true) s).2.lookup (.retry t) =
      ((l.filter fun etdr => etdr.ticketId = t).getLast?).elim (s.2.lookup (.retry t))
        fun etdr => some etdr.readBack := by
  induction l generalizing s with
  | nil => rfl
  | cons etdr l ih =>
    rw [List.foldl_cons, ih, lookup_flushTicket]
    by_cases same : etdr.ticketId = t
    · rw [if_pos same, List.filter_cons_of_pos (by simpa using same), List.getLast?_cons]
      cases (l.filter fun etdr => etdr.ticketId = t).getLast? with
      | none => rfl
      | some last => rfl
    · rw [if_neg same, List.filter_cons_of_neg (by simpa using same)]

/-- The entry of a ticket after the flush: its copies, merged. -/
theorem lookup_flushed {s : Sys} {now : Clock} {seed : String → Nat} (order : Int → Nat) {t : Int}
    (ticket : t ≠ 0) {first : Etdr} {rest : List Etdr}
    (copies : s.unsavedCopies now seed t = first :: rest) :
    (s.flushed now seed order).keydb.lookup (.retry t) =
      some (rest.foldl mergeEtdrSameTicketId first).readBack := by
  have unsaved : ((s.cache.getAllUnsavedEtdrs now seed).map (·.2)).filter
      (fun etdr => etdr.ticketId = t) = first :: rest := copies
  have entry := filter_sorted_joinInto (fun etdr : Etdr => etdr.ticketId) mergeEtdrSameTicketId
    (fun _ _ same => mergeEtdrSameTicketId_ticketId same) 0
    (fun a b => order a.ticketId ≤ order b.ticketId)
    ((s.cache.getAllUnsavedEtdrs now seed).map (·.2)) t
  rw [if_neg ticket, unsaved] at entry
  apply (lookup_foldl_flushTicket _ (0, s.keydb) t).trans
  apply (congrArg (fun l : List Etdr => l.getLast?.elim _ _) entry).trans
  rfl

/-! ### The exact condition -/

/-- The newest copy of a ticket has what any copy or its entry in the retry store has, as far as
it is taken from it alone, the copies have the rest of what the entry has, and no fee line of
the newest copy has an id that is not written. -/
structure Flushable (copies : List Etdr) (newest : Etdr) (old : Option Etdr) : Prop where
  newest_full : ∀ f ∈ Etdr.mergeFields, f.rule = .base → ∀ e ∈ copies ++ old.toList,
    f.get e ≠ f.empty → f.get newest ≠ f.empty
  old_known : ∀ f ∈ Etdr.mergeFields, f.rule ≠ .base → ∀ e ∈ old, f.get e ≠ f.empty →
    ∃ copy ∈ copies, f.get copy ≠ f.empty
  numbers : ∀ f ∈ Etdr.largerFields, ∀ e ∈ copies ++ old.toList, f e ≠ 0 →
    (∀ copy ∈ copies, f copy < 0) ∨ ∃ copy ∈ copies, 0 < f copy
  lines : ∃ copy ∈ copies, copy.ratingDetails = newest.readBack.ratingDetails

/-- Only the fee lines are read back in another form. -/
theorem mergeFields_readBack : ∀ f ∈ Etdr.mergeFields, (∀ e : Etdr, f.get e.readBack = f.get e) ∨
    f = several .base (·.ratingDetails) := by
  simp only [Etdr.mergeFields, List.forall_mem_cons]
  and_intros <;> first | exact .inl fun _ => rfl | exact .inr rfl | simp

theorem readBack_eq_empty_iff {f : RecordField Etdr} (mem : f ∈ Etdr.mergeFields) (e : Etdr) :
    f.get e.readBack = f.empty ↔ f.get e = f.empty := by
  rcases mergeFields_readBack f mem with same | rfl
  · rw [same]
  · exact List.map_eq_nil_iff

theorem largerFields_readBack {f : Etdr → Int} (mem : f ∈ Etdr.largerFields) (e : Etdr) :
    f e.readBack = f e := by
  simp only [Etdr.largerFields, List.mem_cons, List.not_mem_nil, or_false] at mem
  rcases mem with rfl | rfl | rfl <;> rfl

section Ticket

theorem field_mem {f : RecordField Etdr} (mem : f ∈ Etdr.mergeFields) : f ∈ etdrMerge.fields :=
  List.mem_append_left _ mem

theorem newest_mem (l : List Etdr) (a : Etdr) : l.foldl Etdr.newer a ∈ a :: l := by
  induction l generalizing a with
  | nil => exact List.mem_cons_self
  | cons b l ih =>
    rcases List.mem_cons.mp (ih (a.newer b)) with here | inside
    · rw [List.foldl_cons, here, Etdr.newer]
      by_cases later : b.checkinDatetime ≤ a.checkinDatetime
      · simp [later]
      · simp [later]
    · exact List.mem_cons_of_mem _ (List.mem_cons_of_mem _ inside)

variable (first : Etdr) (rest : List Etdr)

/-- A larger number of the merge is known when all copies are below zero or one is above. -/
theorem larger_ne_zero_iff {f : Etdr → Int} (mem : f ∈ Etdr.largerFields) :
    f (rest.foldl mergeEtdrSameTicketId first) ≠ 0 ↔
      (∀ copy ∈ first :: rest, f copy < 0) ∨ ∃ copy ∈ first :: rest, 0 < f copy := by
  have below := etdrMerge.le_foldl_larger rest first mem
  obtain ⟨largest, inside, same⟩ := etdrMerge.exists_foldl_larger rest first mem
  constructor
  · intro known
    rcases lt_or_gt_of_ne known with negative | positive
    · exact .inl fun copy there => lt_of_le_of_lt (below copy there) negative
    · exact .inr ⟨largest, inside, lt_of_lt_of_eq positive same.symm⟩
  · rintro (negative | ⟨copy, there, positive⟩)
    · exact ne_of_lt (lt_of_eq_of_lt same.symm (negative largest inside))
    · exact ne_of_gt (lt_of_lt_of_le positive (below copy there))

/-- The fee lines that are read back are those of the newest copy. -/
theorem readBack_ratingDetails :
    (rest.foldl mergeEtdrSameTicketId first).readBack.ratingDetails =
      (rest.foldl Etdr.newer first).readBack.ratingDetails := by
  have lines : (rest.foldl mergeEtdrSameTicketId first).ratingDetails =
      (rest.foldl Etdr.newer first).ratingDetails :=
    etdrMerge.foldl_get_base (f := several .base (·.ratingDetails)) rest first
      (field_mem (by simp [Etdr.mergeFields])) rfl
  exact congrArg (List.map BooRatingDetail.readBack) lines

/-- What is read back has all data of the copies and lacks nothing of the old entry exactly when
the ticket is flushable. -/
theorem flushable_iff (old : Option Etdr) :
    (HasAllData (first :: rest) (rest.foldl mergeEtdrSameTicketId first).readBack ∧
        ∀ e ∈ old, NoneLost e (rest.foldl mergeEtdrSameTicketId first).readBack) ↔
      Flushable (first :: rest) (rest.foldl Etdr.newer first) old := by
  set merged := rest.foldl mergeEtdrSameTicketId first with merged_eq
  set newest := rest.foldl Etdr.newer first with newest_eq
  have from_newest (f : RecordField Etdr) (mem : f ∈ Etdr.mergeFields) (base : f.rule = .base) :
      f.get merged = f.get newest :=
    etdrMerge.foldl_get_base rest first (field_mem mem) base
  have from_copy (f : RecordField Etdr) (mem : f ∈ Etdr.mergeFields) :
      ∃ copy ∈ first :: rest, f.get copy = f.get merged :=
    etdrMerge.exists_foldl_get rest first (field_mem mem)
  have larger (f : Etdr → Int) (mem : f ∈ Etdr.largerFields) : f merged ≠ 0 ↔ _ :=
    larger_ne_zero_iff first rest mem
  have lines_of : merged.readBack.ratingDetails = newest.readBack.ratingDetails :=
    readBack_ratingDetails first rest
  constructor
  · rintro ⟨all, none_lost⟩
    have filled (f : RecordField Etdr) (mem : f ∈ Etdr.mergeFields) (e : Etdr)
        (known : e ∈ first :: rest ++ old.toList) (given : f.get e ≠ f.empty) :
        f.get merged ≠ f.empty := by
      intro none
      have none := (readBack_eq_empty_iff mem merged).mpr none
      rcases List.mem_append.mp known with copy | was
      · obtain ⟨x, -, some_x, same⟩ := all.fields f mem e copy given
        exact some_x (same.symm.trans none)
      · exact (none_lost e (by simpa using was)).fields f mem given none
    constructor
    case newest_full =>
      intro f mem base e known given
      rw [← from_newest f mem base]
      exact filled f mem e known given
    case old_known =>
      intro f mem _ e was given
      obtain ⟨copy, inside, same⟩ := from_copy f mem
      refine ⟨copy, inside, ?_⟩
      rw [same]
      exact filled f mem e (List.mem_append_right _ (by simpa using was)) given
    case numbers =>
      intro f mem e known given
      apply (larger f mem).mp
      rw [← largerFields_readBack mem merged]
      rcases List.mem_append.mp known with copy | was
      · obtain ⟨x, -, some_x, same⟩ := all.numbers f mem e copy given
        rwa [same]
      · exact (none_lost e (by simpa using was)).numbers f mem given
    case lines =>
      -- without fee lines the newest copy itself is read back as it is
      by_cases none : newest.ratingDetails = []
      · refine ⟨newest, newest_mem rest first, ?_⟩
        rw [none]
        exact (List.map_eq_nil_iff.mpr none).symm
      · have field : several .base (·.ratingDetails) ∈ Etdr.mergeFields := by
          simp [Etdr.mergeFields]
        obtain ⟨x, inside, -, same⟩ := all.fields _ field newest (newest_mem rest first) none
        exact ⟨x, inside, same.symm.trans lines_of⟩
  · intro flushable
    have filled (f : RecordField Etdr) (mem : f ∈ Etdr.mergeFields) (e : Etdr)
        (known : e ∈ first :: rest ++ old.toList) (given : f.get e ≠ f.empty) :
        f.get merged ≠ f.empty := by
      by_cases base : f.rule = .base
      · rw [from_newest f mem base]
        exact flushable.newest_full f mem base e known given
      · intro none
        have nowhere := etdrMerge.foldl_get_eq_empty (field_mem mem) base none
        rcases List.mem_append.mp known with copy | was
        · exact given (nowhere e copy)
        · obtain ⟨copy, inside, some_copy⟩ :=
            flushable.old_known f mem base e (by simpa using was) given
          exact some_copy (nowhere copy inside)
    have number_filled (f : Etdr → Int) (mem : f ∈ Etdr.largerFields) (e : Etdr)
        (known : e ∈ first :: rest ++ old.toList) (given : f e ≠ 0) : f merged.readBack ≠ 0 := by
      rw [largerFields_readBack mem]
      exact (larger f mem).mpr (flushable.numbers f mem e known given)
    constructor
    · constructor
      case fields =>
        intro f mem copy inside given
        have some_merged := filled f mem copy (List.mem_append_left _ inside) given
        rcases mergeFields_readBack f mem with same | rfl
        · obtain ⟨x, there, eq⟩ := from_copy f mem
          rw [← eq] at some_merged
          exact ⟨x, there, some_merged, (same merged).trans eq.symm⟩
        · obtain ⟨x, there, eq⟩ := flushable.lines
          have eq : merged.readBack.ratingDetails = x.ratingDetails := lines_of.trans eq.symm
          refine ⟨x, there, fun none => some_merged ?_, eq⟩
          exact List.map_eq_nil_iff.mp (eq.trans none)
      case numbers =>
        intro f mem copy inside given
        have known := number_filled f mem copy (List.mem_append_left _ inside) given
        obtain ⟨x, there, eq⟩ := etdrMerge.exists_foldl_larger rest first mem
        have eq : f merged.readBack = f x := (largerFields_readBack mem merged).trans eq.symm
        exact ⟨x, there, fun zero => known (eq.trans zero), eq⟩
    · intro e was
      have known : e ∈ first :: rest ++ old.toList :=
        List.mem_append_right _ (by simpa using was)
      constructor
      case fields =>
        intro f mem given none
        exact filled f mem e known given ((readBack_eq_empty_iff mem merged).mp none)
      case numbers =>
        exact fun f mem given => number_filled f mem e known given

end Ticket

/-! ### The flush of all tickets -/

section Tickets

variable {s : Sys} {now : Clock} {seed : String → Nat} {t : Int}

/-- The copies of a ticket are its own, and none of them is marked as saved. -/
theorem unsaved_of_mem_unsavedCopies {copy : Etdr} (mem : copy ∈ s.unsavedCopies now seed t) :
    copy.ticketId = t ∧ copy.dbSaved = false := by
  obtain ⟨unsaved, ticket⟩ := List.mem_filter.mp mem
  obtain ⟨kv, listed, rfl⟩ := List.mem_map.mp unsaved
  obtain ⟨tag, -, entries⟩ := List.mem_flatMap.mp listed
  obtain ⟨entry, inside, rfl⟩ := List.mem_map.mp entries
  have waiting := (List.mem_filter.mp inside).2
  rw [Bool.and_eq_true, Bool.not_eq_true'] at waiting
  exact ⟨by simpa using ticket, waiting.2⟩

/-- A ticket is found as it should exactly when it is flushable. -/
theorem found_flushed_iff (order : Int → Nat) (ticket : t ≠ 0) {first : Etdr} {rest : List Etdr}
    (copies : s.unsavedCopies now seed t = first :: rest) :
    (∃ e, (.retry t, e) ∈ unsavedOfKeydb (s.flushed now seed order).keydb ∧ e.ticketId = t ∧
        HasAllData (s.unsavedCopies now seed t) e ∧
        ∀ old ∈ s.keydb.lookup (.retry t), NoneLost old e) ↔
      Flushable (s.unsavedCopies now seed t) (rest.foldl Etdr.newer first)
        (s.keydb.lookup (.retry t)) := by
  set merged := rest.foldl mergeEtdrSameTicketId first with merged_eq
  have entry := lookup_flushed order ticket copies
  rw [copies, ← flushable_iff]
  constructor
  · rintro ⟨e, found, -, all, none_lost⟩
    rw [mem_unsavedOfKeydb_iff, entry] at found
    cases found.1
    exact ⟨all, none_lost⟩
  · rintro ⟨all, none_lost⟩
    have own (copy : Etdr) (inside : copy ∈ first :: rest) :
        copy.ticketId = t ∧ copy.dbSaved = false := by
      rw [← copies] at inside
      exact unsaved_of_mem_unsavedCopies inside
    have same_ticket : merged.ticketId = t := by
      obtain ⟨copy, inside, same⟩ := etdrMerge.exists_foldl_get rest first
        (f := number .base (·.ticketId)) (field_mem (by simp [Etdr.mergeFields]))
      exact same.symm.trans (own copy inside).1
    have unsaved : merged.dbSaved = false := by
      obtain ⟨copy, inside, same⟩ := etdrMerge.exists_foldl_get rest first
        (f := flag .base (·.dbSaved)) (List.mem_append_right _ (by simp [Etdr.flagFields]))
      exact same.symm.trans (own copy inside).2
    refine ⟨merged.readBack, ?_, same_ticket, all, none_lost⟩
    exact mem_unsavedOfKeydb_iff.mpr ⟨entry, unsaved⟩

/-- The flush keeps all data exactly when each ticket with unsaved copies is flushable: its newest
copy must have what any copy or its entry in the retry store has, as the entry is not read. -/
theorem flushKeeps_iff (s : Sys) (now : Clock) (seed : String → Nat) (order : Int → Nat) :
    FlushKeeps s now seed order ↔
      ∀ t ≠ 0, ∀ newest ∈ joinAll Etdr.newer (s.unsavedCopies now seed t),
        Flushable (s.unsavedCopies now seed t) newest (s.keydb.lookup (.retry t)) := by
  apply forall₂_congr
  intro t ticket
  have some_choice : ∃ choices : Nat → Choice, ∀ n, (choices n).fault = none :=
    ⟨fun _ => {}, fun _ => rfl⟩
  cases copies : s.unsavedCopies now seed t with
  | nil => simp [joinAll]
  | cons first rest =>
    have found := found_flushed_iff order ticket copies
    rw [copies] at found
    constructor
    · rintro keeps newest ⟨⟩
      obtain ⟨choices, works⟩ := some_choice
      have kept := keeps (List.cons_ne_nil first rest) choices works
      rw [run_etdrsFromKeydbForDbSync works] at kept
      exact found.mp kept
    · intro flushable _ choices works
      rw [run_etdrsFromKeydbForDbSync works]
      exact found.mpr (flushable _ rfl)

end Tickets

/-- A record in memory that does not know its hub id, which the retry store does. -/
def staleInMemory : Sys where
  stages := { rows := [], primaryKey := List.nodup_nil }
  cache := { data := [("BECT01",
    [{ etdr := { ticketId := 11, etagId := "BECT01" }, createdAt := 0, lastAccess := 0 }])] }
  keydb := [(.retry 11, { ticketId := 11, etagId := "BECT01", hubId := some 7 })]

/-- The hub id of the entry in the retry store is lost when the copy in memory has none. -/
theorem flush_loses_hub_id :
    ¬ ∀ (s : Sys) (now : Clock) (seed : String → Nat) (order : Int → Nat),
      FlushKeeps s now seed order := by
  intro claim
  have copies : staleInMemory.unsavedCopies default (fun _ => 0) 11 =
      [{ ticketId := 11, etagId := "BECT01" }] := by rfl
  have stored : staleInMemory.keydb.lookup (.retry 11) =
      some { ticketId := 11, etagId := "BECT01", hubId := some 7 } := by rfl
  have kept := claim staleInMemory default (fun _ => 0) (fun _ => 0) 11 (by decide) (by simp [copies])
    (fun _ => {}) fun _ => rfl
  rw [run_etdrsFromKeydbForDbSync fun _ => rfl, found_flushed_iff _ (by decide) copies] at kept
  have full := kept.newest_full (maybe .base (·.hubId)) (by simp [Etdr.mergeFields]) rfl
    { ticketId := 11, etagId := "BECT01", hubId := some 7 }
  have known : some (7 : Int) ≠ none := Option.some_ne_none 7
  exact full (List.mem_append_right _ (by simp [stored])) known rfl

end TollBackend

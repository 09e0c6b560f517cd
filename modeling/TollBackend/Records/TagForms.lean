import TollBackend.Etdr.CacheCalls
import TollBackend.Fe.Text
import TollBackend.Records.Rule

/-!
# The forms of a tag

The tag of a check-in comes as a field of 24 bytes, and a record keeps the text of the field as it
is. The row of the check-in and the keys of its record are made from it in two ways: by
`normalize_etag`, which strips NULs from the end and then white space, and by `trim`, which strips
white space only.

## Main definitions

* `OfField`: the records of a check-in with this text in its field.
* `OneTag`: every row and every key of these records has the normalized tag.

## Main results

* `oneTag_iff`: they do exactly if the trimmed text does not end in NUL.
-/

namespace TollBackend

open Concurrent

/-! ### Keys -/

/-- What a spawned write does. -/
def KeydbSync.write : KeydbSync → Program Unit
  | .hubUpdated etdr => perform (.keydbSet (.etag (trim etdr.etagId)) etdr)
  | .saved etdr =>
      let keyEtag := KeydbKey.etag (normalizeEtag etdr.etagId)
      if !etdr.dbSaved && etdr.ticketId != 0 then do
        let existing ← ask (.keydbGet (.retry etdr.ticketId))
        perform (.keydbSet (.retry etdr.ticketId)
          ((existing.map fun ex => mergeEtdrSameTicketId ex etdr).getD etdr))
        perform (.keydbSet keyEtag etdr)
      else perform (.keydbSet keyEtag etdr)

/-- The task that writes to KeyDB performs one of them. -/
theorem syncEtdrToKeydb_eq : syncEtdrToKeydb =
    perform .takeSpawned >>= fun spawned => spawned.elim (return ()) KeydbSync.write := by
  unfold syncEtdrToKeydb
  congr
  funext spawned
  cases spawned with
  | none => rfl
  | some write => cases write <;> rfl

/-- The key that `collect_unsaved_etdrs` gives a record of the memory. -/
def Etdr.collectKey (etdr : Etdr) : KeydbKey :=
  .etag (trim etdr.etagId)

/-- What the cleanup of KeyDB does to the cache for a record that it has removed. -/
def EtdrCache.cleanup (cache : EtdrCache) (etdr : Etdr) : EtdrCache :=
  cache.removeEtag (trim etdr.etagId)

/-! ### One tag -/

/-- The records of check-ins with this text in their field, as requests and the retry task change
them and as KeyDB gives them back. -/
inductive OfField (field : String) : Etdr → Prop
  | entered (req : FeCheckin) (subscriberInfo : Option SubscriberInfo)
      (exVehicleType : Option String) (ticketId : Int) (now : Clock) (etag : req.etag = field) :
      OfField field (checkinEtdr req subscriberInfo exVehicleType ticketId now)
  | unsaved {e : Etdr} : OfField field e → OfField field { e with
      check := saveDbError, dbSaved := false, dbSaveRetryCount := e.dbSaveRetryCount + 1 }
  | filled {e : Etdr} (sync : TransportTransStageSync) (now : Clock) :
      OfField field e → OfField field (fillEtdrFromSync e sync now)
  | hubId {e : Etdr} (hubId : Int) :
      OfField field e → OfField field { e with hubId := some hubId }
  | touched {e : Etdr} (now : Clock) :
      OfField field e → OfField field (EtdrWrite.touched e now).etdr
  | committed {e : Etdr} (now : Clock) (details : List BooRatingDetail) (dbSaved : Bool) :
      OfField field e → OfField field (EtdrWrite.checkinCommitted e now details dbSaved).etdr
  | reserved {e : Etdr} (req : CheckoutReserveBoo) (transAmount : Int) (priceTicketType : Int)
      (now : Clock) : OfField field e →
      OfField field (EtdrWrite.checkoutReserved e req transAmount priceTicketType now).etdr
  | merged {a b : Etdr} :
      OfField field a → OfField field b → OfField field (mergeEtdrSameTicketId a b)
  | saved {e : Etdr} : OfField field e → OfField field { e with dbSaved := true }
  | counted {e : Etdr} : OfField field e →
      OfField field { e with dbSaveRetryCount := e.dbSaveRetryCount + 1 }
  | readBack {e : Etdr} : OfField field e → OfField field e.readBack

/-- A row that is inserted has this tag. -/
def InsertsTag (tag : String) (o : Op) : Prop :=
  ∀ row, o = .stageInsertRow row → row.etagNumber = some tag

/-- A record that is written or removed under the key of a tag is under that of this one. -/
def UsesTag (tag : String) (o : Op) : Prop :=
  ∀ key, ((∃ e, o = .keydbSet (.etag key) e) ∨ o = .keydbRemove (.etag key)) → key = tag

/-- Every row and every key of the records of a field has the normalized tag, so that removing
the tag from the cache removes them. -/
structure OneTag (field : String) : Prop where
  inserted : ∀ call : CheckinCall, call.req.etag = field →
    (processCheckin call).Only (InsertsTag (normalizeEtag field))
  retried : ∀ e, OfField field e → (retrySaveEtdrToDb e).Only (InsertsTag (normalizeEtag field))
  synced : ∀ write : KeydbSync, OfField field write.etdr →
    write.write.Only (UsesTag (normalizeEtag field))
  finished : ∀ e, OfField field e →
    (retrySucceeded e.collectKey e).Only (UsesTag (normalizeEtag field))
  cleaned : ∀ e cache, OfField field e →
    ∀ e', ¬ (EtdrCache.cleanup cache e).Cached (normalizeEtag field) e'

/-- The text does not end in NUL when white space is stripped. -/
def NoNulBehind (field : String) : Prop :=
  (trim field).toList.getLast? ≠ some '\x00'

/-! ### Texts -/

/-- A text that does not end in NUL is only trimmed. -/
theorem normalizeEtag_eq_trim {s : String} (noNul : s.toList.getLast? ≠ some '\x00') :
    normalizeEtag s = trim s := by
  have kept : s.toList.rdropWhile (· == '\x00') = s.toList := by
    apply List.rdropWhile_eq_self_iff.mpr
    intro nonempty isNul
    apply noNul
    rw [List.getLast?_eq_getLast_of_ne_nil nonempty, beq_iff_eq.mp isNul]
  unfold normalizeEtag
  rw [kept, String.ofList_toList]

/-- What is trimmed of a text that ends in NUL ends in it. -/
theorem getLast?_trim {s : String} (nul : s.toList.getLast? = some '\x00') :
    (trim s).toList.getLast? = some '\x00' := by
  obtain ⟨front, whole⟩ := List.getLast?_eq_some_iff.mp nul
  have solid : ¬ isWhiteSpace '\x00' = true := by decide
  have start : ∃ rest, s.toList.dropWhile isWhiteSpace = rest ++ ['\x00'] := by
    rw [whole, List.dropWhile_append]
    by_cases blank : (front.dropWhile isWhiteSpace).isEmpty
    · rw [if_pos blank]
      exact ⟨[], List.dropWhile_cons_of_neg solid⟩
    · rw [if_neg blank]
      exact ⟨_, rfl⟩
  obtain ⟨rest, left⟩ := start
  unfold trim
  rw [String.toList_ofList, left, List.rdropWhile_concat_neg _ _ _ solid, List.getLast?_concat]

theorem length_trim_le (s : String) : (trim s).toList.length ≤ s.toList.length := by
  unfold trim
  rw [String.toList_ofList]
  have front := (List.dropWhile_sublist isWhiteSpace (l := s.toList)).length_le
  exact ((List.rdropWhile_prefix isWhiteSpace _).length_le).trans front

/-- Normalizing makes a text that ends in NUL shorter. -/
theorem length_normalizeEtag_lt {s : String} (nul : s.toList.getLast? = some '\x00') :
    (normalizeEtag s).toList.length < s.toList.length := by
  obtain ⟨front, whole⟩ := List.getLast?_eq_some_iff.mp nul
  have stripped : s.toList.rdropWhile (· == '\x00') = front.rdropWhile (· == '\x00') := by
    rw [whole, List.rdropWhile_concat_pos]
    rfl
  have shorter := (List.rdropWhile_prefix (· == '\x00') front).length_le
  calc
    (normalizeEtag s).toList.length ≤ (front.rdropWhile (· == '\x00')).length := by
      unfold normalizeEtag
      rw [stripped]
      exact (length_trim_le _).trans (by rw [String.toList_ofList])
    _ ≤ front.length := shorter
    _ < s.toList.length := by rw [whole, List.length_append]; exact Nat.lt_succ_self _

/-- The two forms of a tag are the same, and that of the trimmed text, exactly if no NUL is behind
it. -/
theorem noNulBehind_iff (field : String) :
    NoNulBehind field ↔ trim field = normalizeEtag field ∧
      normalizeEtag (trim field) = normalizeEtag field := by
  constructor
  · intro noNul
    have same : normalizeEtag field = trim field :=
      normalizeEtag_eq_trim fun nul => noNul (getLast?_trim nul)
    have again : normalizeEtag (trim field) = trim (trim field) := normalizeEtag_eq_trim noNul
    exact ⟨same.symm, by rw [again, trim_trim, same]⟩
  · rintro ⟨trimmed, again⟩ nul
    have shorter := length_normalizeEtag_lt nul
    rw [again, ← trimmed] at shorter
    exact absurd shorter (Nat.lt_irrefl _)

/-! ### Records -/

variable {field : String} {e : Etdr}

/-- A record keeps the text of its field in both of its tags. -/
theorem OfField.tags (ofField : OfField field e) : e.etagId = field ∧ e.etagNumber = field := by
  induction ofField with
  | entered req subscriberInfo exVehicleType ticketId now etag =>
    cases subscriberInfo <;> exact ⟨etag, etag⟩
  | merged _ _ ihA ihB =>
    rename_i a b _ _
    have number (v w : String) (sameV : v = field) (sameW : w = field) :
        (if w = "" then v else w) = field := by
      by_cases empty : w = ""
      · rw [if_pos empty, sameV]
      · rw [if_neg empty, sameW]
    by_cases later : b.checkinDatetime ≤ a.checkinDatetime
    · rw [mergeEtdrSameTicketId, if_pos later]
      exact ⟨ihA.1, number _ _ ihA.2 ihB.2⟩
    · rw [mergeEtdrSameTicketId, if_neg later]
      exact ⟨ihB.1, number _ _ ihB.2 ihA.2⟩
  | unsaved _ ih | filled _ _ _ ih | hubId _ _ ih | touched _ _ ih | committed _ _ _ _ ih
  | reserved _ _ _ _ _ ih | saved _ ih | counted _ ih | readBack _ ih => exact ih

/-! ### Rows -/

section Rows

variable {tag : String}

theorem insertsTag_ask (q : Query) : InsertsTag tag (.ask q) :=
  fun _ same => by cases same

/-- A save inserts the entity, perhaps under another id. -/
theorem stageSave_insertsTag {entity : TransportTransactionStage}
    (same : entity.etagNumber = some tag) : (stageSave entity).Only (InsertsTag tag) := by
  apply (stageSave_only entity).mono
  intro o op
  cases op with
  | ask q => exact insertsTag_ask q
  | insertRow id =>
    intro row inserted
    cases inserted
    exact same

/-- A check-in inserts a row with the normalized tag. -/
theorem processCheckin_insertsTag (call : CheckinCall) :
    (processCheckin call).Only (InsertsTag (normalizeEtag call.req.etag)) := by
  refine (processCheckin_performs call).mono fun o op => ?_
  cases op with
  | ask q => exact insertsTag_ask q
  | insertRow own ticketId id subscriberInfo now =>
    intro row inserted
    cases inserted
    rfl
  | saved own | unsaved own | answer status ticketId =>
    intro row inserted
    cases inserted

/-- An attempt of the retry inserts a row with the trimmed tag. -/
theorem retrySaveEtdrToDb_insertsTag (same : trim e.etagNumber = tag) :
    (retrySaveEtdrToDb e).Only (InsertsTag tag) := by
  have pending : ∀ id, (do retryPendingTcd id; return true : Program Bool).Only
      (InsertsTag tag) := by
    intro id
    refine Prog.Only.bind ?_ fun _ => trivial
    apply (only_ask_bind _ _).mpr ⟨insertsTag_ask _, fun list => ?_⟩
    split
    · trivial
    · split
      · trivial
      · apply (only_ask_bind _ _).mpr ⟨insertsTag_ask _, fun saved => ?_⟩
        split
        · exact (only_perform _).mpr fun row inserted => by cases inserted
        · trivial
  have merge : ∀ existing id, (retryMerge e.trimTags existing id).Only (InsertsTag tag) := by
    intro existing id
    apply (only_ask_bind _ _).mpr ⟨insertsTag_ask _, fun env => ?_⟩
    apply (only_perform_bind _ _).mpr
    constructor
    · intro row inserted
      cases inserted
    · intro updated
      split
      · exact pending _
      · trivial
  have afterFailedSave : ∀ errorMsg,
      (retryAfterFailedSave e.trimTags errorMsg).Only (InsertsTag tag) := by
    intro errorMsg
    unfold retryAfterFailedSave
    split
    · apply (only_ask_bind _ _).mpr ⟨insertsTag_ask _, fun found => ?_⟩
      split
      · exact pending _
      · apply (findByTicketInIdIfSet_only insertsTag_ask _).bind fun existing => ?_
        split
        · exact pending _
        · trivial
      · trivial
    · trivial
  have insert : (retryInsert e.trimTags).Only (InsertsTag tag) := by
    apply (only_ask_bind _ _).mpr ⟨insertsTag_ask _, fun env => ?_⟩
    have entity : (buildTransportStageFromEtdr e.trimTags env).etagNumber = some tag :=
      congrArg some same
    apply (stageSave_insertsTag entity).bind fun saved => ?_
    split
    · exact pending _
    · exact afterFailedSave _
  unfold retrySaveEtdrToDb
  split
  · apply (only_ask_bind _ _).mpr ⟨insertsTag_ask _, fun found => ?_⟩
    split
    · exact merge _ _
    · apply (findByTicketInIdIfSet_only insertsTag_ask _).bind fun existing => ?_
      split
      · exact merge _ _
      · split
        · trivial
        · exact insert
  · trivial

end Rows

/-! ### Keys of a record -/

section Keys

variable {tag : String}

theorem usesTag_keydbSet_etag_iff {key : String} :
    UsesTag tag (.keydbSet (.etag key) e) ↔ key = tag := by
  constructor
  · intro uses
    exact uses key (.inl ⟨e, rfl⟩)
  · rintro rfl key (⟨e', same⟩ | same)
    · cases same
      rfl
    · cases same

theorem usesTag_keydbRemove_etag_iff {key : String} :
    UsesTag tag (.keydbRemove (.etag key)) ↔ key = tag := by
  constructor
  · intro uses
    exact uses key (.inr rfl)
  · rintro rfl key (⟨e', same⟩ | same)
    · cases same
    · cases same
      rfl

/-- Operations on no key of a tag. -/
theorem usesTag_of_other {o : Op} (noSet : ∀ key e, o ≠ .keydbSet (.etag key) e)
    (noRemove : ∀ key, o ≠ .keydbRemove (.etag key)) : UsesTag tag o := by
  rintro key (⟨e, same⟩ | same)
  · exact absurd same (noSet key e)
  · exact absurd same (noRemove key)

/-- A spawned write of a record uses its tag exactly if the key is made from it. -/
theorem saved_usesTag (same : normalizeEtag e.etagId = tag) :
    (KeydbSync.write (.saved e)).Only (UsesTag tag) := by
  have written : (perform (.keydbSet (.etag (normalizeEtag e.etagId)) e)).Only (UsesTag tag) :=
    (only_perform _).mpr (usesTag_keydbSet_etag_iff.mpr same)
  unfold KeydbSync.write
  dsimp only
  split
  · apply (only_ask_bind _ _).mpr ⟨usesTag_of_other (by simp) (by simp), fun existing => ?_⟩
    exact (only_perform_bind _ _).mpr ⟨usesTag_of_other (by simp) (by simp), fun _ => written⟩
  · exact written

theorem hubUpdated_usesTag_iff :
    (KeydbSync.write (.hubUpdated e)).Only (UsesTag tag) ↔ trim e.etagId = tag :=
  (only_perform _).trans usesTag_keydbSet_etag_iff

theorem retrySucceeded_usesTag (collected : trim e.etagId = tag)
    (same : normalizeEtag e.etagId = tag) :
    (retrySucceeded e.collectKey e).Only (UsesTag tag) := by
  apply (only_perform_bind _ _).mpr ⟨usesTag_of_other (by simp) (by simp), fun _ => ?_⟩
  split
  · apply (only_perform_bind _ _).mpr ⟨usesTag_of_other (by simp) (by simp), fun _ => ?_⟩
    exact (only_perform _).mpr (usesTag_keydbRemove_etag_iff.mpr collected)
  · apply (only_perform_bind _ _).mpr ⟨usesTag_keydbSet_etag_iff.mpr same, fun _ => ?_⟩
    exact (only_perform _).mpr (usesTag_of_other (by simp) (by simp))

/-- The cleanup removes the records of a tag exactly if it asks for this one. -/
theorem cleanup_iff :
    (∀ cache e', ¬ (EtdrCache.cleanup cache e).Cached tag e') ↔
      normalizeEtag (trim e.etagId) = tag := by
  constructor
  · intro cleaned
    by_contra other
    -- a cache with this tag keeps it
    let entry : CacheEntry := { etdr := e, createdAt := 0, lastAccess := 0 }
    apply cleaned { data := [(tag, [entry])] } e
    refine ⟨[entry], ?_, entry, List.mem_singleton_self _, rfl⟩
    apply List.mem_filter.mpr
    exact ⟨List.mem_singleton_self _, by simp [Ne.symm other]⟩
  · rintro same cache e' ⟨recs, mem, -⟩
    have kept := (List.mem_filter.mp mem).2
    simp [same] at kept

end Keys

/-- The hub update and the cleanup have the normalized tag only if no NUL is behind the field. -/
theorem OneTag.noNulBehind (oneTag : OneTag field) : NoNulBehind field := by
  have entered : OfField field (checkinEtdr { etag := field } none none 0 default) :=
    .entered _ _ _ _ _ rfl
  rw [noNulBehind_iff]
  constructor
  · exact hubUpdated_usesTag_iff.mp (oneTag.synced (.hubUpdated _) entered)
  · exact cleanup_iff.mp fun cache e' => oneTag.cleaned _ cache entered e'

theorem NoNulBehind.oneTag (noNul : NoNulBehind field) : OneTag field := by
  obtain ⟨trimmed, again⟩ := (noNulBehind_iff field).mp noNul
  constructor
  case inserted =>
    rintro call rfl
    exact processCheckin_insertsTag call
  case retried =>
    intro e ofField
    apply retrySaveEtdrToDb_insertsTag
    rw [ofField.tags.2, trimmed]
  case synced =>
    intro write ofField
    cases write with
    | saved e =>
      have tag : e.etagId = field := ofField.tags.1
      exact saved_usesTag (by rw [tag])
    | hubUpdated e =>
      have tag : e.etagId = field := ofField.tags.1
      exact hubUpdated_usesTag_iff.mpr (by rw [tag, trimmed])
  case finished =>
    intro e ofField
    have tag := ofField.tags.1
    exact retrySucceeded_usesTag (by rw [tag, trimmed]) (by rw [tag])
  case cleaned =>
    intro e cache ofField
    have tag := ofField.tags.1
    exact cleanup_iff.mpr (by rw [tag, again]) cache

/-- Every row and every key of the records of a check-in has the normalized tag, and the cleanup
finds them by it, exactly if no NUL is behind the text of the field. -/
theorem oneTag_iff (field : String) : OneTag field ↔ NoNulBehind field :=
  ⟨OneTag.noNulBehind, NoNulBehind.oneTag⟩

/-- A tag of 14 letters with ten NULs behind it has two keys. -/
theorem padded_not_oneTag :
    ¬ OneTag (String.ofList ("BECT0001234567".toList ++ List.replicate 10 '\x00')) := by
  intro oneTag
  apply oneTag.noNulBehind
  apply getLast?_trim
  rw [String.toList_ofList]
  rfl

end TollBackend

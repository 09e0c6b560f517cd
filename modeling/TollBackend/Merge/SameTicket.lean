import TollBackend.Merge.Fields

/-!
# What the merge of two records of a ticket keeps

`merge_etdr_same_ticket_id` makes one record of two that have the same ticket. It takes most
fields from the record with the later check-in alone, and the times of the checkout from the
other one, so that it can lose what only one record has, and what it returns can depend on the
order of its arguments.

## Main definitions

* `WholeEtdr`: the record with the fields that nothing in the code fills.
* `MergesSoundly`: nothing is lost, the later times stay, and order and grouping do not matter.
* `Mergeable`: when two or three records are merged so.

## Main results

* `mergesSoundly_iff`: the merge is sound exactly for mergeable records.
* `merge_loses_hub_id`: a hub id is lost when the record with the later check-in has none.
-/

namespace TollBackend

open Merge RecordField

/-! ### The whole record -/

/-- The record with the fields that nothing in the code fills. `Dual` is the type of the second
record in `etdr_dual`, at which the merge does not look. The types `TransStageDetail`,
`TransitionClose`, `InfoRollBack` and `Event` have no fields. -/
structure WholeEtdr (Dual : Type) extends Etdr where
  vehicleTypeExt1 : String := ""
  vehicleTypeExt2 : String := ""
  vehicleTypeExt3 : String := ""
  vehicleTypeExt4 : String := ""
  vehicleTypeExt5 : String := ""
  vehicleTypeExt6 : String := ""
  vehicleTypeExt7 : String := ""
  vehicleTypeExt8 : String := ""
  vehicleTypeExt9 : String := ""
  vehicleTypeExt10 : String := ""
  subStatus : String := ""
  etagStatus : String := ""
  autoExtend : String := ""
  priceType : String := ""
  startDate : String := ""
  refStationId : Option Int := none
  refLaneId : Option Int := none
  etdrDual : Option Dual := none
  transStageDetails : List Unit := []
  transitionClose : Option Unit := none
  logRequest : Option String := none
  infoRollBack : Option Unit := none
  event : Option Unit := none

/-- The times of a record of which a merge has the later one. -/
def Etdr.largerTimes : List (Etdr → Int) :=
  [(·.checkinDatetime), (·.checkinCommitDatetime)]

/-- The times that a merge takes from the record with the later check-in. -/
def Etdr.baseTimes : List (Etdr → Int) :=
  [(·.timeUpdate), (·.timeRouteCheckin), (·.timeRouteCheckinCommit), (·.timeRouteCheckout),
    (·.timeStationCheckin), (·.booTransDatetime.getD 0), (·.chargeDatetime.getD 0)]

/-- The times that a merge takes from the other record, unless it has none. -/
def Etdr.otherTimes : List (Etdr → Int) :=
  [(·.checkoutDatetime), (·.checkoutCommitDatetime)]

/-- All times of a record. -/
def Etdr.timestamps : List (Etdr → Int) :=
  largerTimes ++ baseTimes ++ otherTimes

theorem Etdr.largerTimes_max (a b : Etdr) {t : Etdr → Int} (mem : t ∈ largerTimes) :
    t (mergeEtdrSameTicketId a b) = max (t a) (t b) := by
  apply mergeEtdrSameTicketId_larger
  simp only [largerTimes, List.mem_cons, List.not_mem_nil, or_false] at mem
  rcases mem with rfl | rfl <;> simp [largerFields]

theorem Etdr.baseTimes_merge (a b : Etdr) :
    ∀ t ∈ baseTimes, t (mergeEtdrSameTicketId a b) = t (a.newer b) := by
  unfold mergeEtdrSameTicketId newer
  simp only [baseTimes, List.forall_mem_cons]
  by_cases later : b.checkinDatetime ≤ a.checkinDatetime
  · simp [if_pos later]
  · simp [if_neg later]

theorem Etdr.otherTimes_merge (a b : Etdr) : ∀ t ∈ otherTimes,
    t (mergeEtdrSameTicketId a b) = if t (a.older b) = 0 then t (a.newer b) else t (a.older b) := by
  unfold mergeEtdrSameTicketId newer older
  simp only [otherTimes, List.forall_mem_cons]
  by_cases later : b.checkinDatetime ≤ a.checkinDatetime
  · simp [if_pos later]
  · simp [if_neg later]

/-- A time that comes from the base is the later one when the base's is. -/
theorem Etdr.baseTimes_later_iff (a b : Etdr) {t : Etdr → Int} (mem : t ∈ baseTimes) :
    (t a ≠ 0 → t b ≠ 0 → t (mergeEtdrSameTicketId a b) = max (t a) (t b)) ↔
      (t (a.newer b) ≠ 0 → t (a.older b) ≠ 0 → t (a.older b) ≤ t (a.newer b)) := by
  rw [baseTimes_merge a b t mem]
  unfold newer older
  split <;> omega

/-- A time that comes from the other record is the later one when the other record's is. -/
theorem Etdr.otherTimes_later_iff (a b : Etdr) {t : Etdr → Int} (mem : t ∈ otherTimes) :
    (t a ≠ 0 → t b ≠ 0 → t (mergeEtdrSameTicketId a b) = max (t a) (t b)) ↔
      (t (a.newer b) ≠ 0 → t (a.older b) ≠ 0 → t (a.newer b) ≤ t (a.older b)) := by
  rw [otherTimes_merge a b t mem]
  unfold newer older
  by_cases later : b.checkinDatetime ≤ a.checkinDatetime
  · rw [if_pos later, if_pos later]
    split <;> omega
  · rw [if_neg later, if_neg later]
    split <;> omega

namespace WholeEtdr

variable {Dual : Type}

/-- `merge_etdr_same_ticket_id`: the fields it does not name are those of the base. -/
def mergeSameTicketId (a b : WholeEtdr Dual) : WholeEtdr Dual :=
  { (if b.checkinDatetime ≤ a.checkinDatetime then a else b) with
    toEtdr := mergeEtdrSameTicketId a.toEtdr b.toEtdr }

theorem keeps_larger_iff (a b : WholeEtdr Dual) {f : Etdr → Int} (mem : f ∈ Etdr.largerFields) :
    ((f a.toEtdr ≠ 0 → f b.toEtdr = 0 → f (mergeSameTicketId a b).toEtdr = f a.toEtdr) ∧
      (f b.toEtdr ≠ 0 → f a.toEtdr = 0 → f (mergeSameTicketId a b).toEtdr = f b.toEtdr)) ↔
    (f a.toEtdr = 0 → 0 ≤ f b.toEtdr) ∧ (f b.toEtdr = 0 → 0 ≤ f a.toEtdr) := by
  have larger : f (mergeSameTicketId a b).toEtdr = max (f a.toEtdr) (f b.toEtdr) :=
    mergeEtdrSameTicketId_larger a.toEtdr b.toEtdr f mem
  rw [larger]
  omega

variable [DecidableEq Dual]

/-- The fields that nothing fills. -/
def unfilledFields : List (RecordField (WholeEtdr Dual)) :=
  [text .base (·.vehicleTypeExt1), text .base (·.vehicleTypeExt2),
    text .base (·.vehicleTypeExt3), text .base (·.vehicleTypeExt4),
    text .base (·.vehicleTypeExt5), text .base (·.vehicleTypeExt6),
    text .base (·.vehicleTypeExt7), text .base (·.vehicleTypeExt8),
    text .base (·.vehicleTypeExt9), text .base (·.vehicleTypeExt10), text .base (·.subStatus),
    text .base (·.etagStatus), text .base (·.autoExtend), text .base (·.priceType),
    text .base (·.startDate), maybe .base (·.refStationId), maybe .base (·.refLaneId),
    maybe .base (·.etdrDual), several .base (·.transStageDetails),
    maybe .base (·.transitionClose), maybe .base (·.logRequest), maybe .base (·.infoRollBack),
    maybe .base (·.event)]

/-- The fields that hold data, apart from the larger ones. -/
def dataFields : List (RecordField (WholeEtdr Dual)) :=
  Etdr.mergeFields.map (lift toEtdr) ++ unfilledFields

/-- The truth values. -/
def flagFields : List (RecordField (WholeEtdr Dual)) :=
  Etdr.flagFields.map (lift toEtdr)

theorem mergeSameTicketId_unfilled (a b : WholeEtdr Dual) : ∀ f ∈ unfilledFields,
    f.version (·.checkinDatetime) (mergeSameTicketId a b) =
      (f.version (·.checkinDatetime) a).merge f.empty f.rule (f.version (·.checkinDatetime) b) := by
  have base : ∀ f ∈ unfilledFields, f.rule = .base ∧ f.get (mergeSameTicketId a b) =
      f.get (if b.checkinDatetime ≤ a.checkinDatetime then a else b) := by
    simp only [unfilledFields, List.forall_mem_cons]
    and_intros <;> first | rfl | simp
  intro f mem
  obtain ⟨rule, value⟩ := base f mem
  ext
  · rw [Version.merge_time]
    exact mergeEtdrSameTicketId_checkinDatetime a.toEtdr b.toEtdr
  · rw [rule]
    by_cases later : b.checkinDatetime ≤ a.checkinDatetime
    · rw [Version.merge_value_of_le later]
      exact value.trans (by rw [if_pos later]; rfl)
    · rw [Version.merge_value_of_lt (lt_of_not_ge later)]
      exact value.trans (by rw [if_neg later]; rfl)

/-- Two whole records that agree in every field are the same. -/
theorem ext_fields (a b : WholeEtdr Dual)
    (fields : ∀ f ∈ dataFields ++ flagFields, f.get a = f.get b)
    (larger : ∀ f ∈ Etdr.largerFields.map (· ∘ toEtdr), f a = f b) : a = b := by
  have part : a.toEtdr = b.toEtdr := by
    apply Etdr.ext_fields
    · intro f mem
      apply fields (f.lift toEtdr)
      rcases List.mem_append.mp mem with data | flag
      · exact List.mem_append_left _ (List.mem_append_left _ (List.mem_map_of_mem data))
      · exact List.mem_append_right _ (List.mem_map_of_mem flag)
    · exact fun f mem => larger _ (List.mem_map_of_mem mem)
  have unfilled : ∀ f ∈ unfilledFields, f.get a = f.get b := fun f mem =>
    fields f (List.mem_append_left _ (List.mem_append_right _ mem))
  simp only [unfilledFields, List.forall_mem_cons, text, maybe, several] at unfilled
  cases a
  cases b
  simp_all

/-- The merge of whole records, by fields. -/
def merging : RecordMerge Int (WholeEtdr Dual) where
  merge := mergeSameTicketId
  time := (·.checkinDatetime)
  fields := dataFields ++ flagFields
  larger := Etdr.largerFields.map (· ∘ toEtdr)
  time_larger := List.mem_cons_self
  merge_version a b f mem := by
    have lifted (g : RecordField Etdr) (mem : g ∈ Etdr.mergeFields ++ Etdr.flagFields) :=
      mergeEtdrSameTicketId_version a.toEtdr b.toEtdr g mem
    rcases List.mem_append.mp mem with data | flag
    · rcases List.mem_append.mp data with data | unfilled
      · obtain ⟨g, there, rfl⟩ := List.mem_map.mp data
        exact lifted g (List.mem_append_left _ there)
      · exact mergeSameTicketId_unfilled a b f unfilled
    · obtain ⟨g, there, rfl⟩ := List.mem_map.mp flag
      exact lifted g (List.mem_append_right _ there)
  merge_larger a b f mem := by
    obtain ⟨g, there, rfl⟩ := List.mem_map.mp mem
    exact mergeEtdrSameTicketId_larger a.toEtdr b.toEtdr g there
  ext_fields := ext_fields

/-! ### Sound merges -/

/-- What is in one of the two records only is in the merge, of two times that are not zero the
later one is, and neither the order nor the grouping of merges matters. -/
structure MergesSoundly (a b c : WholeEtdr Dual) : Prop where
  keeps : ∀ f ∈ dataFields,
    (f.get a ≠ f.empty → f.get b = f.empty → f.get (mergeSameTicketId a b) = f.get a) ∧
      (f.get b ≠ f.empty → f.get a = f.empty → f.get (mergeSameTicketId a b) = f.get b)
  keeps_larger : ∀ f ∈ Etdr.largerFields,
    (f a.toEtdr ≠ 0 → f b.toEtdr = 0 → f (mergeSameTicketId a b).toEtdr = f a.toEtdr) ∧
      (f b.toEtdr ≠ 0 → f a.toEtdr = 0 → f (mergeSameTicketId a b).toEtdr = f b.toEtdr)
  later : ∀ t ∈ Etdr.timestamps, t a.toEtdr ≠ 0 → t b.toEtdr ≠ 0 →
    t (mergeSameTicketId a b).toEtdr = max (t a.toEtdr) (t b.toEtdr)
  idempotent : mergeSameTicketId a a = a
  comm : mergeSameTicketId a b = mergeSameTicketId b a
  assoc : mergeSameTicketId (mergeSameTicketId a b) c =
    mergeSameTicketId a (mergeSameTicketId b c)

/-- The record with the later check-in lacks nothing that is taken from it alone, the times of
the two records are ordered as they are taken, records with the same check-in time differ in
nothing that is merged, and no conflict is decided by the grouping of three. -/
structure Mergeable (a b c : WholeEtdr Dual) : Prop where
  base_full : ∀ f ∈ dataFields, f.rule = .base → f.get (merging.newer a b) = f.empty →
    f.get (merging.older a b) = f.empty
  nonneg : ∀ f ∈ Etdr.largerFields,
    (f a.toEtdr = 0 → 0 ≤ f b.toEtdr) ∧ (f b.toEtdr = 0 → 0 ≤ f a.toEtdr)
  base_later : ∀ t ∈ Etdr.baseTimes, t (merging.newer a b).toEtdr ≠ 0 →
    t (merging.older a b).toEtdr ≠ 0 →
    t (merging.older a b).toEtdr ≤ t (merging.newer a b).toEtdr
  other_later : ∀ t ∈ Etdr.otherTimes, t (merging.newer a b).toEtdr ≠ 0 →
    t (merging.older a b).toEtdr ≠ 0 →
    t (merging.newer a b).toEtdr ≤ t (merging.older a b).toEtdr
  same_time : a.checkinDatetime = b.checkinDatetime →
    ∀ f ∈ dataFields ++ flagFields, f.rule.Agree f.empty (f.get a) (f.get b)
  groups : ∀ f ∈ dataFields ++ flagFields, Version.GroupsAlike f.empty f.rule
    (f.version (·.checkinDatetime) a) (f.version (·.checkinDatetime) b)
    (f.version (·.checkinDatetime) c)

theorem merging_newer (a b : WholeEtdr Dual) :
    (merging.newer a b).toEtdr = a.toEtdr.newer b.toEtdr := by
  unfold RecordMerge.newer Etdr.newer
  exact apply_ite toEtdr ..

theorem merging_older (a b : WholeEtdr Dual) :
    (merging.older a b).toEtdr = a.toEtdr.older b.toEtdr := by
  unfold RecordMerge.older Etdr.older
  exact apply_ite toEtdr ..

/-- The merge of two or three records is sound exactly when they are mergeable. -/
theorem mergesSoundly_iff (a b c : WholeEtdr Dual) :
    MergesSoundly a b c ↔ Mergeable a b c := by
  constructor
  · intro sound
    constructor
    case base_full =>
      intro f mem
      exact (merging.keeps_iff a b (List.mem_append_left _ mem)).mp (sound.keeps f mem)
    case nonneg =>
      intro f mem
      exact (keeps_larger_iff a b mem).mp (sound.keeps_larger f mem)
    case base_later =>
      intro t mem
      rw [merging_newer, merging_older]
      exact (Etdr.baseTimes_later_iff _ _ mem).mp (sound.later t (by simp [Etdr.timestamps, mem]))
    case other_later =>
      intro t mem
      rw [merging_newer, merging_older]
      exact (Etdr.otherTimes_later_iff _ _ mem).mp (sound.later t (by simp [Etdr.timestamps, mem]))
    case same_time => exact merging.merge_comm_iff.mp sound.comm
    case groups => exact merging.merge_assoc_iff.mp sound.assoc
  · intro mergeable
    constructor
    case keeps =>
      intro f mem
      apply (merging.keeps_iff a b (List.mem_append_left _ mem)).mpr
      exact mergeable.base_full f mem
    case keeps_larger =>
      intro f mem
      exact (keeps_larger_iff a b mem).mpr (mergeable.nonneg f mem)
    case later =>
      intro t mem
      rcases List.mem_append.mp mem with mem | other
      · rcases List.mem_append.mp mem with larger | base
        · exact fun _ _ => Etdr.largerTimes_max _ _ larger
        · have ordered := mergeable.base_later t base
          rw [merging_newer, merging_older] at ordered
          exact (Etdr.baseTimes_later_iff _ _ base).mpr ordered
      · have ordered := mergeable.other_later t other
        rw [merging_newer, merging_older] at ordered
        exact (Etdr.otherTimes_later_iff _ _ other).mpr ordered
    case idempotent => exact merging.merge_self a
    case comm => exact merging.merge_comm_iff.mpr mergeable.same_time
    case assoc => exact merging.merge_assoc_iff.mpr mergeable.groups

/-- A record as it is in the retry store, before its trip is known to the hub. -/
def stored : WholeEtdr Unit where
  toEtdr := { ticketId := 11, etagId := "BECT01", checkinDatetime := 1000 }

/-- A hub id is lost when the stored record, which has the same check-in time, has none. -/
theorem merge_loses_hub_id :
    ¬ ∀ a b c : WholeEtdr Unit, a.ticketId = b.ticketId → b.ticketId = c.ticketId →
      MergesSoundly a b c := by
  intro claim
  have sound := claim stored { stored with hubId := some 7 } stored rfl rfl
  have field : lift toEtdr (maybe .base (·.hubId)) ∈
      (dataFields : List (RecordField (WholeEtdr Unit))) := by
    apply List.mem_append_left
    apply List.mem_map_of_mem
    simp [Etdr.mergeFields]
  have known : some (7 : Int) ≠ none := Option.some_ne_none 7
  have kept := (sound.keeps _ field).2 known rfl
  cases kept

end WholeEtdr

end TollBackend

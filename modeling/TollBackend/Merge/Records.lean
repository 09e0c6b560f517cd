import TollBackend.Merge.Versions
import Mathlib.Data.List.Perm.Basic

/-!
# Merging records field by field

A merge of records that treats each field by a rule of its own: some numbers become the larger
of the two, and every other field is merged as a version of its value, with the time of the
record.

## Main definitions

* `RecordField`: a field, with the value that means that nothing is there, and its rule.
* `RecordMerge`: a merge of records that is given by its fields.

## Main results

* `RecordMerge.merge_comm_iff`, `RecordMerge.merge_assoc_iff`: when the order and the grouping of
  merges do not matter.
* `RecordMerge.joinAll_perm_iff`: when no order of a list matters.
-/

namespace Merge

/-- A field of a record, the value that means that nothing is in it, and the rule by which it is
merged. -/
structure RecordField (R : Type) : Type 1 where
  Value : Type
  decEq : DecidableEq Value
  empty : Value
  rule : Rule
  get : R → Value

namespace RecordField

variable {R S T : Type}

instance (field : RecordField R) : DecidableEq field.Value :=
  field.decEq

/-- A number. -/
def number (rule : Rule) (get : R → Int) : RecordField R :=
  ⟨Int, inferInstance, 0, rule, get⟩

/-- A text. -/
def text (rule : Rule) (get : R → String) : RecordField R :=
  ⟨String, inferInstance, "", rule, get⟩

/-- A value that may be missing. -/
def maybe {V : Type} [DecidableEq V] (rule : Rule) (get : R → Option V) : RecordField R :=
  ⟨Option V, inferInstance, none, rule, get⟩

/-- A list. -/
def several {V : Type} [DecidableEq V] (rule : Rule) (get : R → List V) : RecordField R :=
  ⟨List V, inferInstance, [], rule, get⟩

/-- A truth value. -/
def flag (rule : Rule) (get : R → Bool) : RecordField R :=
  ⟨Bool, inferInstance, false, rule, get⟩

/-- The same field of a larger record. -/
def lift (part : S → R) (field : RecordField R) : RecordField S :=
  { field with get := fun s => field.get (part s) }

/-- The field of a record as a version. -/
def version (field : RecordField R) (time : R → T) (r : R) : Version T field.Value :=
  ⟨time r, field.get r⟩

end RecordField

/-- A merge of records by fields. The time of a record is one of the numbers of which the merge
has the larger one. -/
structure RecordMerge (T R : Type) [LinearOrder T] : Type 1 where
  merge : R → R → R
  time : R → T
  fields : List (RecordField R)
  larger : List (R → T)
  time_larger : time ∈ larger
  merge_version : ∀ a b, ∀ f ∈ fields, f.version time (merge a b) =
    (f.version time a).merge f.empty f.rule (f.version time b)
  merge_larger : ∀ a b, ∀ f ∈ larger, f (merge a b) = max (f a) (f b)
  ext_fields : ∀ a b, (∀ f ∈ fields, f.get a = f.get b) → (∀ f ∈ larger, f a = f b) → a = b

namespace RecordMerge

variable {T R : Type} [LinearOrder T] (m : RecordMerge T R) {a b c : R}

/-- The record with the later time, the first one when both are equally late. -/
def newer (a b : R) : R :=
  if m.time b ≤ m.time a then a else b

/-- The other record. -/
def older (a b : R) : R :=
  if m.time b ≤ m.time a then b else a

theorem merge_time (a b : R) : m.time (m.merge a b) = max (m.time a) (m.time b) :=
  m.merge_larger a b m.time m.time_larger

/-- A field of a merge, by its rule. -/
theorem merge_get (a b : R) {f : RecordField R} (mem : f ∈ m.fields) :
    f.get (m.merge a b) = f.rule.pick f.empty (f.get (m.newer a b)) (f.get (m.older a b)) := by
  have value := congrArg Version.value (m.merge_version a b f mem)
  apply value.trans
  by_cases later : m.time b ≤ m.time a
  · rw [newer, older, if_pos later, if_pos later]
    exact Version.merge_value_of_le later
  · rw [newer, older, if_neg later, if_neg later]
    exact Version.merge_value_of_lt (lt_of_not_ge later)

/-- What only one record has in a field stays, unless the rule takes the field from the newer one
alone and it is the older one's. -/
theorem keeps_iff (a b : R) {f : RecordField R} (mem : f ∈ m.fields) :
    ((f.get a ≠ f.empty → f.get b = f.empty → f.get (m.merge a b) = f.get a) ∧
        (f.get b ≠ f.empty → f.get a = f.empty → f.get (m.merge a b) = f.get b)) ↔
      (f.rule = .base → f.get (m.newer a b) = f.empty → f.get (m.older a b) = f.empty) := by
  rw [m.merge_get a b mem]
  by_cases later : m.time b ≤ m.time a
  · rw [newer, older, if_pos later, if_pos later]
    exact Rule.pick_keeps_iff
  · rw [newer, older, if_neg later, if_neg later, and_comm]
    exact Rule.pick_keeps_iff

/-- Records are the same when their larger numbers and their versions of each field are. -/
theorem eq_iff (larger : ∀ f ∈ m.larger, f a = f b) :
    a = b ↔ ∀ f ∈ m.fields, f.version m.time a = f.version m.time b := by
  constructor
  · rintro rfl f -
    rfl
  · intro same
    apply m.ext_fields a b (fun f mem => ?_) larger
    exact congrArg Version.value (same f mem)

@[simp] theorem merge_self (a : R) : m.merge a a = a := by
  rw [m.eq_iff]
  · intro f mem
    rw [m.merge_version a a f mem, Version.merge_self]
  · intro f mem
    rw [m.merge_larger a a f mem, max_self]

/-- The order of two records does not matter exactly when it matters for none of the fields. -/
theorem merge_comm_iff : m.merge a b = m.merge b a ↔
    (m.time a = m.time b → ∀ f ∈ m.fields, f.rule.Agree f.empty (f.get a) (f.get b)) := by
  rw [m.eq_iff]
  · constructor
    · intro same at_once f mem
      have same := same f mem
      rw [m.merge_version a b f mem, m.merge_version b a f mem, Version.merge_comm_iff] at same
      exact same at_once
    · intro agree f mem
      rw [m.merge_version a b f mem, m.merge_version b a f mem, Version.merge_comm_iff]
      exact fun at_once => agree at_once f mem
  · intro f mem
    rw [m.merge_larger a b f mem, m.merge_larger b a f mem, max_comm]

/-- The grouping of three records does not matter exactly when it matters for none of the
fields. -/
theorem merge_assoc_iff : m.merge (m.merge a b) c = m.merge a (m.merge b c) ↔
    ∀ f ∈ m.fields, Version.GroupsAlike f.empty f.rule (f.version m.time a) (f.version m.time b)
      (f.version m.time c) := by
  rw [m.eq_iff]
  · apply forall₂_congr
    intro f mem
    rw [m.merge_version _ c f mem, m.merge_version a b f mem, m.merge_version a _ f mem,
      m.merge_version b c f mem, Version.merge_assoc_iff]
  · intro f mem
    simp only [m.merge_larger _ _ f mem, max_assoc]

/-! ### Several records -/

/-- A field of several merged records. -/
theorem foldl_version (l : List R) (a : R) {f : RecordField R} (mem : f ∈ m.fields) :
    f.version m.time (l.foldl m.merge a) =
      (l.map (f.version m.time)).foldl (Version.merge f.empty f.rule) (f.version m.time a) := by
  induction l generalizing a with
  | nil => rfl
  | cons b l ih =>
    rw [List.foldl_cons, ih, m.merge_version a b f mem]
    rfl

/-- The value of a field of several merged records is that of one of them. -/
theorem exists_foldl_get (l : List R) (a : R) {f : RecordField R} (mem : f ∈ m.fields) :
    ∃ r ∈ a :: l, f.get r = f.get (l.foldl m.merge a) := by
  obtain ⟨v, inside, same⟩ := Version.exists_foldl_value f.empty f.rule
    (l.map (f.version m.time)) (f.version m.time a)
  rw [← m.foldl_version l a mem] at same
  have inside : v ∈ (a :: l).map (f.version m.time) := inside
  obtain ⟨r, there, rfl⟩ := List.mem_map.mp inside
  exact ⟨r, there, same⟩

/-- Only a field that comes from the newer record alone can be lost by all. -/
theorem foldl_get_eq_empty {l : List R} {a : R} {f : RecordField R} (mem : f ∈ m.fields)
    (keeps : f.rule ≠ .base) (none : f.get (l.foldl m.merge a) = f.empty) :
    ∀ r ∈ a :: l, f.get r = f.empty := by
  have version := congrArg Version.value (m.foldl_version l a mem)
  intro r inside
  exact Version.foldl_value_eq_empty keeps (version.symm.trans none) (f.version m.time r)
    (List.mem_map_of_mem (f := f.version m.time) inside)

/-- A field that comes from the newer record alone is that of the newest one. -/
theorem foldl_get_base (l : List R) (a : R) {f : RecordField R} (mem : f ∈ m.fields)
    (base : f.rule = .base) : f.get (l.foldl m.merge a) = f.get (l.foldl m.newer a) := by
  have newer (a b : R) : f.version m.time (m.newer a b) =
      (f.version m.time a).merge f.empty f.rule (f.version m.time b) := by
    rw [newer, base]
    by_cases later : m.time b ≤ m.time a
    · have first : Version.merge f.empty .base (f.version m.time a) (f.version m.time b) =
          f.version m.time a := Version.merge_of_le later
      rw [if_pos later, first]
    · have second : Version.merge f.empty .base (f.version m.time a) (f.version m.time b) =
          f.version m.time b := Version.merge_of_lt (lt_of_not_ge later)
      rw [if_neg later, second]
  have newest : f.version m.time (l.foldl m.newer a) =
      (l.map (f.version m.time)).foldl (Version.merge f.empty f.rule) (f.version m.time a) := by
    induction l generalizing a with
    | nil => rfl
    | cons b l ih =>
      rw [List.foldl_cons, ih, newer]
      rfl
  exact congrArg Version.value ((m.foldl_version l a mem).trans newest.symm)

/-- The larger numbers bound those of the records. -/
theorem le_foldl_larger (l : List R) (a : R) {f : R → T} (mem : f ∈ m.larger) :
    ∀ r ∈ a :: l, f r ≤ f (l.foldl m.merge a) := by
  induction l generalizing a with
  | nil => simp
  | cons b l ih =>
    intro r inside
    have first := ih (m.merge a b) _ List.mem_cons_self
    rw [m.merge_larger a b f mem, max_le_iff] at first
    rcases List.mem_cons.mp inside with rfl | inside
    · exact first.1
    · rcases List.mem_cons.mp inside with rfl | inside
      · exact first.2
      · exact ih _ r (List.mem_cons_of_mem _ inside)

/-- The larger numbers are those of some of the records. -/
theorem exists_foldl_larger (l : List R) (a : R) {f : R → T} (mem : f ∈ m.larger) :
    ∃ r ∈ a :: l, f r = f (l.foldl m.merge a) := by
  induction l generalizing a with
  | nil => exact ⟨a, List.mem_cons_self, rfl⟩
  | cons b l ih =>
    obtain ⟨r, inside, same⟩ := ih (m.merge a b)
    rcases List.mem_cons.mp inside with rfl | inside
    · rw [m.merge_larger a b f mem] at same
      rcases max_choice (f a) (f b) with left | right
      · exact ⟨a, List.mem_cons_self, left.symm.trans same⟩
      · exact ⟨b, by simp, right.symm.trans same⟩
    · exact ⟨r, by simp [inside], same⟩

/-- The larger numbers are the same in every order. -/
theorem foldl_larger_perm {l l' : List R} (perm : (a :: l).Perm (b :: l')) {f : R → T}
    (mem : f ∈ m.larger) : f (l.foldl m.merge a) = f (l'.foldl m.merge b) := by
  apply le_antisymm
  · obtain ⟨r, inside, same⟩ := m.exists_foldl_larger l a mem
    rw [← same]
    exact m.le_foldl_larger l' b mem r (perm.mem_iff.mp inside)
  · obtain ⟨r, inside, same⟩ := m.exists_foldl_larger l' b mem
    rw [← same]
    exact m.le_foldl_larger l a mem r (perm.mem_iff.mpr inside)

/-- A field of a merged list. -/
theorem joinAll_version (l : List R) {f : RecordField R} (mem : f ∈ m.fields) :
    joinAll (Version.merge f.empty f.rule) (l.map (f.version m.time)) =
      (joinAll m.merge l).map (f.version m.time) := by
  cases l with
  | nil => rfl
  | cons a l => exact congrArg some (m.foldl_version l a mem).symm

/-- An order of the images of a list is the image of an order. -/
theorem exists_perm_of_perm_map {α β : Type} {g : α → β} {l : List α} {images : List β}
    (perm : (l.map g).Perm images) : ∃ l', l.Perm l' ∧ images = l'.map g := by
  have related : List.Forall₂ (fun b a => b = g a) (l.map g) l :=
    List.forall₂_map_left_iff.mpr (List.forall₂_same.mpr fun _ _ => rfl)
  obtain ⟨l', images_eq, perm'⟩ := List.perm_comp_forall₂ perm.symm related
  refine ⟨l', perm'.symm, ?_⟩
  have same : List.Forall₂ (· = ·) images (l'.map g) := List.forall₂_map_right_iff.mpr images_eq
  rwa [List.forall₂_eq_eq_eq] at same

/-- A list is merged to the same record in every order exactly when no field depends on the
order. -/
theorem joinAll_perm_iff (l : List R) : (∀ l' : List R, l.Perm l' → joinAll m.merge l' = joinAll m.merge l) ↔
    ∀ f ∈ m.fields, Version.OrderFree f.empty f.rule (l.map (f.version m.time)) := by
  constructor
  · intro same f mem
    rw [← Version.sameInEveryOrder_iff_orderFree]
    intro versions perm
    obtain ⟨l', perm', rfl⟩ := exists_perm_of_perm_map perm
    rw [m.joinAll_version l' mem, m.joinAll_version l mem, same l' perm']
  · intro free l' perm
    cases l with
    | nil => rw [perm.nil_eq]
    | cons a l =>
      cases l' with
      | nil => cases perm.length_eq
      | cons b l' =>
        apply congrArg some
        rw [m.eq_iff fun f mem => (m.foldl_larger_perm perm mem).symm]
        intro f mem
        have every := Version.sameInEveryOrder_iff_orderFree.mpr (free f mem) _ (perm.map _)
        rw [m.foldl_version l' b mem, m.foldl_version l a mem]
        exact Option.some.inj every

end RecordMerge

end Merge

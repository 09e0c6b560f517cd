import TollBackend.Merge.ByKey
import Mathlib.Data.List.Basic
import Mathlib.Data.List.Count
import Mathlib.Order.MinMax
import Mathlib.Tactic.Push

/-!
# Merging versions of a value

A version is a value with the time it is from. A merge of two versions has the larger of their
times. The version with that time is the base of the merge, the left one if they are equally
late, and a rule says whether the value comes from the base or from the other version.

## Main definitions

* `Rule`, `Rule.pick`: where the value of a merge comes from.
* `Version.merge`: the merge of two versions.
* `Version.OrderFree`: the order of a list does not matter.

## Main results

* `Rule.pick_keeps_iff`: when a merge keeps a value that only one version has.
* `Version.merge_comm_iff`, `Version.merge_assoc_iff`: when the order and the grouping of merges
  do not matter.
* `Version.sameInEveryOrder_iff_orderFree`: when no order of a list matters.
-/

namespace Merge

/-- Where the value of a merge comes from. -/
inductive Rule : Type
  /-- Always from the base. -/
  | base
  /-- From the base, unless it has none. -/
  | baseFirst
  /-- From the other version, unless it has none. -/
  | otherFirst
deriving DecidableEq

variable {T V : Type} [LinearOrder T] [DecidableEq V] {empty : V}

/-- The value of a merge, from that of the base and that of the other version. -/
def Rule.pick (empty : V) : Rule → V → V → V
  | .base, v, _ => v
  | .baseFirst, v, w => if v = empty then w else v
  | .otherFirst, v, w => if w = empty then v else w

/-- Two values, of which a merge can keep only one. -/
def Conflict (empty v w : V) : Prop :=
  v ≠ empty ∧ w ≠ empty ∧ v ≠ w

instance (empty v w : V) : Decidable (Conflict empty v w) := by
  unfold Conflict; infer_instance

namespace Rule

variable {rule : Rule} {v w : V}

@[simp] theorem pick_self (rule : Rule) (v : V) : rule.pick empty v v = v := by
  cases rule <;> simp [pick]

theorem pick_mem (rule : Rule) (v w : V) : rule.pick empty v w = v ∨ rule.pick empty v w = w := by
  cases rule with
  | base => exact .inl rfl
  | baseFirst =>
    by_cases none : v = empty
    · exact .inr (if_pos none)
    · exact .inl (if_neg none)
  | otherFirst =>
    by_cases none : w = empty
    · exact .inl (if_pos none)
    · exact .inr (if_neg none)

theorem pick_assoc (rule : Rule) (u v w : V) :
    rule.pick empty (rule.pick empty u v) w = rule.pick empty u (rule.pick empty v w) := by
  cases rule with
  | base => rfl
  | baseFirst =>
    by_cases no_u : u = empty <;> simp [pick, no_u]
  | otherFirst =>
    by_cases no_w : w = empty <;> simp [pick, no_w]

/-- Only the first rule can lose a value. -/
theorem pick_eq_empty (keeps : rule ≠ .base) (none : rule.pick empty v w = empty) :
    v = empty ∧ w = empty := by
  cases rule with
  | base => exact absurd rfl keeps
  | baseFirst =>
    by_cases no_v : v = empty
    · exact ⟨no_v, (if_pos no_v).symm.trans none⟩
    · exact absurd ((if_neg no_v).symm.trans none) no_v
  | otherFirst =>
    by_cases no_w : w = empty
    · exact ⟨(if_pos no_w).symm.trans none, no_w⟩
    · exact absurd ((if_neg no_w).symm.trans none) no_w

/-- Only a value of the other version is lost, when the base has none and the rule does not look
further. -/
theorem pick_keeps_iff : ((v ≠ empty → w = empty → rule.pick empty v w = v) ∧
      (w ≠ empty → v = empty → rule.pick empty v w = w)) ↔
    (rule = .base → v = empty → w = empty) := by
  cases rule with
  | base =>
    constructor
    · intro keeps _ no_v
      by_contra given
      exact given ((keeps.2 given no_v).symm.trans no_v)
    · intro full
      exact ⟨fun _ _ => rfl, fun given no_v => absurd (full rfl no_v) given⟩
  | baseFirst =>
    apply iff_of_true _ nofun
    exact ⟨fun given _ => if_neg given, fun _ no_v => if_pos no_v⟩
  | otherFirst =>
    apply iff_of_true _ nofun
    exact ⟨fun _ no_w => if_pos no_w, fun given _ => if_neg given⟩

/-- The rule gives the same value when base and other version change places. -/
def Agree (empty : V) : Rule → V → V → Prop
  | .base, v, w => v = w
  | .baseFirst, v, w => ¬Conflict empty v w
  | .otherFirst, v, w => ¬Conflict empty v w

instance (rule : Rule) (v w : V) : Decidable (rule.Agree empty v w) := by
  cases rule <;> unfold Agree <;> infer_instance

theorem pick_comm_iff : rule.pick empty v w = rule.pick empty w v ↔ rule.Agree empty v w := by
  cases rule with
  | base => rfl
  | baseFirst =>
    by_cases no_v : v = empty <;> by_cases no_w : w = empty <;>
      simp [pick, Agree, Conflict, no_v, no_w]
  | otherFirst =>
    by_cases no_v : v = empty <;> by_cases no_w : w = empty <;>
      simp [pick, Agree, Conflict, no_v, no_w, eq_comm]

/-- The value does not depend on which of `v` and `w` is merged with the latest version first. -/
def Grouped (empty : V) : Rule → V → V → V → Prop
  | .base, _, _, _ => True
  | .baseFirst, latest, v, w => latest = empty → ¬Conflict empty v w
  | .otherFirst, _, v, w => ¬Conflict empty v w

instance (rule : Rule) (latest v w : V) : Decidable (rule.Grouped empty latest v w) := by
  cases rule <;> unfold Grouped <;> infer_instance

theorem pick_swap_iff {u : V} : rule.pick empty u (rule.pick empty v w) =
      rule.pick empty u (rule.pick empty w v) ↔ rule.Grouped empty u v w := by
  cases rule with
  | base => exact iff_of_true rfl trivial
  | baseFirst =>
    by_cases no_u : u = empty
    · have same (x : V) : pick empty .baseFirst u x = x := if_pos no_u
      rw [same, same, pick_comm_iff]
      exact ⟨fun agree _ => agree, fun grouped => grouped no_u⟩
    · have same (x : V) : pick empty .baseFirst u x = u := if_neg no_u
      rw [same, same]
      exact iff_of_true rfl fun none => absurd none no_u
  | otherFirst =>
    by_cases no_v : v = empty <;> by_cases no_w : w = empty <;>
      simp [pick, Grouped, Conflict, no_v, no_w, eq_comm]

end Rule

/-! ### Two and three versions -/

/-- A value and the time it is from. -/
@[ext]
structure Version (T V : Type) : Type where
  time : T
  value : V

namespace Version

variable {rule : Rule} {a b c : Version T V}

/-- The merge of two versions. -/
def merge (empty : V) (rule : Rule) (a b : Version T V) : Version T V :=
  if b.time ≤ a.time then ⟨a.time, rule.pick empty a.value b.value⟩
  else ⟨b.time, rule.pick empty b.value a.value⟩

theorem merge_of_le (le : b.time ≤ a.time) :
    merge empty rule a b = ⟨a.time, rule.pick empty a.value b.value⟩ :=
  if_pos le

theorem merge_of_lt (lt : a.time < b.time) :
    merge empty rule a b = ⟨b.time, rule.pick empty b.value a.value⟩ :=
  if_neg lt.not_ge

theorem merge_value_of_le (le : b.time ≤ a.time) :
    (merge empty rule a b).value = rule.pick empty a.value b.value := by
  rw [merge_of_le le]

theorem merge_value_of_lt (lt : a.time < b.time) :
    (merge empty rule a b).value = rule.pick empty b.value a.value := by
  rw [merge_of_lt lt]

@[simp] theorem merge_time (rule : Rule) (a b : Version T V) :
    (merge empty rule a b).time = max a.time b.time := by
  rcases le_or_gt b.time a.time with le | lt
  · rw [merge_of_le le, max_eq_left le]
  · rw [merge_of_lt lt, max_eq_right lt.le]

@[simp] theorem merge_self (rule : Rule) (a : Version T V) : merge empty rule a a = a := by
  rw [merge_of_le le_rfl, Rule.pick_self]

theorem merge_value_mem (empty : V) (rule : Rule) (a b : Version T V) :
    (merge empty rule a b).value = a.value ∨ (merge empty rule a b).value = b.value := by
  rcases le_or_gt b.time a.time with le | lt
  · rw [merge_of_le le]
    exact rule.pick_mem _ _
  · rw [merge_of_lt lt]
    exact (rule.pick_mem _ _).symm

theorem merge_value_eq_empty (keeps : rule ≠ .base)
    (none : (merge empty rule a b).value = empty) : a.value = empty ∧ b.value = empty := by
  rcases le_or_gt b.time a.time with le | lt
  · rw [merge_of_le le] at none
    exact Rule.pick_eq_empty keeps none
  · rw [merge_of_lt lt] at none
    exact (Rule.pick_eq_empty keeps none).symm

/-- The order of two versions matters only when they are equally late. -/
theorem merge_comm_iff : merge empty rule a b = merge empty rule b a ↔
    (a.time = b.time → rule.Agree empty a.value b.value) := by
  rcases lt_trichotomy a.time b.time with lt | same | lt
  · rw [merge_of_lt lt, merge_of_le lt.le]
    exact iff_of_true rfl fun same => absurd same lt.ne
  · rw [merge_of_le same.ge, merge_of_le same.le, same, Version.mk.injEq, Rule.pick_comm_iff]
    simp
  · rw [merge_of_le lt.le, merge_of_lt lt]
    exact iff_of_true rfl fun same => absurd same lt.ne'

/-- No grouping of three versions gives another value: in each case, `Grouped` is about the two
versions that are not the latest one and that the two groupings take in a different order. -/
structure GroupsAlike (empty : V) (rule : Rule) (a b c : Version T V) : Prop where
  left_latest : b.time ≤ a.time → c.time ≤ a.time → b.time < c.time →
    rule.Grouped empty a.value b.value c.value
  middle_latest : a.time < b.time → c.time ≤ b.time → rule.Grouped empty b.value a.value c.value
  right_latest : a.time < c.time → b.time < c.time → b.time ≤ a.time →
    rule.Grouped empty c.value a.value b.value

/-- Both groupings of three versions of which the left one is the latest. -/
theorem merge_assoc_left (empty : V) (rule : Rule) (ba : b.time ≤ a.time) (ca : c.time ≤ a.time) :
    (merge empty rule (merge empty rule a b) c).value =
        rule.pick empty a.value (rule.pick empty b.value c.value) ∧
      (merge empty rule a (merge empty rule b c)).value =
        rule.pick empty a.value (merge empty rule b c).value := by
  have left : c.time ≤ (merge empty rule a b).time := by
    rw [merge_time, max_eq_left ba]
    exact ca
  have right : (merge empty rule b c).time ≤ a.time := by
    rw [merge_time]
    exact max_le ba ca
  constructor
  · rw [merge_value_of_le left, merge_value_of_le ba, Rule.pick_assoc]
  · rw [merge_value_of_le right]

/-- Both groupings of three versions of which the middle one is the latest. -/
theorem merge_assoc_middle (empty : V) (rule : Rule) (ab : a.time < b.time) (cb : c.time ≤ b.time) :
    (merge empty rule (merge empty rule a b) c).value =
        rule.pick empty b.value (rule.pick empty a.value c.value) ∧
      (merge empty rule a (merge empty rule b c)).value =
        rule.pick empty b.value (rule.pick empty c.value a.value) := by
  have left : c.time ≤ (merge empty rule a b).time := by
    rw [merge_time, max_eq_right ab.le]
    exact cb
  have right : a.time < (merge empty rule b c).time := by
    rw [merge_time, max_eq_left cb]
    exact ab
  constructor
  · rw [merge_value_of_le left, merge_value_of_lt ab, Rule.pick_assoc]
  · rw [merge_value_of_lt right, merge_value_of_le cb, Rule.pick_assoc]

/-- Both groupings of three versions of which the right one is the latest. -/
theorem merge_assoc_right (empty : V) (rule : Rule) (ac : a.time < c.time) (bc : b.time < c.time) :
    (merge empty rule (merge empty rule a b) c).value =
        rule.pick empty c.value (merge empty rule a b).value ∧
      (merge empty rule a (merge empty rule b c)).value =
        rule.pick empty c.value (rule.pick empty b.value a.value) := by
  have left : (merge empty rule a b).time < c.time := by
    rw [merge_time]
    exact max_lt ac bc
  have right : a.time < (merge empty rule b c).time := by
    rw [merge_time, max_eq_right bc.le]
    exact ac
  constructor
  · rw [merge_value_of_lt left]
  · rw [merge_value_of_lt right, merge_value_of_lt bc, Rule.pick_assoc]

/-- The value is the same in both groupings exactly when they decide no conflict. -/
theorem merge_assoc_iff : merge empty rule (merge empty rule a b) c =
      merge empty rule a (merge empty rule b c) ↔ GroupsAlike empty rule a b c := by
  have times : (merge empty rule (merge empty rule a b) c).time =
      (merge empty rule a (merge empty rule b c)).time := by
    simp only [merge_time, max_assoc]
  rw [Version.ext_iff, and_iff_right times]
  rcases le_or_gt b.time a.time with ba | ab
  · rcases le_or_gt c.time a.time with ca | ac
    · obtain ⟨left, right⟩ := merge_assoc_left empty rule ba ca
      rcases le_or_gt c.time b.time with cb | bc
      · rw [left, right, merge_value_of_le cb]
        exact iff_of_true rfl ⟨fun _ _ bc => absurd bc cb.not_gt,
          fun ab _ => absurd ab ba.not_gt, fun ac _ _ => absurd ac ca.not_gt⟩
      · rw [left, right, merge_value_of_lt bc, Rule.pick_swap_iff]
        exact ⟨fun grouped => ⟨fun _ _ _ => grouped, fun ab _ => absurd ab ba.not_gt,
          fun ac _ _ => absurd ac ca.not_gt⟩, fun groups => groups.left_latest ba ca bc⟩
    · have bc := ba.trans_lt ac
      obtain ⟨left, right⟩ := merge_assoc_right empty rule ac bc
      rw [left, right, merge_value_of_le ba, Rule.pick_swap_iff]
      exact ⟨fun grouped => ⟨fun _ ca _ => absurd ac ca.not_gt, fun ab _ => absurd ab ba.not_gt,
        fun _ _ _ => grouped⟩, fun groups => groups.right_latest ac bc ba⟩
  · rcases le_or_gt c.time b.time with cb | bc
    · obtain ⟨left, right⟩ := merge_assoc_middle empty rule ab cb
      rw [left, right, Rule.pick_swap_iff]
      exact ⟨fun grouped => ⟨fun ba _ _ => absurd ab ba.not_gt, fun _ _ => grouped,
        fun _ bc _ => absurd bc cb.not_gt⟩, fun groups => groups.middle_latest ab cb⟩
    · obtain ⟨left, right⟩ := merge_assoc_right empty rule (ab.trans bc) bc
      rw [left, right, merge_value_of_lt ab]
      exact iff_of_true rfl ⟨fun ba _ _ => absurd ab ba.not_gt,
        fun _ cb => absurd bc cb.not_gt, fun _ _ ba => absurd ab ba.not_gt⟩

/-! ### Lists of versions -/

/-- None of the list is later. -/
def Newest (l : List (Version T V)) (a : Version T V) : Prop :=
  ∀ b ∈ l, b.time ≤ a.time

instance (l : List (Version T V)) : DecidablePred (Newest l) := fun a => by
  unfold Newest; infer_instance

/-- The list has at most one value. -/
def NoConflict (empty : V) (l : List (Version T V)) : Prop :=
  ∀ a ∈ l, ∀ b ∈ l, ¬Conflict empty a.value b.value

variable {l : List (Version T V)}

theorem foldl_time_le (rule : Rule) (l : List (Version T V)) (a : Version T V) :
    ∀ b ∈ a :: l, b.time ≤ (l.foldl (merge empty rule) a).time := by
  induction l generalizing a with
  | nil => simp
  | cons c l ih =>
    intro b inside
    have later := ih (merge empty rule a c) _ List.mem_cons_self
    rw [merge_time, max_le_iff] at later
    rcases List.mem_cons.mp inside with rfl | inside
    · exact later.1
    · rcases List.mem_cons.mp inside with rfl | inside
      · exact later.2
      · exact ih _ b (List.mem_cons_of_mem _ inside)

theorem exists_foldl_time (empty : V) (rule : Rule) (l : List (Version T V)) (a : Version T V) :
    ∃ b ∈ a :: l, b.time = (l.foldl (merge empty rule) a).time := by
  induction l generalizing a with
  | nil => exact ⟨a, List.mem_cons_self, rfl⟩
  | cons c l ih =>
    obtain ⟨b, inside, same⟩ := ih (merge empty rule a c)
    rcases List.mem_cons.mp inside with rfl | inside
    · rw [merge_time] at same
      rcases max_choice a.time c.time with left | right
      · exact ⟨a, List.mem_cons_self, left.symm.trans same⟩
      · exact ⟨c, by simp, right.symm.trans same⟩
    · exact ⟨b, by simp [inside], same⟩

/-- The merge of a list has the time of its newest versions. -/
theorem Newest.time_eq {a b : Version T V} (newest : Newest (a :: l) b) (mem : b ∈ a :: l)
    (rule : Rule) : (l.foldl (merge empty rule) a).time = b.time := by
  obtain ⟨c, inside, same⟩ := exists_foldl_time empty rule l a
  apply le_antisymm
  · rw [← same]
    exact newest c inside
  · exact foldl_time_le rule l a b mem

theorem exists_foldl_value (empty : V) (rule : Rule) (l : List (Version T V)) (a : Version T V) :
    ∃ b ∈ a :: l, b.value = (l.foldl (merge empty rule) a).value := by
  induction l generalizing a with
  | nil => exact ⟨a, List.mem_cons_self, rfl⟩
  | cons c l ih =>
    obtain ⟨b, inside, same⟩ := ih (merge empty rule a c)
    rcases List.mem_cons.mp inside with rfl | inside
    · rcases merge_value_mem empty rule a c with left | right
      · exact ⟨a, List.mem_cons_self, left.symm.trans same⟩
      · exact ⟨c, by simp, right.symm.trans same⟩
    · exact ⟨b, by simp [inside], same⟩

/-- A list whose merge has no value has none. -/
theorem foldl_value_eq_empty (keeps : rule ≠ .base) {l : List (Version T V)}
    {a : Version T V} (none : (l.foldl (merge empty rule) a).value = empty) :
    ∀ b ∈ a :: l, b.value = empty := by
  induction l generalizing a with
  | nil => simpa using none
  | cons c l ih =>
    have all := ih none
    obtain ⟨no_a, no_c⟩ := merge_value_eq_empty keeps (all _ List.mem_cons_self)
    intro b inside
    rcases List.mem_cons.mp inside with rfl | inside
    · exact no_a
    · rcases List.mem_cons.mp inside with rfl | inside
      · exact no_c
      · exact all b (List.mem_cons_of_mem _ inside)

/-- A list with one value has it after the merge. -/
theorem foldl_value_of_noConflict (keeps : rule ≠ .base) {l : List (Version T V)}
    {a b : Version T V} (alike : NoConflict empty (a :: l)) (mem : b ∈ a :: l)
    (given : b.value ≠ empty) : (l.foldl (merge empty rule) a).value = b.value := by
  obtain ⟨c, inside, same⟩ := exists_foldl_value empty rule l a
  by_contra differs
  apply alike c inside b mem
  rw [same]
  refine ⟨fun none => ?_, given, differs⟩
  exact given (foldl_value_eq_empty keeps none b mem)

/-! ### The three rules on a list -/

/-- Without the other version's values, the merge of a list is one of its newest versions. -/
theorem foldl_base_mem (l : List (Version T V)) (a : Version T V) :
    l.foldl (merge empty .base) a ∈ a :: l := by
  induction l generalizing a with
  | nil => exact List.mem_cons_self
  | cons c l ih =>
    rcases List.mem_cons.mp (ih (merge empty .base a c)) with here | inside
    · rcases le_or_gt c.time a.time with ca | ac
      · rw [List.foldl_cons, here, merge_of_le ca]
        exact List.mem_cons_self
      · rw [List.foldl_cons, here, merge_of_lt ac]
        exact List.mem_cons_of_mem _ List.mem_cons_self
    · exact List.mem_cons_of_mem _ (List.mem_cons_of_mem _ inside)

/-- A newest version that comes first stays as it is. -/
theorem foldl_of_newest_first {l : List (Version T V)} {a : Version T V}
    (newest : ∀ b ∈ l, b.time ≤ a.time)
    (first : rule = .base ∨ rule = .baseFirst ∧ a.value ≠ empty) :
    l.foldl (merge empty rule) a = a := by
  induction l with
  | nil => rfl
  | cons b l ih =>
    have same : merge empty rule a b = a := by
      rw [merge_of_le (newest b List.mem_cons_self)]
      ext
      · rfl
      · rcases first with rfl | ⟨rfl, given⟩
        · rfl
        · exact if_neg given
    rw [List.foldl_cons, same]
    exact ih fun c inside => newest c (List.mem_cons_of_mem _ inside)

/-- The one value of the newest versions is that of the merge. -/
theorem foldl_baseFirst_value {v : V} (given : v ≠ empty) {l : List (Version T V)}
    {a : Version T V} (alike : ∀ b ∈ a :: l, Newest (a :: l) b → b.value = v) :
    (l.foldl (merge empty .baseFirst) a).value = v := by
  induction l generalizing a with
  | nil => exact alike a List.mem_cons_self (by simp [Newest])
  | cons c l ih =>
    apply ih
    intro b inside newest
    have times := newest _ List.mem_cons_self
    rw [merge_time, max_le_iff] at times
    have later : ∀ d ∈ a :: c :: l, d.time ≤ b.time := by
      intro d there
      rcases List.mem_cons.mp there with rfl | there
      · exact times.1
      · rcases List.mem_cons.mp there with rfl | there
        · exact times.2
        · exact newest d (List.mem_cons_of_mem _ there)
    rcases List.mem_cons.mp inside with rfl | inside
    · -- the merge of the first two is newest because its base is
      rcases le_or_gt c.time a.time with ca | ac
      · rw [merge_of_le ca] at later ⊢
        have value := alike a List.mem_cons_self later
        exact (if_neg (value ▸ given)).trans value
      · rw [merge_of_lt ac] at later ⊢
        have value := alike c (by simp) later
        exact (if_neg (value ▸ given)).trans value
    · exact alike b (by simp [inside]) later

/-- A version that comes last gives its value. -/
theorem foldl_otherFirst_last {l : List (Version T V)} {a b : Version T V}
    (older : b.time ≤ a.time) (given : b.value ≠ empty) :
    ((l ++ [b]).foldl (merge empty .otherFirst) a).value = b.value := by
  have le : b.time ≤ (l.foldl (merge empty .otherFirst) a).time :=
    older.trans (foldl_time_le _ l a a List.mem_cons_self)
  rw [List.foldl_append, List.foldl_cons, List.foldl_nil, merge_value_of_le le]
  exact if_neg given

/-- With one newest version, the one value of the others is that of the merge. -/
theorem foldl_otherFirst_value {t : T} {w : V} (given : w ≠ empty) {l : List (Version T V)}
    {a : Version T V} (until_t : ∀ b ∈ a :: l, b.time ≤ t)
    (one : (a :: l).countP (fun b => b.time = t) = 1)
    (older : ∀ b ∈ a :: l, b.time < t → b.value = empty ∨ b.value = w)
    (has_value : ∃ b ∈ a :: l, b.time < t ∧ b.value = w) :
    (l.foldl (merge empty .otherFirst) a).value = w := by
  induction l generalizing a with
  | nil =>
    obtain ⟨b, inside, earlier, -⟩ := has_value
    cases List.mem_singleton.mp inside
    simp [earlier.ne] at one
  | cons c l ih =>
    -- once the value is found, only older versions can follow
    have settled (d : Version T V) (value : d.value = w) (before : ∀ b ∈ l, b.time < t) :
        (l.foldl (merge empty .otherFirst) d).value = w := by
      have known : ∀ b ∈ d :: l, b.value = empty ∨ b.value = w := by
        intro b inside
        rcases List.mem_cons.mp inside with rfl | inside
        · exact .inr value
        · exact older b (by simp [inside]) (before b inside)
      rw [← value]
      apply foldl_value_of_noConflict (by simp) _ List.mem_cons_self (value ▸ given)
      rintro b inside b' inside' ⟨some_b, some_b', differ⟩
      exact differ (((known b inside).resolve_left some_b).trans
        ((known b' inside').resolve_left some_b').symm)
    -- the newest version is one of the first two
    have newest_here (n o : Version T V) (perm : (a :: c :: l).Perm (n :: o :: l))
        (at_n : n.time = t) (merged : merge empty .otherFirst a c =
          ⟨n.time, Rule.otherFirst.pick empty n.value o.value⟩) :
        ((c :: l).foldl (merge empty .otherFirst) a).value = w := by
      rw [perm.countP_eq, List.countP_cons, if_pos (decide_eq_true at_n)] at one
      have before : ∀ b ∈ o :: l, b.time < t := by
        intro b inside
        have mem := perm.mem_iff.mpr (List.mem_cons_of_mem n inside)
        apply lt_of_le_of_ne (until_t b mem)
        simpa using List.countP_eq_zero.mp (Nat.succ.inj one) b inside
      have o_before := before o List.mem_cons_self
      rw [List.foldl_cons, merged]
      rcases older o (perm.mem_iff.mpr (by simp)) o_before with no_o | value
      · have same : (⟨n.time, Rule.otherFirst.pick empty n.value o.value⟩ : Version T V) = n :=
          Version.ext rfl (if_pos no_o)
        rw [same]
        have sub : ∀ b ∈ n :: l, b ∈ a :: c :: l := by
          intro b inside
          rw [perm.mem_iff]
          rcases List.mem_cons.mp inside with rfl | inside
          · exact List.mem_cons_self
          · simp [inside]
        apply ih (fun b inside => until_t b (sub b inside)) _
          (fun b inside => older b (sub b inside))
        · obtain ⟨b, inside, earlier, value⟩ := has_value
          rcases List.mem_cons.mp (perm.mem_iff.mp inside) with rfl | inside
          · exact absurd at_n earlier.ne
          · rcases List.mem_cons.mp inside with rfl | inside
            · exact absurd (value.symm.trans no_o) given
            · exact ⟨b, List.mem_cons_of_mem _ inside, earlier, value⟩
        · rw [List.countP_cons, if_pos (decide_eq_true at_n), List.countP_eq_zero.mpr]
          intro b inside
          simpa using (before b (List.mem_cons_of_mem _ inside)).ne
      · apply settled _ _ fun b inside => before b (List.mem_cons_of_mem _ inside)
        exact (if_neg (value ▸ given)).trans value
    have a_until := until_t a List.mem_cons_self
    have c_until := until_t c (by simp)
    by_cases at_a : a.time = t
    · exact newest_here a c (.refl _) at_a (merge_of_le (c_until.trans at_a.ge))
    · have a_before := lt_of_le_of_ne a_until at_a
      by_cases at_c : c.time = t
      · exact newest_here c a (.swap ..) at_c (merge_of_lt (a_before.trans_eq at_c.symm))
      · have c_before := lt_of_le_of_ne c_until at_c
        have both : (merge empty .otherFirst a c).time < t := by
          rw [merge_time]
          exact max_lt a_before c_before
        have known : (merge empty .otherFirst a c).value = empty ∨
            (merge empty .otherFirst a c).value = w := by
          rcases merge_value_mem empty .otherFirst a c with left | right
          · rw [left]
            exact older a (by simp) a_before
          · rw [right]
            exact older c (by simp) c_before
        apply ih
        · intro b inside
          rcases List.mem_cons.mp inside with rfl | inside
          · exact both.le
          · exact until_t b (by simp [inside])
        · rw [List.countP_cons, if_neg (by simpa using at_a), Nat.add_zero, List.countP_cons,
            if_neg (by simpa using at_c)] at one
          rw [List.countP_cons, if_neg (by simpa using both.ne)]
          exact one
        · intro b inside earlier
          rcases List.mem_cons.mp inside with rfl | inside
          · exact known
          · exact older b (by simp [inside]) earlier
        · obtain ⟨b, inside, earlier, value⟩ := has_value
          by_cases in_l : b ∈ l
          · exact ⟨b, List.mem_cons_of_mem _ in_l, earlier, value⟩
          · apply Exists.intro (merge empty .otherFirst a c)
            refine ⟨List.mem_cons_self, both, known.resolve_left fun none => given ?_⟩
            obtain ⟨no_a, no_c⟩ := merge_value_eq_empty (by simp) none
            rcases List.mem_cons.mp inside with rfl | inside
            · exact value.symm.trans no_a
            · rcases List.mem_cons.mp inside with rfl | inside
              · exact value.symm.trans no_c
              · exact absurd inside in_l

/-! ### Every order -/

/-- The list is merged to the same version in every order. -/
def SameInEveryOrder (empty : V) (rule : Rule) (l : List (Version T V)) : Prop :=
  ∀ l' : List (Version T V), l.Perm l' → joinAll (merge empty rule) l' = joinAll (merge empty rule) l

/-- The order of the list does not matter under the rule. -/
def OrderFree (empty : V) : Rule → List (Version T V) → Prop
  | .base, l => ∀ a ∈ l, ∀ b ∈ l, Newest l a → Newest l b → a.value = b.value
  | .baseFirst, l => NoConflict empty l ∨
      ∀ a ∈ l, ∀ b ∈ l, Newest l a → Newest l b → a.value = b.value ∧ a.value ≠ empty
  | .otherFirst, l => NoConflict empty l ∨
      l.countP (Newest l ·) = 1 ∧ NoConflict empty (l.filter fun a => ¬Newest l a)

theorem exists_perm_cons {α : Type} {l : List α} {a : α} (mem : a ∈ l) :
    ∃ l' : List α, l.Perm (a :: l') := by
  obtain ⟨s, t, rfl⟩ := List.append_of_mem mem
  exact ⟨s ++ t, List.perm_middle⟩

theorem eq_of_countP_one {α : Type} {p : α → Bool} {l : List α} (one : l.countP p = 1) {a b : α}
    (in_a : a ∈ l) (in_b : b ∈ l) (p_a : p a = true) (p_b : p b = true) : a = b := by
  obtain ⟨s, perm⟩ := exists_perm_cons in_a
  rw [perm.countP_eq, List.countP_cons, if_pos p_a, Nat.add_eq_right, List.countP_eq_zero] at one
  rcases List.mem_cons.mp (perm.mem_iff.mp in_b) with same | inside
  · exact same.symm
  · exact absurd p_b (one b inside)

omit [DecidableEq V] in
theorem newest_perm {l' : List (Version T V)} (perm : l.Perm l') (a : Version T V) :
    Newest l a ↔ Newest l' a := by
  simp only [Newest, perm.mem_iff]

/-- A list has a newest version. -/
theorem exists_newest (l : List (Version T V)) (a : Version T V) :
    ∃ b ∈ a :: l, Newest (a :: l) b := by
  obtain ⟨b, inside, same⟩ := exists_foldl_time a.value .base l a
  refine ⟨b, inside, fun c there => ?_⟩
  rw [same]
  exact foldl_time_le .base l a c there

omit [DecidableEq V] in
theorem Newest.of_perm {a : Version T V} {s : List (Version T V)} (newest : Newest l a)
    (perm : l.Perm (a :: s)) : ∀ b ∈ s, b.time ≤ a.time :=
  fun b inside => newest b (perm.mem_iff.mpr (List.mem_cons_of_mem a inside))

/-- In every order the merge has the same time, so only the value matters. -/
theorem sameInEveryOrder_iff : SameInEveryOrder empty rule l ↔
    ∀ a b s t, l.Perm (a :: s) → l.Perm (b :: t) →
      (s.foldl (merge empty rule) a).value = (t.foldl (merge empty rule) b).value := by
  constructor
  · intro same a b s t perm_a perm_b
    have first := same _ perm_a
    rw [← same _ perm_b] at first
    exact congrArg value (Option.some.inj first)
  · intro values l' perm
    cases l with
    | nil => rw [perm.nil_eq]
    | cons b t =>
      cases l' with
      | nil => cases perm.length_eq
      | cons a s =>
        obtain ⟨c, inside, newest⟩ := exists_newest t b
        apply congrArg some
        ext
        · rw [((newest_perm perm c).mp newest).time_eq (perm.mem_iff.mp inside),
            newest.time_eq inside]
        · exact values a b s t perm (.refl _)

theorem sameInEveryOrder_base_iff :
    SameInEveryOrder empty .base l ↔ OrderFree empty .base l := by
  rw [sameInEveryOrder_iff]
  constructor
  · intro values a in_a b in_b newest_a newest_b
    obtain ⟨s, perm_a⟩ := exists_perm_cons in_a
    obtain ⟨t, perm_b⟩ := exists_perm_cons in_b
    have same := values a b s t perm_a perm_b
    rwa [foldl_of_newest_first (newest_a.of_perm perm_a) (.inl rfl),
      foldl_of_newest_first (newest_b.of_perm perm_b) (.inl rfl)] at same
  · intro free a b s t perm_a perm_b
    apply free _ (perm_a.mem_iff.mpr (foldl_base_mem s a)) _
      (perm_b.mem_iff.mpr (foldl_base_mem t b))
    · exact (newest_perm perm_a _).mpr (foldl_time_le .base s a)
    · exact (newest_perm perm_b _).mpr (foldl_time_le .base t b)

/-- When at most one value occurs, every order finds it. -/
theorem foldl_value_of_perm (keeps : rule ≠ .base) (alike : NoConflict empty l)
    {a b : Version T V} {s t : List (Version T V)} (perm_a : l.Perm (a :: s))
    (perm_b : l.Perm (b :: t)) :
    (s.foldl (merge empty rule) a).value = (t.foldl (merge empty rule) b).value := by
  obtain ⟨c, inside, same⟩ := exists_foldl_value empty rule t b
  rw [← same]
  by_cases none : c.value = empty
  · rw [none]
    have no_value := foldl_value_eq_empty keeps (same.symm.trans none)
    obtain ⟨d, there, same⟩ := exists_foldl_value empty rule s a
    rw [← same]
    exact no_value d (perm_b.mem_iff.mp (perm_a.mem_iff.mpr there))
  · apply foldl_value_of_noConflict keeps _ _ none
    · intro d there e there'
      exact alike d (perm_a.mem_iff.mpr there) e (perm_a.mem_iff.mpr there')
    · exact perm_a.mem_iff.mp (perm_b.mem_iff.mpr inside)

theorem sameInEveryOrder_baseFirst_iff :
    SameInEveryOrder empty .baseFirst l ↔ OrderFree empty .baseFirst l := by
  rw [sameInEveryOrder_iff]
  constructor
  · intro values
    by_cases alike : NoConflict empty l
    · exact .inl alike
    · apply Or.inr
      -- without a value of its own, a newest version that comes first takes the next one
      have given (c : Version T V) (in_c : c ∈ l) (newest : Newest l c) : c.value ≠ empty := by
        intro none
        apply alike
        rintro a in_a b in_b ⟨some_a, some_b, differ⟩
        apply differ
        obtain ⟨s, perm⟩ := exists_perm_cons in_c
        have next (d : Version T V) (in_d : d ∈ l) (some_d : d.value ≠ empty) :
            ∃ u, s.Perm (d :: u) ∧
              ((d :: u).foldl (merge empty .baseFirst) c).value = d.value := by
          have in_s : d ∈ s := by
            rcases List.mem_cons.mp (perm.mem_iff.mp in_d) with rfl | in_s
            · exact absurd none some_d
            · exact in_s
          obtain ⟨u, perm_d⟩ := exists_perm_cons in_s
          refine ⟨u, perm_d, ?_⟩
          have older := newest.of_perm perm
          have taken : merge empty .baseFirst c d = ⟨c.time, d.value⟩ := by
            rw [merge_of_le (older d in_s)]
            exact Version.ext rfl (if_pos none)
          have stays : u.foldl (merge empty .baseFirst) ⟨c.time, d.value⟩ = ⟨c.time, d.value⟩ := by
            apply foldl_of_newest_first (a := ⟨c.time, d.value⟩) _ (.inr ⟨rfl, some_d⟩)
            exact fun e there => older e (perm_d.mem_iff.mpr (List.mem_cons_of_mem _ there))
          rw [List.foldl_cons, taken, stays]
        obtain ⟨u, perm_u, value_u⟩ := next a in_a some_a
        obtain ⟨u', perm_u', value_u'⟩ := next b in_b some_b
        rw [← value_u, ← value_u']
        exact values c c _ _ (perm.trans (perm_u.cons c)) (perm.trans (perm_u'.cons c))
      intro a in_a b in_b newest_a newest_b
      refine ⟨?_, given a in_a newest_a⟩
      obtain ⟨s, perm_a⟩ := exists_perm_cons in_a
      obtain ⟨t, perm_b⟩ := exists_perm_cons in_b
      have same := values a b s t perm_a perm_b
      rwa [foldl_of_newest_first (newest_a.of_perm perm_a) (.inr ⟨rfl, given a in_a newest_a⟩),
        foldl_of_newest_first (newest_b.of_perm perm_b) (.inr ⟨rfl, given b in_b newest_b⟩)]
        at same
  · rintro (alike | newest_alike) a b s t perm_a perm_b
    · exact foldl_value_of_perm (by simp) alike perm_a perm_b
    · obtain ⟨c, inside, newest⟩ := exists_newest s a
      have in_c := perm_a.mem_iff.mpr inside
      have newest := (newest_perm perm_a c).mpr newest
      have given := (newest_alike c in_c c in_c newest newest).2
      rw [foldl_baseFirst_value given (l := s), foldl_baseFirst_value given (l := t)]
      · intro d there newest_d
        exact (newest_alike d (perm_b.mem_iff.mpr there) c in_c
          ((newest_perm perm_b d).mpr newest_d) newest).1
      · intro d there newest_d
        exact (newest_alike d (perm_a.mem_iff.mpr there) c in_c
          ((newest_perm perm_a d).mpr newest_d) newest).1

/-- In a list whose order does not matter, each value that can come last is the merge's. -/
theorem SameInEveryOrder.value_of_last (same : SameInEveryOrder empty .otherFirst l)
    {a b c : Version T V} {s t : List (Version T V)} (newest : Newest l a)
    (perm_a : l.Perm (a :: s)) (perm_b : l.Perm (b :: t)) (inside : c ∈ s)
    (given : c.value ≠ empty) :
    (t.foldl (merge empty .otherFirst) b).value = c.value := by
  obtain ⟨u, perm_c⟩ := exists_perm_cons inside
  have last : l.Perm (a :: (u ++ [c])) := by
    apply perm_a.trans
    apply List.Perm.cons
    exact perm_c.trans (List.perm_append_singleton c u).symm
  rw [sameInEveryOrder_iff.mp same b a t _ perm_b last]
  exact foldl_otherFirst_last (newest.of_perm perm_a c inside) given

omit [DecidableEq V] in
theorem Newest.iff_time {a b : Version T V} (newest : Newest l a) (in_a : a ∈ l) (in_b : b ∈ l) :
    Newest l b ↔ b.time = a.time := by
  constructor
  · intro newest_b
    exact le_antisymm (newest b in_b) (newest_b a in_a)
  · intro same c there
    rw [same]
    exact newest c there

theorem sameInEveryOrder_otherFirst_iff :
    SameInEveryOrder empty .otherFirst l ↔ OrderFree empty .otherFirst l := by
  constructor
  · intro same
    by_cases alike : NoConflict empty l
    · exact .inl alike
    · apply Or.inr
      have l_ne : l ≠ [] := by
        rintro rfl
        exact alike fun a in_a => nomatch in_a
      obtain ⟨d, l', rfl⟩ := List.exists_cons_of_ne_nil l_ne
      obtain ⟨m, in_m, newest⟩ := exists_newest l' d
      obtain ⟨s, perm⟩ := exists_perm_cons in_m
      have value_of (c : Version T V) (inside : c ∈ s) (given : c.value ≠ empty) :
          (s.foldl (merge empty .otherFirst) m).value = c.value :=
        same.value_of_last newest perm perm inside given
      constructor
      · -- with two newest versions, each can come last
        rw [perm.countP_eq, List.countP_cons, if_pos (decide_eq_true newest), Nat.add_eq_right,
          List.countP_eq_zero]
        intro m' in_m' newest'
        obtain ⟨u, perm'⟩ := exists_perm_cons in_m'
        have value_m (given : m.value ≠ empty) :
            (s.foldl (merge empty .otherFirst) m).value = m.value := by
          have swapped : (d :: l').Perm (m' :: m :: u) :=
            perm.trans ((perm'.cons m).trans (.swap ..))
          exact same.value_of_last (of_decide_eq_true newest') swapped perm List.mem_cons_self given
        have value_of_any (c : Version T V) (in_c : c ∈ d :: l') (given : c.value ≠ empty) :
            (s.foldl (merge empty .otherFirst) m).value = c.value := by
          rcases List.mem_cons.mp (perm.mem_iff.mp in_c) with rfl | inside
          · exact value_m given
          · exact value_of c inside given
        apply alike
        rintro a in_a b in_b ⟨some_a, some_b, differ⟩
        exact differ ((value_of_any a in_a some_a).symm.trans (value_of_any b in_b some_b))
      · have in_s (c : Version T V) (older : c ∈ (d :: l').filter fun a => ¬Newest (d :: l') a) :
            c ∈ s := by
          obtain ⟨in_c, older⟩ := List.mem_filter.mp older
          rcases List.mem_cons.mp (perm.mem_iff.mp in_c) with rfl | inside
          · exact absurd newest (of_decide_eq_true older)
          · exact inside
        rintro a in_a b in_b ⟨some_a, some_b, differ⟩
        exact differ ((value_of a (in_s a in_a) some_a).symm.trans
          (value_of b (in_s b in_b) some_b))
  · rw [sameInEveryOrder_iff]
    rintro (alike | ⟨one, alike⟩) a b s t perm_a perm_b
    · exact foldl_value_of_perm (by simp) alike perm_a perm_b
    · by_cases older_value : ∃ c ∈ l, ¬Newest l c ∧ c.value ≠ empty
      · obtain ⟨c, in_c, older, given⟩ := older_value
        obtain ⟨m, in_m, newest⟩ := exists_newest s a
        have in_l := perm_a.mem_iff.mpr in_m
        have newest := (newest_perm perm_a m).mpr newest
        have value_is (e : Version T V) (u : List (Version T V)) (perm : l.Perm (e :: u)) :
            (u.foldl (merge empty .otherFirst) e).value = c.value := by
          apply foldl_otherFirst_value given (t := m.time)
          · exact fun x there => newest x (perm.mem_iff.mpr there)
          · rw [← one, ← perm.countP_eq]
            apply List.countP_congr
            intro x there
            simp [newest.iff_time in_l there]
          · intro x there earlier
            have in_x := perm.mem_iff.mpr there
            have older_x : ¬Newest l x := fun newest_x =>
              earlier.ne ((newest.iff_time in_l in_x).mp newest_x)
            by_contra neither
            rw [not_or] at neither
            exact alike x (List.mem_filter.mpr ⟨in_x, decide_eq_true older_x⟩) c
              (List.mem_filter.mpr ⟨in_c, decide_eq_true older⟩) ⟨neither.1, given, neither.2⟩
          · refine ⟨c, perm.mem_iff.mp in_c, ?_, rfl⟩
            exact lt_of_le_of_ne (newest c in_c) fun same =>
              older ((newest.iff_time in_l in_c).mpr same)
        rw [value_is a s perm_a, value_is b t perm_b]
      · -- only the newest version can have a value
        apply foldl_value_of_perm (by simp) _ perm_a perm_b
        rintro c in_c d in_d ⟨some_c, some_d, differ⟩
        have newest (x : Version T V) (in_x : x ∈ l) (given : x.value ≠ empty) : Newest l x := by
          by_contra older
          exact older_value ⟨x, in_x, older, given⟩
        apply differ
        rw [eq_of_countP_one one in_c in_d (decide_eq_true (newest c in_c some_c))
          (decide_eq_true (newest d in_d some_d))]

/-- The merge of a list is the same in every order exactly under the rule's own condition. -/
theorem sameInEveryOrder_iff_orderFree : SameInEveryOrder empty rule l ↔ OrderFree empty rule l := by
  cases rule with
  | base => exact sameInEveryOrder_base_iff
  | baseFirst => exact sameInEveryOrder_baseFirst_iff
  | otherFirst => exact sameInEveryOrder_otherFirst_iff

end Version

end Merge

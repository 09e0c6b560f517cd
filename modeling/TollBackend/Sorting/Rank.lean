import Mathlib.Data.List.Sort
import Mathlib.Data.List.FinRange
import Mathlib.Data.List.Nodup

/-!
# Where a stable sort puts an element

An element of a list stands in the sorted list behind the elements that come before it: those
that are smaller, and the equal ones that stand before it in the list already. So the first `n`
elements of the sorted list can be told without sorting.

## Main definitions

* `Sorting.Precedes`: an element comes before another one.
* `Sorting.rank`: how many elements come before an element.

## Main results

* `Sorting.mem_take_insertionSort_iff`, `Sorting.mem_drop_insertionSort_iff`: the first elements
  of the sorted list are those of a small rank, and the rest are the others.
* `Sorting.head?_insertionSort`: the first element of the sorted list.
-/

namespace Sorting

variable {α : Type} (r : α → α → Prop) (l : List α)

/-- The element at `j` comes before the one at `i`. -/
def Precedes (j i : Fin l.length) : Prop :=
  r (l.get j) (l.get i) ∧ (r (l.get i) (l.get j) → j < i)

theorem Precedes.asymm {j i : Fin l.length} (before : Precedes r l j i) : ¬ Precedes r l i j :=
  fun after => lt_asymm (before.2 after.1) (after.2 before.1)

variable [DecidableRel r]

instance : DecidableRel (Precedes r l) := fun j i =>
  inferInstanceAs (Decidable (r (l.get j) (l.get i) ∧ (r (l.get i) (l.get j) → j < i)))

/-- How many elements come before the one at `i`. -/
def rank (i : Fin l.length) : Nat :=
  (List.finRange l.length).countP fun j => Precedes r l j i

/-- The positions of the elements, in the order of the sorted list. -/
def order : List (Fin l.length) :=
  (List.finRange l.length).insertionSort fun j i => r (l.get j) (l.get i)

theorem map_get_order : (order r l).map l.get = l.insertionSort r := by
  have sorted := List.map_insertionSort (fun j i => r (l.get j) (l.get i)) (s := r) l.get
    (List.finRange l.length) fun _ _ _ _ => Iff.rfl
  rw [List.map_get_finRange] at sorted
  exact sorted

theorem order_perm : (order r l).Perm (List.finRange l.length) :=
  List.perm_insertionSort _ _

theorem nodup_order : (order r l).Nodup :=
  (order_perm r l).nodup_iff.mpr (List.nodup_finRange _)

theorem exists_order_eq (i : Fin l.length) : ∃ before after, order r l = before ++ i :: after :=
  List.append_of_mem ((order_perm r l).mem_iff.mpr (List.mem_finRange i))

/-- Two elements of a list without repetition stand in one order only. -/
theorem not_sublist_swap {β : Type} {l : List β} (nodup : l.Nodup) {a b : β}
    (sub : [a, b].Sublist l) : ¬ [b, a].Sublist l := by
  induction l with
  | nil => simp at sub
  | cons c l ih =>
    rw [List.nodup_cons] at nodup
    intro swapped
    rw [List.cons_sublist_cons'] at sub swapped
    rcases sub with sub | ⟨rfl, sub⟩
    · rcases swapped with swapped | ⟨rfl, swapped⟩
      · exact ih nodup.2 sub swapped
      · exact nodup.1 (sub.subset (by simp))
    · rcases swapped with swapped | ⟨rfl, swapped⟩
      · exact nodup.1 (swapped.subset (by simp))
      · exact nodup.1 (sub.subset (by simp))

variable {r l} in
/-- An element that comes before all others is the first of the sorted list. -/
theorem head?_insertionSort {a : α} (mem : a ∈ l) (first : ∀ b ∈ l, b ≠ a → r a b ∧ ¬ r b a) :
    (l.insertionSort r).head? = some a := by
  induction l with
  | nil => exact absurd mem List.not_mem_nil
  | cons b l ih =>
    obtain ⟨head, rest⟩ := List.forall_mem_cons.mp first
    rw [List.insertionSort_cons]
    cases sorted : l.insertionSort r with
    | nil =>
      have empty : l = [] := by
        rw [← List.length_eq_zero_iff, ← List.length_insertionSort r l, sorted, List.length_nil]
      rw [empty, List.mem_singleton] at mem
      rw [List.orderedInsert_nil, List.head?_cons, mem]
    | cons c sorted' =>
      by_cases here : b = a
      · subst here
        -- the first of the others is not before `b`, or is `b` itself
        have mem_c : c ∈ l := by
          rw [← List.mem_insertionSort r, sorted]
          exact List.mem_cons_self
        by_cases same : c = b
        · rw [List.orderedInsert_cons, same]
          split <;> rfl
        · rw [List.orderedInsert_cons, if_pos (rest c mem_c same).1, List.head?_cons]
      · have tail := ih ((List.mem_cons.mp mem).resolve_left (Ne.symm here)) rest
        rw [sorted, List.head?_cons, Option.some.injEq] at tail
        rw [tail, List.orderedInsert_cons, if_neg (head here).2, List.head?_cons]

variable [Std.Total r] [IsTrans α r]

/-- The sort is stable. -/
theorem pairwise_order : (order r l).Pairwise (Precedes r l) := by
  let below : Fin l.length → Fin l.length → Prop := fun j i => r (l.get j) (l.get i)
  have total : Std.Total below := ⟨fun j i => Std.Total.total (r := r) _ _⟩
  have transitive : IsTrans (Fin l.length) below := ⟨fun _ _ _ => IsTrans.trans (r := r) _ _ _⟩
  have sorted : (order r l).Pairwise below := List.pairwise_insertionSort below _
  rw [List.pairwise_iff_forall_sublist] at sorted ⊢
  intro j i sub
  refine ⟨sorted sub, fun back => ?_⟩
  -- equal elements that stand the other way round in the list do so in the sorted list
  by_contra later
  have different : j ≠ i := by
    rintro rfl
    exact not_sublist_swap (nodup_order r l) sub sub
  have lt : i < j := lt_of_le_of_ne (not_lt.mp later) different.symm
  have ahead : [i, j].Sublist (List.finRange l.length) := by
    apply List.sublist_of_subperm_of_pairwise (r := (· ≤ ·))
    · apply List.subperm_of_subset
      · simp [different.symm]
      · intro k _
        exact List.mem_finRange k
    · simpa using lt.le
    · exact (List.pairwise_lt_finRange _).imp le_of_lt
  have kept : [i, j].Sublist (order r l) :=
    List.pair_sublist_insertionSort (r := below) back ahead
  exact not_sublist_swap (nodup_order r l) sub kept

/-- An element stands behind as many elements as come before it. -/
theorem rank_of_order_eq {before after : List (Fin l.length)} {i : Fin l.length}
    (split : order r l = before ++ i :: after) : rank r l i = before.length := by
  have sorted := pairwise_order r l
  rw [split, List.pairwise_append, List.pairwise_cons] at sorted
  obtain ⟨-, ⟨behind, -⟩, ahead⟩ := sorted
  have all : before.countP (fun j => Precedes r l j i) = before.length :=
    List.countP_eq_length.mpr fun j mem => decide_eq_true (ahead j mem i List.mem_cons_self)
  have none : (i :: after).countP (fun j => Precedes r l j i) = 0 := by
    apply List.countP_eq_zero.mpr
    intro j mem precedes
    have precedes := of_decide_eq_true precedes
    rcases List.mem_cons.mp mem with rfl | mem
    · exact Precedes.asymm r l precedes precedes
    · exact Precedes.asymm r l precedes (behind j mem)
  rw [rank, ← (order_perm r l).countP_eq, split, List.countP_append, all, none, Nat.add_zero]

theorem mem_take_order_iff (n : Nat) (i : Fin l.length) :
    i ∈ (order r l).take n ↔ rank r l i < n := by
  obtain ⟨before, after, split⟩ := exists_order_eq r l i
  have nodup := nodup_order r l
  rw [split, List.nodup_middle, List.nodup_cons, List.mem_append, not_or] at nodup
  rw [rank_of_order_eq r l split, split, List.take_append]
  by_cases small : before.length < n
  · obtain ⟨m, rest⟩ : ∃ m, n - before.length = m + 1 :=
      ⟨n - before.length - 1, by omega⟩
    simp [rest, small]
  · have out : n - before.length = 0 := by omega
    have absent : i ∉ before.take n := fun mem => nodup.1.1 (List.mem_of_mem_take mem)
    simp [out, small, absent]

theorem mem_drop_order_iff (n : Nat) (i : Fin l.length) :
    i ∈ (order r l).drop n ↔ n ≤ rank r l i := by
  have member : i ∈ (order r l).take n ++ (order r l).drop n := by
    rw [List.take_append_drop]
    exact (order_perm r l).mem_iff.mpr (List.mem_finRange i)
  have disjoint : (order r l).take n |>.Disjoint ((order r l).drop n) :=
    List.disjoint_take_drop (nodup_order r l) le_rfl
  rw [← not_lt, ← mem_take_order_iff]
  constructor
  · exact fun dropped taken => disjoint taken dropped
  · exact fun absent => (List.mem_append.mp member).resolve_left absent

/-- The first `n` elements of the sorted list have a rank below `n`. -/
theorem mem_take_insertionSort_iff (n : Nat) (a : α) :
    a ∈ (l.insertionSort r).take n ↔ ∃ i, l.get i = a ∧ rank r l i < n := by
  rw [← map_get_order, ← List.map_take, List.mem_map]
  constructor
  · rintro ⟨i, mem, eq⟩
    exact ⟨i, eq, (mem_take_order_iff r l n i).mp mem⟩
  · rintro ⟨i, eq, small⟩
    exact ⟨i, (mem_take_order_iff r l n i).mpr small, eq⟩

/-- The others have a larger one. -/
theorem mem_drop_insertionSort_iff (n : Nat) (a : α) :
    a ∈ (l.insertionSort r).drop n ↔ ∃ i, l.get i = a ∧ n ≤ rank r l i := by
  rw [← map_get_order, ← List.map_drop, List.mem_map]
  constructor
  · rintro ⟨i, mem, eq⟩
    exact ⟨i, eq, (mem_drop_order_iff r l n i).mp mem⟩
  · rintro ⟨i, eq, large⟩
    exact ⟨i, (mem_drop_order_iff r l n i).mpr large, eq⟩

omit [DecidableRel r] [Std.Total r] [IsTrans α r] in
/-- Elements are counted by their positions. -/
theorem countP_eq_finRange (p : α → Bool) :
    l.countP p = (List.finRange l.length).countP fun j => p (l.get j) := by
  have mapped := List.countP_map (p := p) (f := l.get) (l := List.finRange l.length)
  rw [List.map_get_finRange] at mapped
  exact mapped

/-- An element is among the first `n` of the sorted list if fewer than `n` elements are smaller
than its first occurrence, which no equal element precedes. -/
theorem mem_take_insertionSort_iff_countP (n : Nat) {before after : List α} {a : α}
    (split : l = before ++ a :: after) (first : ∀ b ∈ before, r b a → ¬ r a b) :
    a ∈ (l.insertionSort r).take n ↔ l.countP (fun b => ¬ r a b) < n := by
  have smaller : ∀ i : Fin l.length, l.get i = a →
      l.countP (fun b => ¬ r a b) ≤ rank r l i := by
    intro i here
    rw [countP_eq_finRange, rank]
    apply List.countP_mono_left
    intro j _ smaller
    have smaller := of_decide_eq_true smaller
    apply decide_eq_true
    rw [Precedes, here]
    exact ⟨(Std.Total.total (l.get j) a).resolve_right smaller, fun back => absurd back smaller⟩
  rw [mem_take_insertionSort_iff]
  constructor
  · rintro ⟨i, here, low⟩
    exact (smaller i here).trans_lt low
  · intro few
    have inside : before.length < l.length := by simp [split]
    have here : l.get ⟨before.length, inside⟩ = a := by simp [split]
    refine ⟨⟨before.length, inside⟩, here, lt_of_le_of_lt ?_ few⟩
    rw [countP_eq_finRange, rank]
    apply List.countP_mono_left
    intro j _ precedes
    have precedes := of_decide_eq_true precedes
    rw [Precedes, here] at precedes
    apply decide_eq_true
    intro back
    -- an equal element before the first occurrence
    have lt : j.val < before.length := precedes.2 back
    have mem : l.get j ∈ before := by
      have get : l.get j = before[j.val] := by
        simp [split, List.getElem_append_left lt]
      rw [get]
      exact List.getElem_mem lt
    exact first _ mem precedes.1 back

end Sorting

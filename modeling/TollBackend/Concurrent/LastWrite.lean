import Mathlib.Data.List.Basic

/-!
# Writes to keys, done out of order

Writes to keys are given as a list, and done one by one in some order. As long as the writes to
one key are done in the order of the list, the store holds the last of those that were done.

## Main definitions

* `AppliedInOrder`: which writes were done, and what the store holds because of them.

## Main results

* `AppliedInOrder.next`: another write is done.
* `AppliedInOrder.last`: when all are done, each key holds the last value written to it.
-/

namespace Concurrent

variable {K V : Type} {writes : List (K × V)} {done done' : Nat → Prop}
  {Holds Holds' : K → V → Prop}

/-- The writes to a key were done in the order of the list, and the store holds the latest of
them. -/
structure AppliedInOrder (writes : List (K × V)) (done : Nat → Prop) (Holds : K → V → Prop) :
    Prop where
  closed : ∀ i j, i < j → ∀ a ∈ writes[i]?, ∀ b ∈ writes[j]?, a.1 = b.1 → done j → done i
  latest : ∀ i, ∀ a ∈ writes[i]?, done i →
    (∀ j, i < j → ∀ b ∈ writes[j]?, b.1 = a.1 → ¬done j) → Holds a.1 a.2

/-- Nothing is done yet. -/
theorem AppliedInOrder.start (writes : List (K × V)) (Holds : K → V → Prop) :
    AppliedInOrder writes (fun _ => False) Holds :=
  ⟨fun _ _ _ _ _ _ _ _ => id, fun _ _ _ => False.elim⟩

/-- A write is done after the earlier ones to its key. -/
theorem AppliedInOrder.next (inOrder : AppliedInOrder writes done Holds) {k : Nat} {a : K × V}
    (at_k : writes[k]? = some a) (not_done : ¬done k)
    (earlier : ∀ i < k, ∀ b ∈ writes[i]?, b.1 = a.1 → done i)
    (now : ∀ i, done' i ↔ done i ∨ i = k) (here : Holds' a.1 a.2)
    (elsewhere : ∀ key value, key ≠ a.1 → Holds key value → Holds' key value) :
    AppliedInOrder writes done' Holds' where
  closed i j less b at_i c at_j same j_done := by
    apply (now i).mpr
    apply Or.inl
    rcases (now j).mp j_done with old | rfl
    · exact inOrder.closed i j less b at_i c at_j same old
    · cases at_k.symm.trans at_j
      exact earlier i less b at_i same
  latest i b at_i i_done none_later := by
    have old_later (j : Nat) (less : i < j) (c : K × V) (at_j : c ∈ writes[j]?)
        (same : c.1 = b.1) : ¬done j :=
      fun old => none_later j less c at_j same ((now j).mpr (.inl old))
    rcases (now i).mp i_done with old | rfl
    · by_cases same : b.1 = a.1
      · -- an old write to this key comes before the new one, which is then a later one
        apply absurd ((now k).mpr (.inr rfl))
        apply none_later k _ a at_k same.symm
        rcases Nat.lt_trichotomy i k with less | equal | more
        · exact less
        · exact absurd (equal ▸ old) not_done
        · exact absurd (inOrder.closed k i more a at_k b at_i same.symm old) not_done
      · exact elsewhere b.1 b.2 same (inOrder.latest i b at_i old old_later)
    · cases at_k.symm.trans at_i
      exact here

/-- When all is done, a key holds what was written to it last. -/
theorem AppliedInOrder.last (inOrder : AppliedInOrder writes done Holds)
    (all : ∀ i < writes.length, done i) {i : Nat} {a : K × V} (at_i : writes[i]? = some a)
    (last : ∀ j, i < j → ∀ b ∈ writes[j]?, b.1 ≠ a.1) : Holds a.1 a.2 := by
  have bound := (List.getElem?_eq_some_iff.mp at_i).1
  exact inOrder.latest i a at_i (all i bound)
    fun j less b at_j same => absurd same (last j less b at_j)

end Concurrent

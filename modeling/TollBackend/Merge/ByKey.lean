import Mathlib.Data.List.Basic
import Mathlib.Data.List.Induction
import Mathlib.Data.List.Sort

/-!
# Joining the entries of a key

A list in which each key has one entry, as a hash map keeps it: an entry with a new key is added,
and one with a known key is joined to the entry that is there.

## Main definitions

* `joinInto`: add an entry.
* `joinAll`: the entries of one key, joined from the left.

## Main results

* `filter_foldl_joinInto`, `filter_sorted_joinInto`: what the list has for a key after a run of
  entries.
-/

namespace Merge

variable {α κ : Type} [DecidableEq κ] (key : α → κ) (join : α → α → α)

/-- Add an entry to a list with one entry for each key. -/
def joinInto (l : List α) (a : α) : List α :=
  if l.any fun x => key x = key a then l.map fun x => if key x = key a then join x a else x
  else l ++ [a]

/-- Join the entries of a list, from the left. -/
def joinAll : List α → Option α
  | [] => none
  | a :: l => some (l.foldl join a)

theorem joinAll_append_singleton (l : List α) (a : α) :
    joinAll join (l ++ [a]) = some ((joinAll join l).elim a fun x => join x a) := by
  cases l with
  | nil => rfl
  | cons b l => simp [joinAll]

/-- What a list has for a key after an entry is added. -/
theorem filter_joinInto (keeps : ∀ x a, key x = key a → key (join x a) = key a) (l : List α)
    (a : α) (k : κ) : (joinInto key join l a).filter (fun x => key x = k) =
      if key a = k then
        if l.filter (fun x => key x = k) = [] then [a]
        else (l.filter fun x => key x = k).map (join · a)
      else l.filter fun x => key x = k := by
  unfold joinInto
  by_cases known : l.any fun x => key x = key a
  · have same_key :
        ((fun x => decide (key x = k)) ∘ fun x => if key x = key a then join x a else x) =
          fun x => decide (key x = k) := by
      funext x
      by_cases same : key x = key a
      · simp [same, keeps x a same]
      · simp [same]
    rw [if_pos known, List.filter_map, same_key]
    by_cases here : key a = k
    · have some_there : l.filter (fun x => key x = k) ≠ [] := by
        obtain ⟨x, inside, same⟩ := List.any_eq_true.mp known
        apply List.ne_nil_of_mem (a := x)
        exact List.mem_filter.mpr ⟨inside, decide_eq_true ((of_decide_eq_true same).trans here)⟩
      rw [if_pos here, if_neg some_there]
      apply List.map_congr_left
      intro x inside
      exact if_pos ((of_decide_eq_true (List.mem_filter.mp inside).2).trans here.symm)
    · rw [if_neg here]
      apply (List.map_congr_left fun x inside => _).trans (List.map_id _)
      intro x inside
      apply if_neg
      intro same
      exact here (same.symm.trans (of_decide_eq_true (List.mem_filter.mp inside).2))
  · rw [if_neg known, List.filter_append]
    by_cases here : key a = k
    · have none_there : l.filter (fun x => key x = k) = [] := by
        rw [List.filter_eq_nil_iff]
        intro x inside same
        apply known
        exact List.any_eq_true.mpr ⟨x, inside, by simpa [here] using same⟩
      simp [here, none_there]
    · simp [here]

/-- What a list has for a key after a run of entries: those of the key, joined. -/
theorem filter_foldl_joinInto (keeps : ∀ x a, key x = key a → key (join x a) = key a)
    (l : List α) (k : κ) : (l.foldl (joinInto key join) []).filter (fun x => key x = k) =
      (joinAll join (l.filter fun x => key x = k)).toList := by
  induction l using List.reverseRecOn with
  | nil => rfl
  | append_singleton l a ih =>
    rw [List.foldl_append, List.foldl_cons, List.foldl_nil, filter_joinInto key join keeps, ih,
      List.filter_append]
    by_cases here : key a = k
    · rw [if_pos here, List.filter_cons_of_pos (by simpa using here), List.filter_nil,
        joinAll_append_singleton]
      cases joinAll join (l.filter fun x => key x = k) with
      | none => rfl
      | some x => rfl
    · rw [if_neg here, List.filter_cons_of_neg (by simpa using here), List.filter_nil,
        List.append_nil]

/-- The same of a run that skips the entries with one key, and in whatever order the entries are
left. -/
theorem filter_sorted_joinInto (keeps : ∀ x a, key x = key a → key (join x a) = key a) (z : κ)
    (r : α → α → Prop) [DecidableRel r] (l : List α) (k : κ) :
    ((l.foldl (fun kept a => if key a = z then kept else joinInto key join kept a)
      []).insertionSort r).filter (fun x => key x = k) =
        if k = z then [] else (joinAll join (l.filter fun x => key x = k)).toList := by
  have skipped : l.foldl (fun kept a => if key a = z then kept else joinInto key join kept a) [] =
      (l.filter fun a => key a ≠ z).foldl (joinInto key join) [] := by
    rw [List.foldl_filter]
    apply List.foldl_ext
    intro kept a _
    by_cases zero : key a = z
    · simp [zero]
    · simp [zero]
  have entries : (l.filter fun a => key a ≠ z).filter (fun x => key x = k) =
      if k = z then [] else l.filter fun x => key x = k := by
    rw [List.filter_filter]
    by_cases zero : k = z
    · rw [if_pos zero, List.filter_eq_nil_iff]
      intro a _
      simp [zero]
    · rw [if_neg zero]
      apply List.filter_congr
      intro a _
      by_cases here : key a = k
      · simp [here, zero]
      · simp [here]
  have perm := (List.perm_insertionSort r
    (l.foldl (fun kept a => if key a = z then kept else joinInto key join kept a) [])).filter
      fun x => key x = k
  rw [skipped, filter_foldl_joinInto key join keeps, entries] at perm
  rw [skipped]
  by_cases zero : k = z
  · rw [if_pos zero] at perm ⊢
    exact perm.eq_nil
  · -- a list of at most one entry has one order
    rw [if_neg zero] at perm ⊢
    cases joined : joinAll join (l.filter fun x => key x = k) with
    | none =>
      rw [joined] at perm
      exact perm.eq_nil
    | some a =>
      rw [joined] at perm
      exact List.perm_singleton.mp perm

end Merge

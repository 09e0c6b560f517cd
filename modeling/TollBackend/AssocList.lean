import TollBackend.System

/-!
# Keys and values in a list

What is found under a key after a list of keys and values is changed. A key is found where it
stands first.

## Main definitions

* `assocSetAll`: set one key after another.

## Main results

* `lookup_assocSet`, `lookup_assocErase`, `lookup_assocSetAll`, `lookup_filter_keys`: what is
  then found.
* `lookup_eq_some_iff_mem`: where keys are unique, every entry is found.
-/

namespace TollBackend

variable {κ ν : Type} [DecidableEq κ]

/-- Set one key after another. -/
def assocSetAll (l : List (κ × ν)) (data : List (κ × ν)) : List (κ × ν) :=
  data.foldl (fun l kv => assocSet l kv.1 kv.2) l

/-! ### Entries -/

theorem mem_of_mem_assocSet {l : List (κ × ν)} {k : κ} {v : ν} {kv : κ × ν}
    (mem : kv ∈ assocSet l k v) : kv = (k, v) ∨ kv ∈ l :=
  (List.mem_cons.mp mem).imp id List.mem_of_mem_filter

theorem mem_of_mem_assocSetAll {l data : List (κ × ν)} {kv : κ × ν}
    (mem : kv ∈ assocSetAll l data) : kv ∈ data ∨ kv ∈ l := by
  induction data generalizing l with
  | nil => exact .inr mem
  | cons first data ih =>
    rcases ih mem with more | set
    · exact .inl (List.mem_cons_of_mem first more)
    · rcases mem_of_mem_assocSet set with rfl | before
      · exact .inl List.mem_cons_self
      · exact .inr before

omit [DecidableEq κ] in
theorem mem_of_lookup [BEq κ] [LawfulBEq κ] {l : List (κ × ν)} {k : κ} {v : ν}
    (found : l.lookup k = some v) : (k, v) ∈ l := by
  rw [List.lookup_eq_some_iff] at found
  obtain ⟨front, back, split, _⟩ := found
  rw [split]
  simp

/-! ### Unique keys -/

theorem nodup_keys_assocErase {l : List (κ × ν)} (nodup : (l.map fun kv => kv.1).Nodup) (k : κ) :
    ((assocErase l k).map fun kv => kv.1).Nodup :=
  nodup.sublist (List.filter_sublist.map _)

theorem nodup_keys_assocSet {l : List (κ × ν)} (nodup : (l.map fun kv => kv.1).Nodup) (k : κ)
    (v : ν) : ((assocSet l k v).map fun kv => kv.1).Nodup := by
  rw [assocSet, List.map_cons, List.nodup_cons]
  constructor
  · rw [List.mem_map]
    rintro ⟨kv, mem, same⟩
    simp [same] at mem
  · exact nodup_keys_assocErase nodup k

theorem nodup_keys_assocSetAll {l : List (κ × ν)} (nodup : (l.map fun kv => kv.1).Nodup)
    (data : List (κ × ν)) : ((assocSetAll l data).map fun kv => kv.1).Nodup := by
  induction data generalizing l with
  | nil => exact nodup
  | cons kv data ih => exact ih (nodup_keys_assocSet nodup kv.1 kv.2)

/-! ### What is found -/

section Lookup

variable [BEq κ] [LawfulBEq κ]

/-- Only some keys are kept. -/
theorem lookup_filter_keys (l : List (κ × ν)) (keep : κ → Bool) (k : κ) :
    (l.filter fun kv => keep kv.1).lookup k = if keep k then l.lookup k else none := by
  induction l with
  | nil => simp
  | cons kv l ih =>
    rw [List.lookup_cons]
    by_cases kept : keep kv.1
    · rw [List.filter_cons_of_pos (p := fun kv : κ × ν => keep kv.1) kept, List.lookup_cons, ih]
      by_cases same : k = kv.1
      · simp [same, kept]
      · simp [beq_false_of_ne same]
    · rw [List.filter_cons_of_neg (p := fun kv : κ × ν => keep kv.1) kept, ih]
      by_cases same : k = kv.1
      · simp [same, kept]
      · simp [beq_false_of_ne same]

theorem lookup_assocSet (l : List (κ × ν)) (k k' : κ) (v : ν) :
    (assocSet l k v).lookup k' = if k' = k then some v else l.lookup k' := by
  have others := lookup_filter_keys l (fun key => decide (key ≠ k)) k'
  rw [assocSet, List.lookup_cons]
  by_cases same : k' = k
  · simp [same]
  · rw [if_neg same, beq_false_of_ne same, others, if_pos (by simpa using same)]

theorem lookup_assocErase (l : List (κ × ν)) (k k' : κ) :
    (assocErase l k).lookup k' = if k' = k then none else l.lookup k' := by
  have others := lookup_filter_keys l (fun key => decide (key ≠ k)) k'
  rw [assocErase, others]
  by_cases same : k' = k
  · simp [same]
  · simp [same]

/-- Where keys are unique, an entry is found under its key. -/
theorem lookup_eq_some_iff_mem {l : List (κ × ν)} (nodup : (l.map fun kv => kv.1).Nodup)
    (k : κ) (v : ν) : l.lookup k = some v ↔ (k, v) ∈ l := by
  induction l with
  | nil => simp
  | cons kv l ih =>
    rw [List.map_cons, List.nodup_cons] at nodup
    rw [List.lookup_cons, List.mem_cons]
    by_cases same : k = kv.1
    · have absent : (k, v) ∉ l := fun mem =>
        nodup.1 (List.mem_map.mpr ⟨(k, v), mem, same⟩)
      rw [same, beq_self_eq_true, ← same]
      simp only [absent, or_false]
      constructor
      · intro found
        rw [same, ← Option.some.inj found]
      · intro eq
        rw [← eq]
    · rw [beq_false_of_ne same]
      have other : (k, v) ≠ kv := fun eq => same (by rw [← eq])
      simp only [other, false_or]
      exact ih nodup.2

/-- Every value is changed, each under its key. -/
theorem lookup_map_values (l : List (κ × ν)) (f : κ → ν → ν) (k : κ) :
    (l.map fun kv => (kv.1, f kv.1 kv.2)).lookup k = (l.lookup k).map (f k) := by
  induction l with
  | nil => rfl
  | cons kv l ih =>
    rw [List.map_cons, List.lookup_cons, List.lookup_cons]
    by_cases same : k = kv.1
    · simp [same]
    · rw [beq_false_of_ne same]
      exact ih

/-- The last value that a key is set to is found under it. -/
theorem lookup_assocSetAll (l data : List (κ × ν)) (k : κ) :
    (assocSetAll l data).lookup k = (data.reverse.lookup k).or (l.lookup k) := by
  induction data generalizing l with
  | nil => rfl
  | cons kv data ih =>
    have more : (assocSetAll l (kv :: data)).lookup k =
        (data.reverse.lookup k).or ((assocSet l kv.1 kv.2).lookup k) := ih _
    rw [more, lookup_assocSet, List.reverse_cons, List.lookup_append, Option.or_assoc,
      List.lookup_cons]
    by_cases same : k = kv.1
    · simp [same]
    · simp [same, beq_false_of_ne same]

end Lookup

end TollBackend

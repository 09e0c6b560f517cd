import TollBackend.TicketId.Calls

/-!
# Which call owns a suffix

A suffix of a prefix belongs to the call that drew it, and a value of the sequence to the call that
it was given to, until it is stored as next prefix. Here the calls are nothing but what they own;
each lemma is what one step does to that.

## Main definitions

* `TicketIdBlocks`: what the calls own, together with the atomics.

## Main results

* `TicketIdBlocks.counted`, `.given`, `.holds`, `.fetched`, `.switches`, `.starts`, `.stores`,
  `.resets`, `.closes`, `.draws`: the steps.
-/

namespace TollBackend

/-- What the calls own: the suffix of a prefix, a value that is to be stored as next prefix, a
prefix that is to be stored, the next prefix that is taken; and whether a call is between its store
of the prefix and its store of the counter. -/
structure TicketIdBlocks (config : TicketIdConfig) (current counter next : Int) (values : List Int)
    (pair : Nat → Option (Int × Int)) (held unstored switching : Nat → Option Int)
    (window : Nat → Prop) : Prop where
  values_fit : ∀ v ∈ values, 0 < v ∧ config.Fits v
  counter_nonneg : 0 ≤ counter
  current_mem : current ≠ 0 → current ∈ values
  next_mem : next ≠ 0 → next ∈ values
  held_mem : ∀ c v, held c = some v → v ∈ values
  pair_mem : ∀ c p x, pair c = some (p, x) → p ∈ values ∧ 1 ≤ x ∧ x ≤ config.suffixMax
  unique : ∀ c c' p x, pair c = some (p, x) → pair c' = some (p, x) → c = c'
  held_alone : ∀ c c' v, held c = some v → held c' = some v → c = c'
  held_new : ∀ c v, held c = some v → v ≠ current ∧ v ≠ next ∧ ∀ c' x, pair c' ≠ some (v, x)
  next_new : next ≠ 0 → (∃ c, switching c = some next) ∨
    next ≠ current ∧ ∀ c x, pair c ≠ some (next, x)
  unstored_pair : ∀ c v, unstored c = some v → pair c = some (v, 1)
  unstored_new : ∀ c v, unstored c = some v → v ≠ current ∧
    ∀ c' x, pair c' = some (v, x) → c' = c
  bounded : ∀ c x, pair c = some (current, x) →
    (∃ c', window c') ∧ x ≤ 1 ∨ (∀ c', ¬ window c') ∧ x ≤ counter

namespace TicketIdBlocks

variable {config : TicketIdConfig} {current counter next : Int} {values : List Int}
  {pair : Nat → Option (Int × Int)} {held unstored switching : Nat → Option Int}
  {window : Nat → Prop} {c : Nat} {v : Int}

/-- A value under a call is the new one, or was there before. -/
theorem of_update {A : Type} {f : Nat → Option A} {c c' : Nat} {new : Option A} {a : A}
    (found : Function.update f c new c' = some a) :
    (c' = c ∧ new = some a) ∨ (c' ≠ c ∧ f c' = some a) := by
  rw [Function.update_apply] at found
  split at found
  · next same => exact .inl ⟨same, found⟩
  · next other => exact .inr ⟨other, found⟩

/-- The counter is counted up. -/
theorem counted
    (blocks : TicketIdBlocks config current counter next values pair held unstored switching
      window) :
    TicketIdBlocks config current (counter + 1) next values pair held unstored switching
      window := by
  refine { blocks with counter_nonneg := ?_, bounded := fun c x owned => ?_ }
  · have := blocks.counter_nonneg
    omega
  · rcases blocks.bounded c x owned with inside | ⟨closed, le⟩
    · exact .inl inside
    · exact .inr ⟨closed, by omega⟩

/-- The sequence gives a value. -/
theorem given
    (blocks : TicketIdBlocks config current counter next values pair held unstored switching
      window)
    (positive : 0 < v) (fits : config.Fits v) :
    TicketIdBlocks config current counter next (v :: values) pair held unstored switching
      window := by
  refine { blocks with values_fit := ?_, current_mem := ?_, next_mem := ?_, held_mem := ?_,
                       pair_mem := ?_ }
  · intro w mem
    rcases List.mem_cons.mp mem with rfl | old
    · exact ⟨positive, fits⟩
    · exact blocks.values_fit w old
  · exact fun set => List.mem_cons_of_mem _ (blocks.current_mem set)
  · exact fun set => List.mem_cons_of_mem _ (blocks.next_mem set)
  · exact fun c w has => List.mem_cons_of_mem _ (blocks.held_mem c w has)
  · intro c p x owned
    obtain ⟨mem, range⟩ := blocks.pair_mem c p x owned
    exact ⟨List.mem_cons_of_mem _ mem, range⟩

/-- A call takes the next prefix. -/
theorem switches
    (blocks : TicketIdBlocks config current counter next values pair held unstored switching
      window)
    (none_before : switching c = none) :
    TicketIdBlocks config current counter next values pair held unstored
      (Function.update switching c (some v)) window := by
  refine { blocks with next_new := fun set => ?_ }
  rcases blocks.next_new set with ⟨other, taken⟩ | new
  · left
    have not_own : other ≠ c := by
      rintro rfl
      rw [none_before] at taken
      cases taken
    exact ⟨other, by rw [Function.update_of_ne not_own, taken]⟩
  · exact .inr new

/-- A call owns the first suffix of a prefix that is new to all calls. -/
theorem starts
    (blocks : TicketIdBlocks config current counter next values pair held unstored switching
      window)
    (mem : v ∈ values) (unowned : ∀ c' x, pair c' ≠ some (v, x)) (other : v ≠ current)
    (unheld : ∀ c', held c' ≠ some v) (taken : v = next → ∃ c', switching c' = some next)
    :
    TicketIdBlocks config current counter next values
      (Function.update pair c (some (v, 1))) held (Function.update unstored c (some v)) switching
      window := by
  have small := config.suffixMax_mem
  refine { blocks with pair_mem := ?_, unique := ?_, held_new := ?_, next_new := ?_,
                       unstored_pair := ?_, unstored_new := ?_, bounded := ?_ }
  · intro c' p x owned
    rcases of_update owned with ⟨-, new⟩ | ⟨-, old⟩
    · cases new
      exact ⟨mem, le_rfl, small.1⟩
    · exact blocks.pair_mem c' p x old
  · intro c₁ c₂ p x owned₁ owned₂
    rcases of_update owned₁ with ⟨rfl, new⟩ | ⟨-, old⟩ <;>
      rcases of_update owned₂ with ⟨rfl, new'⟩ | ⟨-, old'⟩
    · rfl
    · cases new
      exact absurd old' (unowned c₂ 1)
    · cases new'
      exact absurd old (unowned c₁ 1)
    · exact blocks.unique c₁ c₂ p x old old'
  · intro c' w has
    obtain ⟨not_current, not_next, unowned'⟩ := blocks.held_new c' w has
    refine ⟨not_current, not_next, fun c'' x owned => ?_⟩
    rcases of_update owned with ⟨-, new⟩ | ⟨-, old⟩
    · cases new
      exact unheld c' has
    · exact unowned' c'' x old
  · intro set
    by_cases same : v = next
    · exact .inl (taken same)
    · rcases blocks.next_new set with switched | ⟨not_current, unowned'⟩
      · exact .inl switched
      · refine .inr ⟨not_current, fun c' x owned => ?_⟩
        rcases of_update owned with ⟨-, new⟩ | ⟨-, old⟩
        · exact same (Prod.mk.inj (Option.some.inj new)).1
        · exact unowned' c' x old
  · intro c' w waits
    rcases of_update waits with ⟨rfl, new⟩ | ⟨other', old⟩
    · cases new
      exact Function.update_self _ _ _
    · rw [Function.update_of_ne other']
      exact blocks.unstored_pair c' w old
  · intro c' w waits
    rcases of_update waits with ⟨rfl, new⟩ | ⟨other', old⟩
    · cases new
      refine ⟨other, fun c'' x owned => ?_⟩
      rcases of_update owned with ⟨same, -⟩ | ⟨-, old⟩
      · exact same
      · exact absurd old (unowned c'' x)
    · obtain ⟨not_current, alone⟩ := blocks.unstored_new c' w old
      refine ⟨not_current, fun c'' x owned => ?_⟩
      rcases of_update owned with ⟨-, new⟩ | ⟨-, old'⟩
      · cases new
        exact absurd (blocks.unstored_pair c' _ old) (unowned c' 1)
      · exact alone c'' x old'
  · intro c' x owned
    rcases of_update owned with ⟨-, new⟩ | ⟨-, old⟩
    · exact absurd (Prod.mk.inj (Option.some.inj new)).1 other
    · exact blocks.bounded c' x old

/-- A value that is new to the sequence is new to all calls. -/
theorem fresh
    (blocks : TicketIdBlocks config current counter next values pair held unstored switching
      window)
    (positive : 0 < v) (new : v ∉ values) :
    v ≠ current ∧ v ≠ next ∧ (∀ c' x, pair c' ≠ some (v, x)) ∧ ∀ c', held c' ≠ some v := by
  refine ⟨?_, ?_, fun c' x owned => new (blocks.pair_mem c' v x owned).1,
    fun c' has => new (blocks.held_mem c' v has)⟩
  · rintro rfl
    exact new (blocks.current_mem positive.ne')
  · rintro rfl
    exact new (blocks.next_mem positive.ne')

/-- A call is given a value that is new to all calls, to be stored as next prefix. -/
theorem holds
    (blocks : TicketIdBlocks config current counter next values pair held unstored switching
      window)
    (mem : v ∈ values) (new : v ≠ current ∧ v ≠ next ∧ ∀ c' x, pair c' ≠ some (v, x))
    (unheld : ∀ c', held c' ≠ some v) :
    TicketIdBlocks config current counter next values pair (Function.update held c (some v))
      unstored switching window := by
  refine { blocks with held_mem := ?_, held_alone := ?_, held_new := ?_ }
  · intro c' w has
    rcases of_update has with ⟨-, same⟩ | ⟨-, old⟩
    · cases same
      exact mem
    · exact blocks.held_mem c' w old
  · intro c₁ c₂ w has₁ has₂
    rcases of_update has₁ with ⟨rfl, same₁⟩ | ⟨-, old₁⟩ <;>
      rcases of_update has₂ with ⟨rfl, same₂⟩ | ⟨-, old₂⟩
    · rfl
    · cases same₁
      exact absurd old₂ (unheld c₂)
    · cases same₂
      exact absurd old₁ (unheld c₁)
    · exact blocks.held_alone c₁ c₂ w old₁ old₂
  · intro c' w has
    rcases of_update has with ⟨-, same⟩ | ⟨-, old⟩
    · cases same
      exact new
    · exact blocks.held_new c' w old

/-- The value that a call holds is stored as next prefix. -/
theorem fetched
    (blocks : TicketIdBlocks config current counter next values pair held unstored switching
      window)
    (has : held c = some v) :
    TicketIdBlocks config current counter v values pair (Function.update held c none) unstored
      switching window := by
  obtain ⟨not_current, -, unowned⟩ := blocks.held_new c v has
  refine { blocks with next_mem := fun _ => blocks.held_mem c v has, held_mem := ?_,
                       held_alone := ?_, held_new := ?_,
                       next_new := fun _ => .inr ⟨not_current, unowned⟩ }
  · intro c' w has'
    rcases of_update has' with ⟨-, no⟩ | ⟨-, old⟩
    · cases no
    · exact blocks.held_mem c' w old
  · intro c₁ c₂ w has₁ has₂
    rcases of_update has₁ with ⟨-, no⟩ | ⟨-, old₁⟩
    · cases no
    rcases of_update has₂ with ⟨-, no⟩ | ⟨-, old₂⟩
    · cases no
    exact blocks.held_alone c₁ c₂ w old₁ old₂
  · intro c' w has'
    rcases of_update has' with ⟨-, no⟩ | ⟨other, old⟩
    · cases no
    obtain ⟨not_current', -, unowned'⟩ := blocks.held_new c' w old
    refine ⟨not_current', ?_, unowned'⟩
    rintro rfl
    exact other (blocks.held_alone c' c w old has)

/-- A call stores its prefix. -/
theorem stores
    (blocks : TicketIdBlocks config current counter next values pair held unstored switching
      window)
    (waits : unstored c = some v) :
    TicketIdBlocks config v counter next values pair held (Function.update unstored c none)
      switching (Function.update window c True) := by
  have own := blocks.unstored_pair c v waits
  obtain ⟨-, alone⟩ := blocks.unstored_new c v waits
  refine { blocks with current_mem := fun _ => (blocks.pair_mem c v 1 own).1, held_new := ?_,
                       next_new := ?_, unstored_pair := ?_, unstored_new := ?_, bounded := ?_ }
  · intro c' w has
    obtain ⟨-, not_next, unowned⟩ := blocks.held_new c' w has
    refine ⟨?_, not_next, unowned⟩
    rintro rfl
    exact unowned c 1 own
  · intro set
    rcases blocks.next_new set with taken | ⟨-, unowned⟩
    · exact .inl taken
    · refine .inr ⟨?_, unowned⟩
      rintro rfl
      exact unowned c 1 own
  · intro c' w waits'
    rcases of_update waits' with ⟨-, no⟩ | ⟨-, old⟩
    · cases no
    · exact blocks.unstored_pair c' w old
  · intro c' w waits'
    rcases of_update waits' with ⟨-, no⟩ | ⟨other, old⟩
    · cases no
    refine ⟨?_, (blocks.unstored_new c' w old).2⟩
    rintro rfl
    exact other (alone c' 1 (blocks.unstored_pair c' w old))
  · intro c' x owned
    -- the only suffix of the prefix is the first one
    obtain rfl := alone c' x owned
    rw [own] at owned
    cases owned
    exact .inl ⟨⟨c', by rw [Function.update_self]; trivial⟩, le_rfl⟩

/-- A call that has switched resets the next prefix. -/
theorem resets
    (blocks : TicketIdBlocks config current counter next values pair held unstored switching
      window) :
    TicketIdBlocks config current counter 0 values pair held unstored
      (Function.update switching c none) window := by
  refine { blocks with next_mem := fun set => absurd rfl set, held_new := ?_,
                       next_new := fun set => absurd rfl set }
  intro c' w has
  obtain ⟨not_current, -, unowned⟩ := blocks.held_new c' w has
  exact ⟨not_current, (blocks.values_fit w (blocks.held_mem c' w has)).1.ne', unowned⟩

/-- A call stores the counter of its prefix. -/
theorem closes
    (blocks : TicketIdBlocks config current counter next values pair held unstored switching
      window)
    (inside : window c) :
    TicketIdBlocks config current 1 next values pair held unstored switching
      (Function.update window c False) := by
  refine { blocks with counter_nonneg := by omega, bounded := fun c' x owned => ?_ }
  have first : x ≤ 1 := by
    rcases blocks.bounded c' x owned with ⟨-, le⟩ | ⟨closed, -⟩
    · exact le
    · exact absurd inside (closed c)
  by_cases more : ∃ c', Function.update window c False c'
  · exact .inl ⟨more, first⟩
  · exact .inr ⟨not_exists.mp more, first⟩

/-- A call draws a suffix of the prefix in use, while no call is between its two stores. -/
theorem draws
    (blocks : TicketIdBlocks config current counter next values pair held unstored switching
      window)
    (set : current ≠ 0) (closed : ∀ c', ¬ window c') (last : counter + 1 ≤ config.suffixMax)
    (done : unstored c = none) :
    TicketIdBlocks config current (counter + 1) next values
      (Function.update pair c (some (current, counter + 1))) held unstored switching window := by
  have nonneg := blocks.counter_nonneg
  -- the suffixes drawn before are not above the counter
  have drawn : ∀ c' x, pair c' = some (current, x) → x ≤ counter := by
    intro c' x owned
    rcases blocks.bounded c' x owned with ⟨⟨c'', inside⟩, -⟩ | ⟨-, le⟩
    · exact absurd inside (closed c'')
    · exact le
  refine { blocks with counter_nonneg := by omega, pair_mem := ?_, unique := ?_, held_new := ?_,
                       next_new := ?_, unstored_pair := ?_, unstored_new := ?_, bounded := ?_ }
  · intro c' p x owned
    rcases of_update owned with ⟨-, new⟩ | ⟨-, old⟩
    · cases new
      exact ⟨blocks.current_mem set, by omega, last⟩
    · exact blocks.pair_mem c' p x old
  · intro c₁ c₂ p x owned₁ owned₂
    rcases of_update owned₁ with ⟨rfl, new₁⟩ | ⟨-, old₁⟩ <;>
      rcases of_update owned₂ with ⟨rfl, new₂⟩ | ⟨-, old₂⟩
    · rfl
    · cases new₁
      have := drawn c₂ _ old₂
      omega
    · cases new₂
      have := drawn c₁ _ old₁
      omega
    · exact blocks.unique c₁ c₂ p x old₁ old₂
  · intro c' w has
    obtain ⟨not_current, not_next, unowned⟩ := blocks.held_new c' w has
    refine ⟨not_current, not_next, fun c'' x owned => ?_⟩
    rcases of_update owned with ⟨-, new⟩ | ⟨-, old⟩
    · exact not_current (Prod.mk.inj (Option.some.inj new)).1.symm
    · exact unowned c'' x old
  · intro set'
    rcases blocks.next_new set' with taken | ⟨not_current, unowned⟩
    · exact .inl taken
    · refine .inr ⟨not_current, fun c' x owned => ?_⟩
      rcases of_update owned with ⟨-, new⟩ | ⟨-, old⟩
      · exact not_current (Prod.mk.inj (Option.some.inj new)).1.symm
      · exact unowned c' x old
  · intro c' w waits
    have other : c' ≠ c := by
      rintro rfl
      rw [done] at waits
      cases waits
    rw [Function.update_of_ne other]
    exact blocks.unstored_pair c' w waits
  · intro c' w waits
    obtain ⟨not_current, alone⟩ := blocks.unstored_new c' w waits
    refine ⟨not_current, fun c'' x owned => ?_⟩
    rcases of_update owned with ⟨-, new⟩ | ⟨-, old⟩
    · exact absurd (Prod.mk.inj (Option.some.inj new)).1.symm not_current
    · exact alone c'' x old
  · intro c' x owned
    refine .inr ⟨closed, ?_⟩
    rcases of_update owned with ⟨-, new⟩ | ⟨-, old⟩
    · cases new
      exact le_rfl
    · have := drawn c' x old
      omega

end TicketIdBlocks

end TollBackend

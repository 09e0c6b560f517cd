import TollBackend.TicketId.Owners

/-!
# No ticket id twice

As long as no call draws a suffix between the two stores of another call, or under a prefix that
was replaced, and no two calls take the same next prefix, no ticket id is returned twice.

## Main definitions

* `TicketIdTask.pair`, `TicketIdTask.held`, `TicketIdTask.unstored`: what a call owns.
* `TicketIdCalls.Kept`: the invariant.

## Main results

* `TicketIdCalls.distinct_of_reaches`: the ids of calls that overlap.
-/

namespace TollBackend

open Concurrent

namespace TicketIdTask

/-- The prefix and the suffix of the call. -/
def pair : TicketIdTask → Option (Int × Int)
  | .storePrefix _ seq | .storeCounter _ seq => some (seq, 1)
  | .switchPrefix _ next | .resetNext _ next | .switchCounter _ next
  | .resetRequested _ next => some (next, 1)
  | .requestPrefetch _ prefix' suffix | .prefetch _ prefix' suffix
  | .storeNext _ prefix' suffix _ | .done _ (.block prefix' suffix) => some (prefix', suffix)
  | .idle | .loadPrefix _ | .fetchFirst _ | .drawSuffix _ _ | .waitForNext _ _ | .fetchNext _
  | .generate _ | .regenerate _ | .readClock | .done _ (.generated _) | .done _ .clock => none

/-- The value that the call will store as next prefix. -/
def held : TicketIdTask → Option Int
  | .storeNext _ _ _ seq => some seq
  | .idle | .loadPrefix _ | .fetchFirst _ | .storePrefix _ _ | .storeCounter _ _
  | .drawSuffix _ _ | .waitForNext _ _ | .fetchNext _ | .switchPrefix _ _ | .resetNext _ _
  | .switchCounter _ _ | .resetRequested _ _ | .requestPrefetch _ _ _ | .prefetch _ _ _
  | .generate _ | .regenerate _ | .readClock | .done _ _ => none

/-- The prefix that the call will store. -/
def unstored : TicketIdTask → Option Int
  | .storePrefix _ seq => some seq
  | .switchPrefix _ next => some next
  | .idle | .loadPrefix _ | .fetchFirst _ | .storeCounter _ _ | .drawSuffix _ _
  | .waitForNext _ _ | .fetchNext _ | .resetNext _ _ | .switchCounter _ _ | .resetRequested _ _
  | .requestPrefetch _ _ _ | .prefetch _ _ _ | .storeNext _ _ _ _ | .generate _ | .regenerate _
  | .readClock | .done _ _ => none

/-- What is known of the call beyond what it owns: the prefix that it draws under is set, and its
result is what the source of the result gives. -/
def Sound (config : TicketIdConfig) (generated : List Int) : TicketIdTask → Prop
  | .drawSuffix _ prefix' => prefix' ≠ 0
  | .regenerate _ | .readClock | .done _ .clock => False
  | .done id (.block prefix' suffix) => id = config.ticketId prefix' suffix
  | .done id (.generated value) =>
      id = appendLastDigit1 value ∧ value ∈ generated ∧ ∃ hash, value = generateTicketIdLocal hash
  | .idle | .loadPrefix _ | .fetchFirst _ | .storePrefix _ _ | .storeCounter _ _
  | .waitForNext _ _ | .fetchNext _ | .switchPrefix _ _ | .resetNext _ _ | .switchCounter _ _
  | .resetRequested _ _ | .requestPrefetch _ _ _ | .prefetch _ _ _ | .storeNext _ _ _ _
  | .generate _ => True

/-- More local ids leave it sound. -/
theorem Sound.mono {config : TicketIdConfig} {generated generated' : List Int}
    {task : TicketIdTask} (sound : task.Sound config generated)
    (subset : ∀ value ∈ generated, value ∈ generated') : task.Sound config generated' := by
  cases task with
  | done id source =>
    cases source with
    | block p x => exact sound
    | clock => exact sound
    | generated value =>
      obtain ⟨same, mem, hash, from_hash⟩ := sound
      exact ⟨same, subset value mem, hash, from_hash⟩
  | drawSuffix attempt p => exact sound
  | regenerate left => exact sound
  | readClock => exact sound
  | idle | loadPrefix attempt | fetchFirst attempt | storePrefix attempt seq
  | storeCounter attempt seq | waitForNext attempt left | fetchNext attempt
  | switchPrefix attempt next | resetNext attempt next | switchCounter attempt next
  | resetRequested attempt next | requestPrefetch attempt p x | prefetch attempt p x
  | storeNext attempt p x seq | generate attempt => trivial

/-- The call has a suffix that it will return. -/
structure Owns (config : TicketIdConfig) (generated : List Int) (owned : Int × Int)
    (task : TicketIdTask) : Prop where
  pair : task.pair = some owned
  held : task.held = none
  unstored : task.unstored = none
  switchingTo : task.switchingTo = none
  inWindow : task.InWindow = False
  sound : task.Sound config generated
  local_free : ∀ id value, task ≠ .done id (.generated value)

variable {config : TicketIdConfig} {generated : List Int} {prefix' suffix : Int}

/-- An attempt that has drawn a suffix returns it. -/
theorem owns_finishBlock (positive : 0 < prefix') (fits : config.Fits prefix')
    (first : 1 ≤ suffix) (last : suffix ≤ config.suffixMax) (attempt : Nat) :
    (config.finishBlock attempt prefix' suffix).Owns config generated (prefix', suffix) := by
  have returned := config.appendLastDigit1_blockId fits positive first last
  have nonzero := (config.ticketId_pos positive first).ne'
  have finished : config.finishBlock attempt prefix' suffix =
      .done (config.ticketId prefix' suffix) (.block prefix' suffix) := by
    rw [TicketIdConfig.finishBlock, finish, returned, if_pos nonzero]
  rw [finished]
  exact ⟨rfl, rfl, rfl, rfl, rfl, rfl, fun _ _ same => by cases same⟩

theorem owns_maybeTriggerPrefetch (positive : 0 < prefix') (fits : config.Fits prefix')
    (first : 1 ≤ suffix) (last : suffix ≤ config.suffixMax) (attempt : Nat) :
    (config.maybeTriggerPrefetch attempt prefix' suffix).Owns config generated
      (prefix', suffix) := by
  rw [TicketIdConfig.maybeTriggerPrefetch]
  split
  · exact owns_finishBlock positive fits first last attempt
  · exact ⟨rfl, rfl, rfl, rfl, rfl, trivial, fun _ _ same => by cases same⟩

/-- An attempt that has made a local id returns it. -/
theorem finish_local (attempt : Nat) (hash : UInt64) (source : TicketIdSource) :
    finish attempt (generateTicketIdLocal hash) source =
      .done (appendLastDigit1 (generateTicketIdLocal hash)) source := by
  have nonzero : appendLastDigit1 (generateTicketIdLocal hash) ≠ 0 := by
    rcases appendLastDigit1_local hash with value | negative <;> omega
  rw [finish, if_pos nonzero]

end TicketIdTask

namespace TicketIdCalls

variable (config : TicketIdConfig) (s : TicketIdCalls)

/-- What the calls own. -/
def Blocks : Prop :=
  TicketIdBlocks config s.currentPrefix s.counter s.nextPrefix s.values
    (TicketIdTask.pair ∘ s.tasks) (TicketIdTask.held ∘ s.tasks)
    (TicketIdTask.unstored ∘ s.tasks) (TicketIdTask.switchingTo ∘ s.tasks)
    (TicketIdTask.InWindow ∘ s.tasks)

/-- The invariant. -/
structure Kept : Prop where
  blocks : s.Blocks config
  idle : ∀ c, s.started ≤ c → s.tasks c = .idle
  sound : ∀ c, (s.tasks c).Sound config s.generated
  local_alone : ∀ c c' id id' value, s.tasks c = .done id (.generated value) →
    s.tasks c' = .done id' (.generated value) → c = c'

variable {config s}

/-- With the invariant no ticket id is returned twice. -/
theorem Kept.distinct (kept : s.Kept config) : s.Distinct := by
  -- a result with its source is the one that the source gives
  have block : ∀ c id p x, s.tasks c = .done id (.block p x) →
      id = config.ticketId p x ∧ 0 < p ∧ 1 ≤ x ∧ x ≤ config.suffixMax := by
    intro c id p x returned
    have sound := kept.sound c
    have owned : (TicketIdTask.pair ∘ s.tasks) c = some (p, x) := by
      rw [Function.comp_apply, returned]
      rfl
    obtain ⟨mem, first, last⟩ := kept.blocks.pair_mem c p x owned
    rw [returned] at sound
    exact ⟨sound, (kept.blocks.values_fit p mem).1, first, last⟩
  have made : ∀ c id value, s.tasks c = .done id (.generated value) →
      id = appendLastDigit1 value ∧ ∃ hash, value = generateTicketIdLocal hash := by
    intro c id value returned
    have sound := kept.sound c
    rw [returned] at sound
    exact ⟨sound.1, sound.2.2⟩
  have clockless : ∀ c id, s.tasks c ≠ .done id .clock := by
    intro c id returned
    have sound := kept.sound c
    rw [returned] at sound
    exact sound
  rintro c c' id ⟨source, returned⟩ ⟨source', returned'⟩
  cases source with
  | clock => exact absurd returned (clockless c id)
  | block p x =>
    obtain ⟨value, positive, first, last⟩ := block c id p x returned
    cases source' with
    | clock => exact absurd returned' (clockless c' id)
    | block p' x' =>
      obtain ⟨value', -, first', last'⟩ := block c' id p' x' returned'
      obtain ⟨rfl, rfl⟩ :=
        config.eq_of_ticketId_eq first last first' last' (value.symm.trans value')
      refine kept.blocks.unique c c' p x ?_ ?_
      · rw [Function.comp_apply, returned]
        rfl
      · rw [Function.comp_apply, returned']
        rfl
    | generated g =>
      obtain ⟨value', hash, from_hash⟩ := made c' id g returned'
      rw [from_hash] at value'
      exact absurd (value'.symm.trans value)
        (config.appendLastDigit1_local_ne hash positive first)
  | generated g =>
    obtain ⟨value, hash, from_hash⟩ := made c id g returned
    rw [from_hash] at value
    cases source' with
    | clock => exact absurd returned' (clockless c' id)
    | block p x =>
      obtain ⟨value', positive, first, -⟩ := block c' id p x returned'
      exact absurd (value.symm.trans value')
        (config.appendLastDigit1_local_ne hash positive first)
    | generated g' =>
      obtain ⟨value', hash', from_hash'⟩ := made c' id g' returned'
      rw [from_hash'] at value'
      have same := eq_of_appendLastDigit1_local (value.symm.trans value')
      rw [from_hash', ← same, ← from_hash] at returned'
      exact kept.local_alone c c' id id g returned returned'

/-! ### The steps -/

variable {s' : TicketIdCalls} {c : Nat} {task : TicketIdTask}

/-- A step that does not change what its call owns. -/
theorem comp_update_same {A : Type} {tasks : Nat → TicketIdTask} (f : TicketIdTask → A)
    (same : f task = f (tasks c)) : Function.update (f ∘ tasks) c (f task) = f ∘ tasks := by
  rw [same]
  exact Function.update_eq_self c (f ∘ tasks)

/-- What the calls own after a step of one of them. -/
theorem blocks_update {current counter next : Int} {values : List Int}
    {tasks : Nat → TicketIdTask}
    (blocks : TicketIdBlocks config current counter next values
      (Function.update (TicketIdTask.pair ∘ tasks) c task.pair)
      (Function.update (TicketIdTask.held ∘ tasks) c task.held)
      (Function.update (TicketIdTask.unstored ∘ tasks) c task.unstored)
      (Function.update (TicketIdTask.switchingTo ∘ tasks) c task.switchingTo)
      (Function.update (TicketIdTask.InWindow ∘ tasks) c task.InWindow)) :
    TicketIdBlocks config current counter next values
      (TicketIdTask.pair ∘ Function.update tasks c task)
      (TicketIdTask.held ∘ Function.update tasks c task)
      (TicketIdTask.unstored ∘ Function.update tasks c task)
      (TicketIdTask.switchingTo ∘ Function.update tasks c task)
      (TicketIdTask.InWindow ∘ Function.update tasks c task) := by
  simpa only [Function.comp_update] using blocks

/-- A step of a running call that leaves the local ids alone. -/
theorem Kept.next (kept : s.Kept config) (running : s.tasks c ≠ .idle)
    (tasks : s'.tasks = Function.update s.tasks c task) (started : s'.started = s.started)
    (generated : s'.generated = s.generated) (blocks : s'.Blocks config)
    (sound : task.Sound config s.generated)
    (not_local : ∀ id value, task ≠ .done id (.generated value)) : s'.Kept config := by
  refine ⟨blocks, fun c' later => ?_, fun c' => ?_, fun c₁ c₂ id id' value done₁ done₂ => ?_⟩
  · have other : c' ≠ c := by
      rintro rfl
      exact running (kept.idle c' (started ▸ later))
    rw [tasks, Function.update_of_ne other]
    exact kept.idle c' (started ▸ later)
  · rw [tasks, generated, Function.update_apply]
    split
    · exact sound
    · exact kept.sound c'
  · rw [tasks, Function.update_apply] at done₁ done₂
    split at done₁
    · exact absurd done₁ (not_local id value)
    · split at done₂
      · exact absurd done₂ (not_local id' value)
      · exact kept.local_alone c₁ c₂ id id' value done₁ done₂

/-- A step that changes neither the atomics nor what the call owns. -/
theorem Blocks.goTo (blocks : s.Blocks config) (pair : task.pair = (s.tasks c).pair)
    (held : task.held = (s.tasks c).held) (unstored : task.unstored = (s.tasks c).unstored)
    (switching : task.switchingTo = (s.tasks c).switchingTo)
    (window : task.InWindow = (s.tasks c).InWindow) : (s.goTo c task).Blocks config := by
  refine blocks_update ?_
  rw [comp_update_same TicketIdTask.pair pair, comp_update_same TicketIdTask.held held,
    comp_update_same TicketIdTask.unstored unstored,
    comp_update_same TicketIdTask.switchingTo switching,
    comp_update_same TicketIdTask.InWindow window]
  exact blocks

/-- A call starts. -/
theorem Kept.start (kept : s.Kept config) (idle : s.tasks c = .idle) (first : c = s.started) :
    ({ s with started := s.started + 1 }.goTo c (.loadPrefix 0)).Kept config := by
  have blocks : (s.goTo c (.loadPrefix 0)).Blocks config :=
    kept.blocks.goTo (by rw [idle]; rfl) (by rw [idle]; rfl) (by rw [idle]; rfl)
      (by rw [idle]; rfl) (by rw [idle]; rfl)
  refine ⟨blocks, fun c' later => ?_, fun c' => ?_, fun c₁ c₂ id id' value done₁ done₂ => ?_⟩
  · have other : c' ≠ c := by
      rw [first]
      exact (Nat.lt_of_succ_le later).ne'
    exact (Function.update_of_ne other _ _).trans (kept.idle c' (Nat.le_of_succ_le later))
  · change (Function.update s.tasks c (.loadPrefix 0) c').Sound config s.generated
    rw [Function.update_apply]
    split
    · trivial
    · exact kept.sound c'
  · change Function.update s.tasks c _ c₁ = _ at done₁
    change Function.update s.tasks c _ c₂ = _ at done₂
    rw [Function.update_apply] at done₁ done₂
    split at done₁
    · cases done₁
    · split at done₂
      · cases done₂
      · exact kept.local_alone c₁ c₂ id id' value done₁ done₂

/-- A step to a place in which the call owns what it owned, and that is not its end. -/
theorem Kept.move {old : TicketIdTask} (kept : s.Kept config) (found : s.tasks c = old)
    (running : old ≠ .idle) (pair : task.pair = old.pair) (held : task.held = old.held)
    (unstored : task.unstored = old.unstored) (switching : task.switchingTo = old.switchingTo)
    (window : task.InWindow = old.InWindow) (sound : task.Sound config s.generated)
    (not_local : ∀ id value, task ≠ .done id (.generated value)) :
    (s.goTo c task).Kept config := by
  subst found
  exact kept.next running rfl rfl rfl (kept.blocks.goTo pair held unstored switching window) sound
    not_local

theorem Kept.request (kept : s.Kept config) (requested : Bool) :
    { s with prefetchRequested := requested }.Kept config :=
  ⟨kept.blocks, kept.idle, kept.sound, kept.local_alone⟩

/-- The sequence has given the first prefix. -/
theorem Kept.fetchFirst {attempt : Nat} {v : Int} (kept : s.Kept config)
    (found : s.tasks c = .fetchFirst attempt) (positive : 0 < v) (new : v ∉ s.values)
    (fits : config.Fits v) :
    ({ s with values := v :: s.values }.goTo c (.storePrefix attempt v)).Kept config := by
  obtain ⟨not_current, not_next, unowned, unheld⟩ := kept.blocks.fresh positive new
  refine kept.next (by rw [found]; intro same; cases same) rfl rfl rfl (blocks_update ?_) trivial
    fun _ _ same => by cases same
  rw [comp_update_same TicketIdTask.held (by rw [found]; rfl),
    comp_update_same TicketIdTask.switchingTo (by rw [found]; rfl),
    comp_update_same TicketIdTask.InWindow (by rw [found]; rfl)]
  exact (kept.blocks.given positive fits).starts List.mem_cons_self unowned not_current unheld
    fun same => absurd same not_next

/-- The sequence has given the next prefix. -/
theorem Kept.fetchNext {attempt : Nat} {v : Int} (kept : s.Kept config)
    (found : s.tasks c = .fetchNext attempt) (positive : 0 < v) (new : v ∉ s.values)
    (fits : config.Fits v) :
    ({ s with values := v :: s.values }.goTo c (.switchPrefix attempt v)).Kept config := by
  obtain ⟨not_current, not_next, unowned, unheld⟩ := kept.blocks.fresh positive new
  have free : (TicketIdTask.switchingTo ∘ s.tasks) c = none := by
    rw [Function.comp_apply, found]
    rfl
  refine kept.next (by rw [found]; intro same; cases same) rfl rfl rfl (blocks_update ?_) trivial
    fun _ _ same => by cases same
  rw [comp_update_same TicketIdTask.held (by rw [found]; rfl),
    comp_update_same TicketIdTask.InWindow (by rw [found]; rfl)]
  exact ((kept.blocks.given positive fits).switches free).starts List.mem_cons_self unowned
    not_current unheld fun same => absurd same not_next

/-- The sequence has given a prefix ahead of time. -/
theorem Kept.prefetch {attempt : Nat} {p x v : Int} (kept : s.Kept config)
    (found : s.tasks c = .prefetch attempt p x) (positive : 0 < v) (new : v ∉ s.values)
    (fits : config.Fits v) :
    ({ s with values := v :: s.values }.goTo c (.storeNext attempt p x v)).Kept config := by
  obtain ⟨not_current, not_next, unowned, unheld⟩ := kept.blocks.fresh positive new
  refine kept.next (by rw [found]; intro same; cases same) rfl rfl rfl (blocks_update ?_) trivial
    fun _ _ same => by cases same
  rw [comp_update_same TicketIdTask.pair (by rw [found]; rfl),
    comp_update_same TicketIdTask.unstored (by rw [found]; rfl),
    comp_update_same TicketIdTask.switchingTo (by rw [found]; rfl),
    comp_update_same TicketIdTask.InWindow (by rw [found]; rfl)]
  exact (kept.blocks.given positive fits).holds List.mem_cons_self
    ⟨not_current, not_next, unowned⟩ unheld

/-- The next prefix is taken. -/
theorem Kept.takeNext {attempt left : Nat} (kept : s.Kept config)
    (found : s.tasks c = .waitForNext attempt left) (set : s.nextPrefix ≠ 0)
    (alone : ∀ c', (s.tasks c').switchingTo ≠ some s.nextPrefix) :
    (s.goTo c (.switchPrefix attempt s.nextPrefix)).Kept config := by
  have free : (TicketIdTask.switchingTo ∘ s.tasks) c = none := by
    rw [Function.comp_apply, found]
    rfl
  -- nobody takes it, so it is new to all calls
  have new : s.nextPrefix ≠ s.currentPrefix ∧
      ∀ c' x, (TicketIdTask.pair ∘ s.tasks) c' ≠ some (s.nextPrefix, x) := by
    rcases kept.blocks.next_new set with ⟨other, taken⟩ | new
    · exact absurd taken (alone other)
    · exact new
  have unheld : ∀ c', (TicketIdTask.held ∘ s.tasks) c' ≠ some s.nextPrefix :=
    fun c' has => (kept.blocks.held_new c' _ has).2.1 rfl
  refine kept.next (by rw [found]; intro same; cases same) rfl rfl rfl (blocks_update ?_) trivial
    fun _ _ same => by cases same
  rw [comp_update_same TicketIdTask.held (by rw [found]; rfl),
    comp_update_same TicketIdTask.InWindow (by rw [found]; rfl)]
  exact (kept.blocks.switches free).starts (kept.blocks.next_mem set) new.2 new.1 unheld
    fun _ => ⟨c, Function.update_self _ _ _⟩

/-- A call stores the prefix that it was given first. -/
theorem Kept.storePrefix {attempt : Nat} {v : Int} (kept : s.Kept config)
    (found : s.tasks c = .storePrefix attempt v) :
    ({ s with currentPrefix := v }.goTo c (.storeCounter attempt v)).Kept config := by
  have waits : (TicketIdTask.unstored ∘ s.tasks) c = some v := by
    rw [Function.comp_apply, found]
    rfl
  refine kept.next (by rw [found]; intro same; cases same) rfl rfl rfl (blocks_update ?_) trivial
    fun _ _ same => by cases same
  rw [comp_update_same TicketIdTask.pair (by rw [found]; rfl),
    comp_update_same TicketIdTask.held (by rw [found]; rfl),
    comp_update_same TicketIdTask.switchingTo (by rw [found]; rfl)]
  exact kept.blocks.stores waits

/-- A call stores the prefix that it switches to. -/
theorem Kept.switchPrefix {attempt : Nat} {v : Int} (kept : s.Kept config)
    (found : s.tasks c = .switchPrefix attempt v) :
    ({ s with currentPrefix := v }.goTo c (.resetNext attempt v)).Kept config := by
  have waits : (TicketIdTask.unstored ∘ s.tasks) c = some v := by
    rw [Function.comp_apply, found]
    rfl
  refine kept.next (by rw [found]; intro same; cases same) rfl rfl rfl (blocks_update ?_) trivial
    fun _ _ same => by cases same
  rw [comp_update_same TicketIdTask.pair (by rw [found]; rfl),
    comp_update_same TicketIdTask.held (by rw [found]; rfl),
    comp_update_same TicketIdTask.switchingTo (by rw [found]; rfl)]
  exact kept.blocks.stores waits

/-- A call resets the next prefix. -/
theorem Kept.resetNext {attempt : Nat} {v : Int} (kept : s.Kept config)
    (found : s.tasks c = .resetNext attempt v) :
    ({ s with nextPrefix := 0 }.goTo c (.switchCounter attempt v)).Kept config := by
  refine kept.next (by rw [found]; intro same; cases same) rfl rfl rfl (blocks_update ?_) trivial
    fun _ _ same => by cases same
  rw [comp_update_same TicketIdTask.pair (by rw [found]; rfl),
    comp_update_same TicketIdTask.held (by rw [found]; rfl),
    comp_update_same TicketIdTask.unstored (by rw [found]; rfl),
    comp_update_same TicketIdTask.InWindow (by rw [found]; rfl)]
  exact kept.blocks.resets

/-- The call owns the suffix of a prefix that fits. -/
theorem Kept.owned (kept : s.Kept config) {p x : Int} (pair : (s.tasks c).pair = some (p, x)) :
    0 < p ∧ config.Fits p ∧ 1 ≤ x ∧ x ≤ config.suffixMax := by
  obtain ⟨mem, first, last⟩ := kept.blocks.pair_mem c p x pair
  obtain ⟨positive, fits⟩ := kept.blocks.values_fit p mem
  exact ⟨positive, fits, first, last⟩

/-- A call stores the counter of its first prefix. -/
theorem Kept.storeCounter {attempt : Nat} {v : Int} (kept : s.Kept config)
    (found : s.tasks c = .storeCounter attempt v) :
    ({ s with counter := 1 }.goTo c (config.maybeTriggerPrefetch attempt v 1)).Kept config := by
  have inside : (TicketIdTask.InWindow ∘ s.tasks) c := by
    rw [Function.comp_apply, found]
    trivial
  obtain ⟨positive, fits, first, last⟩ := kept.owned (c := c) (p := v) (x := 1) (by rw [found]; rfl)
  have owns : (config.maybeTriggerPrefetch attempt v 1).Owns config s.generated (v, 1) :=
    TicketIdTask.owns_maybeTriggerPrefetch positive fits first last attempt
  refine kept.next (by rw [found]; intro same; cases same) rfl rfl rfl (blocks_update ?_)
    owns.sound owns.local_free
  rw [comp_update_same TicketIdTask.pair (by rw [found, owns.pair]; rfl),
    comp_update_same TicketIdTask.held (by rw [found, owns.held]; rfl),
    comp_update_same TicketIdTask.unstored (by rw [found, owns.unstored]; rfl),
    comp_update_same TicketIdTask.switchingTo (by rw [found, owns.switchingTo]; rfl),
    owns.inWindow]
  exact kept.blocks.closes inside

/-- A call stores the counter of the prefix that it has switched to. -/
theorem Kept.switchCounter {attempt : Nat} {v : Int} (kept : s.Kept config)
    (found : s.tasks c = .switchCounter attempt v) :
    ({ s with counter := 1 }.goTo c (.resetRequested attempt v)).Kept config := by
  have inside : (TicketIdTask.InWindow ∘ s.tasks) c := by
    rw [Function.comp_apply, found]
    trivial
  refine kept.next (by rw [found]; intro same; cases same) rfl rfl rfl (blocks_update ?_) trivial
    fun _ _ same => by cases same
  rw [comp_update_same TicketIdTask.pair (by rw [found]; rfl),
    comp_update_same TicketIdTask.held (by rw [found]; rfl),
    comp_update_same TicketIdTask.unstored (by rw [found]; rfl),
    comp_update_same TicketIdTask.switchingTo (by rw [found]; rfl)]
  exact kept.blocks.closes inside

/-- A call draws a suffix. -/
theorem Kept.draw {attempt : Nat} {p : Int} (kept : s.Kept config)
    (found : s.tasks c = .drawSuffix attempt p) (current : p = s.currentPrefix)
    (closed : ∀ c', ¬ (s.tasks c').InWindow) (last : s.counter + 1 ≤ config.suffixMax) :
    ({ s with counter := s.counter + 1 }.goTo c
      (config.maybeTriggerPrefetch attempt p (s.counter + 1))).Kept config := by
  have set : p ≠ 0 := by
    have sound := kept.sound c
    rwa [found] at sound
  have nonneg := kept.blocks.counter_nonneg
  obtain ⟨positive, fits⟩ := kept.blocks.values_fit p
    (current ▸ kept.blocks.current_mem (current ▸ set))
  have owns : (config.maybeTriggerPrefetch attempt p (s.counter + 1)).Owns config s.generated
      (p, s.counter + 1) :=
    TicketIdTask.owns_maybeTriggerPrefetch positive fits (by omega) last attempt
  have stored : (TicketIdTask.unstored ∘ s.tasks) c = none := by
    rw [Function.comp_apply, found]
    rfl
  refine kept.next (by rw [found]; intro same; cases same) rfl rfl rfl (blocks_update ?_)
    owns.sound owns.local_free
  rw [comp_update_same TicketIdTask.held (by rw [found, owns.held]; rfl),
    comp_update_same TicketIdTask.unstored (by rw [found, owns.unstored]; rfl),
    comp_update_same TicketIdTask.switchingTo (by rw [found, owns.switchingTo]; rfl),
    comp_update_same TicketIdTask.InWindow (by rw [found, owns.inWindow]; rfl), owns.pair, current]
  exact kept.blocks.draws (current ▸ set) closed last stored

/-- The counter is beyond the suffixes. -/
theorem Kept.rollOver {attempt left : Nat} {p : Int} (kept : s.Kept config)
    (found : s.tasks c = .drawSuffix attempt p) :
    ({ s with counter := s.counter + 1 }.goTo c (.waitForNext attempt left)).Kept config := by
  refine kept.next (by rw [found]; intro same; cases same) rfl rfl rfl (blocks_update ?_) trivial
    fun _ _ same => by cases same
  rw [comp_update_same TicketIdTask.pair (by rw [found]; rfl),
    comp_update_same TicketIdTask.held (by rw [found]; rfl),
    comp_update_same TicketIdTask.unstored (by rw [found]; rfl),
    comp_update_same TicketIdTask.switchingTo (by rw [found]; rfl),
    comp_update_same TicketIdTask.InWindow (by rw [found]; rfl)]
  exact kept.blocks.counted

/-- The prefix fetched ahead of time is stored, and the call returns. -/
theorem Kept.storeNext {attempt : Nat} {p x v : Int} (kept : s.Kept config)
    (found : s.tasks c = .storeNext attempt p x v) :
    ({ s with nextPrefix := v }.goTo c (config.finishBlock attempt p x)).Kept config := by
  obtain ⟨positive, fits, first, last⟩ := kept.owned (c := c) (p := p) (x := x) (by rw [found]; rfl)
  have owns : (config.finishBlock attempt p x).Owns config s.generated (p, x) :=
    TicketIdTask.owns_finishBlock positive fits first last attempt
  have has : (TicketIdTask.held ∘ s.tasks) c = some v := by
    rw [Function.comp_apply, found]
    rfl
  refine kept.next (by rw [found]; intro same; cases same) rfl rfl rfl (blocks_update ?_)
    owns.sound owns.local_free
  rw [comp_update_same TicketIdTask.pair (by rw [found, owns.pair]; rfl),
    comp_update_same TicketIdTask.unstored (by rw [found, owns.unstored]; rfl),
    comp_update_same TicketIdTask.switchingTo (by rw [found, owns.switchingTo]; rfl),
    comp_update_same TicketIdTask.InWindow (by rw [found, owns.inWindow]; rfl), owns.held]
  exact kept.blocks.fetched has

/-- A call that owns a suffix goes on to return it. -/
theorem Kept.finish {p x : Int} (kept : s.Kept config) (pair : (s.tasks c).pair = some (p, x))
    (held : (s.tasks c).held = none) (unstored : (s.tasks c).unstored = none)
    (switching : (s.tasks c).switchingTo = none) (window : (s.tasks c).InWindow = False)
    (owns : task.Owns config s.generated (p, x)) : (s.goTo c task).Kept config := by
  have running : s.tasks c ≠ .idle := by
    intro idle
    rw [idle] at pair
    cases pair
  exact kept.move rfl running (owns.pair.trans pair.symm) (owns.held.trans held.symm)
    (owns.unstored.trans unstored.symm) (owns.switchingTo.trans switching.symm)
    (owns.inWindow.trans window.symm) owns.sound owns.local_free

/-- A call returns a local id that was not made before. -/
theorem Kept.generate {attempt : Nat} {hash : UInt64} (kept : s.Kept config)
    (found : s.tasks c = .generate attempt) (new : generateTicketIdLocal hash ∉ s.generated) :
    ({ s with generated := generateTicketIdLocal hash :: s.generated }.goTo c
      (.done (appendLastDigit1 (generateTicketIdLocal hash))
        (.generated (generateTicketIdLocal hash)))).Kept config := by
  have blocks : (s.goTo c (.done (appendLastDigit1 (generateTicketIdLocal hash))
      (.generated (generateTicketIdLocal hash)))).Blocks config :=
    kept.blocks.goTo (by rw [found]; rfl) (by rw [found]; rfl) (by rw [found]; rfl)
      (by rw [found]; rfl) (by rw [found]; rfl)
  -- no other call has returned the new id
  have unused : ∀ c' id, s.tasks c' ≠ .done id (.generated (generateTicketIdLocal hash)) := by
    intro c' id returned
    have sound := kept.sound c'
    rw [returned] at sound
    exact new sound.2.1
  refine ⟨blocks, fun c' later => ?_, fun c' => ?_, fun c₁ c₂ id id' value done₁ done₂ => ?_⟩
  · have other : c' ≠ c := by
      rintro rfl
      have idle := kept.idle c' later
      rw [found] at idle
      cases idle
    exact (Function.update_of_ne other _ _).trans (kept.idle c' later)
  · change (Function.update s.tasks c _ c').Sound config _
    rw [Function.update_apply]
    split
    · exact ⟨rfl, List.mem_cons_self, hash, rfl⟩
    · exact (kept.sound c').mono fun value mem => List.mem_cons_of_mem _ mem
  · change Function.update s.tasks c _ c₁ = _ at done₁
    change Function.update s.tasks c _ c₂ = _ at done₂
    rw [Function.update_apply] at done₁ done₂
    split at done₁ <;> split at done₂
    · next same₁ same₂ => exact same₁.trans same₂.symm
    · have value_eq := (TicketIdSource.generated.inj (TicketIdTask.done.inj done₁).2).symm
      rw [value_eq] at done₂
      exact absurd done₂ (unused c₂ id')
    · have value_eq := (TicketIdSource.generated.inj (TicketIdTask.done.inj done₂).2).symm
      rw [value_eq] at done₁
      exact absurd done₁ (unused c₁ id)
    · exact kept.local_alone c₁ c₂ id id' value done₁ done₂

/-- A call of the sequence gives a value other than zero, or counts as failed. -/
theorem callSequence_cases (s : TicketIdCalls) (step : TicketIdStep)
    (onValue : Int → TicketIdTask) (onFailure : TicketIdTask) :
    (∃ v, step.sequence = some v ∧ s.callSequence step onValue onFailure =
      { s with values := v :: s.values }.goTo step.call (onValue v)) ∨
      s.callSequence step onValue onFailure = s.goTo step.call onFailure := by
  rw [callSequence]
  split
  · next v given =>
    split
    · exact .inl ⟨v, given, rfl⟩
    · exact .inr rfl
  · exact .inr rfl

/-- Every step keeps the invariant. -/
theorem Kept.exec {step : TicketIdStep} (kept : s.Kept config)
    (answers : step.Answers config s) (apart : step.Apart config s)
    (moves : s.exec config step = some s') : s'.Kept config := by
  have sound := kept.sound step.call
  have owned := fun p x => kept.owned (c := step.call) (p := p) (x := x)
  -- a call that has not started is in no window
  have everywhere {P : TicketIdTask → Prop} (idle : P .idle)
      (all : ∀ c < s.started, P (s.tasks c)) (c : Nat) : P (s.tasks c) := by
    rcases Nat.lt_or_ge c s.started with before | later
    · exact all c before
    · rw [kept.idle c later]
      exact idle
  cases found : s.tasks step.call with
  | idle =>
    simp only [TicketIdCalls.exec, found] at moves
    split at moves
    · next first =>
      cases moves
      exact kept.start found first
    · cases moves
  | loadPrefix attempt =>
    simp only [TicketIdCalls.exec, found] at moves
    cases moves
    split
    · exact kept.move found (fun same => by cases same) rfl rfl rfl rfl rfl trivial
        fun _ _ same => by cases same
    · next set =>
      exact kept.move found (fun same => by cases same) rfl rfl rfl rfl rfl set
        fun _ _ same => by cases same
  | fetchFirst attempt =>
    simp only [TicketIdCalls.exec, found] at moves
    cases moves
    rcases s.callSequence_cases step (.storePrefix attempt) (.generate attempt) with
      ⟨v, given, same⟩ | same <;> rw [same]
    · obtain ⟨positive, new, fits⟩ := answers.sequence (by rw [found]; trivial) v given
      exact kept.fetchFirst found positive new fits
    · exact kept.move found (fun same => by cases same) rfl rfl rfl rfl rfl trivial
        fun _ _ same => by cases same
  | storePrefix attempt seq =>
    simp only [TicketIdCalls.exec, found] at moves
    cases moves
    exact kept.storePrefix found
  | storeCounter attempt seq =>
    simp only [TicketIdCalls.exec, found] at moves
    cases moves
    exact kept.storeCounter found
  | drawSuffix attempt p =>
    simp only [TicketIdCalls.exec, found] at moves
    cases moves
    split
    · exact kept.rollOver found
    · next last =>
      obtain ⟨current, closed⟩ := apart.draws attempt p found (by omega)
      exact kept.draw found current
        (everywhere (P := fun task => ¬ task.InWindow) (fun inside => inside) closed) (by omega)
  | waitForNext attempt left =>
    simp only [TicketIdCalls.exec, found] at moves
    cases moves
    cases left with
    | zero =>
      exact kept.move found (fun same => by cases same) rfl rfl rfl rfl rfl trivial
        fun _ _ same => by cases same
    | succ left =>
      dsimp only
      split
      · next set =>
        refine kept.takeNext found set (everywhere
          (P := fun task => task.switchingTo ≠ some s.nextPrefix) (fun same => by cases same) ?_)
        exact apart.takes attempt left found set
      · exact kept.move found (fun same => by cases same) rfl rfl rfl rfl rfl trivial
          fun _ _ same => by cases same
  | fetchNext attempt =>
    simp only [TicketIdCalls.exec, found] at moves
    cases moves
    rcases s.callSequence_cases step (.switchPrefix attempt) (.generate attempt) with
      ⟨v, given, same⟩ | same <;> rw [same]
    · obtain ⟨positive, new, fits⟩ := answers.sequence (by rw [found]; trivial) v given
      exact kept.fetchNext found positive new fits
    · exact kept.move found (fun same => by cases same) rfl rfl rfl rfl rfl trivial
        fun _ _ same => by cases same
  | switchPrefix attempt next =>
    simp only [TicketIdCalls.exec, found] at moves
    cases moves
    exact kept.switchPrefix found
  | resetNext attempt next =>
    simp only [TicketIdCalls.exec, found] at moves
    cases moves
    exact kept.resetNext found
  | switchCounter attempt next =>
    simp only [TicketIdCalls.exec, found] at moves
    cases moves
    exact kept.switchCounter found
  | resetRequested attempt next =>
    simp only [TicketIdCalls.exec, found] at moves
    cases moves
    obtain ⟨positive, fits, first, last⟩ := owned next 1 (by rw [found]; rfl)
    exact (kept.request false).finish (by rw [found]; rfl)
      (by rw [found]; rfl) (by rw [found]; rfl) (by rw [found]; rfl) (by rw [found]; rfl)
      (TicketIdTask.owns_maybeTriggerPrefetch positive fits first last attempt)
  | requestPrefetch attempt p x =>
    simp only [TicketIdCalls.exec, found] at moves
    obtain ⟨positive, fits, first, last⟩ := owned p x (by rw [found]; rfl)
    split at moves
    · cases moves
      exact kept.finish (by rw [found]; rfl) (by rw [found]; rfl) (by rw [found]; rfl)
        (by rw [found]; rfl) (by rw [found]; rfl)
        (TicketIdTask.owns_finishBlock positive fits first last attempt)
    · cases moves
      exact (kept.request true).finish (by rw [found]; rfl)
        (by rw [found]; rfl) (by rw [found]; rfl) (by rw [found]; rfl) (by rw [found]; rfl)
        ⟨rfl, rfl, rfl, rfl, rfl, trivial, fun _ _ same => by cases same⟩
  | prefetch attempt p x =>
    simp only [TicketIdCalls.exec, found] at moves
    cases moves
    rcases s.callSequence_cases step (.storeNext attempt p x) (config.finishBlock attempt p x) with
      ⟨v, given, same⟩ | same <;> rw [same]
    · obtain ⟨positive, new, fits⟩ := answers.sequence (by rw [found]; trivial) v given
      exact kept.prefetch found positive new fits
    · obtain ⟨positive, fits, first, last⟩ := owned p x (by rw [found]; rfl)
      exact kept.finish (by rw [found]; rfl) (by rw [found]; rfl) (by rw [found]; rfl)
        (by rw [found]; rfl) (by rw [found]; rfl)
        (TicketIdTask.owns_finishBlock positive fits first last attempt)
  | storeNext attempt p x seq =>
    simp only [TicketIdCalls.exec, found] at moves
    cases moves
    exact kept.storeNext found
  | generate attempt =>
    simp only [TicketIdCalls.exec, found, TicketIdTask.finish_local] at moves
    cases moves
    exact kept.generate found (answers.generated (by rw [found]; trivial))
  | regenerate left =>
    rw [found] at sound
    exact sound.elim
  | readClock =>
    rw [found] at sound
    exact sound.elim
  | done id source =>
    simp only [TicketIdCalls.exec, found] at moves
    cases moves

/-- No call has started. -/
theorem kept_start (config : TicketIdConfig) : ({} : TicketIdCalls).Kept config := by
  refine ⟨?_, fun _ _ => rfl, fun _ => trivial, fun _ _ _ _ _ returned => by cases returned⟩
  exact {
    values_fit := fun _ mem => by cases mem
    counter_nonneg := le_rfl
    current_mem := fun set => absurd rfl set
    next_mem := fun set => absurd rfl set
    held_mem := fun _ _ has => by cases has
    pair_mem := fun _ _ _ owned => by cases owned
    unique := fun _ _ _ _ owned => by cases owned
    held_alone := fun _ _ _ has => by cases has
    held_new := fun _ _ has => by cases has
    next_new := fun set => absurd rfl set
    unstored_pair := fun _ _ waits => by cases waits
    unstored_new := fun _ _ waits => by cases waits
    bounded := fun _ _ owned => by cases owned }

/-- In every order of the steps of any number of calls, no ticket id is returned twice, as long as
the steps keep apart. -/
theorem distinct_of_reaches (config : TicketIdConfig) (s : TicketIdCalls)
    (reaches : (ticketIdMachine config).Reaches
      (fun step s => step.Answers config s ∧ step.Apart config s) {} s) : s.Distinct := by
  have kept : s.Kept config :=
    reaches.invariant (kept_start config) fun step _ _ kept conditions moves =>
      kept.exec conditions.1 conditions.2 moves
  exact kept.distinct

/-! ### Two calls -/

variable {step : TicketIdStep}

/-- A step that neither asks the sequence nor makes a local id, draws a suffix or waits meets the
conditions. -/
theorem quiet (found : s.tasks step.call = task) (calls : ¬ task.CallsSequence)
    (generates : ¬ task.Generates) (draws : ∀ attempt p, task ≠ .drawSuffix attempt p)
    (waits : ∀ attempt left, task ≠ .waitForNext attempt left) :
    step.Answers config s ∧ step.Apart config s := by
  subst found
  exact ⟨⟨fun asks => absurd asks calls, fun makes => absurd makes generates⟩,
    ⟨fun attempt p same => absurd same (draws attempt p),
      fun attempt left same => absurd same (waits attempt (left + 1))⟩⟩

/-- A call that asks the sequence for its first prefix. -/
theorem asks_first {attempt : Nat} {v : Int} (found : s.tasks step.call = .fetchFirst attempt)
    (given : step.sequence = some v) (positive : 0 < v) (new : v ∉ s.values)
    (fits : config.Fits v) : step.Answers config s ∧ step.Apart config s := by
  refine ⟨⟨fun _ value mem => ?_, fun makes => ?_⟩, ⟨fun attempt' p same => ?_,
    fun attempt' left same => ?_⟩⟩
  · rw [given] at mem
    cases mem
    exact ⟨positive, new, fits⟩
  · rw [found] at makes
    exact makes.elim
  · rw [found] at same
    cases same
  · rw [found] at same
    cases same

/-- A call that draws under the prefix in use while no call is between its two stores. -/
theorem draws_apart {attempt : Nat} {p : Int} (found : s.tasks step.call = .drawSuffix attempt p)
    (current : p = s.currentPrefix) (closed : ∀ c < s.started, ¬ (s.tasks c).InWindow) :
    step.Answers config s ∧ step.Apart config s := by
  refine ⟨⟨fun asks => ?_, fun makes => ?_⟩, ⟨fun attempt' p' same _ => ?_,
    fun attempt' left same => ?_⟩⟩
  · rw [found] at asks
    exact asks.elim
  · rw [found] at makes
    exact makes.elim
  · rw [found] at same
    cases same
    exact ⟨current, closed⟩
  · rw [found] at same
    cases same

/-- Two calls one after the other, with the default suffixes: the first one takes the prefix 5 of
the sequence. -/
theorem distinct_second_call : ∃ s : TicketIdCalls, s.Returns 0 511 ∧ s.Returns 1 521 ∧
    s.Distinct := by
  have start : (ticketIdMachine (.fromEnv none none)).Reaches (fun step s =>
      step.Answers (.fromEnv none none) s ∧ step.Apart (.fromEnv none none) s) {} _ :=
    .step { call := 0 } .refl (quiet rfl id id (fun _ _ same => by cases same)
      fun _ _ same => by cases same) rfl
  have loads := Concurrent.Machine.Reaches.step { call := 0 } start (quiet rfl id id
    (fun _ _ same => by cases same) fun _ _ same => by cases same) rfl
  have fetches := Concurrent.Machine.Reaches.step { call := 0, sequence := some 5 } loads
    (asks_first rfl rfl (by decide) (by decide) (by decide +kernel)) rfl
  have stores := Concurrent.Machine.Reaches.step { call := 0 } fetches (quiet rfl id id
    (fun _ _ same => by cases same) fun _ _ same => by cases same) rfl
  have counts := Concurrent.Machine.Reaches.step { call := 0 } stores (quiet rfl id id
    (fun _ _ same => by cases same) fun _ _ same => by cases same) rfl
  have start' := Concurrent.Machine.Reaches.step { call := 1 } counts (quiet rfl id id
    (fun _ _ same => by cases same) fun _ _ same => by cases same) rfl
  have loads' := Concurrent.Machine.Reaches.step { call := 1 } start' (quiet rfl id id
    (fun _ _ same => by cases same) fun _ _ same => by cases same) rfl
  have draws := Concurrent.Machine.Reaches.step { call := 1 } loads' (draws_apart rfl rfl (by
    intro c below
    obtain rfl | rfl : c = 0 ∨ c = 1 := by
      change c < 2 at below
      omega
    · exact id
    · exact id)) rfl
  exact ⟨_, ⟨.block 5 1, by decide +kernel⟩, ⟨.block 5 2, by decide +kernel⟩,
    distinct_of_reaches _ _ draws⟩

/-- The steps of two first calls that overlap: the second one draws its suffix before the first one
has stored the counter. -/
def overlappingFirstCalls : List TicketIdStep :=
  [{ call := 0 }, { call := 0 }, { call := 0, sequence := some 5 }, { call := 0 }, { call := 1 },
    { call := 1 }, { call := 1 }, { call := 0 }]

/-- They return the same ticket id. -/
example : (((ticketIdMachine (.fromEnv none none)).runUnder (fun _ _ => True)
    overlappingFirstCalls {}).any fun s =>
      decide (s.tasks 0 = .done 511 (.block 5 1) ∧ s.tasks 1 = .done 511 (.block 5 1))) = true := by
  decide +kernel

end TicketIdCalls

end TollBackend

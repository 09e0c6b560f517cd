import TollBackend.DbRetry.Places

/-!
# The last entry of each key is kept

A flush keeps the order of the entries of each key, whether it succeeds or fails, and a retry
removes only what it has written.

## Main results

* `DbRetry.consistent_step`: every step keeps the places consistent.
* `latestKept_of_reaches`: in every run whose steps satisfy the condition, the last entry of each
  key is kept.
-/

namespace TollBackend

open Concurrent (Machine)

namespace DbRetry

variable {s s' : DbRetry}

/-! ### Steps of a flush -/

/-- After a pipeline of `SET`s, a key has the last of its entries. -/
theorem setMany_cases {chunk : List DbRetryEntry} (ordered : chunk.Pairwise InKeyOrder)
    (s : DbRetry) (key : DbRetryKey) :
    (∃ entry ∈ chunk, entry.key = key ∧ (s.setMany chunk).keydb key = some entry ∧
      ∀ other ∈ chunk, other.key = key → other.NotAfter entry) ∨
    Without key chunk ∧ (s.setMany chunk).keydb key = s.keydb key := by
  induction chunk generalizing s with
  | nil => exact .inr ⟨nofun, rfl⟩
  | cons first chunk ih =>
    rw [List.pairwise_cons] at ordered
    rcases ih ordered.2 (s.setKey first) with ⟨entry, inside, same, found, last⟩ | ⟨without, found⟩
    · refine .inl ⟨entry, List.mem_cons_of_mem _ inside, same, found, ?_⟩
      intro other there other_key
      rcases List.mem_cons.mp there with rfl | there
      · exact ordered.1 entry inside (other_key.trans same.symm)
      · exact last other there other_key
    · have setKey : (s.setKey first).keydb key = if key = first.key then some first
          else s.keydb key := Function.update_apply s.keydb first.key _ key
      rw [setKey] at found
      by_cases here : key = first.key
      · rw [if_pos here] at found
        refine .inl ⟨first, List.mem_cons_self, here.symm, found, ?_⟩
        intro other there other_key
        rcases List.mem_cons.mp there with rfl | there
        · exact .refl _
        · exact absurd other_key (without other there)
      · rw [if_neg here] at found
        refine .inr ⟨fun other there same => ?_, found⟩
        rcases List.mem_cons.mp there with rfl | there
        · exact here same.symm
        · exact without other there same

theorem setMany_eq (s : DbRetry) (chunk : List DbRetryEntry) :
    s.setMany chunk = { s with keydb := (s.setMany chunk).keydb } := by
  induction chunk generalizing s with
  | nil => rfl
  | cons first chunk ih => exact ih (s.setKey first)

/-- Entries that are in flight are set, and some of them stay in flight. -/
theorem Consistent.setMany (consistent : Consistent s) {chunk : List DbRetryEntry}
    {phase : DbRetryPhase} (idle : phase.tasks = [])
    (taken : chunk.Sublist s.phase.inFlight)
    (fewer : phase.inFlight.Sublist s.phase.inFlight)
    (gone : ∀ entry ∈ s.phase.inFlight, entry ∈ phase.inFlight ∨ entry ∈ chunk)
    (after : ∀ entry ∈ chunk, ∀ other ∈ phase.inFlight, other.key = entry.key →
      entry.NotAfter other)
    (unique : ∀ chunk lists, phase = .puttingBack chunk lists →
      (phase.inFlight.map DbRetryEntry.key).Nodup) :
    Consistent { s with keydb := (s.setMany chunk).keydb, phase := phase } := by
  set s' : DbRetry := { s with keydb := (s.setMany chunk).keydb, phase := phase } with s'_eq
  have cases_of (key : DbRetryKey) := setMany_cases (consistent.flight_order.sublist taken) s key
  have staged (entry : DbRetryEntry) (inside : s'.Staged entry) : s.Staged entry :=
    inside.imp_left fun in_flight => fewer.subset in_flight
  have staged_of_mem (entry : DbRetryEntry) (inside : entry ∈ chunk) : s.Staged entry :=
    .inl (taken.subset inside)
  exact {
    buffer_kind := consistent.buffer_kind
    buffer_fits := consistent.buffer_fits
    flight_order := consistent.flight_order.sublist fewer
    flight_apart := fun entry inside => consistent.flight_apart entry (fewer.subset inside)
    flight_unique := unique
    keydb_key := by
      intro key entry found
      rcases cases_of key with ⟨new, -, same, is_new, -⟩ | ⟨-, unchanged⟩
      · rw [is_new] at found
        cases found
        exact same
      · rw [unchanged] at found
        exact consistent.keydb_key key entry found
    keydb_old := by
      intro key old found entry inside same
      rcases cases_of key with ⟨new, new_in, new_key, is_new, -⟩ | ⟨-, unchanged⟩
      · rw [is_new] at found
        cases found
        rcases inside with in_flight | ⟨kind, in_buffer⟩ | in_calls
        · exact after old new_in entry in_flight (same.trans new_key.symm)
        · exact absurd (same.trans new_key.symm)
            (consistent.flight_apart old (taken.subset new_in) kind entry in_buffer)
        · -- the entry of a call is the latest of its key
          obtain ⟨last, latest, notAfter⟩ := consistent.known old (.inl (staged_of_mem old new_in))
          rw [new_key, ← same, consistent.calls_latest entry in_calls] at latest
          cases latest
          exact notAfter
      · rw [unchanged] at found
        exact consistent.keydb_old key old found entry (staged entry inside) same
    known := by
      intro entry inside
      apply consistent.known entry
      rcases inside with inside | found
      · exact .inl (staged entry inside)
      · rcases cases_of entry.key with ⟨new, new_in, -, is_new, -⟩ | ⟨-, unchanged⟩
        · rw [is_new] at found
          cases found
          exact .inl (staged_of_mem _ new_in)
        · rw [unchanged] at found
          exact .inr found
    latest_key := consistent.latest_key
    latest_kept := by
      intro key last latest
      rcases consistent.latest_kept key last latest with written | found | inside
      · exact .inl written
      · refine .inr (.inl ?_)
        rcases cases_of key with ⟨new, new_in, new_key, is_new, -⟩ | ⟨-, unchanged⟩
        · have older := consistent.keydb_old key last found new (staged_of_mem new new_in) new_key
          rw [← consistent.eq_of_replaced latest (staged_of_mem new new_in) new_key older]
          exact is_new
        · rwa [← unchanged] at found
      · rcases inside with in_flight | elsewhere
        · rcases gone last in_flight with still | set
          · exact .inr (.inr (.inl still))
          · have last_key := (consistent.latest_key key last latest).1
            rcases cases_of key with ⟨new, new_in, new_key, is_new, newest⟩ | ⟨without, -⟩
            · have older := newest last set last_key
              refine .inr (.inl ?_)
              rw [← consistent.eq_of_replaced latest (staged_of_mem new new_in) new_key older]
              exact is_new
            · exact absurd last_key (without last set)
        · exact .inr (.inr (.inr elsewhere))
    calls_latest := consistent.calls_latest
    task_keydb := by
      intro task running
      change task ∈ phase.tasks at running
      rw [idle] at running
      cases running
    task_written := by
      intro entry running
      change _ ∈ phase.tasks at running
      rw [idle] at running
      cases running }

/-- The chunk that is flushed, and what is left. -/
theorem inFlight_flushing (list : List DbRetryEntry) (lists : List (List DbRetryEntry)) :
    list.take flushBatchSize ++ (if list.drop flushBatchSize = [] then lists
      else list.drop flushBatchSize :: lists).flatten = (list :: lists).flatten := by
  split
  · next last =>
    rw [List.flatten_cons]
    conv_rhs => rw [← List.take_append_drop flushBatchSize list, last, List.append_nil]
  · rw [List.flatten_cons, List.flatten_cons, ← List.append_assoc, List.take_append_drop]

theorem effective_sublist (ok : Bool) (mask : List Bool) (chunk : List DbRetryEntry) :
    (effective ok mask chunk).Sublist chunk := by
  unfold effective
  cases ok with
  | true => exact List.Sublist.refl _
  | false =>
    have zipped : ((chunk.zip mask).map (·.1)).Sublist chunk := by
      induction chunk generalizing mask with
      | nil => exact List.Sublist.refl _
      | cons entry chunk ih =>
        cases mask with
        | nil => exact List.nil_sublist _
        | cons set mask => exact (ih mask).cons_cons entry
    exact (List.filter_sublist.map _).trans zipped

theorem Consistent.flush (consistent : Consistent s) {ok : Bool} {mask : List Bool}
    (undisturbed : ok = false → (s.phase.inFlight.map DbRetryEntry.key).Nodup)
    (moves : s.step (.flush ok mask) = some s') : Consistent s' := by
  simp only [step, taskStep] at moves
  split at moves
  · next list lists at_phase =>
    cases moves
    rw [setMany_eq]
    have in_flight : s.phase.inFlight = list.take flushBatchSize ++
        (if list.drop flushBatchSize = [] then lists
          else list.drop flushBatchSize :: lists).flatten := by
      rw [at_phase, inFlight_flushing]
      rfl
    set rest := if list.drop flushBatchSize = [] then lists
      else list.drop flushBatchSize :: lists
    set chunk := list.take flushBatchSize
    have taken : chunk.Sublist s.phase.inFlight := by
      rw [in_flight]
      exact List.sublist_append_left _ _
    cases ok with
    | true =>
      apply consistent.setMany rfl taken
      · rw [in_flight]
        exact List.sublist_append_right _ _
      · intro entry inside
        rw [in_flight] at inside
        exact (List.mem_append.mp inside).symm
      · intro entry inside other there same
        have ordered := consistent.flight_order
        rw [in_flight, List.pairwise_append] at ordered
        exact ordered.2.2 entry inside other there same.symm
      · exact nofun
    | false =>
      have unique := undisturbed rfl
      rw [in_flight] at unique
      apply consistent.setMany rfl ((effective_sublist _ _ _).trans taken)
      · rw [in_flight]
        exact List.Sublist.refl _
      · intro entry inside
        rw [in_flight] at inside
        exact .inl inside
      · intro entry inside other there same
        have inside := List.mem_append_left rest.flatten ((effective_sublist _ _ _).subset inside)
        rw [List.inj_on_of_nodup_map unique there inside same]
        exact .refl _
      · exact fun _ _ _ => unique
  · cases moves
  · cases moves

/-- Entries of other keys stay in the buffer. -/
theorem mem_putBackAll {chunk : List DbRetryEntry} {s : DbRetry} {kind : DbRetryKind}
    {entry : DbRetryEntry} (inside : entry ∈ s.buffer kind)
    (apart : ∀ new ∈ chunk, entry.key ≠ new.key) : entry ∈ (s.putBackAll chunk).buffer kind := by
  induction chunk generalizing s with
  | nil => exact inside
  | cons first chunk ih =>
    apply ih _ fun new there => apart new (List.mem_cons_of_mem _ there)
    have buffer : (s.setBuffer first.kind (putBack (s.buffer first.kind) first)).buffer kind =
        if kind = first.kind then putBack (s.buffer first.kind) first else s.buffer kind :=
      Function.update_apply s.buffer first.kind _ kind
    rw [buffer]
    split
    · next here =>
      rw [here] at inside
      have kept : entry ∈ first.kind.insert (s.buffer first.kind) first :=
        DbRetryKind.mem_insert (.inr ⟨inside, apart first List.mem_cons_self⟩)
      unfold putBack
      cases kind_eq : first.kind <;> rw [kind_eq] at inside kept <;> dsimp only <;> split
      · exact kept
      · exact inside
      · exact kept
      · exact inside
      · exact kept
      · exact inside
    · exact inside

/-- A chunk whose keys are not in the buffer is added to it, as far as there is room. -/
theorem buffer_putBackAll {chunk : List DbRetryEntry} {s : DbRetry}
    (room : ∀ entry ∈ chunk, (s.buffer entry.kind).length + chunk.length ≤ entry.kind.bufferMax)
    (apart : ∀ entry ∈ chunk, Without entry.key (s.buffer entry.kind))
    (unique : (chunk.map DbRetryEntry.key).Nodup) (kind : DbRetryKind) :
    (s.putBackAll chunk).buffer kind = s.buffer kind ++ chunk.filter (·.kind = kind) := by
  induction chunk generalizing s with
  | nil => exact (List.append_nil _).symm
  | cons first chunk ih =>
    rw [List.map_cons, List.nodup_cons] at unique
    have has_room : (s.buffer first.kind).length < first.kind.bufferMax := by
      have := room first List.mem_cons_self
      rw [List.length_cons] at this
      omega
    have put : putBack (s.buffer first.kind) first = s.buffer first.kind ++ [first] := by
      rw [putBack_of_room has_room]
      exact DbRetryKind.insert_of_without (apart first List.mem_cons_self)
    have buffer (kind : DbRetryKind) :
        (s.setBuffer first.kind (putBack (s.buffer first.kind) first)).buffer kind =
          if kind = first.kind then s.buffer first.kind ++ [first] else s.buffer kind := by
      rw [put]
      exact Function.update_apply s.buffer first.kind _ kind
    change ((s.setBuffer first.kind (putBack (s.buffer first.kind) first)).putBackAll
      chunk).buffer kind = _
    rw [ih _ _ unique.2, buffer]
    · split
      · next here =>
        have keeps : (first :: chunk).filter (·.kind = kind) =
            first :: chunk.filter (·.kind = kind) :=
          List.filter_cons_of_pos (decide_eq_true here.symm)
        rw [keeps, here, List.append_assoc, List.singleton_append]
      · next elsewhere =>
        rw [List.filter_cons_of_neg (by simp [Ne.symm elsewhere])]
    · intro entry inside
      have fits := room entry (List.mem_cons_of_mem _ inside)
      rw [buffer]
      split
      · next here =>
        rw [List.length_append, List.length_singleton, ← here]
        rw [List.length_cons] at fits
        omega
      · rw [List.length_cons] at fits
        omega
    · intro entry inside old there same
      rw [buffer] at there
      split at there
      · next here =>
        rw [← here, List.mem_append, List.mem_singleton] at there
        rcases there with there | rfl
        · exact apart entry (List.mem_cons_of_mem _ inside) old there same
        · exact unique.1 (same ▸ List.mem_map_of_mem inside)
      · exact apart entry (List.mem_cons_of_mem _ inside) old there same

theorem putBackAll_eq (s : DbRetry) (chunk : List DbRetryEntry) :
    s.putBackAll chunk = { s with buffer := (s.putBackAll chunk).buffer } := by
  induction chunk generalizing s with
  | nil => rfl
  | cons first chunk ih => exact ih (s.setBuffer first.kind (putBack (s.buffer first.kind) first))

/-- Entries go from the flush to the buffer, or from the buffer to the flush. -/
theorem Consistent.of_moved (consistent : Consistent s) {buffer : DbRetryKind → List DbRetryEntry}
    {phase : DbRetryPhase} (idle : phase.tasks = [])
    (buffer_kind : ∀ kind, ∀ entry ∈ buffer kind, entry.kind = kind)
    (buffer_fits : ∀ kind : DbRetryKind, (buffer kind).Pairwise kind.InBuffer)
    (flight_order : phase.inFlight.Pairwise InKeyOrder)
    (flight_apart : ∀ entry ∈ phase.inFlight, ∀ kind, Without entry.key (buffer kind))
    (unique : ∀ chunk lists, phase = .puttingBack chunk lists →
      (phase.inFlight.map DbRetryEntry.key).Nodup)
    (moved : ∀ entry, entry ∈ phase.inFlight ∨ (∃ kind, entry ∈ buffer kind) ↔
      entry ∈ s.phase.inFlight ∨ ∃ kind, entry ∈ s.buffer kind) :
    Consistent { s with buffer := buffer, phase := phase } := by
  have staged (entry : DbRetryEntry) :
      Staged { s with buffer := buffer, phase := phase } entry ↔ s.Staged entry := by
    simp only [Staged, ← or_assoc, moved]
  exact {
    buffer_kind := buffer_kind
    buffer_fits := buffer_fits
    flight_order := flight_order
    flight_apart := flight_apart
    flight_unique := unique
    keydb_key := consistent.keydb_key
    keydb_old := fun key old found entry inside =>
      consistent.keydb_old key old found entry ((staged entry).mp inside)
    known := fun entry inside => consistent.known entry (inside.imp_left (staged entry).mp)
    latest_key := consistent.latest_key
    latest_kept := fun key last latest =>
      (consistent.latest_kept key last latest).imp_right (Or.imp_right (staged last).mpr)
    calls_latest := consistent.calls_latest
    task_keydb := by
      intro task running
      change task ∈ phase.tasks at running
      rw [idle] at running
      cases running
    task_written := by
      intro entry running
      change _ ∈ phase.tasks at running
      rw [idle] at running
      cases running }

theorem Consistent.putBack (consistent : Consistent s) (limits : BelowLimits .putBack s)
    (moves : s.step .putBack = some s') : Consistent s' := by
  simp only [step, taskStep] at moves
  split at moves
  · next chunk lists at_phase =>
    cases moves
    rw [putBackAll_eq]
    have in_flight : s.phase.inFlight = chunk ++ lists.flatten := by rw [at_phase]; rfl
    have unique := consistent.flight_unique chunk lists at_phase
    rw [in_flight, List.map_append, List.nodup_append] at unique
    have room : ∀ entry ∈ chunk,
        (s.buffer entry.kind).length + chunk.length ≤ entry.kind.bufferMax := by
      intro entry inside
      rw [BelowLimits, at_phase] at limits
      exact limits entry inside
    have in_chunk {entry : DbRetryEntry} (inside : entry ∈ chunk) : entry ∈ s.phase.inFlight := by
      rw [in_flight]
      exact List.mem_append_left _ inside
    have in_rest {entry : DbRetryEntry} (inside : entry ∈ lists.flatten) :
        entry ∈ s.phase.inFlight := by
      rw [in_flight]
      exact List.mem_append_right _ inside
    have buffer (kind : DbRetryKind) :=
      buffer_putBackAll room (fun entry inside => consistent.flight_apart entry (in_chunk inside) _)
        unique.1 kind
    have mem_buffer (kind : DbRetryKind) (entry : DbRetryEntry) :
        entry ∈ (s.putBackAll chunk).buffer kind ↔
          entry ∈ s.buffer kind ∨ entry ∈ chunk ∧ entry.kind = kind := by
      rw [buffer, List.mem_append, List.mem_filter, decide_eq_true_iff]
    apply consistent.of_moved rfl
    · intro kind entry inside
      rw [mem_buffer] at inside
      rcases inside with old | ⟨-, same⟩
      · exact consistent.buffer_kind kind entry old
      · exact same
    · intro kind
      rw [buffer, List.pairwise_append]
      refine ⟨consistent.buffer_fits kind, ?_, ?_⟩
      · have keys := (List.pairwise_map.mp unique.1).sublist
          (List.filter_sublist (p := fun entry => entry.kind = kind))
        exact keys.imp DbRetryKind.inBuffer_of_ne
      · intro old inside entry there
        apply DbRetryKind.inBuffer_of_ne
        exact consistent.flight_apart entry (in_chunk (List.mem_of_mem_filter there)) kind old inside
    · have ordered := consistent.flight_order
      rw [in_flight, List.pairwise_append] at ordered
      exact ordered.2.1
    · intro entry inside kind old there
      rw [mem_buffer] at there
      rcases there with there | ⟨there, -⟩
      · exact consistent.flight_apart entry (in_rest inside) kind old there
      · exact unique.2.2 _ (List.mem_map_of_mem there) _ (List.mem_map_of_mem inside)
    · exact nofun
    · intro entry
      change entry ∈ lists.flatten ∨ _ ↔ _
      rw [in_flight, List.mem_append]
      constructor
      · rintro (inside | ⟨kind, inside⟩)
        · exact .inl (.inr inside)
        · rw [mem_buffer] at inside
          rcases inside with old | ⟨inside, -⟩
          · exact .inr ⟨kind, old⟩
          · exact .inl (.inl inside)
      · rintro ((inside | inside) | ⟨kind, inside⟩)
        · exact .inr ⟨entry.kind, (mem_buffer _ _).mpr (.inr ⟨inside, rfl⟩)⟩
        · exact .inl inside
        · exact .inr ⟨kind, (mem_buffer _ _).mpr (.inl inside)⟩
  · cases moves

theorem Consistent.takeBuffer (consistent : Consistent s) {connServers users : List DbRetryEntry}
    (moves : s.step (.takeBuffer connServers users) = some s') : Consistent s' := by
  simp only [step, taskStep] at moves
  split at moves
  · next drains =>
    cases moves
    obtain ⟨waiting, connServers_perm, users_perm⟩ := drains
    have connServers_perm := List.isPerm_iff.mp connServers_perm
    have users_perm := List.isPerm_iff.mp users_perm
    have in_flight : DbRetryPhase.inFlight
        (.flushing ([s.buffer .session, connServers, users].filter (· ≠ []))) =
          s.buffer .session ++ (connServers ++ users) := by
      have drops_empty (lists : List (List DbRetryEntry)) :
          (lists.filter (· ≠ [])).flatten = lists.flatten := List.flatten_filter_ne_nil
      exact (drops_empty _).trans (by simp)
    have kinds {entry : DbRetryEntry} :
        (entry ∈ s.buffer .session → entry.kind = .session) ∧
        (entry ∈ connServers → entry.kind = .connServer) ∧ (entry ∈ users → entry.kind = .user) :=
      ⟨consistent.buffer_kind _ entry,
        fun inside => consistent.buffer_kind _ entry (connServers_perm.mem_iff.mpr inside),
        fun inside => consistent.buffer_kind _ entry (users_perm.mem_iff.mpr inside)⟩
    have ne_of_kind {a b : DbRetryEntry} (ne : a.kind ≠ b.kind) : InKeyOrder a b :=
      fun same => absurd (congrArg DbRetryKey.kind same) ne
    apply consistent.of_moved rfl
    · exact fun _ _ inside => absurd inside List.not_mem_nil
    · exact fun _ => .nil
    · rw [in_flight, List.pairwise_append, List.pairwise_append]
      refine ⟨(consistent.buffer_fits .session).imp DbRetryKind.InBuffer.inKeyOrder, ⟨?_, ?_, ?_⟩, ?_⟩
      · have unique : connServers.Pairwise (DbRetryKind.InBuffer .connServer) :=
          connServers_perm.pairwise (consistent.buffer_fits .connServer) fun ne => Ne.symm ne
        exact unique.imp DbRetryKind.InBuffer.inKeyOrder
      · have unique : users.Pairwise (DbRetryKind.InBuffer .user) :=
          users_perm.pairwise (consistent.buffer_fits .user) fun ne => Ne.symm ne
        exact unique.imp DbRetryKind.InBuffer.inKeyOrder
      · intro a in_a b in_b
        apply ne_of_kind
        rw [kinds.2.1 in_a, kinds.2.2 in_b]
        exact nofun
      · intro a in_a b in_b
        apply ne_of_kind
        rw [kinds.1 in_a]
        rcases List.mem_append.mp in_b with in_b | in_b
        · rw [kinds.2.1 in_b]
          exact nofun
        · rw [kinds.2.2 in_b]
          exact nofun
    · exact fun _ _ _ _ inside => absurd inside List.not_mem_nil
    · exact nofun
    · intro entry
      rw [in_flight, waiting, List.mem_append, List.mem_append]
      constructor
      · rintro ((inside | inside | inside) | ⟨_, inside⟩)
        · exact .inr ⟨_, inside⟩
        · exact .inr ⟨_, connServers_perm.mem_iff.mpr inside⟩
        · exact .inr ⟨_, users_perm.mem_iff.mpr inside⟩
        · exact absurd inside List.not_mem_nil
      · rintro (inside | ⟨kind, inside⟩)
        · exact absurd inside List.not_mem_nil
        · cases kind with
          | session => exact .inl (.inl inside)
          | connServer => exact .inl (.inr (.inl (connServers_perm.mem_iff.mp inside)))
          | user => exact .inl (.inr (.inr (users_perm.mem_iff.mp inside)))
  · cases moves

/-! ### All steps -/

theorem inFlight_retryPhase (pool : Bool) : (retryPhase pool).inFlight = [] := by
  cases pool <;> rfl

theorem tasks_retryPhase (pool : Bool) : (retryPhase pool).tasks = [] := by
  cases pool <;> rfl

/-- The task goes to a phase without retries. -/
theorem Consistent.toPhase (consistent : Consistent s) {phase : DbRetryPhase}
    (before : s.phase.inFlight = []) (after : phase.inFlight = []) (idle : phase.tasks = []) :
    Consistent { s with phase := phase } := by
  apply consistent.retask before after (List.Subset.refl _)
  · rw [idle]
    exact nofun
  · rw [idle]
    exact nofun

/-- One retry goes on. -/
theorem Consistent.setTask (consistent : Consistent s) {tasks : List DbRetryTask}
    {kinds : List DbRetryKind} (at_phase : s.phase = .retrying tasks kinds) {i : Nat}
    {task : DbRetryTask} {written : List DbRetryEntry} (more : s.written ⊆ written)
    (task_keydb : ∀ entry, task.entry = some entry →
      ∀ found, s.keydb entry.key = some found → found = entry)
    (task_written : ∀ entry, task = .wrote entry → entry ∈ written) :
    Consistent { s with phase := .retrying (tasks.set i task) kinds, written := written } := by
  have running {task : DbRetryTask} (old : task ∈ tasks) : task ∈ s.phase.tasks := by
    rw [at_phase]
    exact old
  apply consistent.retask (by rw [at_phase]; rfl) rfl more
  · intro other inside
    rcases List.mem_or_eq_of_mem_set inside with old | rfl
    · exact consistent.task_keydb other (running old)
    · exact task_keydb
  · intro entry inside
    rcases List.mem_or_eq_of_mem_set inside with old | same
    · exact more (consistent.task_written entry (running old))
    · exact task_written entry same.symm

/-- What a retry has written is removed from KeyDB. -/
theorem Consistent.unset (consistent : Consistent s) {entry : DbRetryEntry}
    (wrote : .wrote entry ∈ s.phase.tasks) :
    Consistent { s with keydb := Function.update s.keydb entry.key none } := by
  have keydb {key : DbRetryKey} {found : DbRetryEntry}
      (is_found : Function.update s.keydb entry.key none key = some found) :
      key ≠ entry.key ∧ s.keydb key = some found := by
    rw [Function.update_apply] at is_found
    split at is_found
    · cases is_found
    · next elsewhere => exact ⟨elsewhere, is_found⟩
  exact {
    buffer_kind := consistent.buffer_kind
    buffer_fits := consistent.buffer_fits
    flight_order := consistent.flight_order
    flight_apart := consistent.flight_apart
    flight_unique := consistent.flight_unique
    keydb_key := fun key found is_found => consistent.keydb_key key found (keydb is_found).2
    keydb_old := fun key old is_found => consistent.keydb_old key old (keydb is_found).2
    known := fun other inside =>
      consistent.known other (inside.imp_right fun is_found => (keydb is_found).2)
    latest_key := consistent.latest_key
    latest_kept := by
      intro key last latest
      rcases consistent.latest_kept key last latest with written | found | inside
      · exact .inl written
      · by_cases here : key = entry.key
        · rw [here] at found
          have same := consistent.task_keydb _ wrote entry rfl last found
          exact .inl (same ▸ consistent.task_written entry wrote)
        · refine .inr (.inl ?_)
          change Function.update s.keydb entry.key none key = _
          rwa [Function.update_apply, if_neg here]
      · exact .inr (.inr inside)
    calls_latest := consistent.calls_latest
    task_keydb := fun task running holds is_held found is_found =>
      consistent.task_keydb task running holds is_held found (keydb is_found).2
    task_written := consistent.task_written }

theorem consistent_step {label : DbRetryLabel} (consistent : Consistent s)
    (limits : BelowLimits label s) (undisturbed : Undisturbed label s)
    (moves : s.step label = some s') : Consistent s' := by
  cases label with
  | enqueue record ok effect =>
    obtain ⟨alone, rfl⟩ := enqueue_eq_some moves
    apply consistent.enqueue _ alone undisturbed
    cases ok <;> cases effect <;> rfl
  | toBuffer i victim =>
    obtain ⟨entry, at_i, rfl⟩ := Option.map_eq_some_iff.mp moves
    exact consistent.toBuffer at_i (limits entry at_i) (undisturbed entry at_i) victim
  | takeBuffer connServers users => exact consistent.takeBuffer moves
  | notConnected pool =>
    simp only [step, taskStep] at moves
    split at moves
    · next waiting =>
      cases moves
      exact consistent.toPhase (by rw [waiting]; rfl) (inFlight_retryPhase pool)
        (tasks_retryPhase pool)
    · cases moves
  | flush ok mask => exact consistent.flush undisturbed moves
  | putBack => exact consistent.putBack limits moves
  | flushed pool =>
    simp only [step, taskStep] at moves
    split at moves
    · next done =>
      cases moves
      exact consistent.toPhase (by rw [done]; rfl) (inFlight_retryPhase pool)
        (tasks_retryPhase pool)
    · cases moves
  | startKind keys =>
    simp only [step, taskStep] at moves
    split at moves
    · next ready =>
      cases moves
      exact consistent.toPhase (by rw [ready]; rfl) rfl rfl
    · next kind kinds ready =>
      cases moves
      apply consistent.retask (by rw [ready]; rfl) rfl (List.Subset.refl _)
      · intro task inside entry holds
        obtain ⟨key, -, rfl⟩ := List.mem_map.mp inside
        cases holds
      · intro entry inside
        obtain ⟨key, -, same⟩ := List.mem_map.mp inside
        cases same
    · cases moves
  | get i found =>
    simp only [step, taskStep] at moves
    split at moves
    · next tasks kinds at_phase =>
      split at moves
      · next key at_i =>
        cases moves
        apply consistent.setTask at_phase (List.Subset.refl _)
        · intro entry holds other is_found
          cases found with
          | false => cases holds
          | true =>
            cases read : s.keydb key with
            | none =>
              rw [if_pos rfl, read] at holds
              cases holds
            | some read_entry =>
              rw [if_pos rfl, read] at holds
              cases holds
              rw [consistent.keydb_key key entry read, read] at is_found
              exact (Option.some.inj is_found).symm
        · intro entry same
          cases found with
          | false => cases same
          | true =>
            rw [if_pos rfl] at same
            cases read : s.keydb key with
            | none => rw [read] at same; cases same
            | some => rw [read] at same; cases same
      · cases moves
    · cases moves
  | write i result =>
    simp only [step, taskStep] at moves
    split at moves
    · next tasks kinds at_phase =>
      split at moves
      · next entry at_i =>
        have running : .holds entry ∈ s.phase.tasks := by
          rw [at_phase]
          exact List.mem_of_getElem? at_i
        have in_keydb := consistent.task_keydb _ running entry rfl
        split at moves
        · split at moves
          · cases moves
            apply consistent.setTask at_phase (List.subset_append_left _ _)
            · intro other holds
              cases holds
              exact in_keydb
            · intro other same
              cases same
              exact List.mem_append_right _ (List.mem_singleton.mpr rfl)
          · cases moves
            exact consistent.setTask at_phase (List.Subset.refl _) nofun nofun
        · cases moves
          apply consistent.setTask at_phase
          · split
            · exact List.subset_append_left _ _
            · exact List.Subset.refl _
          · exact nofun
          · exact nofun
      · cases moves
    · cases moves
  | remove i effect =>
    simp only [step, taskStep] at moves
    split at moves
    · next tasks kinds at_phase =>
      split at moves
      · next entry at_i =>
        cases moves
        have wrote : .wrote entry ∈ s.phase.tasks := by
          rw [at_phase]
          exact List.mem_of_getElem? at_i
        cases effect with
        | true =>
          exact (consistent.unset wrote).setTask at_phase (List.Subset.refl _) nofun nofun
        | false => exact consistent.setTask at_phase (List.Subset.refl _) nofun nofun
      · cases moves
    · cases moves
  | endKind =>
    simp only [step, taskStep] at moves
    split at moves
    · next tasks kinds at_phase =>
      split at moves
      · cases moves
        exact consistent.toPhase (by rw [at_phase]; rfl) rfl rfl
      · cases moves
    · cases moves

theorem Consistent.latestKept (consistent : Consistent s) : LatestKept s where
  kept key entry latest not_called not_in_flight := by
    apply (consistent.latest_kept key entry latest).imp_right ∘ Or.imp_right
    rintro (in_flight | in_buffer | called)
    · exact absurd in_flight not_in_flight
    · exact in_buffer
    · exact absurd called not_called
  flush ok mask s' moves key old new found is_new := by
    simp only [step, taskStep] at moves
    split at moves
    · next list lists at_phase =>
      cases moves
      have taken : (effective ok mask (list.take flushBatchSize)).Sublist s.phase.inFlight := by
        rw [at_phase]
        exact (effective_sublist _ _ _).trans
          ((List.take_sublist _ _).trans (List.sublist_append_left _ _))
      rcases setMany_cases (consistent.flight_order.sublist taken) s key with
        ⟨entry, inside, same, is_entry, -⟩ | ⟨-, unchanged⟩
      · cases is_entry.symm.trans is_new
        exact consistent.keydb_old key old found new (.inl (taken.subset inside)) same
      · cases (unchanged.symm.trans is_new).symm.trans found
        exact .refl _
    · cases moves
    · cases moves
  putBack s' moves kind entry inside := by
    simp only [step, taskStep] at moves
    split at moves
    · next chunk lists at_phase =>
      cases moves
      apply mem_putBackAll inside
      intro new there
      apply consistent.flight_apart new _ kind entry inside
      rw [at_phase]
      exact List.mem_append_left _ there
    · cases moves
  remove i effect s' moves key entry found is_gone := by
    simp only [step, taskStep] at moves
    split at moves
    · next tasks kinds at_phase =>
      split at moves
      · next last at_i =>
        cases moves
        have running : .wrote last ∈ s.phase.tasks := by
          rw [at_phase]
          exact List.mem_of_getElem? at_i
        refine ⟨last, by rw [at_phase]; exact at_i, ?_⟩
        cases effect with
        | false =>
          have found' : s.keydb key = none := is_gone
          rw [found] at found'
          cases found'
        | true =>
          have gone : Function.update s.keydb last.key none key = none := is_gone
          rw [Function.update_apply] at gone
          split at gone
          · next here =>
            rw [here] at found
            rw [consistent.task_keydb _ running last rfl entry found]
            exact .refl _
          · rw [found] at gone
            cases gone
      · cases moves
    · cases moves

end DbRetry

open DbRetry in
/-- In every run in which the calls of a key do not meet the flush and the retries, and in which
the buffer has room, the last entry of each key is kept. -/
theorem latestKept_of_reaches {s : DbRetry}
    (reaches : dbRetry.Reaches (fun label s => BelowLimits label s ∧ Undisturbed label s) {} s) :
    LatestKept s := by
  have consistent : Consistent s := by
    apply reaches.invariant (I := Consistent)
    · exact {
        buffer_kind := fun _ _ inside => absurd inside List.not_mem_nil
        buffer_fits := fun _ => .nil
        flight_order := .nil
        flight_apart := fun _ inside => absurd inside List.not_mem_nil
        flight_unique := nofun
        keydb_key := nofun
        keydb_old := nofun
        known := by
          rintro entry ((inside | ⟨_, inside⟩ | inside) | found)
          · exact absurd inside List.not_mem_nil
          · exact absurd inside List.not_mem_nil
          · exact absurd inside List.not_mem_nil
          · cases found
        latest_key := nofun
        latest_kept := nofun
        calls_latest := fun _ inside => absurd inside List.not_mem_nil
        task_keydb := fun _ inside => absurd inside List.not_mem_nil
        task_written := fun _ inside => absurd inside List.not_mem_nil }
    · exact fun _ _ _ consistent allowed moves =>
        consistent_step consistent allowed.1 allowed.2 moves
  exact consistent.latestKept

/-- A session waits in the buffer, goes to KeyDB and is written. -/
theorem latestKept_session :
    ∃ s : DbRetry, s.written = [⟨0, .session 5⟩] ∧ s.LatestKept := by
  obtain ⟨s, reaches, written⟩ := dbRetry.exists_reaches
    (fun label s => DbRetry.BelowLimits label s ∧ DbRetry.Undisturbed label s) {}
    [.enqueue (.session 5) false false, .toBuffer 0 0, .takeBuffer [] [], .flush true [],
      .flushed true, .startKind (some [⟨.session, "5"⟩]), .get 0 true, .write 0 (.ok true),
      .remove 0 true]
    (fun s => s.written == [⟨0, .session 5⟩]) (by decide +kernel)
  exact ⟨s, beq_iff_eq.mp written, latestKept_of_reaches reaches⟩

/-- A session is enqueued while KeyDB fails, and again when it works: the flush writes the older
entry over the newer one, and then there is no trace of that. -/
theorem older_over_newer :
    ¬ ∀ s : DbRetry, dbRetry.Reaches DbRetry.BelowLimits {} s → s.LatestKept := by
  intro claim
  obtain ⟨s, reaches, ends⟩ := dbRetry.exists_reaches DbRetry.BelowLimits {}
    [.enqueue (.session 5) false false, .toBuffer 0 0, .enqueue (.session 5) true true,
      .takeBuffer [] [], .flush true []]
    (fun s => s.latest ⟨.session, "5"⟩ == some ⟨1, .session 5⟩ && s.calls == [] &&
      s.phase == .flushing [] && s.written == [] &&
      s.keydb ⟨.session, "5"⟩ == some ⟨0, .session 5⟩ &&
      [DbRetryKind.session, .connServer, .user].all fun kind => s.buffer kind == [])
    (by decide +kernel)
  simp only [Bool.and_eq_true, beq_iff_eq, List.all_eq_true] at ends
  obtain ⟨⟨⟨⟨⟨latest, calls⟩, phase⟩, written⟩, keydb⟩, buffer⟩ := ends
  have kept := (claim s reaches).kept _ _ latest (by rw [calls]; exact List.not_mem_nil)
    (by rw [phase]; exact List.not_mem_nil)
  rw [written, keydb] at kept
  rcases kept with inside | same | ⟨kind, inside⟩
  · exact absurd inside List.not_mem_nil
  · cases same
  · rw [buffer kind (by cases kind <;> simp)] at inside
    exact absurd inside List.not_mem_nil

end TollBackend

import TollBackend.DbRetry.Queue

/-!
# Where the entries of the queue are

An entry that was enqueued is in KeyDB, in the buffer, on its way between them, or written. What
the calls do keeps the entries of each key in their order.

## Main definitions

* `DbRetry.Staged`: the entries that are in the buffer or on their way.
* `DbRetry.Consistent`: what holds between the places.

## Main results

* `DbRetry.Consistent.enqueue`, `DbRetry.Consistent.toBuffer`: the calls keep it.
* `DbRetry.Consistent.retask`: so do the retries.
-/

namespace TollBackend

/-! ### Order of entries -/

namespace DbRetryEntry

variable {a b c : DbRetryEntry}

theorem NotAfter.refl (a : DbRetryEntry) : a.NotAfter a := .inl rfl

theorem NotAfter.le (notAfter : a.NotAfter b) : a.number ≤ b.number := by
  rcases notAfter with rfl | less
  · exact Nat.le_refl _
  · exact Nat.le_of_lt less

theorem NotAfter.antisymm (first : a.NotAfter b) (second : b.NotAfter a) : a = b := by
  rcases first with same | less
  · exact same
  · exact absurd second.le (Nat.not_le.mpr less)

end DbRetryEntry

/-- The order in which a list of entries holds those of one key. -/
def InKeyOrder (a b : DbRetryEntry) : Prop :=
  a.key = b.key → a.NotAfter b

/-- How the entries of a buffer relate: a map has one for each key. -/
def DbRetryKind.InBuffer : DbRetryKind → DbRetryEntry → DbRetryEntry → Prop
  | .session => InKeyOrder
  | .connServer | .user => fun a b => a.key ≠ b.key

theorem DbRetryKind.InBuffer.inKeyOrder {kind : DbRetryKind} {a b : DbRetryEntry}
    (inBuffer : kind.InBuffer a b) : InKeyOrder a b := by
  cases kind with
  | session => exact inBuffer
  | connServer => exact fun same => absurd same inBuffer
  | user => exact fun same => absurd same inBuffer

theorem DbRetryKind.inBuffer_of_ne {kind : DbRetryKind} {a b : DbRetryEntry}
    (ne : a.key ≠ b.key) : kind.InBuffer a b := by
  cases kind with
  | session => exact fun same => absurd same ne
  | connServer => exact ne
  | user => exact ne

theorem insertByKey_of_without {buf : List DbRetryEntry} {entry : DbRetryEntry}
    (without : DbRetry.Without entry.key buf) : insertByKey buf entry = buf ++ [entry] := by
  have none : ¬(buf.any (·.key = entry.key)) = true := by
    rw [List.any_eq_true]
    rintro ⟨other, inside, same⟩
    exact without other inside (of_decide_eq_true same)
  rw [insertByKey, if_neg none]

/-- What is put into a map, and what is lost: an entry of the same key. -/
theorem mem_insertByKey {buf : List DbRetryEntry} {entry other : DbRetryEntry} :
    other ∈ insertByKey buf entry ↔
      other = entry ∨ other ∈ buf ∧ other.key ≠ entry.key := by
  unfold insertByKey
  split
  · next some =>
    rw [List.any_eq_true] at some
    obtain ⟨old, inside, same⟩ := some
    have same := of_decide_eq_true same
    rw [List.mem_map]
    constructor
    · rintro ⟨before, inside', rfl⟩
      split
      · exact .inl rfl
      · next ne => exact .inr ⟨inside', ne⟩
    · rintro (rfl | ⟨inside', ne⟩)
      · exact ⟨old, inside, if_pos same⟩
      · exact ⟨other, inside', if_neg ne⟩
  · next none =>
    rw [List.any_eq_true] at none
    rw [List.mem_append, List.mem_singleton]
    constructor
    · rintro (inside | rfl)
      · exact .inr ⟨inside, fun same => none ⟨other, inside, decide_eq_true same⟩⟩
      · exact .inl rfl
    · rintro (rfl | ⟨inside, -⟩)
      · exact .inr rfl
      · exact .inl inside

/-- A map keeps one entry for each key. -/
theorem pairwise_insertByKey {buf : List DbRetryEntry} (entry : DbRetryEntry)
    (unique : buf.Pairwise fun a b => a.key ≠ b.key) :
    (insertByKey buf entry).Pairwise fun a b => a.key ≠ b.key := by
  unfold insertByKey
  split
  · rw [List.pairwise_map]
    apply unique.imp
    intro a b ne
    split
    · next same_a =>
      split
      · next same_b => exact absurd (same_a.trans same_b.symm) ne
      · rwa [← same_a]
    · split
      · next same_b => rwa [← same_b]
      · exact ne
  · next none =>
    rw [List.any_eq_true] at none
    rw [List.pairwise_append]
    refine ⟨unique, List.pairwise_singleton _ _, fun a inside b is_entry same => ?_⟩
    rw [List.mem_singleton.mp is_entry] at same
    exact none ⟨a, inside, decide_eq_true same⟩

/-- An entry is put into a buffer of its kind that has room. -/
def DbRetryKind.insert (kind : DbRetryKind) (buf : List DbRetryEntry) (entry : DbRetryEntry) :
    List DbRetryEntry :=
  match kind with
  | .session => buf ++ [entry]
  | .connServer | .user => insertByKey buf entry

theorem pushBuffer_of_room {buf : List DbRetryEntry} {entry : DbRetryEntry}
    (room : buf.length < entry.kind.bufferMax) (victim : Nat) :
    pushBuffer buf entry victim = entry.kind.insert buf entry := by
  have full : decide (entry.kind.bufferMax ≤ buf.length) = false :=
    decide_eq_false (Nat.not_le.mpr room)
  simp only [pushBuffer, full, Bool.and_false, Bool.false_eq_true, if_false]
  rfl

theorem putBack_of_room {buf : List DbRetryEntry} {entry : DbRetryEntry}
    (room : buf.length < entry.kind.bufferMax) :
    putBack buf entry = entry.kind.insert buf entry := by
  have has_room : decide (buf.length < entry.kind.bufferMax) = true := decide_eq_true room
  simp only [putBack, has_room, Bool.true_or, if_true]
  rfl

namespace DbRetryKind

variable {kind : DbRetryKind} {buf : List DbRetryEntry} {entry other : DbRetryEntry}

theorem mem_of_mem_insert (inside : other ∈ kind.insert buf entry) :
    other = entry ∨ other ∈ buf := by
  cases kind with
  | session => exact (List.mem_append.mp inside).symm.imp_left List.mem_singleton.mp
  | connServer => exact (mem_insertByKey.mp inside).imp_right And.left
  | user => exact (mem_insertByKey.mp inside).imp_right And.left

theorem mem_insert (inside : other = entry ∨ other ∈ buf ∧ other.key ≠ entry.key) :
    other ∈ kind.insert buf entry := by
  cases kind with
  | session => exact List.mem_append.mpr (inside.symm.imp And.left List.mem_singleton.mpr)
  | connServer => exact mem_insertByKey.mpr inside
  | user => exact mem_insertByKey.mpr inside

/-- The latest entry of a key can be inserted. -/
theorem pairwise_insert (fits : buf.Pairwise kind.InBuffer)
    (latest : ∀ old ∈ buf, old.key = entry.key → old.NotAfter entry) :
    (kind.insert buf entry).Pairwise kind.InBuffer := by
  cases kind with
  | session =>
    refine List.pairwise_append.mpr ⟨fits, List.pairwise_singleton _ _, ?_⟩
    intro old inside new is_entry same
    rw [List.mem_singleton.mp is_entry] at same ⊢
    exact latest old inside same
  | connServer => exact pairwise_insertByKey entry fits
  | user => exact pairwise_insertByKey entry fits

/-- An entry whose key is not in the buffer is added at its end. -/
theorem insert_of_without (without : DbRetry.Without entry.key buf) :
    kind.insert buf entry = buf ++ [entry] := by
  cases kind with
  | session => rfl
  | connServer => exact insertByKey_of_without without
  | user => exact insertByKey_of_without without

end DbRetryKind

namespace DbRetry

variable {s s' : DbRetry}

/-- The entries that are in the buffer or on their way. -/
def Staged (s : DbRetry) (entry : DbRetryEntry) : Prop :=
  entry ∈ s.phase.inFlight ∨ (∃ kind, entry ∈ s.buffer kind) ∨ entry ∈ s.calls

/-- What holds between the places where entries are. KeyDB has none that is newer than one of its
key on the way, and all are in the order in which they were enqueued; the retries hold what is in
KeyDB; and the entry that was enqueued last for a key is in one of the places. -/
structure Consistent (s : DbRetry) : Prop where
  buffer_kind : ∀ kind, ∀ entry ∈ s.buffer kind, entry.kind = kind
  buffer_fits : ∀ kind : DbRetryKind, (s.buffer kind).Pairwise kind.InBuffer
  flight_order : s.phase.inFlight.Pairwise InKeyOrder
  flight_apart : ∀ entry ∈ s.phase.inFlight, ∀ kind, Without entry.key (s.buffer kind)
  flight_unique : ∀ chunk lists, s.phase = .puttingBack chunk lists →
    (s.phase.inFlight.map DbRetryEntry.key).Nodup
  keydb_key : ∀ key entry, s.keydb key = some entry → entry.key = key
  keydb_old : ∀ key old, s.keydb key = some old → ∀ entry, s.Staged entry → entry.key = key →
    old.NotAfter entry
  known : ∀ entry, s.Staged entry ∨ s.keydb entry.key = some entry →
    ∃ last, s.latest entry.key = some last ∧ entry.NotAfter last
  latest_key : ∀ key last, s.latest key = some last → last.key = key ∧ last.number < s.nextNumber
  latest_kept : ∀ key last, s.latest key = some last →
    last ∈ s.written ∨ s.keydb key = some last ∨ s.Staged last
  calls_latest : ∀ entry ∈ s.calls, s.latest entry.key = some entry
  task_keydb : ∀ task ∈ s.phase.tasks, ∀ entry, task.entry = some entry →
    ∀ found, s.keydb entry.key = some found → found = entry
  task_written : ∀ entry, .wrote entry ∈ s.phase.tasks → entry ∈ s.written

/-- An entry that replaces the latest one of its key is that one. -/
theorem Consistent.eq_of_replaced (consistent : Consistent s) {key : DbRetryKey}
    {last new : DbRetryEntry} (latest : s.latest key = some last) (staged : s.Staged new)
    (new_key : new.key = key) (last_old : last.NotAfter new) : new = last := by
  obtain ⟨last', latest', new_old⟩ := consistent.known new (.inl staged)
  rw [new_key, latest] at latest'
  cases latest'
  exact new_old.antisymm last_old

/-! ### Steps of the retries -/

/-- Where nothing is in flight before and after, only the tasks matter. -/
theorem Consistent.retask (consistent : Consistent s) {phase : DbRetryPhase}
    {written : List DbRetryEntry} (before : s.phase.inFlight = []) (after : phase.inFlight = [])
    (more : s.written ⊆ written)
    (task_keydb : ∀ task ∈ phase.tasks, ∀ entry, task.entry = some entry →
      ∀ found, s.keydb entry.key = some found → found = entry)
    (task_written : ∀ entry, .wrote entry ∈ phase.tasks → entry ∈ written) :
    Consistent { s with phase := phase, written := written } := by
  have staged (entry : DbRetryEntry) :
      Staged { s with phase := phase, written := written } entry ↔ s.Staged entry := by
    simp only [Staged, before, after]
  have empty (entry : DbRetryEntry) : entry ∉ phase.inFlight := by
    rw [after]
    exact List.not_mem_nil
  exact {
    buffer_kind := consistent.buffer_kind
    buffer_fits := consistent.buffer_fits
    flight_order := by
      change phase.inFlight.Pairwise InKeyOrder
      rw [after]
      exact .nil
    flight_apart := fun entry inside => absurd inside (empty entry)
    flight_unique := fun _ _ _ => by
      change (phase.inFlight.map DbRetryEntry.key).Nodup
      rw [after]
      exact List.nodup_nil
    keydb_key := consistent.keydb_key
    keydb_old := fun key old found entry inside =>
      consistent.keydb_old key old found entry ((staged entry).mp inside)
    known := fun entry inside => consistent.known entry (inside.imp_left (staged entry).mp)
    latest_key := consistent.latest_key
    latest_kept := fun key last latest =>
      (consistent.latest_kept key last latest).imp (@more _) (Or.imp_right (staged last).mpr)
    calls_latest := consistent.calls_latest
    task_keydb := task_keydb
    task_written := task_written }

/-! ### Steps of the calls -/

/-- What is known is older than what comes next. -/
theorem Consistent.number_lt (consistent : Consistent s) {entry : DbRetryEntry}
    (known : s.Staged entry ∨ s.keydb entry.key = some entry) : entry.number < s.nextNumber := by
  obtain ⟨last, latest, notAfter⟩ := consistent.known entry known
  exact Nat.lt_of_le_of_lt notAfter.le (consistent.latest_key _ _ latest).2

theorem Consistent.number_lt_of_keydb (consistent : Consistent s) {key : DbRetryKey}
    {entry : DbRetryEntry} (found : s.keydb key = some entry) : entry.number < s.nextNumber := by
  apply consistent.number_lt
  rw [consistent.keydb_key key entry found]
  exact .inr found

/-- The state after a call has begun: `sets` says that the entry is in KeyDB, and `waits` that it
has to go to the buffer. -/
def enqueued (s : DbRetry) (record : DbRetryRecord) (sets waits : Bool) : DbRetry :=
  let entry : DbRetryEntry := ⟨s.nextNumber, record⟩
  { s with
    nextNumber := s.nextNumber + 1
    latest := Function.update s.latest entry.key (some entry)
    keydb := if sets then Function.update s.keydb entry.key (some entry) else s.keydb
    calls := if waits then s.calls ++ [entry] else s.calls }

theorem enqueue_eq_some {record : DbRetryRecord} {ok effect : Bool}
    (moves : s.enqueue record ok effect = some s') :
    Without ⟨record.kind, record.logicalKey⟩ s.calls ∧
      s' = s.enqueued record (ok || effect) (!ok) := by
  unfold enqueue at moves
  dsimp only at moves
  split at moves
  · cases moves
  · next alone =>
    refine ⟨fun entry inside same => alone ?_, ?_⟩
    · exact List.any_eq_true.mpr ⟨entry, inside, decide_eq_true same⟩
    · cases moves
      cases ok <;> cases effect <;> rfl

theorem Consistent.enqueue (consistent : Consistent s) {record : DbRetryRecord}
    {sets waits : Bool} (somewhere : (sets || waits) = true)
    (alone : Without ⟨record.kind, record.logicalKey⟩ s.calls)
    (undisturbed : sets = true →
      Without ⟨record.kind, record.logicalKey⟩ s.phase.inFlight ∧
      Without ⟨record.kind, record.logicalKey⟩ (s.buffer record.kind) ∧
      Without ⟨record.kind, record.logicalKey⟩ (s.phase.tasks.filterMap DbRetryTask.entry)) :
    Consistent (s.enqueued record sets waits) := by
  set new : DbRetryEntry := ⟨s.nextNumber, record⟩ with new_eq
  set s' := s.enqueued record sets waits with s'_eq
  have latest (key : DbRetryKey) :
      s'.latest key = if key = new.key then some new else s.latest key :=
    Function.update_apply s.latest new.key (some new) key
  have keydb (key : DbRetryKey) : s'.keydb key =
      if sets = true ∧ key = new.key then some new else s.keydb key := by
    rw [s'_eq, enqueued]
    cases sets with
    | false => simp only [Bool.false_eq_true, false_and, if_false]
    | true =>
      dsimp only
      rw [if_pos rfl, Function.update_apply]
      simp only [true_and]
      rfl
  have staged (entry : DbRetryEntry) :
      s'.Staged entry ↔ s.Staged entry ∨ waits = true ∧ entry = new := by
    have calls : entry ∈ s'.calls ↔ entry ∈ s.calls ∨ waits = true ∧ entry = new := by
      rw [s'_eq, enqueued]
      cases waits with
      | false => simp
      | true => simp [new_eq]
    change (entry ∈ s.phase.inFlight ∨ (∃ kind, entry ∈ s.buffer kind) ∨ entry ∈ s'.calls) ↔ _
    rw [calls, Staged, or_assoc, or_assoc]
  have none_staged (sets : sets = true) (entry : DbRetryEntry) (inside : s.Staged entry) :
      entry.key ≠ new.key := by
    obtain ⟨no_flight, no_buffer, -⟩ := undisturbed sets
    rcases inside with in_flight | ⟨kind, in_buffer⟩ | in_calls
    · exact no_flight entry in_flight
    · intro same
      have kind_eq : record.kind = kind :=
        (congrArg DbRetryKey.kind same).symm.trans (consistent.buffer_kind kind entry in_buffer)
      rw [kind_eq] at no_buffer
      exact no_buffer entry in_buffer (by rw [same, ← kind_eq]; rfl)
    · exact alone entry in_calls
  exact {
    buffer_kind := consistent.buffer_kind
    buffer_fits := consistent.buffer_fits
    flight_order := consistent.flight_order
    flight_apart := consistent.flight_apart
    flight_unique := consistent.flight_unique
    keydb_key := by
      intro key entry found
      rw [keydb] at found
      split at found
      · next here => cases found; exact here.2.symm
      · exact consistent.keydb_key key entry found
    keydb_old := by
      intro key old found entry inside same
      rw [keydb] at found
      rw [staged] at inside
      split at found
      · next here =>
        cases found
        rcases inside with inside | ⟨-, rfl⟩
        · exact absurd (same.trans here.2) (none_staged here.1 entry inside)
        · exact .refl _
      · rcases inside with inside | ⟨-, rfl⟩
        · exact consistent.keydb_old key old found entry inside same
        · exact .inr (consistent.number_lt_of_keydb found)
    known := by
      intro entry inside
      rw [latest]
      rw [staged, keydb] at inside
      by_cases here : entry.key = new.key
      · refine ⟨new, if_pos here, ?_⟩
        rcases inside with (inside | ⟨-, rfl⟩) | found
        · exact .inr (consistent.number_lt (.inl inside))
        · exact .refl _
        · split at found
          · cases found; exact .refl _
          · exact .inr (consistent.number_lt (.inr found))
      · rw [if_neg here]
        apply consistent.known entry
        rcases inside with (inside | ⟨-, rfl⟩) | found
        · exact .inl inside
        · exact absurd rfl here
        · rw [if_neg (fun both => here both.2)] at found
          exact .inr found
    latest_key := by
      intro key last is_latest
      rw [latest] at is_latest
      split at is_latest
      · next here =>
        cases is_latest
        exact ⟨here.symm, Nat.lt_succ_self _⟩
      · have old := consistent.latest_key key last is_latest
        exact ⟨old.1, Nat.lt_succ_of_lt old.2⟩
    latest_kept := by
      intro key last is_latest
      rw [latest] at is_latest
      rw [keydb, staged]
      split at is_latest
      · next here =>
        cases is_latest
        cases set_or_waits : sets with
        | true => exact .inr (.inl (if_pos ⟨rfl, here⟩))
        | false =>
          rw [set_or_waits, Bool.false_or] at somewhere
          exact .inr (.inr (.inr ⟨somewhere, rfl⟩))
      · next elsewhere =>
        rw [if_neg (fun both => elsewhere both.2)]
        exact (consistent.latest_kept key last is_latest).imp_right (Or.imp_right Or.inl)
    calls_latest := by
      intro entry inside
      rw [latest]
      have inside : entry ∈ s.calls ∨ entry = new := by
        rw [s'_eq, enqueued] at inside
        cases waits with
        | false => exact .inl inside
        | true => exact (List.mem_append.mp inside).imp_right List.mem_singleton.mp
      rcases inside with inside | rfl
      · have elsewhere : entry.key ≠ new.key := alone entry inside
        rw [if_neg elsewhere]
        exact consistent.calls_latest entry inside
      · rw [if_pos rfl]
    task_keydb := by
      intro task running entry holds found is_found
      rw [keydb] at is_found
      split at is_found
      · next here =>
        exact absurd here.2 ((undisturbed here.1).2.2 entry
          (List.mem_filterMap.mpr ⟨task, running, holds⟩))
      · exact consistent.task_keydb task running entry holds found is_found
    task_written := consistent.task_written }

/-- An entry goes from a call to the buffer, where it may replace an older one of its key. -/
theorem Consistent.toBuffer (consistent : Consistent s) {i : Nat} {entry : DbRetryEntry}
    (at_i : s.calls[i]? = some entry)
    (room : (s.buffer entry.kind).length < entry.kind.bufferMax)
    (apart : Without entry.key s.phase.inFlight) (victim : Nat) :
    Consistent { s.setBuffer entry.kind (pushBuffer (s.buffer entry.kind) entry victim) with
      calls := s.calls.eraseIdx i } := by
  rw [pushBuffer_of_room room]
  set s' : DbRetry := { s.setBuffer entry.kind (entry.kind.insert (s.buffer entry.kind) entry) with
    calls := s.calls.eraseIdx i } with s'_eq
  have waits : entry ∈ s.calls := List.mem_of_getElem? at_i
  have latest := consistent.calls_latest entry waits
  have buffer (kind : DbRetryKind) : s'.buffer kind =
      if kind = entry.kind then entry.kind.insert (s.buffer entry.kind) entry
      else s.buffer kind :=
    Function.update_apply s.buffer entry.kind _ kind
  have of_buffer (kind : DbRetryKind) (other : DbRetryEntry) (inside : other ∈ s'.buffer kind) :
      other = entry ∧ kind = entry.kind ∨ other ∈ s.buffer kind := by
    rw [buffer] at inside
    split at inside
    · next here =>
      rw [here]
      exact (DbRetryKind.mem_of_mem_insert inside).imp_left fun same => ⟨same, rfl⟩
    · exact .inr inside
  have staged (other : DbRetryEntry) (inside : s'.Staged other) : s.Staged other := by
    rcases inside with in_flight | ⟨kind, in_buffer⟩ | in_calls
    · exact .inl in_flight
    · rcases of_buffer kind other in_buffer with ⟨rfl, -⟩ | old
      · exact .inr (.inr waits)
      · exact .inr (.inl ⟨kind, old⟩)
    · exact .inr (.inr (List.mem_of_mem_eraseIdx in_calls))
  have kept (key : DbRetryKey) (last : DbRetryEntry) (is_latest : s.latest key = some last)
      (inside : s.Staged last) : s'.Staged last := by
    by_cases same : last = entry
    · refine .inr (.inl ⟨entry.kind, ?_⟩)
      rw [buffer, if_pos rfl]
      exact DbRetryKind.mem_insert (.inl same)
    rcases inside with in_flight | ⟨kind, in_buffer⟩ | in_calls
    · exact .inl in_flight
    · refine .inr (.inl ⟨kind, ?_⟩)
      rw [buffer]
      split
      · next here =>
        rw [here] at in_buffer
        refine DbRetryKind.mem_insert (.inr ⟨in_buffer, fun same_key => same ?_⟩)
        -- the call has the latest entry of its key
        have last_key := (consistent.latest_key key last is_latest).1
        rw [← same_key, last_key, is_latest] at latest
        exact Option.some.inj latest
      · exact in_buffer
    · refine .inr (.inr ?_)
      obtain ⟨j, at_j⟩ := List.mem_iff_getElem?.mp in_calls
      refine List.mem_eraseIdx_iff_getElem?.mpr ⟨j, fun same_index => same ?_, at_j⟩
      rw [same_index, at_i] at at_j
      exact (Option.some.inj at_j).symm
  exact {
    buffer_kind := by
      intro kind other inside
      rcases of_buffer kind other inside with ⟨rfl, rfl⟩ | old
      · rfl
      · exact consistent.buffer_kind kind other old
    buffer_fits := by
      intro kind
      rw [buffer]
      split
      · next here =>
        rw [here]
        apply DbRetryKind.pairwise_insert (consistent.buffer_fits entry.kind)
        intro old inside same
        obtain ⟨last, is_latest, notAfter⟩ :=
          consistent.known old (.inl (.inr (.inl ⟨_, inside⟩)))
        rw [same, latest] at is_latest
        cases is_latest
        exact notAfter
      · exact consistent.buffer_fits kind
    flight_order := consistent.flight_order
    flight_apart := by
      intro other in_flight kind old inside same
      rcases of_buffer kind old inside with ⟨rfl, -⟩ | inside
      · exact apart other in_flight same.symm
      · exact consistent.flight_apart other in_flight kind old inside same
    flight_unique := consistent.flight_unique
    keydb_key := consistent.keydb_key
    keydb_old := fun key old found other inside =>
      consistent.keydb_old key old found other (staged other inside)
    known := fun other inside => consistent.known other (inside.imp_left (staged other))
    latest_key := consistent.latest_key
    latest_kept := fun key last is_latest =>
      (consistent.latest_kept key last is_latest).imp_right (Or.imp_right (kept key last is_latest))
    calls_latest := fun other inside =>
      consistent.calls_latest other (List.mem_of_mem_eraseIdx inside)
    task_keydb := consistent.task_keydb
    task_written := consistent.task_written }

end DbRetry

end TollBackend

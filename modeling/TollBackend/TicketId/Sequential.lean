import TollBackend.TicketId.Ids
import Mathlib.Data.Prod.Lex
import Mathlib.Data.Int.Interval
import Mathlib.Order.Monotone.Basic

/-!
# Ticket ids one after another

`TicketIdService` draws suffixes `1..suffix_max` under a prefix that it read from the database
sequence, fetches the next prefix ahead of time and makes a local id where the database fails.
The calls follow one another here, so a call finds the state the one before left.

## Main definitions

* `TicketIdState`: the four atomics, with the sequence calls and the UUIDs made so far.
* `TicketIdService.getNextTicketIdOnce`, `TicketIdService.getNextTicketIdForCheckin`.
* `TicketIdService.state`, `TicketIdService.call`: the states and the results of all calls.
* `TicketIdService.Sequential`: what the ids of all calls satisfy.

## Main results

* `TicketIdService.advances_once`: what one call does.
* `TicketIdService.sequential`: the ids of every sequence of calls, if the prefixes fit.
-/

namespace TollBackend

/-- The atomics of the service, and how often the sequence was called and a UUID made. The counter
is not bounded: it would take `2 ^ 63` calls to leave `i64`. -/
structure TicketIdState where
  currentPrefix : Int
  counter : Int
  nextPrefix : Int
  prefetchRequested : Bool
  sequenceCalls : Nat
  uuids : Nat
  deriving DecidableEq

/-- `TicketIdService::new`. -/
def TicketIdState.new : TicketIdState :=
  { currentPrefix := 0, counter := 0, nextPrefix := 0, prefetchRequested := false,
    sequenceCalls := 0, uuids := 0 }

/-- What the calls meet: the outcome of each sequence call (`none` is a failure), the hash of each
UUID and the clock. -/
structure TicketIdService where
  config : TicketIdConfig
  sequence : Nat → Option Int
  hash : Nat → UInt64
  timestampMs : Nat → Int

namespace TicketIdService

variable (service : TicketIdService)

/-- `fetch_next_seq_from_db`: zero on a failure. -/
def fetchNextSeqFromDb (s : TicketIdState) : Int × TicketIdState :=
  let called := { s with sequenceCalls := s.sequenceCalls + 1 }
  match service.sequence s.sequenceCalls with
  | some seq => if seq ≠ 0 then (seq, called) else (0, called)
  | none => (0, called)

/-- `generate_ticket_id_async`. -/
def generateTicketIdAsync (s : TicketIdState) : Int × TicketIdState :=
  (generateTicketIdLocal (service.hash s.uuids), { s with uuids := s.uuids + 1 })

/-- `maybe_trigger_prefetch`: once for each block, and awaited. -/
def maybeTriggerPrefetch (suffix : Int) (s : TicketIdState) : TicketIdState :=
  if suffix < service.config.prefetchThreshold then s
  else if s.prefetchRequested then s
  else
    let requested :=
      { s with prefetchRequested := true, sequenceCalls := s.sequenceCalls + 1 }
    match service.sequence s.sequenceCalls with
    | some seq => if seq ≠ 0 then { requested with nextPrefix := seq } else requested
    | none => requested

/-- `wait_or_fetch_next_prefix`. No other call is there to set `next_prefix`, so the fifty loads
all read the same. -/
def waitOrFetchNextPrefix (s : TicketIdState) : Int × TicketIdState :=
  if s.nextPrefix ≠ 0 then (s.nextPrefix, s) else service.fetchNextSeqFromDb s

/-- `get_next_ticket_id_once`: the id, and whether it is from a block. -/
def getNextTicketIdOnce (s : TicketIdState) : (Int × Bool) × TicketIdState :=
  if s.currentPrefix = 0 then
    let (seq, fetched) := service.fetchNextSeqFromDb s
    if seq = 0 then
      let (id, drawn) := service.generateTicketIdAsync fetched
      ((appendLastDigit1 id, false), drawn)
    else
      let first := { fetched with currentPrefix := seq, counter := 1 }
      ((appendLastDigit1 (service.config.blockId seq 1), true),
        service.maybeTriggerPrefetch 1 first)
  else
    let suffix := s.counter + 1
    let counted := { s with counter := s.counter + 1 }
    if suffix > service.config.suffixMax then
      let (next, waited) := service.waitOrFetchNextPrefix counted
      if next = 0 then
        let (id, drawn) := service.generateTicketIdAsync waited
        ((appendLastDigit1 id, false), drawn)
      else
        let switched :=
          { waited with
            currentPrefix := next, nextPrefix := 0, counter := 1, prefetchRequested := false }
        ((appendLastDigit1 (service.config.blockId next 1), true),
          service.maybeTriggerPrefetch 1 switched)
    else
      ((appendLastDigit1 (service.config.blockId s.currentPrefix suffix), true),
        service.maybeTriggerPrefetch suffix counted)

/-- The loop of `ensure_non_zero_ticket_id`, with the attempts that are left. -/
def regenerate : Nat → TicketIdState → Int × TicketIdState
  | 0, s => (max (service.timestampMs s.uuids) 1, s)
  | left + 1, s =>
    let (id, drawn) := service.generateTicketIdAsync s
    if id ≠ 0 then (id, drawn) else regenerate left drawn

/-- `ensure_non_zero_ticket_id`. -/
def ensureNonZeroTicketId (id : Int) (s : TicketIdState) : Int × TicketIdState :=
  if id ≠ 0 then (id, s) else service.regenerate 3 s

/-- `MAX_RETRIES`. -/
def maxRetries : Nat := 5

/-- An attempt of `get_next_ticket_id_for_checkin`, and what follows a zero. -/
def attempt (onZero : TicketIdState → (Int × Bool) × TicketIdState) (s : TicketIdState) :
    (Int × Bool) × TicketIdState :=
  let (result, after) := service.getNextTicketIdOnce s
  if result.1 ≠ 0 then (result, after) else onZero after

/-- What `get_next_ticket_id_for_checkin` does when the retries are used up. -/
def giveUp (s : TicketIdState) : (Int × Bool) × TicketIdState :=
  let (id, drawn) := service.generateTicketIdAsync s
  let (ensured, last) := service.ensureNonZeroTicketId id drawn
  ((ensured, false), last)

/-- The attempts with the retries that are left. -/
def attempts : Nat → TicketIdState → (Int × Bool) × TicketIdState
  | 0 => service.attempt service.giveUp
  | left + 1 => service.attempt (attempts left)

/-- `get_next_ticket_id_for_checkin`. The source drops the flag; here it tells the ids apart. -/
def getNextTicketIdForCheckin (s : TicketIdState) : (Int × Bool) × TicketIdState :=
  service.attempts maxRetries s

/-- The state before the call with the number. -/
def state : Nat → TicketIdState
  | 0 => .new
  | n + 1 => (service.getNextTicketIdForCheckin (state n)).2

/-- The id of the call with the number. -/
def id (n : Nat) : Int :=
  (service.getNextTicketIdForCheckin (service.state n)).1.1

/-- The id of the call is from a block. -/
def FromBlock (n : Nat) : Prop :=
  (service.getNextTicketIdForCheckin (service.state n)).1.2 = true

instance (n : Nat) : Decidable (service.FromBlock n) :=
  inferInstanceAs (Decidable (_ = true))

/-! ### What the ids satisfy -/

/-- The call gives the id of the prefix and the suffix. -/
structure FromPair (n : Nat) (prefix' suffix : Int) : Prop where
  fromBlock : service.FromBlock n
  first : 1 ≤ suffix
  last : suffix ≤ service.config.suffixMax
  eq : service.id n = service.config.ticketId prefix' suffix

/-- The value of a sequence call, zero if it failed. -/
def sequenceValue (k : Nat) : Int :=
  (service.sequence k).getD 0

/-- The ids of calls that are made one after another. -/
structure Sequential : Prop where
  /-- A block id is that of a suffix and a prefix that the sequence gave. -/
  form : ∀ n, service.FromBlock n →
    ∃ prefix' suffix, service.FromPair n prefix' suffix ∧
      ∃ k, service.sequence k = some prefix'
  rising : StrictMonoOn service.id { n | service.FromBlock n }
  few : ∀ (prefix' : Int) (calls : Finset Nat),
    (∀ n ∈ calls, ∃ suffix, service.FromPair n prefix' suffix) →
      (calls.card : Int) ≤ service.config.suffixMax
  never_twice : ∀ m n prefix' suffix,
    service.FromPair m prefix' suffix → service.FromPair n prefix' suffix → m = n
  /-- After a call without a block the next block has a fresh prefix. -/
  fresh : ∀ m n l, m < n → n < l → ¬ service.FromBlock n →
    ∀ prefix₁ suffix₁ prefix₂ suffix₂,
      service.FromPair m prefix₁ suffix₁ → service.FromPair l prefix₂ suffix₂ →
        prefix₁ < prefix₂
  /-- A call goes on with a block once the sequence answers again. -/
  resumes : ∀ n, service.sequenceValue (service.state n).sequenceCalls ≠ 0 →
    service.FromBlock n
  local_ne : ∀ n, ¬ service.FromBlock n → ∀ m, service.FromBlock m →
    service.id n ≠ service.id m

/-- The sequence gives positive values that rise, and all ids of a value fit. -/
structure RisingSequence (Small : Int → Prop) : Prop where
  positive : ∀ k value, service.sequence k = some value → 0 < value
  rising : ∀ j k value₁ value₂, j < k → service.sequence j = some value₁ →
    service.sequence k = some value₂ → value₁ < value₂
  small : ∀ k value, service.sequence k = some value → Small value

/-! ### One call -/

theorem fetchNextSeqFromDb_eq (s : TicketIdState) :
    service.fetchNextSeqFromDb s =
      (service.sequenceValue s.sequenceCalls,
        { s with sequenceCalls := s.sequenceCalls + 1 }) := by
  unfold fetchNextSeqFromDb sequenceValue
  cases service.sequence s.sequenceCalls with
  | none => rfl
  | some seq =>
    by_cases zero : seq = 0
    · simp [zero]
    · simp [zero]

variable {service}

theorem sequence_eq_some {k : Nat} (answered : service.sequenceValue k ≠ 0) :
    service.sequence k = some (service.sequenceValue k) := by
  unfold sequenceValue at answered ⊢
  cases read : service.sequence k with
  | none => exact absurd (by rw [read]; rfl) answered
  | some value => rfl

/-- What holds between calls: both prefixes are from the sequence, the next one larger. -/
structure Consistent (service : TicketIdService) (s : TicketIdState) : Prop where
  counter_nonneg : 0 ≤ s.counter
  current : s.currentPrefix ≠ 0 →
    ∃ k < s.sequenceCalls, service.sequence k = some s.currentPrefix
  next : s.nextPrefix ≠ 0 →
    s.currentPrefix ≠ 0 ∧ s.currentPrefix < s.nextPrefix ∧
      ∃ k < s.sequenceCalls, service.sequence k = some s.nextPrefix

/-- The prefix and the last suffix that was drawn. -/
def position (s : TicketIdState) : Int ×ₗ Int :=
  toLex (s.currentPrefix, s.counter)

theorem position_lt_of_larger {s s' : TicketIdState}
    (larger : s.currentPrefix < s'.currentPrefix) : position s < position s' := by
  apply Prod.Lex.toLex_lt_toLex.mpr
  exact .inl larger

theorem position_lt_of_counter {s s' : TicketIdState}
    (same : s.currentPrefix = s'.currentPrefix) (larger : s.counter < s'.counter) :
    position s < position s' := by
  apply Prod.Lex.toLex_lt_toLex.mpr
  exact .inr ⟨same, larger⟩

/-- What a call does: it draws the pair it leaves, or it fails with no suffix to draw. -/
structure Advances (service : TicketIdService) (s : TicketIdState)
    (result : Int × Bool) (s' : TicketIdState) : Prop where
  consistent : service.Consistent s'
  block : result.2 = true →
    position s < position s' ∧ s'.currentPrefix ≠ 0 ∧
      1 ≤ s'.counter ∧ s'.counter ≤ service.config.suffixMax ∧
      result.1 = appendLastDigit1 (service.config.blockId s'.currentPrefix s'.counter)
  localId : result.2 = false →
    position s ≤ position s' ∧
      (s'.currentPrefix = 0 ∨ service.config.suffixMax < s'.counter) ∧
      ∃ hash, result.1 = appendLastDigit1 (generateTicketIdLocal hash)

section

variable {Small : Int → Prop} {s : TicketIdState}

/-- The prefix in use is smaller than what a later call of the rises gives. -/
theorem Consistent.current_lt (rises : service.RisingSequence Small)
    (consistent : service.Consistent s) {k : Nat} {value : Int} (later : s.sequenceCalls ≤ k)
    (read : service.sequence k = some value) : s.currentPrefix < value := by
  by_cases unset : s.currentPrefix = 0
  · rw [unset]
    exact rises.positive k value read
  · obtain ⟨j, before, current⟩ := consistent.current unset
    exact rises.rising j k _ _ (lt_of_lt_of_le before later) current read

/-- A prefetch leaves prefix and counter. -/
theorem maybeTriggerPrefetch_position (service : TicketIdService) (s : TicketIdState)
    (suffix : Int) :
    (service.maybeTriggerPrefetch suffix s).currentPrefix = s.currentPrefix ∧
      (service.maybeTriggerPrefetch suffix s).counter = s.counter := by
  unfold maybeTriggerPrefetch
  split
  · exact ⟨rfl, rfl⟩
  · split
    · exact ⟨rfl, rfl⟩
    · dsimp only
      split
      · split <;> exact ⟨rfl, rfl⟩
      · exact ⟨rfl, rfl⟩

theorem Consistent.called (consistent : service.Consistent s) {s' : TicketIdState}
    (same : s'.counter = s.counter ∧ s'.currentPrefix = s.currentPrefix ∧
      s'.nextPrefix = s.nextPrefix)
    (later : s.sequenceCalls ≤ s'.sequenceCalls) : service.Consistent s' := by
  obtain ⟨counter, current, next⟩ := same
  refine ⟨by rw [counter]; exact consistent.counter_nonneg, fun set => ?_, fun set => ?_⟩
  · rw [current] at set ⊢
    obtain ⟨k, before, read⟩ := consistent.current set
    exact ⟨k, lt_of_lt_of_le before later, read⟩
  · rw [next] at set ⊢
    rw [current]
    obtain ⟨used, larger, k, before, read⟩ := consistent.next set
    exact ⟨used, larger, k, lt_of_lt_of_le before later, read⟩

theorem Consistent.maybeTriggerPrefetch (rises : service.RisingSequence Small)
    (consistent : service.Consistent s) (used : s.currentPrefix ≠ 0) (suffix : Int) :
    service.Consistent (service.maybeTriggerPrefetch suffix s) := by
  unfold TicketIdService.maybeTriggerPrefetch
  split
  · exact consistent
  · split
    · exact consistent
    · have requested : service.Consistent
          { s with prefetchRequested := true, sequenceCalls := s.sequenceCalls + 1 } :=
        consistent.called ⟨rfl, rfl, rfl⟩ (Nat.le_succ _)
      cases read : service.sequence s.sequenceCalls with
      | none => exact requested
      | some seq =>
        by_cases zero : seq = 0
        · simpa [zero] using requested
        · -- the value that is stored is larger than the prefix in use
          have larger := consistent.current_lt rises le_rfl read
          simp only [ne_eq, zero, not_false_eq_true, if_true]
          exact ⟨requested.counter_nonneg, requested.current,
            fun _ => ⟨used, larger, s.sequenceCalls, Nat.lt_succ_self _, read⟩⟩

/-- A call that drew the pair of the state it prefetches from. -/
theorem Advances.of_block (rises : service.RisingSequence Small)
    (drawn : TicketIdState) (consistent : service.Consistent drawn)
    (later : position s < position drawn) (set : drawn.currentPrefix ≠ 0)
    (first : 1 ≤ drawn.counter) (last : drawn.counter ≤ service.config.suffixMax) :
    service.Advances s
      (appendLastDigit1 (service.config.blockId drawn.currentPrefix drawn.counter), true)
      (service.maybeTriggerPrefetch drawn.counter drawn) := by
  obtain ⟨samePrefix, sameCounter⟩ := maybeTriggerPrefetch_position service drawn drawn.counter
  constructor
  · exact consistent.maybeTriggerPrefetch rises set drawn.counter
  · intro _
    unfold position at later ⊢
    rw [samePrefix, sameCounter]
    exact ⟨later, set, first, last, rfl⟩
  · intro wrong
    cases wrong

/-- A call that failed and made an id from a hash. -/
theorem Advances.of_local {failed : TicketIdState} (consistent : service.Consistent failed)
    (later : position s ≤ position failed)
    (spent : failed.currentPrefix = 0 ∨ service.config.suffixMax < failed.counter) :
    service.Advances s
      (appendLastDigit1 (service.generateTicketIdAsync failed).1, false)
      (service.generateTicketIdAsync failed).2 := by
  constructor
  · exact consistent.called ⟨rfl, rfl, rfl⟩ le_rfl
  · intro wrong
    cases wrong
  · intro _
    exact ⟨later, spent, service.hash failed.uuids, by rw [generateTicketIdAsync]⟩

/-- A call that starts the block of a prefix larger than the one before. -/
theorem Advances.of_start (rises : service.RisingSequence Small) (started : TicketIdState)
    (larger : s.currentPrefix < started.currentPrefix) (positive : 0 < started.currentPrefix)
    (counter : started.counter = 1) (next : started.nextPrefix = 0)
    (read : ∃ k < started.sequenceCalls, service.sequence k = some started.currentPrefix) :
    service.Advances s
      (appendLastDigit1 (service.config.blockId started.currentPrefix 1), true)
      (service.maybeTriggerPrefetch 1 started) := by
  have small := service.config.suffixMax_mem
  have kept : service.Consistent started :=
    ⟨by omega, fun _ => read, fun set => absurd next set⟩
  have drawn := Advances.of_block (s := s) rises started kept
    (position_lt_of_larger larger) (by omega) (by omega) (by omega)
  rw [counter] at drawn
  exact drawn

/-- Where the next prefix comes from: it was fetched before, or is fetched now, or is missing. -/
theorem waitOrFetchNextPrefix_cases (rises : service.RisingSequence Small)
    (consistent : service.Consistent s) :
    (service.waitOrFetchNextPrefix s).2.currentPrefix = s.currentPrefix ∧
      (service.waitOrFetchNextPrefix s).2.counter = s.counter ∧
      service.Consistent (service.waitOrFetchNextPrefix s).2 ∧
      ((service.waitOrFetchNextPrefix s).1 ≠ 0 →
        s.currentPrefix < (service.waitOrFetchNextPrefix s).1 ∧
          ∃ k < (service.waitOrFetchNextPrefix s).2.sequenceCalls,
            service.sequence k = some (service.waitOrFetchNextPrefix s).1) := by
  unfold waitOrFetchNextPrefix
  rw [fetchNextSeqFromDb_eq]
  by_cases fetched : s.nextPrefix ≠ 0
  · rw [if_pos fetched]
    exact ⟨rfl, rfl, consistent, fun _ => (consistent.next fetched).2⟩
  · rw [if_neg fetched]
    have called : service.Consistent { s with sequenceCalls := s.sequenceCalls + 1 } :=
      consistent.called ⟨rfl, rfl, rfl⟩ (Nat.le_succ _)
    refine ⟨rfl, rfl, called, fun answered => ?_⟩
    have read := sequence_eq_some answered
    exact ⟨consistent.current_lt rises le_rfl read, s.sequenceCalls, Nat.lt_succ_self _, read⟩

theorem advances_once (rises : service.RisingSequence Small)
    (consistent : service.Consistent s) :
    service.Advances s (service.getNextTicketIdOnce s).1 (service.getNextTicketIdOnce s).2 := by
  have small := service.config.suffixMax_mem
  unfold getNextTicketIdOnce
  by_cases unset : s.currentPrefix = 0
  · -- the first call, or all before it failed
    rw [if_pos unset, fetchNextSeqFromDb_eq]
    have called : service.Consistent { s with sequenceCalls := s.sequenceCalls + 1 } :=
      consistent.called ⟨rfl, rfl, rfl⟩ (Nat.le_succ _)
    by_cases failed : service.sequenceValue s.sequenceCalls = 0
    · simp only [failed, if_true]
      exact .of_local called le_rfl (.inl unset)
    · have read := sequence_eq_some failed
      have positive := rises.positive _ _ read
      simp only [failed, if_false]
      apply Advances.of_start rises
        { s with
          currentPrefix := service.sequenceValue s.sequenceCalls, counter := 1,
          sequenceCalls := s.sequenceCalls + 1 }
      · exact consistent.current_lt rises le_rfl read
      · exact positive
      · rfl
      · by_contra set
        exact (consistent.next set).1 unset
      · exact ⟨s.sequenceCalls, Nat.lt_succ_self _, read⟩
  · rw [if_neg unset]
    have counted : service.Consistent { s with counter := s.counter + 1 } := by
      have nonneg := consistent.counter_nonneg
      exact ⟨by dsimp only; omega, consistent.current, consistent.next⟩
    have drawn : position s < position { s with counter := s.counter + 1 } :=
      position_lt_of_counter rfl (by dsimp only; omega)
    by_cases rolls : s.counter + 1 > service.config.suffixMax
    · -- the suffixes are used up
      simp only [rolls, if_true]
      obtain ⟨samePrefix, sameCounter, waited, next⟩ :=
        waitOrFetchNextPrefix_cases rises counted
      generalize service.waitOrFetchNextPrefix { s with counter := s.counter + 1 } = answer
        at samePrefix sameCounter waited next
      by_cases failed : answer.1 = 0
      · simp only [failed, if_true]
        apply Advances.of_local waited
        · apply le_of_lt
          exact position_lt_of_counter samePrefix.symm (by rw [sameCounter]; dsimp only; omega)
        · right
          rw [sameCounter]
          exact rolls
      · obtain ⟨larger, k, before, read⟩ := next failed
        simp only [failed, if_false]
        apply Advances.of_start rises
          { answer.2 with
            currentPrefix := answer.1, nextPrefix := 0, counter := 1,
            prefetchRequested := false }
        · exact larger
        · exact rises.positive _ _ read
        · rfl
        · rfl
        · exact ⟨k, before, read⟩
    · simp only [rolls, if_false]
      have nonneg := consistent.counter_nonneg
      apply Advances.of_block rises { s with counter := s.counter + 1 } counted drawn unset
      · dsimp only
        omega
      · exact not_lt.mp rolls

variable {result : Int × Bool} {s' : TicketIdState}

/-- The id of a call that drew a pair. -/
theorem Advances.ticketId (rises : service.RisingSequence service.config.Fits)
    (advances : service.Advances s result s') (block : result.2 = true) :
    0 < s'.currentPrefix ∧
      result.1 = service.config.ticketId s'.currentPrefix s'.counter := by
  obtain ⟨_, set, first, last, eq⟩ := advances.block block
  obtain ⟨k, _, read⟩ := advances.consistent.current set
  have positive := rises.positive k _ read
  rw [eq]
  exact ⟨positive,
    service.config.appendLastDigit1_blockId (rises.small k _ read) positive first last⟩

theorem Advances.ne_zero (rises : service.RisingSequence service.config.Fits)
    (advances : service.Advances s result s') : result.1 ≠ 0 := by
  cases block : result.2 with
  | true =>
    obtain ⟨positive, eq⟩ := advances.ticketId rises block
    have first := (advances.block block).2.2.1
    have := service.config.ticketId_pos positive first
    omega
  | false =>
    obtain ⟨_, _, hash, eq⟩ := advances.localId block
    rw [eq]
    rcases appendLastDigit1_local hash with same | negative
    · rw [same]
      decide
    · omega

theorem attempt_of_ne_zero {onZero : TicketIdState → (Int × Bool) × TicketIdState}
    (answered : (service.getNextTicketIdOnce s).1.1 ≠ 0) :
    service.attempt onZero s = service.getNextTicketIdOnce s := by
  unfold attempt
  generalize service.getNextTicketIdOnce s = outcome at answered
  exact if_pos answered

/-- With ids that fit, no id is zero, so a call is its first attempt. -/
theorem advances_call (rises : service.RisingSequence service.config.Fits)
    (consistent : service.Consistent s) :
    service.getNextTicketIdForCheckin s = service.getNextTicketIdOnce s ∧
      service.Advances s (service.getNextTicketIdForCheckin s).1
        (service.getNextTicketIdForCheckin s).2 := by
  have advances := advances_once rises consistent
  have eq : service.getNextTicketIdForCheckin s = service.getNextTicketIdOnce s := by
    exact attempt_of_ne_zero (advances.ne_zero rises)
  rw [eq]
  exact ⟨rfl, advances⟩

end

/-! ### All calls -/

theorem consistent_new : service.Consistent .new :=
  ⟨le_rfl, fun set => absurd rfl set, fun set => absurd rfl set⟩

theorem consistent_state (rises : service.RisingSequence service.config.Fits) (n : Nat) :
    service.Consistent (service.state n) := by
  induction n with
  | zero => exact consistent_new
  | succ n kept => exact (advances_call rises kept).2.consistent

theorem advances_state (rises : service.RisingSequence service.config.Fits) (n : Nat) :
    service.Advances (service.state n)
      (service.getNextTicketIdForCheckin (service.state n)).1 (service.state (n + 1)) :=
  (advances_call rises (consistent_state rises n)).2

theorem position_monotone (rises : service.RisingSequence service.config.Fits) :
    Monotone fun n => position (service.state n) := by
  apply monotone_nat_of_le_succ
  intro n
  have advances := advances_state rises n
  cases block : (service.getNextTicketIdForCheckin (service.state n)).1.2 with
  | true => exact le_of_lt (advances.block block).1
  | false => exact (advances.localId block).1

/-- The pair of a call from a block is the position it leaves. -/
theorem fromPair_position (rises : service.RisingSequence service.config.Fits) {n : Nat}
    (block : service.FromBlock n) :
    service.FromPair n (service.state (n + 1)).currentPrefix (service.state (n + 1)).counter := by
  have advances := advances_state rises n
  obtain ⟨_, _, first, last, _⟩ := advances.block block
  exact ⟨block, first, last, (advances.ticketId rises block).2⟩

theorem FromPair.eq_position (rises : service.RisingSequence service.config.Fits) {n : Nat}
    {prefix' suffix : Int} (pair : service.FromPair n prefix' suffix) :
    prefix' = (service.state (n + 1)).currentPrefix ∧
      suffix = (service.state (n + 1)).counter := by
  have left := fromPair_position rises pair.fromBlock
  exact service.config.eq_of_ticketId_eq pair.first pair.last left.first left.last
    (pair.eq.symm.trans left.eq)

/-- From one block id to a later one the pair rises. -/
theorem position_lt (rises : service.RisingSequence service.config.Fits) {m n : Nat}
    (before : m < n) (block : service.FromBlock n) :
    position (service.state (m + 1)) < position (service.state (n + 1)) :=
  calc position (service.state (m + 1))
      ≤ position (service.state n) := position_monotone rises before
    _ < position (service.state (n + 1)) := ((advances_state rises n).block block).1

theorem strictMonoOn_id (rises : service.RisingSequence service.config.Fits) :
    StrictMonoOn service.id { n | service.FromBlock n } := by
  intro m blockM n blockN before
  have pairM := fromPair_position rises blockM
  have pairN := fromPair_position rises blockN
  rw [pairM.eq, pairN.eq]
  apply service.config.ticketId_lt_ticketId pairM.last pairN.first
  exact Prod.Lex.toLex_lt_toLex.mp (position_lt rises before blockN)

theorem never_twice (rises : service.RisingSequence service.config.Fits) {m n : Nat}
    {prefix' suffix : Int} (pairM : service.FromPair m prefix' suffix)
    (pairN : service.FromPair n prefix' suffix) : m = n :=
  (strictMonoOn_id rises).injOn pairM.fromBlock pairN.fromBlock (pairM.eq.trans pairN.eq.symm)

/-- The calls of a prefix have different suffixes. -/
theorem card_calls_le (rises : service.RisingSequence service.config.Fits) (prefix' : Int)
    (calls : Finset Nat) (all : ∀ n ∈ calls, ∃ suffix, service.FromPair n prefix' suffix) :
    (calls.card : Int) ≤ service.config.suffixMax := by
  have small := service.config.suffixMax_mem
  have pairs : ∀ n ∈ calls,
      service.FromPair n prefix' (service.state (n + 1)).counter := by
    intro n called
    obtain ⟨suffix, pair⟩ := all n called
    rw [← (pair.eq_position rises).2]
    exact pair
  have drawn : calls.card ≤ (Finset.Icc 1 service.config.suffixMax).card := by
    apply Finset.card_le_card_of_injOn fun n => (service.state (n + 1)).counter
    · intro n called
      have pair := pairs n called
      exact Finset.mem_coe.mpr (Finset.mem_Icc.mpr ⟨pair.first, pair.last⟩)
    · intro m calledM n calledN same
      have drawnM := pairs m calledM
      have drawnN := pairs n calledN
      dsimp only at same
      rw [← same] at drawnN
      exact never_twice rises drawnM drawnN
  rw [Int.card_Icc] at drawn
  omega

/-- Once a call made a local id, the suffixes of the prefix in use are used up. -/
theorem prefix_lt_of_local (rises : service.RisingSequence service.config.Fits) {m n l : Nat}
    (beforeN : m < n) (beforeL : n < l) (blockM : service.FromBlock m)
    (failed : ¬ service.FromBlock n) (blockL : service.FromBlock l) :
    (service.state (m + 1)).currentPrefix < (service.state (l + 1)).currentPrefix := by
  obtain ⟨later, spent, _⟩ :=
    (advances_state rises n).localId (Bool.not_eq_true _ ▸ failed)
  have positive := (advances_state rises m).ticketId rises blockM
  have upTo := (position_monotone rises (show m + 1 ≤ n from beforeN)).trans later
  have after := position_lt rises beforeL blockL
  have last := (fromPair_position rises blockL).last
  rcases Prod.Lex.toLex_le_toLex.mp upTo with upTo | upTo <;>
    rcases Prod.Lex.toLex_lt_toLex.mp after with after | after <;>
      dsimp only at upTo after <;> omega

/-- A call whose first sequence call would succeed gives a block id. -/
theorem block_of_answered {s : TicketIdState}
    (answered : service.sequenceValue s.sequenceCalls ≠ 0) :
    (service.getNextTicketIdOnce s).1.2 = true := by
  unfold getNextTicketIdOnce waitOrFetchNextPrefix
  by_cases unset : s.currentPrefix = 0
  · rw [fetchNextSeqFromDb_eq]
    simp only [unset, answered, if_true, if_false]
  · rw [if_neg unset]
    dsimp only
    rw [fetchNextSeqFromDb_eq]
    by_cases rolls : s.counter + 1 > service.config.suffixMax
    · by_cases fetched : s.nextPrefix ≠ 0
      · simp only [rolls, fetched, if_true, if_false, ne_eq, not_false_eq_true]
      · simp only [rolls, fetched, answered, if_true, if_false]
    · simp only [rolls, if_false]

theorem sequential (rises : service.RisingSequence service.config.Fits) :
    service.Sequential where
  form n block := by
    obtain ⟨_, set, _⟩ := (advances_state rises n).block block
    obtain ⟨k, _, read⟩ := (consistent_state rises (n + 1)).current set
    exact ⟨_, _, fromPair_position rises block, k, read⟩
  rising := strictMonoOn_id rises
  few := card_calls_le rises
  never_twice _ _ _ _ := never_twice rises
  fresh m n l beforeN beforeL failed prefix₁ suffix₁ prefix₂ suffix₂ pairM pairL := by
    rw [(pairM.eq_position rises).1, (pairL.eq_position rises).1]
    exact prefix_lt_of_local rises beforeN beforeL pairM.fromBlock failed pairL.fromBlock
  resumes n answered := by
    unfold FromBlock
    rw [(advances_call rises (consistent_state rises n)).1]
    exact block_of_answered answered
  local_ne n failed m block := by
    obtain ⟨_, _, hash, made⟩ :=
      (advances_state rises n).localId (Bool.not_eq_true _ ▸ failed)
    have pair := fromPair_position rises block
    have positive := ((advances_state rises m).ticketId rises block).1
    rw [pair.eq]
    unfold id
    rw [made]
    exact service.config.appendLastDigit1_local_ne hash positive pair.first

/-- Three suffixes; of the sequence calls the second and those from the fourth on fail. -/
def threeSuffixes : TicketIdService where
  config :=
    { suffixMax := 3, prefetchThreshold := 2, suffixMax_mem := by decide,
      prefetchThreshold_mem := by decide }
  sequence k := if k = 0 then some 5 else if k = 2 then some 7 else none
  hash _ := 42
  timestampMs _ := 1

theorem sequential_threeSuffixes :
    threeSuffixes.Sequential ∧
      (List.range 6).map threeSuffixes.id = [511, 521, 531, 711, 721, 731] ∧
      ¬ threeSuffixes.FromBlock 6 := by
  have values : ∀ k value, threeSuffixes.sequence k = some value →
      k = 0 ∧ value = 5 ∨ k = 2 ∧ value = 7 := by
    intro k value read
    unfold threeSuffixes at read
    dsimp only at read
    split at read
    · exact .inl ⟨by assumption, (Option.some.inj read).symm⟩
    · split at read
      · exact .inr ⟨by assumption, (Option.some.inj read).symm⟩
      · cases read
  refine ⟨sequential ⟨?_, ?_, ?_⟩, by decide +kernel, by decide +kernel⟩
  · intro k value read
    have := values k value read
    omega
  · intro j k value₁ value₂ before read₁ read₂
    have := values j value₁ read₁
    have := values k value₂ read₂
    omega
  · intro k value read
    rcases values k value read with ⟨_, rfl⟩ | ⟨_, rfl⟩ <;> decide

/-- The sequence gives a value whose ids fit in `i64`, but not with their last digit. -/
def largestValue : TicketIdService where
  config := .fromEnv none none
  sequence k := if k = 0 then some 92233720368547758 else none
  hash _ := 42
  timestampMs _ := 1

/-- The id is left without its last digit. -/
theorem largestValue_without_digit :
    largestValue.RisingSequence
        (fun value => value * largestValue.config.suffixMultiplier * 10 < 2 ^ 63) ∧
      ¬ largestValue.Sequential := by
  have values : ∀ k value, largestValue.sequence k = some value →
      k = 0 ∧ value = 92233720368547758 := by
    intro k value read
    unfold largestValue at read
    dsimp only at read
    split at read
    · exact ⟨by assumption, (Option.some.inj read).symm⟩
    · cases read
  constructor
  · constructor
    · intro k value read
      have := values k value read
      omega
    · intro j k value₁ value₂ before read₁ read₂
      have := values j value₁ read₁
      have := values k value₂ read₂
      omega
    · intro k value read
      obtain ⟨_, rfl⟩ := values k value read
      rw [TicketIdConfig.suffixMultiplier_eq]
      decide
  · intro sequential
    obtain ⟨prefix', suffix, pair, k, read⟩ := sequential.form 0 (by decide +kernel)
    obtain ⟨_, rfl⟩ := values k prefix' read
    have first := pair.first
    have eq := pair.eq
    rw [show largestValue.id 0 = 922337203685477581 by decide +kernel,
      TicketIdConfig.ticketId, TicketIdConfig.suffixMultiplier_eq] at eq
    omega

end TicketIdService

end TollBackend

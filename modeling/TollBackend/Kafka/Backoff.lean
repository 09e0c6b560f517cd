import TollBackend.Basic

/-!
# The delays between attempts to send

After a failed attempt the producer waits before the next one, each time twice as long up to a
limit. The power and the product are taken in 64 bits before the limit applies.

## Main definitions

* `KafkaConfig`: the number of attempts and the delays, as they can be configured.
* `retryDelayMs`: the delay after an attempt.
* `sendRawWithRetry`, `sendRawBatchWithRetry`: the loops.
* `BacksOff`: the loop waits as long as it should, and makes as many attempts.

## Main results

* `backsOff_iff`: the configurations with which the loops do.
* `backoff_drops_to_zero`: with the default delays, a retry that is not delayed at all.
-/

namespace TollBackend

/-- The part of the configuration that the loops read. -/
structure KafkaConfig where
  retries : UInt32 := 10
  retryInitialDelayMs : UInt64 := 1000
  retryMaxDelayMs : UInt64 := 60000

namespace KafkaConfig

variable (config : KafkaConfig)

/-- `retries.max(1)`. -/
def maxRetries : Nat :=
  max config.retries.toNat 1

/-- `(initial_ms * (1 << attempt)).min(max_ms)`. A build with overflow checks panics, and one
without takes the low bits of the shift and of the product. -/
def retryDelayMs (checks : Bool) (attempt : Nat) : Option Nat :=
  if checks then
    if attempt < 64 ∧ config.retryInitialDelayMs.toNat * 2 ^ attempt < 2 ^ 64 then
      some (min (config.retryInitialDelayMs.toNat * 2 ^ attempt) config.retryMaxDelayMs.toNat)
    else none
  else
    some (min (config.retryInitialDelayMs.toNat * 2 ^ (attempt % 64) % 2 ^ 64)
      config.retryMaxDelayMs.toNat)

/-- The delay in exact arithmetic. -/
def exactDelayMs (attempt : Nat) : Nat :=
  min (config.retryInitialDelayMs.toNat * 2 ^ attempt) config.retryMaxDelayMs.toNat

end KafkaConfig

/-! ### The loops -/

/-- What a loop did: its attempts, the delays between them, and how often it asked for another
connection. -/
structure SendRun where
  attempts : Nat
  delays : List Nat
  reconnects : Nat
  result : Except String Unit

/-- `RECONNECT_AFTER_CONSECUTIVE_TIMEOUTS`. -/
def reconnectAfterConsecutiveTimeouts : Nat :=
  3

/-- The timeouts in a row after an error, and whether they ask for another connection. -/
def timeoutsAfter (consecutiveTimeouts : Nat) (e : String) : Nat × Bool :=
  if containsStr e "timeout" || containsStr e "connection hung" then
    if reconnectAfterConsecutiveTimeouts ≤ consecutiveTimeouts + 1 then (0, true)
    else (consecutiveTimeouts + 1, false)
  else (0, false)

/-- The loop, with the attempts that are left; `none` is a panic. -/
def sendLoop (config : KafkaConfig) (checks : Bool) (send : Nat → Except String Unit) :
    Nat → Nat → Nat → Option SendRun
  | 0, _, _ => none
  | left + 1, attempt, consecutiveTimeouts =>
    match send attempt with
    | .ok () => some ⟨attempt + 1, [], 0, .ok ()⟩
    | .error e =>
      let (timeouts, reconnect) := timeoutsAfter consecutiveTimeouts e
      if attempt = config.maxRetries - 1 then
        some ⟨attempt + 1, [], reconnect.toNat, .error e⟩
      else do
        let delay ← config.retryDelayMs checks attempt
        let run ← sendLoop config checks send left (attempt + 1) timeouts
        some { run with delays := delay :: run.delays, reconnects := reconnect.toNat + run.reconnects }

/-- `send_raw_with_retry`. -/
def sendRawWithRetry (config : KafkaConfig) (checks : Bool) (send : Nat → Except String Unit) :
    Option SendRun :=
  sendLoop config checks send config.maxRetries 0 0

/-- `send_raw_batch_with_retry`, of records with their keys. -/
def sendRawBatchWithRetry (config : KafkaConfig) (checks : Bool)
    (send : Nat → Except String Unit) (records : List (Option String × List UInt8)) :
    Option SendRun :=
  if records.isEmpty then some ⟨0, [], 0, .ok ()⟩
  else sendLoop config checks send config.maxRetries 0 0

/-! ### The delays -/

/-- The loop returns, waits before each retry for the exact delay, which never gets shorter, and
gives up after the configured number of attempts. -/
def BacksOff (config : KafkaConfig) (send : Nat → Except String Unit) (run : Option SendRun) :
    Prop :=
  ∃ sent, run = some sent ∧
    sent.delays = (List.range (sent.attempts - 1)).map config.exactDelayMs ∧
    sent.delays.Pairwise (· ≤ ·) ∧
    ((∀ attempt, ∃ e, send attempt = .error e) → sent.attempts = config.maxRetries)

/-- No delay between the attempts overflows. -/
def KafkaConfig.DelaysFit (config : KafkaConfig) : Prop :=
  config.retries.toNat ≤ 1 ∨ (config.retries.toNat ≤ 65 ∧
    config.retryInitialDelayMs.toNat * 2 ^ (config.retries.toNat - 2) < 2 ^ 64)

section Delays

variable {config : KafkaConfig}

/-- A shift and a product that fit are exact, with and without checks. -/
theorem KafkaConfig.DelaysFit.retryDelayMs_eq (fit : config.DelaysFit) (checks : Bool)
    {attempt : Nat} (more : attempt + 1 < config.maxRetries) :
    config.retryDelayMs checks attempt = some (config.exactDelayMs attempt) := by
  rw [maxRetries] at more
  rcases fit with once | ⟨few, largest⟩
  · omega
  have small : attempt < 64 := by omega
  have product : config.retryInitialDelayMs.toNat * 2 ^ attempt < 2 ^ 64 := by
    apply lt_of_le_of_lt _ largest
    apply Nat.mul_le_mul_left
    exact Nat.pow_le_pow_right (by decide) (by omega)
  cases checks with
  | true =>
    rw [retryDelayMs, if_pos rfl, if_pos ⟨small, product⟩]
    rfl
  | false =>
    rw [retryDelayMs, if_neg Bool.false_ne_true, Nat.mod_eq_of_lt small,
      Nat.mod_eq_of_lt product]
    rfl

/-- The delays never get shorter. -/
theorem KafkaConfig.exactDelayMs_mono (config : KafkaConfig) : Monotone config.exactDelayMs := by
  intro a b le
  apply min_le_min_right
  apply Nat.mul_le_mul_left
  exact Nat.pow_le_pow_right (by decide) le

/-- The induction is on the attempts that are left. -/
theorem exists_sendLoop (fit : config.DelaysFit) (checks : Bool)
    (send : Nat → Except String Unit) {left attempt : Nat} (some_left : 0 < left)
    (all : attempt + left = config.maxRetries) (timeouts : Nat) :
    ∃ sent, sendLoop config checks send left attempt timeouts = some sent ∧
      attempt < sent.attempts ∧
      sent.delays =
        (List.range' attempt (sent.attempts - 1 - attempt)).map config.exactDelayMs ∧
      ((∀ attempt, ∃ e, send attempt = .error e) → sent.attempts = config.maxRetries) := by
  induction left generalizing attempt timeouts with
  | zero => omega
  | succ left ih =>
    rw [sendLoop]
    cases outcome : send attempt with
    | ok u =>
      refine ⟨_, rfl, Nat.lt_succ_self attempt, by simp, fun fails => ?_⟩
      obtain ⟨e, failed⟩ := fails attempt
      cases outcome.symm.trans failed
    | error e =>
      dsimp only
      by_cases last : attempt = config.maxRetries - 1
      · rw [if_pos last]
        have attempts : attempt + 1 = config.maxRetries := by omega
        exact ⟨_, rfl, Nat.lt_succ_self attempt, by simp, fun _ => attempts⟩
      · have more : attempt + 1 < config.maxRetries := by omega
        have rest : attempt + 1 + left = config.maxRetries := by omega
        rw [if_neg last, fit.retryDelayMs_eq checks more]
        obtain ⟨sent, ran, later, delays, given_up⟩ :=
          ih (by omega) rest (timeoutsAfter timeouts e).1
        rw [Option.bind_eq_bind, Option.bind_some, ran]
        refine ⟨_, rfl, lt_trans (Nat.lt_succ_self attempt) later, ?_, given_up⟩
        have length : sent.attempts - 1 - attempt = sent.attempts - 1 - (attempt + 1) + 1 := by
          omega
        rw [length, List.range'_succ, List.map_cons, delays]

/-- A run with overflow checks in which every attempt fails takes every delay. -/
theorem retryDelayMs_isSome {send : Nat → Except String Unit}
    (fails : ∀ attempt, ∃ e, send attempt = .error e) {left attempt : Nat}
    (all : attempt + left = config.maxRetries) {timeouts : Nat} {sent : SendRun}
    (ran : sendLoop config true send left attempt timeouts = some sent) (k : Nat)
    (from_here : attempt ≤ k) (more : k + 1 < config.maxRetries) :
    (config.retryDelayMs true k).isSome := by
  induction left generalizing attempt timeouts sent with
  | zero => cases ran
  | succ left ih =>
    obtain ⟨e, failed⟩ := fails attempt
    rw [sendLoop, failed] at ran
    dsimp only at ran
    rw [if_neg (by omega)] at ran
    obtain ⟨delay, here, ran⟩ := Option.bind_eq_some_iff.mp ran
    obtain ⟨rest, ran, -⟩ := Option.bind_eq_some_iff.mp ran
    by_cases at_k : k = attempt
    · rw [at_k, here]
      rfl
    · exact ih (by omega) ran (by omega)

theorem backsOff_of_delaysFit (fit : config.DelaysFit) (checks : Bool)
    (send : Nat → Except String Unit) :
    BacksOff config send (sendLoop config checks send config.maxRetries 0 0) := by
  have once : 0 < config.maxRetries := lt_of_lt_of_le Nat.zero_lt_one (le_max_right _ _)
  obtain ⟨sent, ran, -, delays, given_up⟩ :=
    exists_sendLoop fit checks send once (Nat.zero_add _) 0
  rw [Nat.sub_zero, ← List.range_eq_range'] at delays
  refine ⟨sent, ran, delays, ?_, given_up⟩
  rw [delays, List.pairwise_map]
  exact List.pairwise_lt_range.imp fun less => config.exactDelayMs_mono (Nat.le_of_lt less)

/-- Both loops wait as they should in every build and whatever the attempts give exactly when no
delay overflows. -/
theorem backsOff_iff (config : KafkaConfig) :
    (∀ (checks : Bool) (send : Nat → Except String Unit),
        BacksOff config send (sendRawWithRetry config checks send) ∧
          ∀ records, records ≠ [] →
            BacksOff config send (sendRawBatchWithRetry config checks send records)) ↔
      config.DelaysFit := by
  constructor
  · intro backs_off
    by_cases once : config.retries.toNat ≤ 1
    · exact .inl once
    obtain ⟨sent, ran, -⟩ := (backs_off true fun _ => .error "refused").1
    have taken := retryDelayMs_isSome (fun _ => ⟨_, rfl⟩) (Nat.zero_add _) ran
      (config.retries.toNat - 2) (Nat.zero_le _) (by rw [KafkaConfig.maxRetries]; omega)
    rw [KafkaConfig.retryDelayMs, if_pos rfl] at taken
    by_cases fits : config.retries.toNat - 2 < 64 ∧
        config.retryInitialDelayMs.toNat * 2 ^ (config.retries.toNat - 2) < 2 ^ 64
    · exact .inr ⟨by omega, fits.2⟩
    · rw [if_neg fits] at taken
      cases taken
  · intro fit checks send
    refine ⟨backsOff_of_delaysFit fit checks send, fun records some_record => ?_⟩
    rw [sendRawBatchWithRetry, List.isEmpty_eq_false_iff.mpr some_record]
    exact backsOff_of_delaysFit fit checks send

/-- With the default delays and more retries, the product is a multiple of `2 ^ 64` after the 62nd
attempt: the next one follows at once. -/
theorem backoff_drops_to_zero :
    ¬∀ (config : KafkaConfig) (send : Nat → Except String Unit),
      BacksOff config send (sendRawWithRetry config false send) := by
  intro claim
  obtain ⟨sent, ran, delays, -, given_up⟩ := claim { retries := 63 } fun _ => .error "refused"
  have attempts : sent.attempts = 63 := given_up fun _ => ⟨_, rfl⟩
  have last : sent.delays[61]? = some 0 := by
    have evaluated : (sendRawWithRetry { retries := 63 } false fun _ => .error "refused").map
        (fun run => run.delays[61]?) = some (some 0) := by decide +kernel
    rw [ran] at evaluated
    exact Option.some.inj evaluated
  rw [delays, attempts] at last
  exact absurd last (by decide +kernel)

end Delays

end TollBackend

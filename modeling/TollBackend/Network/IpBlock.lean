import TollBackend.Network.Connection

/-!
# Blocking of an address

The server counts the connections of an address that fail. `record_failure` adds one to a
counter in memory, and when it reaches the threshold, it removes the counter and writes to KeyDB
until when the address is blocked; `record_success` removes the counter. Which of the two is
called depends on how the task of the connection has ended: with an error, by the handshake
timeout, or otherwise. All that is modelled here is about one address.

## Main definitions

* `Guest`: a connection from the address, with its task and its handshake timer.
* `IpBlock`: the connections, the counter, the key in KeyDB and what has happened.
* `FailuresBlock`: failures in a row block the address, and only who has connected resets them.
* `FailuresCount`: the condition on a step under which it counts failures.

## Main results

* `failuresBlock_of_reaches`: where all steps count failures, the failures block the address.
-/

namespace TollBackend

open Concurrent Wire

/-- What the configuration says about blocking, and about the handshake. -/
structure IpBlockConfig where
  ipBlockEnabled : Bool := true
  ipBlockFailureThreshold : UInt32
  ipBlockDurationSeconds : UInt64
  handshakeTimeoutSeconds : UInt64

namespace IpBlockConfig

variable (cfg : IpBlockConfig)

/-- Failures are counted, and blocked addresses are refused. -/
def blocks : Bool :=
  cfg.ipBlockEnabled && decide (0 < cfg.ipBlockFailureThreshold.toNat)

/-- The end of a block that starts now: the sum is cut at the largest `u64`. -/
def blockEnd (now : Nat) : Nat :=
  min (now + cfg.ipBlockDurationSeconds.toNat) (2 ^ 64 - 1)

end IpBlockConfig

/-- A frame is next in the buffer that the task can not decrypt with any key that it has. -/
def Connection.facesUndecryptable (decrypt : String → Bytes → Option Bytes) (c : Connection) :
    Bool :=
  match c.control with
  | .buffer _ errors =>
    match scan errors c.buf with
    | .message payload _ => (c.decryptPayload decrypt payload).isNone
    | .wait | .ping _ | .skip _ | .giveUp => false
  | _ => false

/-- A connection from the address. `refused` says that `handle_connection` has returned an error,
`undecryptable` that a frame could not be decrypted, and `connected` that a `CONNECT` was answered
with status 0. -/
structure Guest where
  task : Connection := {}
  refused : Bool := false
  undecryptable : Bool := false
  connected : Bool := false
  timerDone : Bool := false
  closeSignal : Bool := false
  gone : Bool := false

namespace Guest

variable (g : Guest)

/-- `setup_keepalive` fails, before anything is read. -/
def keepaliveFails : Option Guest :=
  if g.task = {} then
    some { g with task := { g.task with control := .closed false }, refused := true }
  else none

/-- Without a key, or with an empty one, `handle_connection` returns an error. -/
def refuses : ConnectionLabel → Bool
  | .config keys => keys.isEmpty || keys.any fun key => (trim key).isEmpty
  | _ => false

/-- A step of `handle_connection`, which is dropped only when the connection ends. -/
def serve (decrypt : String → Bytes → Option Bytes) (label : ConnectionLabel) : Option Guest :=
  if label = .dropped then none
  else
    (g.task.step decrypt label).map fun task =>
      { g with
        task := task
        refused := g.refused || refuses label
        undecryptable :=
          g.undecryptable || (label == .go && g.task.facesUndecryptable decrypt) }

/-- The `CONNECT` that the task is processing gets status 0. -/
def connects : Option Guest :=
  match g.task.control with
  | .request _ request =>
    if request.command = Fe.CONNECT then some { g with connected := true } else none
  | _ => none

/-- The handshake timer ends. It looks for a session of the connection, which there is only
after a `CONNECT`, and without one it closes the connection. -/
def timerEnds (cfg : IpBlockConfig) (session : Bool) : Option Guest :=
  if cfg.handshakeTimeoutSeconds = 0 ∨ g.timerDone = true then none
  else if session = true ∧ g.connected = false then none
  else some { g with timerDone := true, closeSignal := g.closeSignal || !session }

/-- The connection has not been authenticated, and it ends for its keys, for a frame that it
could not decrypt, or by the handshake timeout. -/
def isFailure (timeout : Bool) : Bool :=
  !g.connected && (timeout || g.refused || g.undecryptable)

end Guest

/-- What has happened at the address. -/
inductive IpEvent
  /-- a connection has ended -/
  | ended (connected failure reset : Bool)
  /-- the threshold was reached -/
  | blocked (blockEnd : Nat)
deriving DecidableEq, Repr

/-- How far the accept loop is with `is_blocked`. -/
inductive IpCheck
  | idle
  | got (blockEnd : Option Nat)
  | resets (blockEnd : Nat)
  | removes
deriving DecidableEq, Repr

/-- The state of an address: the calls of `record_failure` that have been spawned, the writes of
KeyDB that they still have to do, and the key there. -/
structure IpBlock where
  now : Nat := 0
  check : IpCheck := .idle
  guests : List Guest := []
  failureCount : Nat := 0
  recording : Nat := 0
  blockWrites : List Nat := []
  blockKey : Option Nat := none
  log : List IpEvent := []

/-- What happens next at the address. -/
inductive IpLabel
  | tick (seconds : Nat)
  | accept
  | decide
  | checked
  | keepaliveFails (i : Nat)
  | serve (i : Nat) (label : ConnectionLabel)
  | connects (i : Nat)
  | timerEnds (i : Nat) (session : Bool)
  | finish (i : Nat) (timeout : Bool)
  | recordFailure
  | setBlock (j : Nat)

namespace IpBlock

variable (s : IpBlock)

/-- What `is_blocked` finds. -/
def IsBlocked : Prop :=
  ∃ blockEnd ∈ s.blockKey, s.now < blockEnd

instance : Decidable s.IsBlocked :=
  inferInstanceAs (Decidable (∃ blockEnd ∈ s.blockKey, s.now < blockEnd))

/-- A connection is let in. -/
def letIn : IpBlock :=
  { s with check := .idle, guests := s.guests ++ [{}] }

/-- A connection that has not ended goes on. -/
def onGuest (i : Nat) (f : Guest → Option Guest) : Option IpBlock :=
  s.guests[i]?.bind fun g =>
    if g.gone then none else (f g).map fun g' => { s with guests := s.guests.set i g' }

/-- A connection has ended: it is a failure with an error or a timeout, and else a success. -/
def ended (cfg : IpBlockConfig) (i : Nat) (g : Guest) (timeout : Bool) : IpBlock :=
  let connectionFailed := g.refused || timeout
  { s with
    guests := s.guests.set i { g with gone := true }
    recording := if cfg.blocks && connectionFailed then s.recording + 1 else s.recording
    failureCount := if cfg.blocks && !connectionFailed then 0 else s.failureCount
    log := .ended g.connected (g.isFailure timeout) (cfg.blocks && !connectionFailed) :: s.log }

/-- The `select!` of the connection: its task has returned, or the timer has signalled. -/
def finish (cfg : IpBlockConfig) (i : Nat) (timeout : Bool) : Option IpBlock :=
  s.guests[i]?.bind fun g =>
    if g.gone then none
    else if timeout then if g.closeSignal then some (s.ended cfg i g true) else none
    else
      match g.task.control with
      | .closed _ => some (s.ended cfg i g false)
      | _ => none

/-- `record_failure`, up to the write of KeyDB. -/
def recordFailure (cfg : IpBlockConfig) : IpBlock :=
  let count := min (s.failureCount + 1) (2 ^ 32 - 1)
  if cfg.ipBlockFailureThreshold.toNat ≤ count then
    { s with
      recording := s.recording - 1
      failureCount := 0
      blockWrites := s.blockWrites ++ [cfg.blockEnd s.now]
      log := .blocked (cfg.blockEnd s.now) :: s.log }
  else { s with recording := s.recording - 1, failureCount := count }

/-- A step, where it is possible. -/
def step (cfg : IpBlockConfig) (decrypt : String → Bytes → Option Bytes) (label : IpLabel) :
    Option IpBlock :=
  match label with
  | .tick seconds => some { s with now := s.now + seconds }
  | .accept =>
    if s.check = .idle then
      some (if cfg.blocks then { s with check := .got s.blockKey } else s.letIn)
    else none
  | .decide =>
    match s.check with
    | .got none => some s.letIn
    | .got (some blockEnd) =>
      -- an address that is still blocked is blocked for the whole duration again
      if s.now < blockEnd then some { s with check := .resets (cfg.blockEnd s.now) }
      else some { s with check := .removes }
    | .idle | .resets _ | .removes => none
  | .checked =>
    match s.check with
    | .resets blockEnd => some { s with blockKey := some blockEnd, check := .idle }
    | .removes => some { s with blockKey := none }.letIn
    | .idle | .got _ => none
  | .keepaliveFails i => s.onGuest i Guest.keepaliveFails
  | .serve i label => s.onGuest i (Guest.serve · decrypt label)
  | .connects i => s.onGuest i Guest.connects
  | .timerEnds i session => s.onGuest i (Guest.timerEnds · cfg session)
  | .finish i timeout => s.finish cfg i timeout
  | .recordFailure => if s.recording = 0 then none else some (s.recordFailure cfg)
  | .setBlock j =>
    s.blockWrites[j]?.map fun blockEnd =>
      { s with blockKey := some blockEnd, blockWrites := s.blockWrites.eraseIdx j }

end IpBlock

/-- The steps at one address. -/
def ipBlocking (cfg : IpBlockConfig) (decrypt : String → Bytes → Option Bytes) :
    Machine IpLabel IpBlock where
  step label s := s.step cfg decrypt label

/-! ### Failures in a row -/

/-- The failures since the last success and the last block. A connection that is neither a failure
nor a success does not interrupt them. -/
def failuresInARow : List IpEvent → Nat
  | [] => 0
  | .blocked _ :: _ => 0
  | .ended _ failure reset :: log =>
    if failure then failuresInARow log + 1 else if reset then 0 else failuresInARow log

/-- The end of the blocks so far. -/
def blockedUntil : List IpEvent → Nat
  | [] => 0
  | .blocked blockEnd :: log => max blockEnd (blockedUntil log)
  | .ended _ _ _ :: log => blockedUntil log

/-- When the failures have been recorded, there are less in a row than the threshold, as the last
of so many blocks the address. When the blocks have been written, the address is blocked as long
as one of them lasts. And who resets the counter has been authenticated, and so many failures in
a row have not come before it without a block. -/
structure FailuresBlock (cfg : IpBlockConfig) (s : IpBlock) : Prop where
  in_a_row : s.recording = 0 → failuresInARow s.log < cfg.ipBlockFailureThreshold.toNat
  blocked : s.blockWrites = [] → s.now < blockedUntil s.log → s.IsBlocked
  resets : ∀ connected failure log, .ended connected failure true :: log <:+ s.log →
    connected = true ∧ failuresInARow log < cfg.ipBlockFailureThreshold.toNat

/-- A connection that has not been authenticated is ended by the timer, or it was refused. A
connection succeeds only when all failures before it have been recorded. And a write of KeyDB
does not shorten a block that another one has written. -/
def FailuresCount (label : IpLabel) (s : IpBlock) : Prop :=
  match label with
  | .finish i timeout => ∀ g ∈ s.guests[i]?,
      (g.connected = false → timeout = true ∨ g.refused = true) ∧
      (timeout = false → g.refused = false → s.recording = 0)
  | .setBlock j => ∀ blockEnd ∈ s.blockWrites[j]?, ∀ b ∈ s.blockKey, b ≤ blockEnd
  | .checked =>
    match s.check with
    | .resets blockEnd => ∀ b ∈ s.blockKey, b ≤ blockEnd
    | .removes => ¬ s.IsBlocked
    | .idle | .got _ => True
  | _ => True

instance (label : IpLabel) (s : IpBlock) : Decidable (FailuresCount label s) := by
  unfold FailuresCount
  cases label <;> dsimp only <;> try infer_instance
  cases s.check <;> infer_instance


section Steps

variable {cfg : IpBlockConfig} {decrypt : String → Bytes → Option Bytes} {s s' : IpBlock}

theorem IpBlockConfig.blockEnd_mono {a b : Nat} (le : a ≤ b) : cfg.blockEnd a ≤ cfg.blockEnd b := by
  unfold IpBlockConfig.blockEnd
  omega

/-- A connection that goes on changes nothing but itself. -/
theorem IpBlock.eq_of_onGuest {i : Nat} {f : Guest → Option Guest}
    (moves : s.onGuest i f = some s') : ∃ guests, s' = { s with guests := guests } := by
  obtain ⟨g, -, moves⟩ := Option.bind_eq_some_iff.mp moves
  split at moves
  · cases moves
  · obtain ⟨g', -, rfl⟩ := Option.map_eq_some_iff.mp moves
    exact ⟨_, rfl⟩

/-- A connection that ends is there, and it ends by the timer or by itself. -/
theorem IpBlock.eq_of_finish {i : Nat} {timeout : Bool}
    (moves : s.finish cfg i timeout = some s') :
    ∃ g, s.guests[i]? = some g ∧ s' = s.ended cfg i g timeout := by
  obtain ⟨g, found, moves⟩ := Option.bind_eq_some_iff.mp moves
  refine ⟨g, found, ?_⟩
  split at moves
  · cases moves
  · cases timeout with
    | true =>
      rw [if_pos rfl] at moves
      split at moves
      · exact (Option.some.inj moves).symm
      · cases moves
    | false =>
      rw [if_neg Bool.false_ne_true] at moves
      split at moves
      · exact (Option.some.inj moves).symm
      · cases moves

/-- What holds at the address while all steps count failures: no failure is lost, and of the
latest block one write is still to come, or it is in KeyDB. -/
structure Counted (cfg : IpBlockConfig) (s : IpBlock) : Prop where
  below : s.failureCount < cfg.ipBlockFailureThreshold.toNat
  in_a_row : failuresInARow s.log ≤ s.failureCount + s.recording
  ahead : blockedUntil s.log ≤ cfg.blockEnd s.now
  kept : s.now < blockedUntil s.log →
    (∃ b ∈ s.blockWrites, blockedUntil s.log ≤ b) ∨ ∃ b ∈ s.blockKey, blockedUntil s.log ≤ b
  resets : ∀ connected failure log, .ended connected failure true :: log <:+ s.log →
    connected = true ∧ failuresInARow log < cfg.ipBlockFailureThreshold.toNat

namespace Counted

/-- The connections and the accept loop do not matter. -/
theorem of_eq (counted : Counted cfg s) (guests : List Guest) (check : IpCheck) :
    Counted cfg { s with guests := guests, check := check } where
  below := counted.below
  in_a_row := counted.in_a_row
  ahead := counted.ahead
  kept := counted.kept
  resets := counted.resets

theorem tick (counted : Counted cfg s) (seconds : Nat) :
    Counted cfg { s with now := s.now + seconds } where
  below := counted.below
  in_a_row := counted.in_a_row
  ahead := counted.ahead.trans (IpBlockConfig.blockEnd_mono (Nat.le_add_right _ _))
  kept lasts := counted.kept (by
    have : s.now + seconds < blockedUntil s.log := lasts
    omega)
  resets := counted.resets

/-- A write that does not shorten the block keeps it. -/
theorem write (counted : Counted cfg s) {blockEnd : Nat} {writes : List Nat} {check : IpCheck}
    (rises : ∀ b ∈ s.blockKey, b ≤ blockEnd)
    (rest : ∀ b ∈ s.blockWrites, b = blockEnd ∨ b ∈ writes) :
    Counted cfg { s with blockKey := some blockEnd, blockWrites := writes, check := check } where
  below := counted.below
  in_a_row := counted.in_a_row
  ahead := counted.ahead
  kept lasts := by
    obtain ⟨b, mem, high⟩ | ⟨b, mem, high⟩ := counted.kept lasts
    · obtain rfl | mem := rest b mem
      · exact Or.inr ⟨b, rfl, high⟩
      · exact Or.inl ⟨b, mem, high⟩
    · exact Or.inr ⟨blockEnd, rfl, high.trans (rises b mem)⟩
  resets := counted.resets

/-- A block that is over can be removed. -/
theorem remove (counted : Counted cfg s) (finished : ¬ s.IsBlocked) :
    Counted cfg { s with blockKey := none } where
  below := counted.below
  in_a_row := counted.in_a_row
  ahead := counted.ahead
  kept lasts := by
    obtain written | ⟨b, mem, high⟩ := counted.kept lasts
    · exact Or.inl written
    · exact absurd ⟨b, mem, lasts.trans_le high⟩ finished
  resets := counted.resets

theorem ended (counted : Counted cfg s) (blocks : cfg.blocks = true) {i : Nat} {g : Guest}
    {timeout : Bool} (unsuccessful : g.connected = false → timeout = true ∨ g.refused = true)
    (recorded : timeout = false → g.refused = false → s.recording = 0) :
    Counted cfg (s.ended cfg i g timeout) := by
  have row := counted.in_a_row
  unfold IpBlock.ended
  by_cases failed : (g.refused || timeout) = true
  · -- the failure is to be recorded, and whether or not it is one in a row, none is lost
    simp only [failed, blocks, Bool.not_true, Bool.and_false, Bool.and_true, if_true,
      Bool.false_eq_true, if_false]
    refine ⟨counted.below, ?_, counted.ahead, counted.kept, ?_⟩
    · simp only [failuresInARow, Bool.false_eq_true, if_false]
      split <;> omega
    · intro connected failure log before
      obtain same | before := List.suffix_cons_iff.mp before
      · cases same
      · exact counted.resets connected failure log before
  · -- only who is authenticated succeeds, which is no failure in a row
    rw [Bool.not_eq_true, Bool.or_eq_false_iff] at failed
    obtain ⟨not_refused, in_time⟩ := failed
    have connected : g.connected = true := by
      by_contra not_connected
      rw [Bool.not_eq_true] at not_connected
      obtain out | refused := unsuccessful not_connected
      · exact absurd out (by rw [in_time]; exact Bool.false_ne_true)
      · exact absurd refused (by rw [not_refused]; exact Bool.false_ne_true)
    simp only [not_refused, in_time, blocks, Bool.or_false, Bool.not_false, Bool.and_true, if_true,
      Bool.and_false, Bool.false_eq_true, if_false]
    refine ⟨(Nat.zero_le _).trans_lt counted.below, ?_, counted.ahead, counted.kept, ?_⟩
    · simp [failuresInARow, Guest.isFailure, connected]
    · intro c failure log before
      obtain same | before := List.suffix_cons_iff.mp before
      · cases same
        have below := counted.below
        have all_recorded := recorded in_time not_refused
        exact ⟨connected, by omega⟩
      · exact counted.resets c failure log before

theorem recordFailure (counted : Counted cfg s) :
    Counted cfg (s.recordFailure cfg) := by
  have row := counted.in_a_row
  have below := counted.below
  have small := cfg.ipBlockFailureThreshold.toNat_lt
  have resets : ∀ {b} connected failure log,
      .ended connected failure true :: log <:+ .blocked b :: s.log →
      connected = true ∧ failuresInARow log < cfg.ipBlockFailureThreshold.toNat := by
    intro b connected failure log before
    obtain same | before := List.suffix_cons_iff.mp before
    · cases same
    · exact counted.resets connected failure log before
  unfold IpBlock.recordFailure
  dsimp only
  split
  · next reached =>
    -- the block that starts now lasts the longest
    have longest : blockedUntil (.blocked (cfg.blockEnd s.now) :: s.log) = cfg.blockEnd s.now :=
      max_eq_left counted.ahead
    refine ⟨by dsimp only; omega, Nat.zero_le _, longest.le, fun _ => Or.inl ?_, resets⟩
    exact ⟨cfg.blockEnd s.now, by simp, longest.le⟩
  · next not_reached =>
    -- the counter is not saturated, as it is below a threshold of 32 bits
    refine ⟨by dsimp only; omega, ?_, counted.ahead, counted.kept, counted.resets⟩
    dsimp only
    omega

end Counted

theorem counted_step (blocks : cfg.blocks = true) {label : IpLabel} (counted : Counted cfg s)
    (counts : FailuresCount label s) (moves : s.step cfg decrypt label = some s') :
    Counted cfg s' := by
  have goes_on : ∀ {i f}, s.onGuest i f = some s' → Counted cfg s' := by
    intro i f moves
    obtain ⟨guests, rfl⟩ := IpBlock.eq_of_onGuest moves
    exact counted.of_eq guests s.check
  cases label with
  | tick seconds =>
    cases moves
    exact counted.tick seconds
  | accept =>
    simp only [IpBlock.step, blocks, if_true] at moves
    split at moves
    · cases moves
      exact counted.of_eq s.guests _
    · cases moves
  | decide =>
    simp only [IpBlock.step] at moves
    split at moves
    · cases moves
      exact counted.of_eq _ .idle
    · split at moves
      · cases moves
        exact counted.of_eq s.guests _
      · cases moves
        exact counted.of_eq s.guests _
    all_goals cases moves
  | checked =>
    simp only [IpBlock.step] at moves
    split at moves
    · next blockEnd check =>
      cases moves
      simp only [FailuresCount, check] at counts
      exact counted.write counts fun b mem => Or.inr mem
    · next check =>
      cases moves
      simp only [FailuresCount, check] at counts
      exact (counted.remove counts).of_eq _ .idle
    all_goals cases moves
  | keepaliveFails i => exact goes_on moves
  | serve i label => exact goes_on moves
  | connects i => exact goes_on moves
  | timerEnds i session => exact goes_on moves
  | finish i timeout =>
    obtain ⟨g, found, rfl⟩ := IpBlock.eq_of_finish moves
    obtain ⟨unsuccessful, recorded⟩ := counts g found
    exact counted.ended blocks unsuccessful recorded
  | recordFailure =>
    simp only [IpBlock.step] at moves
    split at moves
    · cases moves
    · cases moves
      exact counted.recordFailure
  | setBlock j =>
    obtain ⟨blockEnd, found, rfl⟩ := Option.map_eq_some_iff.mp moves
    refine counted.write (counts blockEnd found) fun b mem => ?_
    by_cases same : b = blockEnd
    · exact Or.inl same
    · -- only the write that is done is taken from those that are to come
      obtain ⟨k, bound, rfl⟩ := List.getElem_of_mem mem
      refine Or.inr (List.mem_eraseIdx_iff_getElem.mpr ⟨k, bound, ?_, rfl⟩)
      rintro rfl
      rw [List.getElem?_eq_getElem bound] at found
      exact same (Option.some.inj found)

end Steps

/-- Where all steps count failures, failures in a row block the address, and nobody who was not
authenticated resets them. -/
theorem failuresBlock_of_reaches {cfg : IpBlockConfig}
    {decrypt : String → Bytes → Option Bytes} {s : IpBlock}
    (enabled : cfg.ipBlockEnabled = true) (threshold : 1 ≤ cfg.ipBlockFailureThreshold.toNat)
    (reaches : (ipBlocking cfg decrypt).Reaches FailuresCount {} s) : FailuresBlock cfg s := by
  have blocks : cfg.blocks = true := by
    unfold IpBlockConfig.blocks
    simp only [enabled, Bool.true_and, decide_eq_true_eq]
    exact threshold
  have start : Counted cfg {} :=
    ⟨threshold, Nat.le_refl 0, Nat.zero_le _, nofun, fun _ _ _ before => by
      cases List.suffix_nil.mp before⟩
  have counted : Counted cfg s :=
    reaches.invariant start fun label a b counted counts moves =>
      counted_step blocks counted counts moves
  refine ⟨fun recorded => ?_, fun written lasts => ?_, counted.resets⟩
  · have row := counted.in_a_row
    rw [recorded] at row
    exact row.trans_lt counted.below
  · obtain ⟨b, mem, -⟩ | ⟨b, mem, high⟩ := counted.kept lasts
    · rw [written] at mem
      cases mem
    · exact ⟨b, mem, lasts.trans_le high⟩

/-- Two failures block an address for a minute. -/
def twoFailures : IpBlockConfig where
  ipBlockFailureThreshold := 2
  ipBlockDurationSeconds := 60
  handshakeTimeoutSeconds := 10

/-- A connection for which no key is configured. -/
def keyless (i : Nat) : List IpLabel :=
  [.accept, .decide, .serve i (.read [0]), .serve i (.config []), .finish i false, .recordFailure]

/-- Two connections without a key block their address. -/
theorem failuresBlock_keyless :
    ∃ s, s.IsBlocked ∧ FailuresBlock twoFailures s := by
  obtain ⟨s, reaches, blocked⟩ :=
    (ipBlocking twoFailures fun _ _ => none).exists_reaches FailuresCount {}
      (keyless 0 ++ keyless 1 ++ [.setBlock 0]) (fun s => decide s.IsBlocked) (by decide +kernel)
  exact ⟨s, of_decide_eq_true blocked, failuresBlock_of_reaches rfl (by decide) reaches⟩

/-- A connection that sends a frame that can not be decrypted, and closes. -/
def undecryptableThenEof (i : Nat) : List IpLabel :=
  [.accept, .decide, .serve i (.read ([20, 0, 0, 0] ++ List.replicate 16 0)),
    .serve i (.config ["0123456789abcdef"]), .serve i .go, .serve i .go, .serve i .go,
    .serve i .eof, .finish i false]

/-- After a connection without a key, one with a frame that can not be decrypted is the second
failure in a row. It resets the counter, and the address is not blocked. -/
theorem undecryptable_resets :
    ¬ ∀ (cfg : IpBlockConfig) (decrypt : String → Bytes → Option Bytes) (s : IpBlock),
      cfg.ipBlockEnabled = true → 1 ≤ cfg.ipBlockFailureThreshold.toNat →
        (ipBlocking cfg decrypt).Reaches (fun _ _ => True) {} s → FailuresBlock cfg s := by
  intro claim
  obtain ⟨s, reaches, ends⟩ :=
    (ipBlocking twoFailures fun _ _ => none).exists_reaches (fun _ _ => True) {}
      (keyless 0 ++ undecryptableThenEof 1)
      (fun s => s.recording == 0 &&
        s.log == [.ended false true true, .ended false true false]) (by decide +kernel)
  rw [Bool.and_eq_true, beq_iff_eq, beq_iff_eq] at ends
  have holds := claim twoFailures (fun _ _ => none) s rfl (by decide) reaches
  have below := holds.in_a_row ends.1
  rw [ends.2] at below
  exact absurd below (by decide)

end TollBackend

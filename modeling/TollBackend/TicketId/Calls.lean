import TollBackend.Concurrent.Machine
import TollBackend.TicketId.Sequential
import Mathlib.Logic.Function.Basic

/-!
# Ticket ids of calls that overlap

The prefix, the counter, the next prefix and the flag of `TicketIdService` are four atomics without
a lock. Here each load, store, `fetch_add` and `compare_exchange` is a step of its own, and the
steps of all calls are taken in any order.

## Main definitions

* `TicketIdTask`: where a call of `get_next_ticket_id_for_checkin` is.
* `TicketIdCalls`, `ticketIdMachine`: the atomics and all calls, and their steps.
* `TicketIdStep.Answers`: what the sequence and the local generator are promised to do.
* `TicketIdStep.Apart`: a step that meets no other call between two stores.
* `TicketIdCalls.Distinct`: no ticket id is returned by two calls.
-/

namespace TollBackend

open Concurrent

/-- Where an id comes from: a prefix and a suffix, or the local generator, or the clock. -/
inductive TicketIdSource
  | block (prefix' suffix : Int)
  | generated (value : Int)
  | clock
  deriving DecidableEq

/-- Where a call is: in front of the step of this name. -/
inductive TicketIdTask
  | idle
  | loadPrefix (attempt : Nat)
  | fetchFirst (attempt : Nat)
  | storePrefix (attempt : Nat) (seq : Int)
  | storeCounter (attempt : Nat) (seq : Int)
  | drawSuffix (attempt : Nat) (prefix' : Int)
  | waitForNext (attempt left : Nat)
  | fetchNext (attempt : Nat)
  | switchPrefix (attempt : Nat) (next : Int)
  | resetNext (attempt : Nat) (next : Int)
  | switchCounter (attempt : Nat) (next : Int)
  | resetRequested (attempt : Nat) (next : Int)
  | requestPrefetch (attempt : Nat) (prefix' suffix : Int)
  | prefetch (attempt : Nat) (prefix' suffix : Int)
  | storeNext (attempt : Nat) (prefix' suffix seq : Int)
  | generate (attempt : Nat)
  | regenerate (left : Nat)
  | readClock
  | done (id : Int) (source : TicketIdSource)
  deriving DecidableEq

/-- The atomics, where each call is, and which values the sequence and the local generator have
given so far. Calls are numbered as they start. -/
structure TicketIdCalls where
  currentPrefix : Int := 0
  counter : Int := 0
  nextPrefix : Int := 0
  prefetchRequested : Bool := false
  tasks : Nat → TicketIdTask := fun _ => .idle
  started : Nat := 0
  values : List Int := []
  generated : List Int := []

/-- A step of a call, with what it would be told: the value of the sequence (`none` is a failure),
the hash of a UUID, and the clock. -/
structure TicketIdStep where
  call : Nat
  sequence : Option Int := none
  hash : UInt64 := 0
  timestampMs : Int := 0

/-- An attempt has the id: it is returned, or there is another attempt. -/
def TicketIdTask.finish (attempt : Nat) (id : Int) (source : TicketIdSource) : TicketIdTask :=
  if appendLastDigit1 id ≠ 0 then .done (appendLastDigit1 id) source
  else if attempt < TicketIdService.maxRetries then .loadPrefix (attempt + 1)
  else .regenerate 3

namespace TicketIdConfig

variable (config : TicketIdConfig)

/-- An attempt has drawn its suffix. -/
def finishBlock (attempt : Nat) (prefix' suffix : Int) : TicketIdTask :=
  .finish attempt (config.blockId prefix' suffix) (.block prefix' suffix)

/-- The threshold of `maybe_trigger_prefetch`. -/
def maybeTriggerPrefetch (attempt : Nat) (prefix' suffix : Int) : TicketIdTask :=
  if suffix < config.prefetchThreshold then config.finishBlock attempt prefix' suffix
  else .requestPrefetch attempt prefix' suffix

end TicketIdConfig

namespace TicketIdCalls

variable (config : TicketIdConfig)

/-- The call goes on. -/
def goTo (s : TicketIdCalls) (call : Nat) (task : TicketIdTask) : TicketIdCalls :=
  { s with tasks := Function.update s.tasks call task }

/-- The sequence is called: a value other than zero counts. -/
def callSequence (s : TicketIdCalls) (step : TicketIdStep) (onValue : Int → TicketIdTask)
    (onFailure : TicketIdTask) : TicketIdCalls :=
  match step.sequence with
  | some seq =>
    if seq ≠ 0 then { s with values := seq :: s.values }.goTo step.call (onValue seq)
    else s.goTo step.call onFailure
  | none => s.goTo step.call onFailure

/-- One step. A call that has returned takes none. -/
def exec (s : TicketIdCalls) (step : TicketIdStep) : Option TicketIdCalls :=
  let call := step.call
  match s.tasks call with
  | .idle =>
      if call = s.started then
        some ({ s with started := s.started + 1 }.goTo call (.loadPrefix 0))
      else none
  | .loadPrefix attempt =>
      some (s.goTo call (if s.currentPrefix = 0 then .fetchFirst attempt
        else .drawSuffix attempt s.currentPrefix))
  | .fetchFirst attempt => some (s.callSequence step (.storePrefix attempt) (.generate attempt))
  | .storePrefix attempt seq =>
      some ({ s with currentPrefix := seq }.goTo call (.storeCounter attempt seq))
  | .storeCounter attempt seq =>
      some ({ s with counter := 1 }.goTo call (config.maybeTriggerPrefetch attempt seq 1))
  | .drawSuffix attempt prefix' =>
      let suffix := s.counter + 1
      some ({ s with counter := suffix }.goTo call
        (if suffix > config.suffixMax then .waitForNext attempt 50
        else config.maybeTriggerPrefetch attempt prefix' suffix))
  | .waitForNext attempt left =>
      some (s.goTo call (match left with
        | 0 => .fetchNext attempt
        | left + 1 =>
          if s.nextPrefix ≠ 0 then .switchPrefix attempt s.nextPrefix
          else .waitForNext attempt left))
  | .fetchNext attempt => some (s.callSequence step (.switchPrefix attempt) (.generate attempt))
  | .switchPrefix attempt next =>
      some ({ s with currentPrefix := next }.goTo call (.resetNext attempt next))
  | .resetNext attempt next =>
      some ({ s with nextPrefix := 0 }.goTo call (.switchCounter attempt next))
  | .switchCounter attempt next =>
      some ({ s with counter := 1 }.goTo call (.resetRequested attempt next))
  | .resetRequested attempt next =>
      some ({ s with prefetchRequested := false }.goTo call
        (config.maybeTriggerPrefetch attempt next 1))
  | .requestPrefetch attempt prefix' suffix =>
      if s.prefetchRequested then some (s.goTo call (config.finishBlock attempt prefix' suffix))
      else some ({ s with prefetchRequested := true }.goTo call (.prefetch attempt prefix' suffix))
  | .prefetch attempt prefix' suffix =>
      some (s.callSequence step (.storeNext attempt prefix' suffix)
        (config.finishBlock attempt prefix' suffix))
  | .storeNext attempt prefix' suffix seq =>
      some ({ s with nextPrefix := seq }.goTo call (config.finishBlock attempt prefix' suffix))
  | .generate attempt =>
      let id := generateTicketIdLocal step.hash
      some ({ s with generated := id :: s.generated }.goTo call
        (.finish attempt id (.generated id)))
  | .regenerate left =>
      let id := generateTicketIdLocal step.hash
      some ({ s with generated := id :: s.generated }.goTo call
        (if id ≠ 0 then .done id (.generated id)
        else match left with
          | 0 => .readClock
          | left + 1 => .regenerate left))
  | .readClock => some (s.goTo call (.done (max step.timestampMs 1) .clock))
  | .done _ _ => none

/-- The call has returned the ticket id. -/
def Returns (s : TicketIdCalls) (call : Nat) (id : Int) : Prop :=
  ∃ source, s.tasks call = .done id source

/-- No ticket id is returned by two calls. -/
def Distinct (s : TicketIdCalls) : Prop :=
  ∀ c c' id, s.Returns c id → s.Returns c' id → c = c'

end TicketIdCalls

/-- All orders of the steps. -/
def ticketIdMachine (config : TicketIdConfig) : Machine TicketIdStep TicketIdCalls where
  step step s := s.exec config step

/-! ### What the steps are promised -/

namespace TicketIdTask

/-- The call is about to ask the sequence. -/
def CallsSequence : TicketIdTask → Prop
  | .fetchFirst _ | .fetchNext _ | .prefetch _ _ _ => True
  | .idle | .loadPrefix _ | .storePrefix _ _ | .storeCounter _ _ | .drawSuffix _ _
  | .waitForNext _ _ | .switchPrefix _ _ | .resetNext _ _ | .switchCounter _ _
  | .resetRequested _ _ | .requestPrefetch _ _ _ | .storeNext _ _ _ _ | .generate _
  | .regenerate _ | .readClock | .done _ _ => False

/-- The call is about to make a local id. -/
def Generates : TicketIdTask → Prop
  | .generate _ | .regenerate _ => True
  | .idle | .loadPrefix _ | .fetchFirst _ | .storePrefix _ _ | .storeCounter _ _
  | .drawSuffix _ _ | .waitForNext _ _ | .fetchNext _ | .switchPrefix _ _ | .resetNext _ _
  | .switchCounter _ _ | .resetRequested _ _ | .requestPrefetch _ _ _ | .prefetch _ _ _
  | .storeNext _ _ _ _ | .readClock | .done _ _ => False

/-- The call has stored a prefix, and not yet the counter that belongs to it. -/
def InWindow : TicketIdTask → Prop
  | .storeCounter _ _ | .resetNext _ _ | .switchCounter _ _ => True
  | .idle | .loadPrefix _ | .fetchFirst _ | .storePrefix _ _ | .drawSuffix _ _
  | .waitForNext _ _ | .fetchNext _ | .switchPrefix _ _ | .resetRequested _ _
  | .requestPrefetch _ _ _ | .prefetch _ _ _ | .storeNext _ _ _ _ | .generate _ | .regenerate _
  | .readClock | .done _ _ => False

/-- The prefix that the call switches to, until it has reset the next prefix. -/
def switchingTo : TicketIdTask → Option Int
  | .switchPrefix _ next | .resetNext _ next => some next
  | .idle | .loadPrefix _ | .fetchFirst _ | .storePrefix _ _ | .storeCounter _ _
  | .drawSuffix _ _ | .waitForNext _ _ | .fetchNext _ | .switchCounter _ _
  | .resetRequested _ _ | .requestPrefetch _ _ _ | .prefetch _ _ _ | .storeNext _ _ _ _
  | .generate _ | .regenerate _ | .readClock | .done _ _ => none

end TicketIdTask

namespace TicketIdStep

variable (config : TicketIdConfig) (step : TicketIdStep) (s : TicketIdCalls)

/-- The sequence gives positive values, none of them twice, whose ids fit; and no local id is made
twice. -/
structure Answers : Prop where
  sequence : (s.tasks step.call).CallsSequence → ∀ value ∈ step.sequence,
    0 < value ∧ value ∉ s.values ∧ config.Fits value
  generated : (s.tasks step.call).Generates → generateTicketIdLocal step.hash ∉ s.generated

/-- A suffix of a block is drawn only under the prefix in use, while no call is between its store
of the prefix and its store of the counter; and a next prefix is taken only while no other call
takes it. -/
structure Apart : Prop where
  draws : ∀ attempt prefix', s.tasks step.call = .drawSuffix attempt prefix' →
    s.counter < config.suffixMax →
      prefix' = s.currentPrefix ∧ ∀ c < s.started, ¬ (s.tasks c).InWindow
  takes : ∀ attempt left, s.tasks step.call = .waitForNext attempt (left + 1) →
    s.nextPrefix ≠ 0 → ∀ c < s.started, (s.tasks c).switchingTo ≠ some s.nextPrefix

end TicketIdStep

end TollBackend

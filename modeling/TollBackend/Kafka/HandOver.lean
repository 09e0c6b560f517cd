import TollBackend.Kafka.Queue

/-!
# The hand-over of pending events

Until the Kafka producer is ready, handlers put their events into a pending queue. The
initialisation sets the producer and then moves what is pending into the queue of the producer.
A handler first tests whether the producer is set, and then pushes its event into one of the two
queues.

## Main definitions

* `PendingKafkaQueue`: the pending queue.
* `HandOver`: the two queues, the initialisation and the handlers.
* `HandedOver`: what the hand-over is for.
* `PushesBeforeDrain`: the condition on a step under which no event is left behind.

## Main results

* `handedOver_of_reaches`: an event that is pushed before the drain gets to the producer once.
-/

namespace TollBackend

open Concurrent (Machine)

/-! ### The pending queue -/

/-- The events, each with its handler, that wait for the producer. -/
structure PendingKafkaQueue (α : Type) where
  buf : List (Nat × α) := []
  cap : Nat
deriving DecidableEq

namespace PendingKafkaQueue

variable {α : Type} (q : PendingKafkaQueue α)

/-- `PendingKafkaQueue::new`. -/
def new (capacity : Nat) : PendingKafkaQueue α where
  cap := max capacity 1

/-- `PendingKafkaQueue::push`: a full queue loses its oldest event. -/
def push (msg : Nat × α) : PendingKafkaQueue α :=
  { q with buf := (if q.cap ≤ q.buf.length then q.buf.tail else q.buf) ++ [msg] }

/-- The event that a push drops. -/
def dropsAtPush : List (Nat × α) :=
  if q.cap ≤ q.buf.length then q.buf.take 1 else []

end PendingKafkaQueue

/-! ### Handlers and initialisation -/

/-- Where `send_checkin_to_kafka` or `send_checkout_to_kafka` is. -/
inductive Sending (α : Type) : Type
  | test (msg : α)
  | toProducer (msg : α)
  | toPending (msg : α)
  | returned
deriving DecidableEq

/-- The event that is still to be pushed. -/
def Sending.message {α : Type} : Sending α → Option α
  | .test msg | .toProducer msg | .toPending msg => some msg
  | .returned => none

/-- Where `kafka_init_background` is: before the producer is set, before the drain, or with
these events to push. -/
inductive KafkaInit (α : Type) : Type
  | connecting
  | producerSet
  | pushing (rest : List (Nat × α))
  | finished
deriving DecidableEq

namespace KafkaInit

variable {α : Type}

/-- `get_kafka_producer` finds the producer. -/
def isSet : KafkaInit α → Bool
  | .connecting => false
  | .producerSet | .pushing _ | .finished => true

/-- The pending queue has been drained. -/
def drained : KafkaInit α → Bool
  | .connecting | .producerSet => false
  | .pushing _ | .finished => true

/-- The events that were drained and are still to be pushed. -/
def rest : KafkaInit α → List (Nat × α)
  | .pushing rest => rest
  | .connecting | .producerSet | .finished => []

end KafkaInit

/-- The queues, the initialisation and the handlers. `sent` are the events of the handlers,
`puts` the events that were put into the queue of the producer, `left` those that left it again,
taken by the worker or dropped as the oldest, and `dropped` the handlers whose events a full
pending queue lost. -/
structure HandOver (α : Type) where
  pending : PendingKafkaQueue α
  queue : DropOldestQueue (Nat × α)
  init : KafkaInit α := .connecting
  handlers : List (Sending α) := []
  sent : List α := []
  puts : List (Nat × α) := []
  left : List (Nat × α) := []
  dropped : List Nat := []
deriving DecidableEq

/-- A handler begins to send an event, a handler or the initialisation makes its next step, or the
worker takes an event from the queue of the producer. -/
inductive HandOverLabel (α : Type) : Type
  | send (msg : α)
  | handler (i : Nat)
  | init
  | pop

namespace HandOver

variable {α : Type} (s : HandOver α)

/-- Before the first event. -/
def start (pendingCapacity capacity : Nat) : HandOver α where
  pending := .new pendingCapacity
  queue := .new capacity

/-- An event gets into the queue of the producer. -/
def put (msg : Nat × α) : HandOver α :=
  { s with
    queue := (s.queue.pushBack msg).addPermit
    puts := s.puts ++ [msg]
    left := s.left ++ if s.queue.wasFull then s.queue.buf.head?.toList else [] }

/-- The worker takes an event from the queue of the producer. -/
def pop : HandOver α :=
  { s with queue := s.queue.popFront, left := s.left ++ s.queue.buf.head?.toList }

/-- The events that were put into the queue of the producer for this handler. -/
def putBy (i : Nat) : List α :=
  s.puts.filterMap fun msg => if msg.1 = i then some msg.2 else none

/-- An event gets into the pending queue. -/
def pushPending (msg : Nat × α) : HandOver α :=
  { s with
    pending := s.pending.push msg
    dropped := s.dropped ++ s.pending.dropsAtPush.map (·.1) }

/-- The handler goes on from here. -/
def goTo (i : Nat) (sending : Sending α) : HandOver α :=
  { s with handlers := s.handlers.set i sending }

/-- The next step of a handler. -/
def advance (i : Nat) : Sending α → Option (HandOver α)
  | .test msg => some (s.goTo i (if s.init.isSet then .toProducer msg else .toPending msg))
  | .toProducer msg => some ((s.put (i, msg)).goTo i .returned)
  | .toPending msg => some ((s.pushPending (i, msg)).goTo i .returned)
  | .returned => none

/-- The next step of the initialisation: `drain_pending_into_producer` empties the pending queue
at once and then pushes one event after the other. -/
def initialise : Option (HandOver α) :=
  match s.init with
  | .connecting => some { s with init := .producerSet }
  | .producerSet =>
    some { s with init := .pushing s.pending.buf, pending := { s.pending with buf := [] } }
  | .pushing [] => some { s with init := .finished }
  | .pushing (msg :: rest) => some ({ s with init := .pushing rest }.put msg)
  | .finished => none

end HandOver

/-- The steps of the hand-over. -/
def handOver (α : Type) : Machine (HandOverLabel α) (HandOver α) where
  step
    | .send msg, s => some { s with handlers := s.handlers ++ [.test msg], sent := s.sent ++ [msg] }
    | .handler i, s => s.handlers[i]?.bind (s.advance i)
    | .init, s => s.initialise
    | .pop, s => some s.pop

/-! ### What the hand-over is for -/

namespace HandOver

variable {α : Type} {s s' : HandOver α}

/-- When the initialisation has finished and all handlers have returned, each handler's event was
put into the queue of the producer once, or a full pending queue has dropped it; what was put
there is in the queue, or has left it; and nothing is pending. -/
structure HandedOver (s : HandOver α) : Prop where
  once : ∀ i < s.handlers.length, ∃ msg, s.sent[i]? = some msg ∧
    (s.putBy i = [msg] ∧ i ∉ s.dropped ∨ s.putBy i = [] ∧ i ∈ s.dropped)
  queued : s.puts = s.left ++ s.queue.buf
  nothing_pending : s.pending.buf = []

/-- The initialisation has finished and all handlers have returned. -/
def isOver [DecidableEq α] (s : HandOver α) : Bool :=
  s.init == .finished && s.handlers.all (· == .returned)

/-- A handler that has not found the producer pushes its event before the pending queue is
drained. -/
def PushesBeforeDrain (label : HandOverLabel α) (s : HandOver α) : Prop :=
  match label with
  | .handler i => ∀ sending ∈ s.handlers[i]?,
      match sending with
      | .toPending _ => s.init.drained = false
      | .test _ | .toProducer _ | .returned => True
  | .send _ | .init | .pop => True

instance (label : HandOverLabel α) (s : HandOver α) : Decidable (PushesBeforeDrain label s) := by
  unfold PushesBeforeDrain
  cases label with
  | handler i =>
    dsimp only
    have : DecidablePred fun sending : Sending α => match sending with
        | .toPending _ => s.init.drained = false
        | .test _ | .toProducer _ | .returned => True := fun sending => by
      cases sending <;> dsimp only <;> infer_instance
    infer_instance
  | send => exact instDecidableTrue
  | init => exact instDecidableTrue
  | pop => exact instDecidableTrue

/-- The places where the event of a handler can be. -/
def places (s : HandOver α) (i : Nat) : Nat :=
  (s.puts.map (·.1)).count i + (s.pending.buf.map (·.1)).count i + (s.init.rest.map (·.1)).count i +
    s.dropped.count i

/-- The event of a handler is in one place when the handler has returned, and in none before;
after the drain nothing is pending. -/
structure Located (s : HandOver α) : Prop where
  returned : ∀ i, s.handlers[i]? = some .returned → s.places i = 1
  running : ∀ i, s.handlers[i]? ≠ some .returned → s.places i = 0
  drained : s.init.drained = true → s.pending.buf = []

/-- Only the places of events and the handlers matter, and whether something is pending. -/
theorem Located.of_places (located : Located s) (places : ∀ i, s'.places i = s.places i)
    (handlers : ∀ i : Nat,
      s'.handlers[i]? = some Sending.returned ↔ s.handlers[i]? = some Sending.returned)
    (drained : s'.init.drained = true → s'.pending.buf = []) : Located s' where
  returned i at_i := (places i).trans (located.returned i ((handlers i).mp at_i))
  running i at_i := (places i).trans (located.running i (mt (handlers i).mpr at_i))
  drained := drained

/-- A handler returns, and its event gets to one more place. -/
theorem Located.of_return (located : Located s) {i : Nat} {sending : Sending α}
    (at_i : s.handlers[i]? = some sending) (runs : sending ≠ .returned)
    (here : s'.places i = s.places i + 1) (elsewhere : ∀ j, j ≠ i → s'.places j = s.places j)
    (handlers : s'.handlers = s.handlers.set i .returned)
    (drained : s'.init.drained = true → s'.pending.buf = []) : Located s' := by
  obtain ⟨bound, -⟩ := List.getElem?_eq_some_iff.mp at_i
  have old : s.places i = 0 := by
    apply located.running
    rw [at_i]
    exact fun same => runs (Option.some.inj same)
  refine ⟨fun j at_j => ?_, fun j at_j => ?_, drained⟩
  · by_cases same : j = i
    · rw [same, here, old]
    · rw [handlers, List.getElem?_set_ne (Ne.symm same)] at at_j
      exact (elsewhere j same).trans (located.returned j at_j)
  · have ne : j ≠ i := by
      rintro rfl
      rw [handlers, List.getElem?_set_self bound] at at_j
      exact at_j rfl
    rw [handlers, List.getElem?_set_ne (Ne.symm ne)] at at_j
    exact (elsewhere j ne).trans (located.running j at_j)

theorem places_put (msg : Nat × α) (i : Nat) :
    (s.put msg).places i = s.places i + if msg.1 = i then 1 else 0 := by
  simp only [places, put, List.map_append, List.map_cons, List.map_nil, List.count_append,
    List.count_singleton, beq_iff_eq]
  omega

/-- A push into the pending queue adds its event; one that is dropped for it is accounted for. -/
theorem places_pushPending (msg : Nat × α) (i : Nat) :
    (s.pushPending msg).places i = s.places i + if msg.1 = i then 1 else 0 := by
  simp only [places, pushPending, PendingKafkaQueue.push, PendingKafkaQueue.dropsAtPush]
  by_cases full : s.pending.cap ≤ s.pending.buf.length
  · simp only [full, if_true, List.map_append, List.count_append, List.map_cons, List.map_nil,
      List.count_singleton, beq_iff_eq]
    cases s.pending.buf with
    | nil =>
      simp only [List.tail_nil, List.take_nil, List.map_nil, List.count_nil]
      omega
    | cons oldest buf =>
      simp only [List.tail_cons, List.take_succ_cons, List.take_zero, List.map_cons, List.map_nil,
        List.count_cons, List.count_nil]
      omega
  · simp only [full, if_false, List.map_append, List.count_append, List.map_cons, List.map_nil,
      List.count_singleton, List.count_nil, beq_iff_eq]
    omega

theorem located_step {label : HandOverLabel α} (located : Located s)
    (in_time : PushesBeforeDrain label s) (moves : (handOver α).step label s = some s') :
    Located s' := by
  cases label with
  | send msg =>
    cases moves
    refine located.of_places (fun _ => rfl) (fun i => ?_) fun drained => located.drained drained
    dsimp only
    by_cases old : i < s.handlers.length
    · rw [List.getElem?_append_left old]
    · rw [List.getElem?_append_right (Nat.not_lt.mp old),
        List.getElem?_eq_none (Nat.not_lt.mp old)]
      cases i - s.handlers.length <;> simp
  | handler i =>
    obtain ⟨sending, at_i, step⟩ := Option.bind_eq_some_iff.mp moves
    cases sending with
    | test msg =>
      cases step
      refine located.of_places (fun _ => rfl) (fun j => ?_) fun drained => located.drained drained
      obtain ⟨bound, -⟩ := List.getElem?_eq_some_iff.mp at_i
      by_cases same : j = i
      · subst same
        change (s.handlers.set j _)[j]? = _ ↔ _
        rw [List.getElem?_set_self bound, at_i]
        split <;> simp
      · change (s.handlers.set i _)[j]? = _ ↔ _
        rw [List.getElem?_set_ne (Ne.symm same)]
    | toProducer msg =>
      cases step
      have places (j : Nat) := places_put (s := s) (i, msg) j
      refine located.of_return at_i (by simp) ((places i).trans ?_)
        (fun j ne => (places j).trans ?_) rfl located.drained
      · rw [if_pos rfl]
      · rw [if_neg (Ne.symm ne), Nat.add_zero]
    | toPending msg =>
      cases step
      have before : s.init.drained = false := in_time _ at_i
      have places (j : Nat) := places_pushPending (s := s) (i, msg) j
      refine located.of_return at_i (by simp) ((places i).trans ?_)
        (fun j ne => (places j).trans ?_) rfl fun drained => ?_
      · rw [if_pos rfl]
      · rw [if_neg (Ne.symm ne), Nat.add_zero]
      · exact absurd (before.symm.trans drained) Bool.false_ne_true
    | returned => cases step
  | init =>
    change s.initialise = some s' at moves
    unfold initialise at moves
    split at moves
    · next at_start =>
      cases moves
      refine located.of_places (fun i => ?_) (fun _ => Iff.rfl) nofun
      simp only [places, at_start, KafkaInit.rest]
    · next at_set =>
      cases moves
      -- what was pending is now to be pushed
      refine located.of_places (fun i => ?_) (fun _ => Iff.rfl) fun _ => rfl
      simp only [places, at_set, KafkaInit.rest, List.map_nil, List.count_nil]
      omega
    · next at_end =>
      cases moves
      refine located.of_places (fun i => ?_) (fun _ => Iff.rfl) fun _ => ?_
      · simp only [places, at_end, KafkaInit.rest]
      · exact located.drained (by rw [at_end]; rfl)
    · next msg rest at_msg =>
      cases moves
      refine located.of_places (fun i => ?_) (fun _ => Iff.rfl) fun _ => ?_
      · rw [places_put]
        simp only [places, at_msg, KafkaInit.rest, List.map_cons, List.count_cons, beq_iff_eq]
        omega
      · exact located.drained (by rw [at_msg]; rfl)
    · cases moves
  | pop =>
    cases moves
    exact located.of_places (fun _ => rfl) (fun _ => Iff.rfl) located.drained

/-! ### Whose events they are -/

/-- The event is that of its handler. -/
def IsSent (s : HandOver α) (msg : Nat × α) : Prop :=
  s.sent[msg.1]? = some msg.2

/-- Every event is that of its handler, wherever it is; and what was put into the queue of the
producer is there, or has left it. -/
structure Owned (s : HandOver α) : Prop where
  lengths : s.sent.length = s.handlers.length
  sending : ∀ i sending, s.handlers[i]? = some sending → ∀ msg ∈ sending.message,
    s.IsSent (i, msg)
  puts : ∀ msg ∈ s.puts, s.IsSent msg
  pending : ∀ msg ∈ s.pending.buf, s.IsSent msg
  rest : ∀ msg ∈ s.init.rest, s.IsSent msg
  queued : s.puts = s.left ++ s.queue.buf

theorem Owned.send (owned : Owned s) (msg : α) :
    Owned { s with handlers := s.handlers ++ [.test msg], sent := s.sent ++ [msg] } := by
  have stays : ∀ {ev : Nat × α}, s.IsSent ev → (s.sent ++ [msg])[ev.1]? = some ev.2 := fun sent =>
    (List.getElem?_append_left (List.getElem?_eq_some_iff.mp sent).1).trans sent
  refine ⟨by simp [owned.lengths], fun i sending at_i ev mem => ?_,
    fun ev mem => stays (owned.puts ev mem), fun ev mem => stays (owned.pending ev mem),
    fun ev mem => stays (owned.rest ev mem), owned.queued⟩
  by_cases old : i < s.handlers.length
  · rw [List.getElem?_append_left old] at at_i
    exact stays (owned.sending i sending at_i ev mem)
  · obtain ⟨bound, -⟩ := List.getElem?_eq_some_iff.mp at_i
    obtain rfl : i = s.handlers.length := by simp at bound; omega
    simp only [List.getElem?_concat_length, Option.some.injEq] at at_i
    subst at_i
    cases mem
    simp [IsSent, ← owned.lengths]

/-- A handler goes on with the event that it had, or with none. -/
theorem Owned.goTo (owned : Owned s) {i : Nat} {old new : Sending α}
    (at_i : s.handlers[i]? = some old) (message : ∀ msg ∈ new.message, msg ∈ old.message) :
    Owned (s.goTo i new) := by
  refine ⟨owned.lengths.trans List.length_set.symm, fun j sending at_j msg mem => ?_, owned.puts,
    owned.pending, owned.rest, owned.queued⟩
  change (s.handlers.set i new)[j]? = some sending at at_j
  obtain ⟨bound, -⟩ := List.getElem?_eq_some_iff.mp at_i
  by_cases same : i = j
  · subst same
    rw [List.getElem?_set_self bound] at at_j
    cases at_j
    exact owned.sending i old at_i msg (message msg mem)
  · rw [List.getElem?_set_ne same] at at_j
    exact owned.sending j sending at_j msg mem

theorem Owned.put (owned : Owned s) {msg : Nat × α} (sent : s.IsSent msg) : Owned (s.put msg) := by
  refine ⟨owned.lengths, owned.sending, fun ev mem => ?_, owned.pending, owned.rest, ?_⟩
  · rcases List.mem_append.mp mem with old | new
    · exact owned.puts ev old
    · cases List.mem_singleton.mp new
      exact sent
  · simp only [HandOver.put, DropOldestQueue.buf_addPermit, DropOldestQueue.pushBack,
      DropOldestQueue.kept, owned.queued]
    cases s.queue.wasFull
    · simp
    · cases s.queue.buf <;> simp

theorem Owned.pushPending (owned : Owned s) {msg : Nat × α} (sent : s.IsSent msg) :
    Owned (s.pushPending msg) := by
  refine ⟨owned.lengths, owned.sending, owned.puts, fun ev mem => ?_, owned.rest, owned.queued⟩
  rcases List.mem_append.mp mem with old | new
  · split at old
    · exact owned.pending ev (List.mem_of_mem_tail old)
    · exact owned.pending ev old
  · cases List.mem_singleton.mp new
    exact sent

theorem Owned.pop (owned : Owned s) : Owned s.pop := by
  refine ⟨owned.lengths, owned.sending, owned.puts, owned.pending, owned.rest, ?_⟩
  change s.puts = (s.left ++ s.queue.buf.head?.toList) ++ s.queue.buf.tail
  rw [owned.queued]
  cases s.queue.buf <;> simp

theorem owned_step {label : HandOverLabel α} (owned : Owned s)
    (moves : (handOver α).step label s = some s') : Owned s' := by
  cases label with
  | send msg =>
    cases moves
    exact owned.send msg
  | handler i =>
    obtain ⟨sending, at_i, step⟩ := Option.bind_eq_some_iff.mp moves
    have sent := owned.sending i sending at_i
    cases sending with
    | test msg =>
      cases step
      exact owned.goTo at_i fun _ mem => by split at mem <;> exact mem
    | toProducer msg =>
      cases step
      exact (owned.put (sent msg rfl)).goTo at_i fun _ mem => by cases mem
    | toPending msg =>
      cases step
      exact (owned.pushPending (sent msg rfl)).goTo at_i fun _ mem => by cases mem
    | returned => cases step
  | init =>
    change s.initialise = some s' at moves
    unfold initialise at moves
    split at moves
    · cases moves
      exact { owned with rest := fun _ mem => absurd mem List.not_mem_nil }
    · cases moves
      exact { owned with
        pending := fun _ mem => absurd mem List.not_mem_nil
        rest := owned.pending }
    · cases moves
      exact { owned with rest := fun _ mem => absurd mem List.not_mem_nil }
    · next msg rest at_msg =>
      cases moves
      have sent : ∀ ev ∈ msg :: rest, s.IsSent ev := by
        have all := owned.rest
        rw [at_msg] at all
        exact all
      have advanced : Owned { s with init := .pushing rest } :=
        { owned with rest := fun ev mem => sent ev (List.mem_cons_of_mem _ mem) }
      exact advanced.put (sent msg List.mem_cons_self)
    · cases moves
  | pop =>
    cases moves
    exact owned.pop

/-- What was put for a handler is its event, as often as the handler is counted. -/
theorem Owned.putBy_eq (owned : Owned s) {i : Nat} {msg : α} (sent : s.sent[i]? = some msg) :
    s.putBy i = List.replicate ((s.puts.map (·.1)).count i) msg := by
  have own : ∀ ev ∈ s.puts, ev.1 = i → ev.2 = msg := by
    rintro ev mem rfl
    exact Option.some.inj ((owned.puts ev mem).symm.trans sent)
  rw [putBy]
  generalize s.puts = puts at own
  induction puts with
  | nil => rfl
  | cons ev puts ih =>
    have rest := ih fun ev' mem => own ev' (List.mem_cons_of_mem _ mem)
    rw [List.filterMap_cons, List.map_cons, List.count_cons]
    by_cases same : ev.1 = i
    · simp [same, rest, own ev List.mem_cons_self same, List.replicate_succ]
    · simp [same, rest]

end HandOver

open HandOver in
/-- In every run in which handlers push into the pending queue before it is drained, all events
are handed over. -/
theorem handedOver_of_reaches {α : Type} [DecidableEq α] {pendingCapacity capacity : Nat}
    {s : HandOver α}
    (reaches : (handOver α).Reaches PushesBeforeDrain (start pendingCapacity capacity) s)
    (isOver : s.isOver = true) : HandedOver s := by
  have located : Located s := by
    apply reaches.invariant (I := Located) ⟨nofun, fun _ _ => rfl, nofun⟩
    exact fun _ _ _ located in_time moves => located_step located in_time moves
  have owned : Owned s := by
    apply reaches.invariant (I := Owned) ⟨rfl, nofun, nofun, nofun, nofun, rfl⟩
    exact fun _ _ _ owned _ moves => owned_step owned moves
  rw [HandOver.isOver, Bool.and_eq_true, beq_iff_eq, List.all_eq_true] at isOver
  obtain ⟨finished, all_returned⟩ := isOver
  have nothing_pending := located.drained (by rw [finished]; rfl)
  refine ⟨fun i bound => ?_, owned.queued, nothing_pending⟩
  have returned : s.handlers[i]? = some .returned := by
    rw [List.getElem?_eq_getElem bound]
    exact congrArg some (beq_iff_eq.mp (all_returned _ (List.getElem_mem bound)))
  have one := located.returned i returned
  simp only [places, nothing_pending, finished, KafkaInit.rest, List.map_nil, List.count_nil,
    Nat.add_zero] at one
  obtain ⟨msg, sent⟩ : ∃ msg, s.sent[i]? = some msg :=
    ⟨_, List.getElem?_eq_getElem (owned.lengths ▸ bound)⟩
  refine ⟨msg, sent, ?_⟩
  rw [owned.putBy_eq sent]
  by_cases lost : i ∈ s.dropped
  · have once := List.count_pos_iff.mpr lost
    have none : (s.puts.map (·.1)).count i = 0 := by omega
    exact Or.inr ⟨congrArg (List.replicate · _) none, lost⟩
  · have nowhere := List.count_eq_zero.mpr lost
    have once : (s.puts.map (·.1)).count i = 1 := by omega
    exact Or.inl ⟨congrArg (List.replicate · _) once, lost⟩

/-- An event is sent before the initialisation, and one after it. -/
theorem handedOver_around :
    ∃ s : HandOver Nat, s.puts = [(0, 7), (1, 8)] ∧ s.HandedOver := by
  obtain ⟨s, reaches, ends⟩ := (handOver Nat).exists_reaches HandOver.PushesBeforeDrain
    (HandOver.start 4 4) [.send 7, .handler 0, .handler 0, .init, .init, .send 8, .handler 1, .init,
      .handler 1, .init] (fun s => s.isOver && s.puts == [(0, 7), (1, 8)]) (by decide +kernel)
  rw [Bool.and_eq_true, beq_iff_eq] at ends
  exact ⟨s, ends.2, handedOver_of_reaches reaches ends.1⟩

/-- A handler finds no producer. The producer is set and the pending queue drained, and then the
handler pushes its event, which stays there. -/
theorem event_left_behind :
    ¬ ∀ (pendingCapacity capacity : Nat) (s : HandOver Nat),
      (handOver Nat).Reaches (fun _ _ => True) (.start pendingCapacity capacity) s →
        s.isOver = true → s.HandedOver := by
  intro claim
  obtain ⟨s, reaches, ends⟩ := (handOver Nat).exists_reaches (fun _ _ => True)
    (HandOver.start 4 4) [.send 7, .handler 0, .init, .init, .init, .handler 0]
    (fun s => s.isOver && s.pending.buf == [(0, 7)]) (by decide +kernel)
  rw [Bool.and_eq_true, beq_iff_eq] at ends
  have nothing := (claim 4 4 s reaches ends.1).nothing_pending
  rw [ends.2] at nothing
  cases nothing

end TollBackend

import TollBackend.Kafka.Queue

/-!
# From the queue to Kafka

The worker of the producer takes a batch of events from the queue, makes a record of each and
sends the records of check-ins, and then those of checkouts. An attempt to send goes through the
partitions one after the other and ends at the first failure; then all records are sent again.
After the last attempt they are put into a list in KeyDB, from which a replay loop takes them and
pushes them into the queue again.

## Main definitions

* `resolvePartitionId`: the partition of a record.
* `Producer`: the queue, the worker, the replay loop, KeyDB and what Kafka has acknowledged.
* `NothingLost`: what the producer is for.
* `Delivers`: the condition on a step under which no event is lost or sent again.

## Main results

* `nothingLost_of_reaches`: where all steps satisfy it, nothing is lost and nothing sent again.
-/

namespace TollBackend

open Concurrent (Machine)

/-! ### Records and partitions -/

inductive EventKind
  | checkin
  | checkout
deriving DecidableEq, Repr

/-- An event, told from others by its number. -/
structure QueuedEvent where
  number : Nat
  kind : EventKind
deriving DecidableEq, Repr

/-- A record for an event; its key is the id, a UUID, that is drawn for it. -/
structure KafkaRecord where
  key : String
  event : QueuedEvent
deriving DecidableEq, Repr

/-- `partition_for_key`: a hash of 32 bits, over the bytes of the key. -/
def partitionForKey (key : String) (numPartitions : Int) : Int :=
  if numPartitions ≤ 1 then 0
  else
    let h := key.toUTF8.toList.foldl (fun (h : Nat) b => (h * 31 + b.toNat) % 2 ^ 32) 0
    (h : Int) % numPartitions

/-- `resolve_partition_id`: a partition that is configured comes first, and both are clamped. -/
def resolvePartitionId (fixed : Option Int) (key : String) (numPartitions : Int) : Int :=
  max 0 (min (fixed.getD (partitionForKey key numPartitions)) (max 0 (numPartitions - 1)))

/-- The records of one kind that are sent together. -/
structure SendJob where
  kind : EventKind
  records : List KafkaRecord
deriving DecidableEq, Repr

/-- The events of the records. -/
def SendJob.events (job : SendJob) : List QueuedEvent :=
  job.records.map (·.event)

/-! ### The producer -/

/-- The configuration of the producer; `keydb` says that there is a KeyDB to fall back on. -/
structure ProducerConfig where
  queueCapacity : Nat
  sendBatchSize : Nat
  retries : Nat
  fixedPartition : Option Int := none
  keydb : Bool := true

/-- `KEYDB_PENDING_MAX_LIST_LEN`. -/
def pendingMaxListLen : Nat := 5000

/-- `KEYDB_REPLAY_LPOP_BATCH`. -/
def replayLpopBatch : Nat := 50

/-- Where `worker_loop` is: waiting for an event, gathering a batch, before an attempt to send a
job, sending the records that are left of it, or putting it into KeyDB. -/
inductive KafkaWorker
  | waiting
  | gathering (batch : List QueuedEvent)
  | starting (job : SendJob) (attempt : Nat) (later : List SendJob)
  | sending (job : SendJob) (attempt : Nat) (numPartitions : Int) (left : List KafkaRecord)
      (later : List SendJob)
  | persisting (job : SendJob) (later : List SendJob)
deriving DecidableEq, Repr

namespace KafkaWorker

/-- The worker goes on with the next job. -/
def next : List SendJob → KafkaWorker
  | [] => .waiting
  | job :: later => .starting job 0 later

/-- An attempt has failed: there is another one, or the job goes to KeyDB. -/
def failed (retries : Nat) (job : SendJob) (attempt : Nat) (later : List SendJob) : KafkaWorker :=
  if attempt + 1 < max retries 1 then .starting job (attempt + 1) later else .persisting job later

/-- The events that the worker has to see to. -/
def holds : KafkaWorker → List QueuedEvent
  | .waiting => []
  | .gathering batch => batch
  | .starting job _ later | .persisting job later => job.events ++ later.flatMap SendJob.events
  | .sending _ _ _ left later => left.map (·.event) ++ later.flatMap SendJob.events

/-- The events that it is handling. -/
def handles : KafkaWorker → List QueuedEvent
  | .waiting => []
  | .gathering batch => batch
  | .starting job _ later | .persisting job later | .sending job _ _ _ later =>
    job.events ++ later.flatMap SendJob.events

end KafkaWorker

/-- The state of the producer. `replaying` are the events that the replay loop has taken from
KeyDB and is pushing. `taken` are the events that were ever popped or taken from KeyDB, `acked`
those that Kafka has acknowledged, and `again` those that were produced after that. -/
structure Producer where
  queue : DropOldestQueue QueuedEvent
  worker : KafkaWorker := .waiting
  replaying : List QueuedEvent := []
  checkins : List QueuedEvent := []
  checkouts : List QueuedEvent := []
  nextNumber : Nat := 0
  taken : List QueuedEvent := []
  acked : List QueuedEvent := []
  again : List QueuedEvent := []
deriving DecidableEq, Repr

/-- What happens next. A statement on KeyDB can fail before it has an effect, or after. -/
inductive ProducerLabel
  | send (kind : EventKind)
  | pop
  | tryPop
  | build (keys : List String)
  | attempt (numPartitions : Int)
  | produce (partitionId : Int) (ok : Bool)
  | attemptFails
  | totalTimeout
  | persist (stored trimmed : Bool)
  | lpop (kind : EventKind) (count : Nat)
  | lpopFails (kind : EventKind) (count : Nat)
  | replayPush
  | expire (kind : EventKind)

namespace Producer

variable (cfg : ProducerConfig) (serializable : QueuedEvent → Bool) (s : Producer)

/-- Before the first event. -/
def start : Producer where
  queue := .new cfg.queueCapacity

/-- The pending list of a kind. -/
def pending : EventKind → List QueuedEvent
  | .checkin => s.checkins
  | .checkout => s.checkouts

def setPending (events : List QueuedEvent) : EventKind → Producer
  | .checkin => { s with checkins := events }
  | .checkout => { s with checkouts := events }

/-- `DropOldestQueue::push`. -/
def push (event : QueuedEvent) : Producer :=
  { s with queue := (s.queue.pushBack event).addPermit }

/-- The first event of the queue goes to the worker. -/
def popTo (batch : List QueuedEvent) : Option Producer :=
  s.queue.buf.head?.map fun event =>
    { s with
      queue := s.queue.popFront
      worker := .gathering (batch ++ [event])
      taken := s.taken ++ [event] }

/-- The records of a kind in the batch, with their keys. Events that can not be serialized are
skipped. -/
def jobOf (keyed : List (QueuedEvent × String)) (kind : EventKind) : SendJob where
  kind := kind
  records := (keyed.filter fun p => p.1.kind = kind ∧ serializable p.1 = true).map
    fun p => ⟨p.2, p.1⟩

/-- The jobs of a batch: check-ins first, and none without records. -/
def jobsOf (batch : List QueuedEvent) (keys : List String) : List SendJob :=
  ([.checkin, .checkout].map (jobOf serializable (batch.zip keys))).filter
    fun job => !job.records.isEmpty

/-- The record goes to this partition. -/
def goesTo (n partitionId : Int) (record : KafkaRecord) : Bool :=
  resolvePartitionId cfg.fixedPartition record.key n = partitionId

/-- A group of records is produced to its partition. -/
def produceTo (job : SendJob) (attempt : Nat) (n : Int) (left : List KafkaRecord)
    (later : List SendJob) (partitionId : Int) (ok : Bool) : Producer :=
  let group := (left.filter (goesTo cfg n partitionId)).map (·.event)
  let rest := left.filter fun record => !goesTo cfg n partitionId record
  let s := { s with again := s.again ++ group.filter s.acked.contains }
  if ok then
    { s with
      acked := s.acked ++ group
      worker := if rest.isEmpty then .next later else .sending job attempt n rest later }
  else { s with worker := .failed cfg.retries job attempt later }

/-- `persist_checkin_payloads_to_keydb` and its sibling: the payloads are appended to the list of
their kind, which is then cut to its last entries. -/
def persisted (job : SendJob) (stored trimmed : Bool) : Producer :=
  if cfg.keydb && stored then
    let events := s.pending job.kind ++ job.events
    s.setPending (if trimmed then events.drop (events.length - pendingMaxListLen) else events)
      job.kind
  else s

/-- A step, where it is possible. -/
def step (label : ProducerLabel) : Option Producer :=
  match label with
  | .send kind =>
    some (({ s with nextNumber := s.nextNumber + 1 } : Producer).push ⟨s.nextNumber, kind⟩)
  | .pop =>
    match s.worker with
    | .waiting => s.popTo []
    | _ => none
  | .tryPop =>
    match s.worker with
    | .gathering batch =>
      if batch.length < min (max cfg.sendBatchSize 1) 500 then s.popTo batch else none
    | _ => none
  | .build keys =>
    match s.worker with
    | .gathering batch =>
      if keys.length = batch.length then
        some { s with worker := .next (jobsOf serializable batch keys) }
      else none
    | _ => none
  | .attempt n =>
    match s.worker with
    | .starting job attempt later =>
      if 1 ≤ n then some { s with worker := .sending job attempt n job.records later } else none
    | _ => none
  | .produce partitionId ok =>
    match s.worker with
    | .sending job attempt n left later =>
      if left.any (goesTo cfg n partitionId) then
        some (s.produceTo cfg job attempt n left later partitionId ok)
      else none
    | _ => none
  | .attemptFails =>
    match s.worker with
    | .sending job attempt _ _ later =>
      some { s with worker := .failed cfg.retries job attempt later }
    | _ => none
  | .totalTimeout =>
    match s.worker with
    | .starting job _ later | .sending job _ _ _ later =>
      some { s with worker := .persisting job later }
    | _ => none
  | .persist stored trimmed =>
    match s.worker with
    | .persisting job later =>
      some { s.persisted cfg job stored trimmed with worker := .next later }
    | _ => none
  | .lpop kind count =>
    if cfg.keydb ∧ s.replaying = [] ∧ count ≤ replayLpopBatch then
      some { s.setPending ((s.pending kind).drop count) kind with
        replaying := (s.pending kind).take count
        taken := s.taken ++ (s.pending kind).take count }
    else none
  | .lpopFails kind count =>
    -- KeyDB has removed the events, but the reply does not arrive
    if cfg.keydb ∧ s.replaying = [] ∧ count ≤ replayLpopBatch then
      some { s.setPending ((s.pending kind).drop count) kind with
        taken := s.taken ++ (s.pending kind).take count }
    else none
  | .replayPush =>
    match s.replaying with
    | [] => none
    | event :: rest => some ({ s with replaying := rest }.push event)
  | .expire kind => some (s.setPending [] kind)

end Producer

/-- The steps of the producer. -/
def kafkaProducer (cfg : ProducerConfig) (serializable : QueuedEvent → Bool) :
    Machine ProducerLabel Producer where
  step label s := s.step cfg serializable label

/-! ### What the producer is for -/

/-- An event that was taken, and that no step is handling, is acknowledged or waits in the queue
or in KeyDB; and no event that was acknowledged is produced again. -/
structure NothingLost (serializable : QueuedEvent → Bool) (s : Producer) : Prop where
  kept : ∀ event ∈ s.taken, serializable event = true → event ∉ s.worker.handles →
    event ∉ s.replaying →
      event ∈ s.acked ∨ event ∈ s.queue.buf ∨ event ∈ s.checkins ∨ event ∈ s.checkouts
  once : s.again = []

/-- A push that finds the queue full does not drop an event that was taken before. -/
def Producer.KeepsTaken (s : Producer) : Prop :=
  s.queue.wasFull = true → ∀ oldest ∈ s.queue.buf.head?, oldest ∉ s.taken

instance (s : Producer) : Decidable s.KeepsTaken :=
  inferInstanceAs (Decidable (_ → ∀ oldest ∈ s.queue.buf.head?, oldest ∉ s.taken))

/-- An attempt fails only before any partition has acknowledged its records. A job that was not
sent is stored in KeyDB, and no list there is cut, expires or loses entries without a reply. And
no push drops an event that was taken before. -/
def Delivers (cfg : ProducerConfig) (label : ProducerLabel) (s : Producer) : Prop :=
  match label with
  | .send _ | .replayPush => s.KeepsTaken
  | .produce _ false | .attemptFails | .totalTimeout =>
    match s.worker with
    | .sending job _ _ left _ => left = job.records
    | .waiting | .gathering _ | .starting _ _ _ | .persisting _ _ => True
  | .persist stored trimmed =>
    match s.worker with
    | .persisting job _ => cfg.keydb = true ∧ stored = true ∧
      (trimmed = true → (s.pending job.kind ++ job.events).length ≤ pendingMaxListLen)
    | .waiting | .gathering _ | .starting _ _ _ | .sending _ _ _ _ _ => True
  | .lpopFails kind count => (s.pending kind).take count = []
  | .expire kind => s.pending kind = []
  | .pop | .tryPop | .build _ | .attempt _ | .produce _ true | .lpop _ _ => True

instance (cfg : ProducerConfig) (label : ProducerLabel) (s : Producer) :
    Decidable (Delivers cfg label s) := by
  unfold Delivers
  cases label with
  | produce _ ok => cases ok <;> cases s.worker <;> infer_instance
  | attemptFails => cases s.worker <;> infer_instance
  | totalTimeout => cases s.worker <;> infer_instance
  | persist => cases s.worker <;> infer_instance
  | _ => infer_instance

/-! ### Where an event is -/

namespace Producer

variable {cfg : ProducerConfig} {serializable : QueuedEvent → Bool} {s s' : Producer}

/-- The copies of an event. -/
def copies (s : Producer) (event : QueuedEvent) : Nat :=
  s.queue.buf.count event + s.worker.holds.count event + s.replaying.count event +
    s.checkins.count event + s.checkouts.count event + s.acked.count event

/-- An event is in one place at most, those that were taken are somewhere, and those that come
later nowhere. -/
structure Tracked (serializable : QueuedEvent → Bool) (s : Producer) : Prop where
  once : ∀ event, s.copies event ≤ 1
  kept : ∀ event ∈ s.taken, serializable event = true → 0 < s.copies event
  unsent : ∀ event, s.nextNumber ≤ event.number → s.copies event = 0 ∧ event ∉ s.taken
  handled : s.worker.holds ⊆ s.worker.handles
  never_again : s.again = []

/-- Events move, and some that can not be serialized go away. -/
theorem Tracked.of_copies (tracked : Tracked serializable s)
    (fewer : ∀ event, s'.copies event ≤ s.copies event)
    (same : ∀ event, serializable event = true → s'.copies event = s.copies event)
    (taken : ∀ event ∈ s'.taken, event ∈ s.taken ∨ 0 < s.copies event)
    (number : s'.nextNumber = s.nextNumber) (handled : s'.worker.holds ⊆ s'.worker.handles)
    (again : s'.again = []) : Tracked serializable s' where
  once event := Nat.le_trans (fewer event) (tracked.once event)
  kept event was_taken fine := by
    rw [same event fine]
    exact (taken event was_taken).elim (fun old => tracked.kept event old fine) id
  unsent event later := by
    rw [number] at later
    have none := (tracked.unsent event later).1
    refine ⟨Nat.le_zero.mp (none ▸ fewer event), fun was_taken => ?_⟩
    apply (taken event was_taken).elim (tracked.unsent event later).2
    omega
  handled := handled
  never_again := again

/-! ### Pushes -/

theorem copies_push_le (event other : QueuedEvent) :
    (s.push event).copies other ≤ s.copies other + if event = other then 1 else 0 := by
  have fewer : s.queue.kept.count other ≤ s.queue.buf.count other := by
    unfold DropOldestQueue.kept
    split
    · exact (List.tail_sublist _).count_le _
    · exact Nat.le_refl _
  simp only [copies, push, DropOldestQueue.pushBack, DropOldestQueue.addPermit,
    List.count_append, List.count_singleton, beq_iff_eq]
  omega

/-- A push that keeps the events that were taken loses no copy of them. -/
theorem copies_push (keeps : s.KeepsTaken) {event other : QueuedEvent} (taken : other ∈ s.taken) :
    (s.push event).copies other = s.copies other + if event = other then 1 else 0 := by
  have same : s.queue.kept.count other = s.queue.buf.count other := by
    unfold DropOldestQueue.kept
    split
    · next full =>
      have not_oldest := keeps full
      cases found : s.queue.buf with
      | nil => rfl
      | cons oldest buf =>
        rw [found] at not_oldest
        have ne : oldest ≠ other := fun same => not_oldest oldest rfl (same ▸ taken)
        rw [List.tail_cons, List.count_cons_of_ne ne]
    · rfl
  simp only [copies, push, DropOldestQueue.pushBack, DropOldestQueue.addPermit,
    List.count_append, List.count_singleton, beq_iff_eq, same]
  omega

/-- An event is pushed, with it counted among the copies before. -/
theorem tracked_push {event : QueuedEvent} (keeps : s.KeepsTaken)
    (once : ∀ other, (s.copies other + if event = other then 1 else 0) ≤ 1)
    (kept : ∀ other ∈ s.taken, serializable other = true →
      0 < s.copies other + if event = other then 1 else 0)
    (unsent : ∀ other, s.nextNumber ≤ other.number →
      (s.copies other + if event = other then 1 else 0) = 0 ∧ other ∉ s.taken)
    (handled : s.worker.holds ⊆ s.worker.handles) (again : s.again = []) :
    Tracked serializable (s.push event) where
  once other := Nat.le_trans (copies_push_le event other) (once other)
  kept other taken fine := by
    rw [copies_push keeps taken]
    exact kept other taken fine
  unsent other later := by
    have := copies_push_le (s := s) event other
    have := (unsent other later).1
    exact ⟨by omega, (unsent other later).2⟩
  handled := handled
  never_again := again

/-! ### Batches -/

theorem count_jobOf (keyed : List (QueuedEvent × String)) (kind : EventKind) (event : QueuedEvent) :
    (jobOf serializable keyed kind).events.count event =
      if event.kind = kind ∧ serializable event = true then (keyed.map (·.1)).count event
      else 0 := by
  have events : (jobOf serializable keyed kind).events =
      (keyed.map (·.1)).filter fun e => e.kind = kind ∧ serializable e = true := by
    rw [List.filter_map, SendJob.events, jobOf, List.map_map]
    rfl
  rw [events]
  split
  · next fits => exact List.count_filter (decide_eq_true fits)
  · next other =>
    apply List.count_eq_zero.mpr
    rw [List.mem_filter]
    exact fun both => other (of_decide_eq_true both.2)

/-- A batch is put into jobs, but for the events that can not be serialized. -/
theorem count_jobsOf {batch : List QueuedEvent} {keys : List String}
    (length : keys.length = batch.length) (event : QueuedEvent) :
    ((jobsOf serializable batch keys).flatMap SendJob.events).count event =
      if serializable event = true then batch.count event else 0 := by
  have drops_empty (jobs : List SendJob) :
      (jobs.filter fun job => !job.records.isEmpty).flatMap SendJob.events =
        jobs.flatMap SendJob.events := by
    induction jobs with
    | nil => rfl
    | cons job jobs ih =>
      rw [List.filter_cons, List.flatMap_cons, ← ih]
      cases found : job.records with
      | nil => simp [SendJob.events, found]
      | cons => simp [SendJob.events]
  have whole : (batch.zip keys).map (·.1) = batch := List.map_fst_zip (Nat.le_of_eq length.symm)
  rw [jobsOf, drops_empty]
  simp only [List.map_cons, List.map_nil, List.flatMap_cons, List.flatMap_nil, List.append_nil,
    List.count_append, count_jobOf, whole]
  cases event.kind <;> cases serializable event <;> simp

@[simp] theorem holds_gathering (batch : List QueuedEvent) :
    (KafkaWorker.gathering batch).holds = batch := rfl

theorem holds_next (jobs : List SendJob) :
    (KafkaWorker.next jobs).holds = jobs.flatMap SendJob.events := by
  cases jobs <;> rfl

theorem handles_next (jobs : List SendJob) :
    (KafkaWorker.next jobs).handles = (KafkaWorker.next jobs).holds := by
  cases jobs <;> rfl

theorem holds_failed (retries attempt : Nat) (job : SendJob) (later : List SendJob) :
    (KafkaWorker.failed retries job attempt later).holds =
      job.events ++ later.flatMap SendJob.events := by
  unfold KafkaWorker.failed
  split <;> rfl

theorem handles_failed (retries attempt : Nat) (job : SendJob) (later : List SendJob) :
    (KafkaWorker.failed retries job attempt later).handles =
      (KafkaWorker.failed retries job attempt later).holds := by
  unfold KafkaWorker.failed
  split <;> rfl

/-! ### Steps -/

/-- Another worker that holds the same events. -/
theorem Tracked.of_worker (tracked : Tracked serializable s) {worker : KafkaWorker}
    (fewer : ∀ event, worker.holds.count event ≤ s.worker.holds.count event)
    (same : ∀ event, serializable event = true →
      worker.holds.count event = s.worker.holds.count event)
    (handled : worker.holds ⊆ worker.handles) :
    Tracked serializable { s with worker := worker } := by
  refine tracked.of_copies ?_ ?_ (fun _ old => .inl old) rfl handled tracked.never_again
  · intro event
    have := fewer event
    simp only [copies]
    omega
  · intro event fine
    simp only [copies, same event fine]

theorem Tracked.of_same_holds (tracked : Tracked serializable s) {worker : KafkaWorker}
    (same : worker.holds = s.worker.holds) (handled : worker.handles = worker.holds) :
    Tracked serializable { s with worker := worker } := by
  apply tracked.of_worker
  · intro event
    rw [same]
  · intro event _
    rw [same]
  · rw [handled]
    exact List.Subset.refl _

theorem tracked_popTo {batch : List QueuedEvent} (tracked : Tracked serializable s)
    (holds : s.worker.holds = batch) (pops : s.popTo batch = some s') :
    Tracked serializable s' := by
  unfold popTo at pops
  cases found : s.queue.buf with
  | nil => rw [found] at pops; cases pops
  | cons event buf =>
    rw [found] at pops
    cases pops
    have same (other : QueuedEvent) :
        copies { s with
          queue := s.queue.popFront
          worker := .gathering (batch ++ [event])
          taken := s.taken ++ [event] } other = s.copies other := by
      simp only [copies, DropOldestQueue.popFront, found, List.tail_cons, holds_gathering,
        holds, List.count_cons, List.count_append, List.count_nil]
      omega
    apply tracked.of_copies (fun other => Nat.le_of_eq (same other)) (fun other _ => same other) _
      rfl (List.Subset.refl _) tracked.never_again
    intro other taken
    rw [List.mem_append, List.mem_singleton] at taken
    apply taken.imp_right
    rintro rfl
    simp only [copies, found, List.count_cons_self]
    omega

theorem tracked_build {batch : List QueuedEvent} {keys : List String}
    (tracked : Tracked serializable s) (holds : s.worker.holds = batch)
    (length : keys.length = batch.length) :
    Tracked serializable { s with worker := .next (jobsOf serializable batch keys) } := by
  apply tracked.of_worker
  · intro event
    rw [holds_next, count_jobsOf length, holds]
    split
    · exact Nat.le_refl _
    · exact Nat.zero_le _
  · intro event fine
    rw [holds_next, count_jobsOf length, holds, if_pos fine]
  · rw [handles_next]
    exact List.Subset.refl _

/-- The records that are left are those of the partition and the rest. -/
theorem count_split (n partitionId : Int) (left : List KafkaRecord) (event : QueuedEvent) :
    ((left.filter (goesTo cfg n partitionId)).map (·.event)).count event +
      ((left.filter fun record => !goesTo cfg n partitionId record).map (·.event)).count event =
        (left.map (·.event)).count event := by
  rw [← List.count_append, ← List.map_append]
  exact ((List.filter_append_perm _ left).map _).count_eq event

theorem tracked_produceTo {job : SendJob} {attempt : Nat} {n : Int} {left : List KafkaRecord}
    {later : List SendJob} {partitionId : Int} {ok : Bool} (tracked : Tracked serializable s)
    (worker : s.worker = .sending job attempt n left later)
    (whole : ok = false → left = job.records) :
    Tracked serializable (s.produceTo cfg job attempt n left later partitionId ok) := by
  have holds : s.worker.holds = left.map (·.event) ++ later.flatMap SendJob.events := by
    rw [worker]; rfl
  have split (event : QueuedEvent) :
      ((left.filter (goesTo cfg n partitionId)).map (·.event)).count event +
        ((left.filter fun record => !goesTo cfg n partitionId record).map (·.event)).count event =
          (left.map (·.event)).count event :=
    count_split n partitionId left event
  -- what is left of the job has not been acknowledged
  have none_again : ((left.filter (goesTo cfg n partitionId)).map (·.event)).filter
      s.acked.contains = [] := by
    apply List.filter_eq_nil_iff.mpr
    intro event here acked
    have here := List.count_pos_iff.mpr here
    have acked := List.count_pos_iff.mpr (List.contains_iff_mem.mp acked)
    have once := tracked.once event
    have split := split event
    simp only [copies, holds, List.count_append] at once
    omega
  have handled : s.worker.holds ⊆ s.worker.handles := tracked.handled
  rw [worker] at handled
  unfold produceTo
  simp only [none_again, List.append_nil]
  cases ok with
  | false =>
    have same : s.worker.holds = job.events ++ later.flatMap SendJob.events := by
      rw [holds, whole rfl]; rfl
    exact tracked.of_same_holds ((holds_failed _ _ _ _).trans same.symm) (handles_failed _ _ _ _)
  | true =>
    have same (event : QueuedEvent) :
        copies { s with
          acked := s.acked ++ (left.filter (goesTo cfg n partitionId)).map (·.event)
          worker :=
            if (left.filter fun record => !goesTo cfg n partitionId record).isEmpty then
              .next later
            else
              .sending job attempt n
                (left.filter fun record => !goesTo cfg n partitionId record) later } event =
          s.copies event := by
      have split := split event
      simp only [copies, holds, List.count_append]
      split
      · next nothing =>
        rw [List.isEmpty_iff.mp nothing, List.map_nil, List.count_nil] at split
        rw [holds_next]
        omega
      · simp only [KafkaWorker.holds, List.count_append]
        omega
    apply tracked.of_copies (fun event => Nat.le_of_eq (same event)) (fun event _ => same event)
      (fun _ old => .inl old) rfl _ tracked.never_again
    split
    · rw [handles_next]
      exact List.Subset.refl _
    · intro event held
      apply handled
      rw [KafkaWorker.holds, List.mem_append] at held ⊢
      refine held.imp_left fun at_rest => ?_
      obtain ⟨record, at_record, rfl⟩ := List.mem_map.mp at_rest
      exact List.mem_map_of_mem (List.mem_of_mem_filter at_record)

theorem tracked_persist {job : SendJob} {later : List SendJob} {stored trimmed : Bool}
    (tracked : Tracked serializable s) (worker : s.worker = .persisting job later)
    (delivers : cfg.keydb = true ∧ stored = true ∧
      (trimmed = true → (s.pending job.kind ++ job.events).length ≤ pendingMaxListLen)) :
    Tracked serializable { s.persisted cfg job stored trimmed with worker := .next later } := by
  obtain ⟨keydb, stores, fits⟩ := delivers
  have persisted : s.persisted cfg job stored trimmed =
      s.setPending (s.pending job.kind ++ job.events) job.kind := by
    unfold Producer.persisted
    rw [keydb, stores, Bool.and_self, if_pos rfl]
    cases trimmed with
    | false => rfl
    | true =>
      dsimp only
      rw [if_pos rfl, Nat.sub_eq_zero_of_le (fits rfl), List.drop_zero]
  have holds : s.worker.holds = job.events ++ later.flatMap SendJob.events := by
    rw [worker]; rfl
  rw [persisted]
  have same (event : QueuedEvent) :
      copies { s.setPending (s.pending job.kind ++ job.events) job.kind with
        worker := .next later } event = s.copies event := by
    cases job.kind <;>
      simp only [copies, setPending, pending, holds, holds_next, List.count_append] <;> omega
  refine tracked.of_copies (fun event => Nat.le_of_eq (same event)) (fun event _ => same event)
    ?_ ?_ ?_ ?_
  · cases job.kind <;> exact fun _ old => .inl old
  · cases job.kind <;> rfl
  · rw [handles_next]
    exact List.Subset.refl _
  · cases job.kind <;> exact tracked.never_again

theorem tracked_lpop {kind : EventKind} {count : Nat} (tracked : Tracked serializable s)
    (idle : s.replaying = []) :
    Tracked serializable { s.setPending ((s.pending kind).drop count) kind with
      replaying := (s.pending kind).take count
      taken := s.taken ++ (s.pending kind).take count } := by
  have split (event : QueuedEvent) : ((s.pending kind).take count).count event +
      ((s.pending kind).drop count).count event = (s.pending kind).count event := by
    rw [← List.count_append, List.take_append_drop]
  have same (event : QueuedEvent) :
      copies { s.setPending ((s.pending kind).drop count) kind with
        replaying := (s.pending kind).take count
        taken := s.taken ++ (s.pending kind).take count } event = s.copies event := by
    have split := split event
    cases kind <;>
      simp only [copies, setPending, pending, idle, List.count_nil] at split ⊢ <;> omega
  refine tracked.of_copies (fun event => Nat.le_of_eq (same event)) (fun event _ => same event)
    ?_ ?_ ?_ ?_
  · intro event taken
    rw [List.mem_append] at taken
    apply taken.imp_right
    intro popped
    have popped := List.count_pos_iff.mpr (List.mem_of_mem_take popped)
    cases kind <;> simp only [copies, pending] at popped ⊢ <;> omega
  · cases kind <;> rfl
  · cases kind <;> exact tracked.handled
  · cases kind <;> exact tracked.never_again

theorem tracked_step {label : ProducerLabel} (tracked : Tracked serializable s)
    (delivers : Delivers cfg label s) (moves : s.step cfg serializable label = some s') :
    Tracked serializable s' := by
  cases label with
  | send kind =>
    cases moves
    have fresh := (tracked.unsent ⟨s.nextNumber, kind⟩ (Nat.le_refl _)).1
    have delivers : s.KeepsTaken := delivers
    apply tracked_push (s := { s with nextNumber := s.nextNumber + 1 }) delivers
    · intro other
      have once : s.copies other ≤ 1 := tracked.once other
      change (s.copies other + _) ≤ 1
      split
      · next same => rw [← same, fresh]
      · exact once
    · intro other taken fine
      exact Nat.lt_of_lt_of_le (tracked.kept other taken fine) (Nat.le_add_right _ _)
    · intro other later
      have ne : ¬(⟨s.nextNumber, kind⟩ : QueuedEvent) = other := by
        rintro rfl
        exact absurd later (Nat.not_succ_le_self _)
      rw [if_neg ne]
      exact tracked.unsent other (Nat.le_of_succ_le later)
    · exact tracked.handled
    · exact tracked.never_again
  | pop =>
    simp only [step] at moves
    split at moves
    · next worker => exact tracked_popTo tracked (by rw [worker]; rfl) moves
    · cases moves
  | tryPop =>
    simp only [step] at moves
    split at moves
    · next batch worker =>
      split at moves
      · exact tracked_popTo tracked (by rw [worker]; rfl) moves
      · cases moves
    · cases moves
  | build keys =>
    simp only [step] at moves
    split at moves
    · next batch worker =>
      split at moves
      · next length =>
        cases moves
        exact tracked_build tracked (by rw [worker]; rfl) length
      · cases moves
    · cases moves
  | attempt n =>
    simp only [step] at moves
    split at moves
    · next job attempt later worker =>
      split at moves
      · cases moves
        have holds : s.worker.holds = job.events ++ later.flatMap SendJob.events := by
          rw [worker]; rfl
        exact tracked.of_same_holds holds.symm rfl
      · cases moves
    · cases moves
  | produce partitionId ok =>
    simp only [step] at moves
    split at moves
    · next job attempt n left later worker =>
      split at moves
      · cases moves
        apply tracked_produceTo tracked worker
        rintro rfl
        simp only [Delivers, worker] at delivers
        exact delivers
      · cases moves
    · cases moves
  | attemptFails =>
    simp only [step] at moves
    split at moves
    · next job attempt n left later worker =>
      cases moves
      simp only [Delivers, worker] at delivers
      subst delivers
      apply tracked.of_same_holds _ (handles_failed _ _ _ _)
      rw [holds_failed, worker]
      rfl
    · cases moves
  | totalTimeout =>
    simp only [step] at moves
    split at moves
    · next job attempt later worker =>
      cases moves
      apply tracked.of_same_holds _ rfl
      rw [worker]
      rfl
    · next job attempt n left later worker =>
      cases moves
      simp only [Delivers, worker] at delivers
      subst delivers
      apply tracked.of_same_holds _ rfl
      rw [worker]
      rfl
    · cases moves
  | persist stored trimmed =>
    simp only [step] at moves
    split at moves
    · next job later worker =>
      cases moves
      simp only [Delivers, worker] at delivers
      exact tracked_persist tracked worker delivers
    · cases moves
  | lpop kind count =>
    simp only [step] at moves
    split at moves
    · next idle =>
      cases moves
      exact tracked_lpop tracked idle.2.1
    · cases moves
  | lpopFails kind count =>
    simp only [step] at moves
    split at moves
    · next idle =>
      cases moves
      have lost : (s.pending kind).take count = [] := delivers
      have same : Tracked serializable { s.setPending ((s.pending kind).drop count) kind with
          replaying := (s.pending kind).take count
          taken := s.taken ++ (s.pending kind).take count } :=
        tracked_lpop tracked idle.2.1
      have replaying : (s.setPending ((s.pending kind).drop count) kind).replaying = [] := by
        cases kind <;> exact idle.2.1
      rw [lost] at same ⊢
      rw [replaying]
      exact same
    · cases moves
  | replayPush =>
    simp only [step] at moves
    split at moves
    · cases moves
    · next event rest replaying =>
      cases moves
      have delivers : s.KeepsTaken := delivers
      have same (other : QueuedEvent) : (copies { s with replaying := rest } other +
          if event = other then 1 else 0) = s.copies other := by
        simp only [copies, replaying, List.count_cons, beq_iff_eq]
        omega
      apply tracked_push (s := { s with replaying := rest }) delivers
      · intro other
        rw [same]
        exact tracked.once other
      · intro other taken fine
        rw [same]
        exact tracked.kept other taken fine
      · intro other later
        rw [same]
        exact tracked.unsent other later
      · exact tracked.handled
      · exact tracked.never_again
  | expire kind =>
    cases moves
    have nothing : s.pending kind = [] := delivers
    rw [← nothing]
    cases kind <;> exact tracked

end Producer

open Producer in
/-- In every run whose failures leave records in one place, nothing is lost and nothing is
produced after it was acknowledged. -/
theorem nothingLost_of_reaches {cfg : ProducerConfig} {serializable : QueuedEvent → Bool}
    {s : Producer}
    (reaches : (kafkaProducer cfg serializable).Reaches (Delivers cfg) (start cfg) s) :
    NothingLost serializable s := by
  have tracked : Tracked serializable s := by
    apply reaches.invariant (I := Tracked serializable)
    · exact ⟨fun _ => Nat.zero_le _, nofun, fun _ _ => ⟨rfl, nofun⟩, List.Subset.refl _, rfl⟩
    · exact fun _ _ _ tracked delivers moves => tracked_step tracked delivers moves
  refine ⟨fun event taken fine not_handled not_replaying => ?_, tracked.never_again⟩
  have somewhere := tracked.kept event taken fine
  have not_held : s.worker.holds.count event = 0 :=
    List.count_eq_zero.mpr fun held => not_handled (tracked.handled held)
  have not_replayed := List.count_eq_zero.mpr not_replaying
  by_contra nowhere
  simp only [not_or, ← List.count_eq_zero] at nowhere
  obtain ⟨no_acked, no_queue, no_checkin, no_checkout⟩ := nowhere
  simp only [copies] at somewhere
  omega

/-- Two ids of events, UUIDs of version 4 as `Uuid::new_v4` draws them. -/
def eventIds : List String :=
  ["6513270e-269e-4d37-b2a7-4de452e6b438", "9531985d-5d9d-49f8-9818-e811892f902b"]

/-- Two ids that are drawn when the same events are taken again. -/
def laterEventIds : List String :=
  ["6b0d549b-6f03-475a-9600-a35a099950d8", "92276658-1e27-41c0-8a6a-63ec24ede6a4"]

/-- Two check-ins fail, go through KeyDB and are acknowledged at last. -/
theorem nothingLost_after_replay :
    ∃ s : Producer, s.acked = [⟨0, .checkin⟩, ⟨1, .checkin⟩] ∧
      NothingLost (fun _ => true) s := by
  obtain ⟨s, reaches, acked⟩ := (kafkaProducer ⟨4, 2, 1, none, true⟩ fun _ => true).exists_reaches
    (Delivers ⟨4, 2, 1, none, true⟩) (Producer.start ⟨4, 2, 1, none, true⟩)
    [.send .checkin, .send .checkin, .pop, .tryPop, .build eventIds, .attempt 1, .attemptFails,
      .persist true false, .lpop .checkin 50, .replayPush, .replayPush, .pop, .tryPop,
      .build laterEventIds, .attempt 1, .produce 0 true]
    (fun s => s.acked = [⟨0, .checkin⟩, ⟨1, .checkin⟩]) (by decide +kernel)
  exact ⟨s, of_decide_eq_true acked, nothingLost_of_reaches reaches⟩

/-- A batch goes to two partitions, and the second fails: its retry produces the record that the
first has acknowledged again. -/
theorem produced_again :
    ¬ ∀ (cfg : ProducerConfig) (serializable : QueuedEvent → Bool) (s : Producer),
      (kafkaProducer cfg serializable).Reaches (fun _ _ => True) (Producer.start cfg) s →
        NothingLost serializable s := by
  intro claim
  obtain ⟨s, reaches, again⟩ := (kafkaProducer ⟨4, 2, 3, none, true⟩ fun _ => true).exists_reaches
    (fun _ _ => True) (Producer.start ⟨4, 2, 3, none, true⟩)
    [.send .checkin, .send .checkin, .pop, .tryPop, .build eventIds, .attempt 2,
      .produce 1 true, .produce 0 false, .attempt 2, .produce 1 true]
    (fun s => s.again = [⟨0, .checkin⟩]) (by decide +kernel)
  have none_again := (claim _ _ s reaches).once
  rw [of_decide_eq_true again] at none_again
  cases none_again

end TollBackend

import TollBackend.Concurrent.Machine
import Mathlib

/-!
# The queue of writes to the database

When a session, a connection server or a user can not be written to the database, the entry is
put into KeyDB under its key, and where that fails into a buffer. A task flushes the buffer to
KeyDB from time to time, and then writes what it finds in KeyDB to the database and removes it
there. Calls go on between all of these steps.

## Main definitions

* `DbRetry`: KeyDB, the buffer, the calls and the task.
* `DbRetry.LatestKept`: what the queue is for.
* `DbRetry.Undisturbed`: the condition on a step under which it does that.
-/

namespace TollBackend

open Concurrent (Machine)

/-! ### Entries -/

inductive DbRetryKind
  | session
  | connServer
  | user
deriving DecidableEq, Repr

/-- What is to be written, with what the queue reads of it. With an id it is an update, and
otherwise an insert. -/
inductive DbRetryRecord
  | session (sessionId : Int)
  | connServer (id : Option Int) (ip : String)
  | user (id : Option Int) (userName : String) (tollId : Option Int)
deriving DecidableEq, Repr

namespace DbRetryRecord

def kind : DbRetryRecord → DbRetryKind
  | .session _ => .session
  | .connServer _ _ => .connServer
  | .user _ _ _ => .user

/-- The session id, the ip, or `user_logical_key`. -/
def logicalKey : DbRetryRecord → String
  | .session sessionId => toString sessionId
  | .connServer _ ip => ip
  | .user _ userName tollId => userName ++ ":" ++ toString (tollId.getD 0)

/-- The id of an update. -/
def id : DbRetryRecord → Option Int
  | .session _ => none
  | .connServer id _ | .user id _ _ => id

end DbRetryRecord

/-- A key stands for the prefix of its kind and the logical key. -/
structure DbRetryKey where
  kind : DbRetryKind
  logicalKey : String
deriving DecidableEq, Repr

/-- An entry, told from others by its number: larger numbers were enqueued later. -/
structure DbRetryEntry where
  number : Nat
  record : DbRetryRecord
deriving DecidableEq, Repr

namespace DbRetryEntry

def kind (entry : DbRetryEntry) : DbRetryKind :=
  entry.record.kind

def key (entry : DbRetryEntry) : DbRetryKey :=
  ⟨entry.record.kind, entry.record.logicalKey⟩

/-- The same entry, or one that was enqueued later. -/
def NotAfter (a b : DbRetryEntry) : Prop :=
  a = b ∨ a.number < b.number

end DbRetryEntry

/-! ### The buffer -/

/-- `BUFFER_MAX_SESSIONS` and `BUFFER_MAX_BY_KEY`. -/
def DbRetryKind.bufferMax : DbRetryKind → Nat
  | .session => 500
  | .connServer | .user => 200

/-- `FLUSH_BATCH_SIZE`. -/
def flushBatchSize : Nat := 50

/-- `HashMap::insert`. -/
def insertByKey (buf : List DbRetryEntry) (entry : DbRetryEntry) : List DbRetryEntry :=
  if buf.any (·.key = entry.key) then
    buf.map fun other => if other.key = entry.key then entry else other
  else buf ++ [entry]

/-- A call puts its entry into the buffer. A full buffer loses its first session, or some entry of
the map. -/
def pushBuffer (buf : List DbRetryEntry) (entry : DbRetryEntry) (victim : Nat) :
    List DbRetryEntry :=
  let full := decide (entry.kind.bufferMax ≤ buf.length)
  match entry.kind with
  | .session => (if full then buf.tail else buf) ++ [entry]
  | .connServer | .user =>
    insertByKey (if !buf.any (·.key = entry.key) && full then buf.eraseIdx victim else buf) entry

/-- An entry whose flush has failed is put back, where there is room. -/
def putBack (buf : List DbRetryEntry) (entry : DbRetryEntry) : List DbRetryEntry :=
  let room := decide (buf.length < entry.kind.bufferMax)
  match entry.kind with
  | .session => if room then buf ++ [entry] else buf
  | .connServer | .user =>
    if room || buf.any (·.key = entry.key) then insertByKey buf entry else buf

/-! ### The task and the calls -/

/-- Where the retry of a key is: before it reads the entry, with the entry, after it has written
the entry to the database, or at its end. -/
inductive DbRetryTask
  | reading (key : DbRetryKey)
  | holds (entry : DbRetryEntry)
  | wrote (entry : DbRetryEntry)
  | done
deriving DecidableEq, Repr

/-- The entry that the task has read. -/
def DbRetryTask.entry : DbRetryTask → Option DbRetryEntry
  | .holds entry | .wrote entry => some entry
  | .reading _ | .done => none

/-- Where `run_db_retry_task` is: between two cycles, with lists to flush, with a chunk that is to
be put back, before the next kind, or with the retries of a kind. -/
inductive DbRetryPhase
  | waiting
  | flushing (lists : List (List DbRetryEntry))
  | puttingBack (chunk : List DbRetryEntry) (lists : List (List DbRetryEntry))
  | ready (kinds : List DbRetryKind)
  | retrying (tasks : List DbRetryTask) (kinds : List DbRetryKind)
deriving DecidableEq, Repr

namespace DbRetryPhase

/-- The entries that were taken out of the buffer and are still to be flushed. -/
def inFlight : DbRetryPhase → List DbRetryEntry
  | .flushing lists => lists.flatten
  | .puttingBack chunk lists => chunk ++ lists.flatten
  | .waiting | .ready _ | .retrying _ _ => []

/-- The chunk that is to be put back. -/
def chunk : DbRetryPhase → List DbRetryEntry
  | .puttingBack chunk _ => chunk
  | .waiting | .flushing _ | .ready _ | .retrying _ _ => []

def tasks : DbRetryPhase → List DbRetryTask
  | .retrying tasks _ => tasks
  | .waiting | .flushing _ | .puttingBack _ _ | .ready _ => []

end DbRetryPhase

/-- The state of the queue. `calls` are the entries whose write to KeyDB has failed and that are
not yet in the buffer, `latest` the entry that was enqueued last for each key, and `written` those
that the database has. -/
structure DbRetry where
  keydb : DbRetryKey → Option DbRetryEntry := fun _ => none
  buffer : DbRetryKind → List DbRetryEntry := fun _ => []
  calls : List DbRetryEntry := []
  phase : DbRetryPhase := .waiting
  nextNumber : Nat := 0
  latest : DbRetryKey → Option DbRetryEntry := fun _ => none
  written : List DbRetryEntry := []

/-- The result of an insert or an update: `updated` is what an update returns. What fails may have
had its effect. -/
inductive DbWriteResult
  | ok (updated : Bool)
  | failed (effect : Bool)
deriving DecidableEq, Repr

/-- What happens next. A statement on KeyDB that fails may have had its effect, or a part of it. -/
inductive DbRetryLabel
  | enqueue (record : DbRetryRecord) (ok effect : Bool)
  | toBuffer (i victim : Nat)
  | takeBuffer (connServers users : List DbRetryEntry)
  | notConnected (pool : Bool)
  | flush (ok : Bool) (mask : List Bool)
  | putBack
  | flushed (pool : Bool)
  | startKind (keys : Option (List DbRetryKey))
  | get (i : Nat) (found : Bool)
  | write (i : Nat) (result : DbWriteResult)
  | remove (i : Nat) (effect : Bool)
  | endKind

namespace DbRetry

variable (s : DbRetry)

/-- `SET`. -/
def setKey (entry : DbRetryEntry) : DbRetry :=
  { s with keydb := Function.update s.keydb entry.key (some entry) }

/-- The entries of a chunk whose `SET`s have an effect. -/
def effective (ok : Bool) (mask : List Bool) (chunk : List DbRetryEntry) : List DbRetryEntry :=
  if ok then chunk else ((chunk.zip mask).filter (·.2)).map (·.1)

/-- `set_many_result`. -/
def setMany (chunk : List DbRetryEntry) : DbRetry :=
  chunk.foldl setKey s

def setBuffer (kind : DbRetryKind) (buf : List DbRetryEntry) : DbRetry :=
  { s with buffer := Function.update s.buffer kind buf }

def putBackAll (chunk : List DbRetryEntry) : DbRetry :=
  chunk.foldl (fun s entry => s.setBuffer entry.kind (putBack (s.buffer entry.kind) entry)) s

/-- The task goes on to the retries, if there is a pool. -/
def retryPhase (pool : Bool) : DbRetryPhase :=
  if pool then .ready [.session, .connServer, .user] else .waiting

/-- The task of a retry makes its next step. -/
def setTask (tasks : List DbRetryTask) (kinds : List DbRetryKind) (i : Nat) (task : DbRetryTask) :
    DbRetry :=
  { s with phase := .retrying (tasks.set i task) kinds }

/-- A call begins: its entry goes to KeyDB, or has to go to the buffer. The calls for one key come
one after the other. -/
def enqueue (record : DbRetryRecord) (ok effect : Bool) : Option DbRetry :=
  let entry : DbRetryEntry := ⟨s.nextNumber, record⟩
  if s.calls.any (·.key = entry.key) then none
  else
    let s : DbRetry :=
      { s with
        nextNumber := s.nextNumber + 1
        latest := Function.update s.latest entry.key (some entry) }
    let s := if ok || effect then s.setKey entry else s
    some (if ok then s else { s with calls := s.calls ++ [entry] })

/-- A step of the task, where it is possible. -/
def taskStep : DbRetryLabel → Option DbRetry
  | .takeBuffer connServers users =>
    -- the maps are drained in any order
    if s.phase = .waiting ∧ (s.buffer .connServer).isPerm connServers ∧
        (s.buffer .user).isPerm users then
      some { s with
        phase := .flushing ([s.buffer .session, connServers, users].filter (· ≠ []))
        buffer := fun _ => [] }
    else none
  | .notConnected pool =>
    if s.phase = .waiting then some { s with phase := retryPhase pool } else none
  | .flush ok mask =>
    match s.phase with
    | .flushing (list :: lists) =>
      let chunk := list.take flushBatchSize
      let lists := if list.drop flushBatchSize = [] then lists
        else list.drop flushBatchSize :: lists
      some { s.setMany (effective ok mask chunk) with
        phase := if ok then .flushing lists else .puttingBack chunk lists }
    | .flushing [] => none
    | _ => none
  | .putBack =>
    match s.phase with
    | .puttingBack chunk lists => some { s.putBackAll chunk with phase := .flushing lists }
    | _ => none
  | .flushed pool =>
    if s.phase = .flushing [] then some { s with phase := retryPhase pool } else none
  | .startKind keys =>
    match s.phase with
    | .ready [] => some { s with phase := .waiting }
    | .ready (kind :: kinds) =>
      let keys := (keys.getD []).filter (·.kind = kind)
      some { s with phase := .retrying (keys.map .reading) kinds }
    | _ => none
  | .get i found =>
    match s.phase with
    | .retrying tasks kinds =>
      match tasks[i]? with
      | some (.reading key) =>
        let entry := if found then s.keydb key else none
        some (s.setTask tasks kinds i (entry.elim .done .holds))
      | _ => none
    | _ => none
  | .write i result =>
    match s.phase with
    | .retrying tasks kinds =>
      match tasks[i]? with
      | some (.holds entry) =>
        match result with
        | .ok updated =>
          if entry.record.id.isNone || updated then
            some { s.setTask tasks kinds i (.wrote entry) with
              written := s.written ++ [entry] }
          else some (s.setTask tasks kinds i .done)
        | .failed effect =>
          some { s.setTask tasks kinds i .done with
            written := if effect then s.written ++ [entry] else s.written }
      | _ => none
    | _ => none
  | .remove i effect =>
    match s.phase with
    | .retrying tasks kinds =>
      match tasks[i]? with
      | some (.wrote entry) =>
        some { s.setTask tasks kinds i .done with
          keydb := if effect then Function.update s.keydb entry.key none else s.keydb }
      | _ => none
    | _ => none
  | .endKind =>
    match s.phase with
    | .retrying tasks kinds =>
      if tasks.all (· = .done) then some { s with phase := .ready kinds } else none
    | _ => none
  | .enqueue _ _ _ | .toBuffer _ _ => none

/-- A step, where it is possible. -/
def step : DbRetryLabel → Option DbRetry
  | .enqueue record ok effect => s.enqueue record ok effect
  | .toBuffer i victim =>
    s.calls[i]?.map fun entry =>
      { s.setBuffer entry.kind (pushBuffer (s.buffer entry.kind) entry victim) with
        calls := s.calls.eraseIdx i }
  | label => s.taskStep label

end DbRetry

/-- The steps of the queue. -/
def dbRetry : Machine DbRetryLabel DbRetry where
  step label s := s.step label

/-! ### What the queue is for -/

namespace DbRetry

/-- The entry that was enqueued last for a key is written, or waits in KeyDB or in the buffer,
unless a step on it is in progress. A flush replaces no entry in KeyDB by an older one, a failed
flush none in the buffer, and what is removed from KeyDB was not enqueued after what was written. -/
structure LatestKept (s : DbRetry) : Prop where
  kept : ∀ key entry, s.latest key = some entry → entry ∉ s.calls → entry ∉ s.phase.inFlight →
    entry ∈ s.written ∨ s.keydb key = some entry ∨ ∃ kind, entry ∈ s.buffer kind
  flush : ∀ ok mask s', s.step (.flush ok mask) = some s' → ∀ key old new,
    s.keydb key = some old → s'.keydb key = some new → old.NotAfter new
  putBack : ∀ s', s.step .putBack = some s' → ∀ kind, ∀ entry ∈ s.buffer kind,
    entry ∈ s'.buffer kind
  remove : ∀ i effect s', s.step (.remove i effect) = some s' → ∀ key entry,
    s.keydb key = some entry → s'.keydb key = none →
      ∃ last, s.phase.tasks[i]? = some (.wrote last) ∧ entry.NotAfter last

/-- The buffer has room for what is put into it. -/
def BelowLimits (label : DbRetryLabel) (s : DbRetry) : Prop :=
  match label with
  | .toBuffer i _ => ∀ entry ∈ s.calls[i]?,
      (s.buffer (DbRetryEntry.kind entry)).length < (DbRetryEntry.kind entry).bufferMax
  | .putBack => ∀ entry ∈ s.phase.chunk,
      (s.buffer (DbRetryEntry.kind entry)).length + s.phase.chunk.length ≤
        (DbRetryEntry.kind entry).bufferMax
  | .enqueue _ _ _ | .takeBuffer _ _ | .notConnected _ | .flush _ _ | .flushed _ | .startKind _
  | .get _ _ | .write _ _ | .remove _ _ | .endKind => True

/-- No entry for this key is in a list. -/
def Without (key : DbRetryKey) (entries : List DbRetryEntry) : Prop :=
  ∀ entry ∈ entries, entry.key ≠ key

instance (key : DbRetryKey) (entries : List DbRetryEntry) : Decidable (Without key entries) :=
  inferInstanceAs (Decidable (∀ entry ∈ entries, entry.key ≠ key))

/-- An entry goes to KeyDB only while no other of its key is in the buffer, in a flush or with a
retry, and to the buffer only while none is in a flush. Where the flush of a chunk fails, there is
one entry for each of its keys in the flush. -/
def Undisturbed (label : DbRetryLabel) (s : DbRetry) : Prop :=
  match label with
  | .enqueue record ok effect => (ok || effect) = true →
      Without ⟨record.kind, record.logicalKey⟩ s.phase.inFlight ∧
      Without ⟨record.kind, record.logicalKey⟩ (s.buffer record.kind) ∧
      Without ⟨record.kind, record.logicalKey⟩ (s.phase.tasks.filterMap DbRetryTask.entry)
  | .toBuffer i _ => ∀ entry ∈ s.calls[i]?, Without (DbRetryEntry.key entry) s.phase.inFlight
  | .flush ok _ => ok = false →
      (s.phase.inFlight.map DbRetryEntry.key).Nodup
  | .takeBuffer _ _ | .notConnected _ | .putBack | .flushed _ | .startKind _ | .get _ _
  | .write _ _ | .remove _ _ | .endKind => True

instance (label : DbRetryLabel) (s : DbRetry) : Decidable (BelowLimits label s) := by
  unfold BelowLimits
  cases label <;> infer_instance

instance (label : DbRetryLabel) (s : DbRetry) : Decidable (Undisturbed label s) := by
  unfold Undisturbed
  cases label <;> infer_instance

end DbRetry

end TollBackend

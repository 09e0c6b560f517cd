import TollBackend.Concurrent.Machine
import Mathlib

/-!
# The queue of the Kafka producer

`DropOldestQueue` keeps its messages in a buffer of at most `cap`, and counts permits in a
semaphore. `push` puts a message at the end of the buffer and adds a permit; `pop` and `try_pop`
acquire a permit, take a message from the front and hand the permit back. The buffer and the
semaphore are changed in separate steps, and any number of calls run at the same time.

## Main definitions

* `DropOldestQueue`: the buffer, its capacity and the permits.
* `QueueCall`: where a call is in its code.
* `queueMachine`: the steps of all calls, with a history of the buffer.
* `DeliversInOrder`: what the queue is for.

## Main results

* `DropOldestQueue.Accounted.next`: the invariant is kept by every step.
* `deliversInOrder_of_reaches`: every message is delivered at most once, in order, and lost
  only as the oldest of a full buffer.
-/

namespace TollBackend

open Concurrent (Machine)

/-! ### The queue -/

/-- The buffer with its capacity, and the permits of the semaphore. -/
structure DropOldestQueue (α : Type) where
  buf : List α
  cap : Nat
  permits : Nat
deriving DecidableEq, Repr

namespace DropOldestQueue

variable {α : Type} (q : DropOldestQueue α)

/-- `DropOldestQueue::new`. -/
def new (capacity : Nat) : DropOldestQueue α where
  buf := []
  cap := max capacity 1
  permits := 0

/-- `was_full`, as `push` finds it. -/
def wasFull : Bool :=
  decide (q.cap ≤ q.buf.length)

/-- What is left of the buffer when `push` has made room. -/
def kept : List α :=
  if q.wasFull then q.buf.tail else q.buf

/-- The critical section of `push`. -/
def pushBack (msg : α) : DropOldestQueue α :=
  { q with buf := q.kept ++ [msg] }

/-- The critical section of `pop` and of `try_pop`. -/
def popFront : DropOldestQueue α :=
  { q with buf := q.buf.tail }

/-- `add_permits(1)`, and the drop of a permit that was acquired. -/
def addPermit : DropOldestQueue α :=
  { q with permits := q.permits + 1 }

/-- An acquired permit. -/
def takePermit : DropOldestQueue α :=
  { q with permits := q.permits - 1 }

@[simp] theorem buf_addPermit : q.addPermit.buf = q.buf := rfl
@[simp] theorem cap_addPermit : q.addPermit.cap = q.cap := rfl
@[simp] theorem permits_addPermit : q.addPermit.permits = q.permits + 1 := rfl
@[simp] theorem buf_takePermit : q.takePermit.buf = q.buf := rfl
@[simp] theorem cap_takePermit : q.takePermit.cap = q.cap := rfl
@[simp] theorem permits_takePermit : q.takePermit.permits = q.permits - 1 := rfl
@[simp] theorem cap_pushBack (msg : α) : (q.pushBack msg).cap = q.cap := rfl
@[simp] theorem permits_pushBack (msg : α) : (q.pushBack msg).permits = q.permits := rfl
@[simp] theorem buf_popFront : q.popFront.buf = q.buf.tail := rfl
@[simp] theorem cap_popFront : q.popFront.cap = q.cap := rfl
@[simp] theorem permits_popFront : q.popFront.permits = q.permits := rfl

end DropOldestQueue

/-! ### Calls -/

/-- The three operations. -/
inductive QueueOp (α : Type) : Type
  | push (msg : α)
  | pop
  | tryPop
deriving DecidableEq

/-- The message that is to be put into the buffer. -/
def QueueOp.message {α : Type} : QueueOp α → Option α
  | .push msg => some msg
  | .pop | .tryPop => none

/-- Where a call is. A message that was taken from the buffer is returned once the permit is
handed back; without a message `pop` starts again and `try_pop` returns. -/
inductive QueueCall (α : Type) : Type
  | push (msg : α)
  | pushed (msg : α)
  | pop
  | popHolds
  | popFound (msg : Option α)
  | tryPop
  | tryHolds
  | tryFound (msg : Option α)
  | pushReturned (msg : α)
  | returned (msg : Option α)
deriving DecidableEq

namespace QueueCall

variable {α : Type}

/-- The call as it starts. -/
def ofOp : QueueOp α → QueueCall α
  | .push msg => .push msg
  | .pop => .pop
  | .tryPop => .tryPop

/-- The call has returned. -/
def isReturned : QueueCall α → Bool
  | .pushReturned _ | .returned _ => true
  | _ => false

/-- The message that the call was to put into the buffer. -/
def pushes : QueueCall α → Option α
  | .push msg | .pushed msg | .pushReturned msg => some msg
  | _ => none

/-- The call has put its message into the buffer. -/
def hasInserted : QueueCall α → Bool
  | .pushed _ | .pushReturned _ => true
  | _ => false

/-- The message that the call has put into the buffer. -/
def inserted (call : QueueCall α) : Option α :=
  if call.hasInserted then call.pushes else none

/-- The permits that are missing from the semaphore because of the call: one that it holds, or
one that it has still to add for its message. -/
def owes : QueueCall α → Nat
  | .pushed _ | .popHolds | .popFound _ | .tryHolds | .tryFound _ => 1
  | _ => 0

/-- The message that the call took from the buffer. -/
def message : QueueCall α → Option α
  | .popFound msg | .tryFound msg | .returned msg => msg
  | _ => none

end QueueCall

/-! ### All calls together -/

/-- How a message left the buffer: dropped by a push that found the given number of messages,
or taken by a call. -/
inductive Removal (α : Type) : Type
  | dropped (found : Nat) (msg : α)
  | taken (call : Nat) (msg : α)
deriving DecidableEq

namespace Removal

variable {α : Type}

def msg : Removal α → α
  | dropped _ msg | taken _ msg => msg

/-- The message, if a call took it. -/
def popped : Removal α → Option α
  | dropped _ _ => none
  | taken _ msg => some msg

/-- The message, if this call took it. -/
def takenBy (call : Nat) : Removal α → Option α
  | dropped _ _ => none
  | taken by' msg => if by' = call then some msg else none

end Removal

/-- The queue and its calls, with the operations that were called, and with the history of the
buffer: the messages that were put in, each with its call, and those that left it. -/
structure QueueState (α : Type) where
  queue : DropOldestQueue α
  ops : List (QueueOp α)
  calls : List (QueueCall α)
  inserted : List (Nat × α)
  removed : List (Removal α)
deriving DecidableEq

namespace QueueState

variable {α : Type} (s : QueueState α)

/-- A queue that nobody has used. -/
def fresh (capacity : Nat) : QueueState α where
  queue := .new capacity
  ops := []
  calls := []
  inserted := []
  removed := []

/-- The messages in the order in which they were put in. -/
def messages : List α :=
  s.inserted.map Prod.snd

/-- The messages that this call put in. -/
def insertedBy (call : Nat) : List α :=
  s.inserted.filterMap fun entry => if entry.1 = call then some entry.2 else none

/-- The messages that calls took, in the order in which they took them. -/
def popped : List α :=
  s.removed.filterMap Removal.popped

/-- The messages that this call took. -/
def takenBy (call : Nat) : List α :=
  s.removed.filterMap (Removal.takenBy call)

/-- No operation is in progress. -/
def idle : Bool :=
  s.calls.all QueueCall.isReturned

/-- The call goes on from here, with this queue. -/
def goTo (i : Nat) (call : QueueCall α) (queue : DropOldestQueue α) : QueueState α :=
  { s with queue := queue, calls := s.calls.set i call }

/-- The critical section of a push. -/
def insert (i : Nat) (msg : α) : QueueState α where
  queue := s.queue.pushBack msg
  ops := s.ops
  calls := s.calls.set i (.pushed msg)
  inserted := s.inserted ++ [(i, msg)]
  removed := s.removed ++
    if s.queue.wasFull then (s.queue.buf.head?.map (.dropped s.queue.buf.length)).toList else []

/-- The critical section of a pop, which goes on with what it found. -/
def take (i : Nat) (found : Option α → QueueCall α) : QueueState α where
  queue := s.queue.popFront
  ops := s.ops
  calls := s.calls.set i (found s.queue.buf.head?)
  inserted := s.inserted
  removed := s.removed ++ (s.queue.buf.head?.map (.taken i)).toList

end QueueState

/-- A call begins, or one that runs makes its next step. -/
inductive QueueLabel (α : Type) : Type
  | call (op : QueueOp α)
  | move (i : Nat)
deriving DecidableEq

namespace QueueState

variable {α : Type} (s : QueueState α)

/-- The next step of a call. `pop` waits for a permit; a call that has returned makes no
step. -/
def advance (i : Nat) : QueueCall α → Option (QueueState α)
  | .push msg => some (s.insert i msg)
  | .pushed msg => some (s.goTo i (.pushReturned msg) s.queue.addPermit)
  | .pop => if 0 < s.queue.permits then some (s.goTo i .popHolds s.queue.takePermit) else none
  | .popHolds => some (s.take i .popFound)
  | .popFound none => some (s.goTo i .pop s.queue.addPermit)
  | .popFound (some msg) => some (s.goTo i (.returned (some msg)) s.queue.addPermit)
  | .tryPop =>
      if 0 < s.queue.permits then some (s.goTo i .tryHolds s.queue.takePermit)
      else some (s.goTo i (.returned none) s.queue)
  | .tryHolds => some (s.take i .tryFound)
  | .tryFound msg => some (s.goTo i (.returned msg) s.queue.addPermit)
  | .pushReturned _ | .returned _ => none

end QueueState

/-- All calls of the queue, in any interleaving. -/
def queueMachine (α : Type) : Machine (QueueLabel α) (QueueState α) where
  step
    | .call op, s => some { s with ops := s.ops ++ [op], calls := s.calls ++ [.ofOp op] }
    | .move i, s => s.calls[i]?.bind (s.advance i)

/-! ### The invariant -/

/-- Replacing one element changes a sum by the difference. -/
theorem sum_map_set {β : Type} (f : β → Nat) {l : List β} {i : Nat} {old : β}
    (at_i : l[i]? = some old) (new : β) :
    ((l.set i new).map f).sum + f old = (l.map f).sum + f new := by
  induction l generalizing i with
  | nil => cases at_i
  | cons x l ih =>
    cases i with
    | zero =>
      cases at_i
      simp only [List.set_cons_zero, List.map_cons, List.sum_cons]
      omega
    | succ i =>
      have rest := ih (i := i) at_i
      simp only [List.set_cons_succ, List.map_cons, List.sum_cons]
      omega

/-- Replacing one element by one with the same value changes no value. -/
theorem map_set_of_eq {β γ : Type} (f : β → γ) {l : List β} {i : Nat} {old : β}
    (at_i : l[i]? = some old) (new : β) (same : f new = f old) :
    (l.set i new).map f = l.map f := by
  obtain ⟨bound, rfl⟩ := List.getElem?_eq_some_iff.mp at_i
  rw [List.map_set, same, ← List.getElem_map f (h := by simpa using bound), List.set_getElem_self]

/-- What is found after a replacement is what was found before, if the values are the same. -/
theorem bind_set_of_eq {β γ : Type} (f : β → Option γ) {l : List β} {i : Nat} {old : β}
    (at_i : l[i]? = some old) (new : β) (same : f new = f old) (j : Nat) :
    (l.set i new)[j]?.bind f = l[j]?.bind f := by
  by_cases eq : i = j
  · subst eq
    obtain ⟨bound, rfl⟩ := List.getElem?_eq_some_iff.mp at_i
    simp [bound, same]
  · rw [List.getElem?_set_ne eq]

namespace QueueState

variable {α : Type} {capacity : Nat} {s : QueueState α}

/-- What holds between the steps. No permit is ever used up: each push adds one, which is in the
semaphore or owed by a call. -/
structure Accounted (capacity : Nat) (s : QueueState α) : Prop where
  cap : s.queue.cap = max capacity 1
  called : s.calls.map QueueCall.pushes = s.ops.map QueueOp.message
  inserts : ∀ i, s.insertedBy i = (s.calls[i]?.bind QueueCall.inserted).toList
  fifo : s.messages = s.removed.map Removal.msg ++ s.queue.buf
  bounded : s.queue.buf.length ≤ s.queue.cap
  drops : ∀ found msg, Removal.dropped found msg ∈ s.removed → found = s.queue.cap
  permits : s.queue.permits + (s.calls.map QueueCall.owes).sum = s.messages.length
  takes : ∀ i, s.takenBy i = (s.calls[i]?.bind QueueCall.message).toList

theorem accounted_fresh : Accounted capacity (fresh capacity : QueueState α) where
  cap := rfl
  called := rfl
  inserts _ := rfl
  fifo := rfl
  bounded := Nat.zero_le _
  drops _ _ mem := nomatch mem
  permits := rfl
  takes _ := rfl

/-- What a new call has put in or taken, which is nothing, is found where no call was. -/
theorem bind_append_of_none {β : Type} (f : QueueCall α → Option β) {call : QueueCall α}
    (nothing : f call = none) (i : Nat) :
    (s.calls ++ [call])[i]?.bind f = s.calls[i]?.bind f := by
  by_cases old : i < s.calls.length
  · rw [List.getElem?_append_left old]
  · rw [List.getElem?_append_right (Nat.not_lt.mp old), List.getElem?_eq_none (Nat.not_lt.mp old)]
    cases i - s.calls.length <;> simp [nothing]

/-- A new call has put in and taken nothing and owes nothing. -/
theorem Accounted.call (inv : s.Accounted capacity) (op : QueueOp α) :
    Accounted capacity { s with ops := s.ops ++ [op], calls := s.calls ++ [.ofOp op] } := by
  have owes : (QueueCall.ofOp op).owes = 0 := by cases op <;> rfl
  have pushes : (QueueCall.ofOp op).pushes = op.message := by cases op <;> rfl
  refine ⟨inv.cap, ?_, fun i => (inv.inserts i).trans ?_, inv.fifo, inv.bounded, inv.drops, ?_,
    fun i => (inv.takes i).trans ?_⟩
  · simp only [List.map_append, List.map_singleton, inv.called, pushes]
  · rw [bind_append_of_none _ (by cases op <;> rfl)]
  · have permits := inv.permits
    simp only [List.map_append, List.map_singleton, List.sum_append, List.sum_singleton, owes]
    exact permits
  · rw [bind_append_of_none _ (by cases op <;> rfl)]

/-- A step of a call that leaves the buffer alone, where the permits and what the call owes
still add up. -/
theorem Accounted.goTo (inv : s.Accounted capacity) {i : Nat} {old new : QueueCall α}
    {queue : DropOldestQueue α} (at_i : s.calls[i]? = some old) (buf : queue.buf = s.queue.buf)
    (cap : queue.cap = s.queue.cap)
    (permits : queue.permits + new.owes = s.queue.permits + old.owes)
    (pushes : new.pushes = old.pushes) (inserted : new.inserted = old.inserted)
    (message : new.message = old.message) : Accounted capacity (s.goTo i new queue) := by
  refine ⟨cap.trans inv.cap, ?_, fun j => (inv.inserts j).trans ?_, ?_, ?_,
    fun found msg mem => ?_, ?_, fun j => (inv.takes j).trans ?_⟩
  · exact (map_set_of_eq _ at_i new pushes).trans inv.called
  · rw [QueueState.goTo, bind_set_of_eq _ at_i new inserted]
  · exact inv.fifo.trans (congrArg _ buf.symm)
  · change queue.buf.length ≤ queue.cap
    rw [buf, cap]
    exact inv.bounded
  · exact (inv.drops found msg mem).trans cap.symm
  · have total := inv.permits
    have change := sum_map_set QueueCall.owes at_i new
    change queue.permits + ((s.calls.set i new).map QueueCall.owes).sum = s.messages.length
    omega
  · rw [QueueState.goTo, bind_set_of_eq _ at_i new message]

/-- What is found for a call after it has gained a value that it did not have. -/
theorem toList_bind_set {β : Type} (f : QueueCall α → Option β) {i : Nat} {old : QueueCall α}
    (at_i : s.calls[i]? = some old) (nothing : f old = none) (new : QueueCall α) (j : Nat) :
    ((s.calls.set i new)[j]?.bind f).toList =
      (s.calls[j]?.bind f).toList ++ if i = j then (f new).toList else [] := by
  by_cases same : i = j
  · subst same
    obtain ⟨bound, at_i⟩ := List.getElem?_eq_some_iff.mp at_i
    simp [bound, at_i, nothing]
  · rw [List.getElem?_set_ne same, if_neg same, List.append_nil]

/-- The critical section of a push: a full buffer loses its oldest message, and the call has put
in the message that it was called with. -/
theorem Accounted.insert (inv : s.Accounted capacity) {i : Nat} {msg : α}
    (at_i : s.calls[i]? = some (.push msg)) : Accounted capacity (s.insert i msg) := by
  have room : 1 ≤ s.queue.cap := inv.cap ▸ Nat.le_max_right _ _
  have bounded := inv.bounded
  have kept : s.messages = ((s.insert i msg).removed).map Removal.msg ++ s.queue.kept := by
    rw [inv.fifo, QueueState.insert, DropOldestQueue.kept]
    cases s.queue.wasFull
    · simp
    · cases s.queue.buf <;> simp [Removal.msg]
  have messages : (s.insert i msg).messages = s.messages ++ [msg] := by
    simp [QueueState.messages, QueueState.insert]
  refine ⟨inv.cap, ?_, fun j => ?_, ?_, ?_, fun found lost mem => ?_, ?_, fun j => ?_⟩
  · exact (map_set_of_eq _ at_i (.pushed msg) rfl).trans inv.called
  · have inserted : (s.insert i msg).insertedBy j =
        s.insertedBy j ++ if i = j then [msg] else [] := by
      rw [insertedBy, QueueState.insert, List.filterMap_append, insertedBy]
      by_cases same : i = j <;> simp [same]
    rw [inserted, inv.inserts j]
    exact (toList_bind_set QueueCall.inserted at_i rfl (.pushed msg) j).symm
  · change _ = _ ++ (s.queue.kept ++ [msg])
    rw [messages, kept, List.append_assoc]
  · change (s.queue.kept ++ [msg]).length ≤ s.queue.cap
    by_cases full : s.queue.cap ≤ s.queue.buf.length
    · simp [DropOldestQueue.kept, DropOldestQueue.wasFull, full]
      omega
    · simp [DropOldestQueue.kept, DropOldestQueue.wasFull, full]
      omega
  · change found = s.queue.cap
    rcases List.mem_append.mp mem with old | new
    · exact inv.drops found lost old
    · by_cases full : s.queue.cap ≤ s.queue.buf.length
      · simp [DropOldestQueue.wasFull, full] at new
        omega
      · simp [DropOldestQueue.wasFull, full] at new
  · have permits := inv.permits
    have change := sum_map_set QueueCall.owes at_i (.pushed msg)
    rw [messages, List.length_append, List.length_singleton]
    simp only [QueueState.insert, DropOldestQueue.permits_pushBack, QueueCall.owes] at change ⊢
    omega
  · -- a message that is dropped was taken by nobody
    have taken : (s.insert i msg).takenBy j = s.takenBy j := by
      rw [takenBy, QueueState.insert, List.filterMap_append, takenBy]
      cases s.queue.wasFull <;> cases s.queue.buf <;> simp [Removal.takenBy]
    rw [taken, inv.takes j, QueueState.insert, bind_set_of_eq _ at_i (.pushed msg) rfl]

/-- The critical section of a pop: the oldest message leaves the buffer, if there is one. -/
theorem Accounted.take (inv : s.Accounted capacity) {i : Nat} {old : QueueCall α}
    {found : Option α → QueueCall α} (at_i : s.calls[i]? = some old)
    (nothing : old.message = none) (message : ∀ msg, (found msg).message = msg)
    (pushes : ∀ msg, (found msg).pushes = old.pushes)
    (inserted : ∀ msg, (found msg).inserted = old.inserted)
    (owes : ∀ msg, (found msg).owes = old.owes) : Accounted capacity (s.take i found) := by
  have bounded := inv.bounded
  refine ⟨inv.cap, ?_, fun j => (inv.inserts j).trans ?_, ?_, ?_, fun dropped lost mem => ?_, ?_,
    fun j => ?_⟩
  · exact (map_set_of_eq _ at_i _ (pushes _)).trans inv.called
  · rw [QueueState.take, bind_set_of_eq _ at_i _ (inserted _)]
  · change s.messages = _ ++ s.queue.buf.tail
    rw [inv.fifo, QueueState.take]
    cases s.queue.buf <;> simp [Removal.msg]
  · change s.queue.buf.tail.length ≤ s.queue.cap
    rw [List.length_tail]
    omega
  · rcases List.mem_append.mp mem with old | new
    · exact inv.drops dropped lost old
    · cases s.queue.buf <;> simp at new
  · have permits := inv.permits
    have change := sum_map_set QueueCall.owes at_i (found s.queue.buf.head?)
    rw [owes] at change
    change s.queue.permits + ((s.calls.set i _).map QueueCall.owes).sum = s.messages.length
    omega
  · have taken : (s.take i found).takenBy j =
        s.takenBy j ++ if i = j then s.queue.buf.head?.toList else [] := by
      rw [takenBy, QueueState.take, List.filterMap_append, takenBy]
      by_cases same : i = j <;> cases s.queue.buf <;> simp [Removal.takenBy, same]
    rw [taken, inv.takes j, QueueState.take, toList_bind_set _ at_i nothing, message]

/-- A call that waits gets a permit, which it owes from then on. -/
theorem Accounted.acquire (inv : s.Accounted capacity) {i : Nat} {old new : QueueCall α}
    (at_i : s.calls[i]? = some old) (permit : 0 < s.queue.permits)
    (owes : new.owes = old.owes + 1) (pushes : new.pushes = old.pushes)
    (inserted : new.inserted = old.inserted) (message : new.message = old.message) :
    Accounted capacity (s.goTo i new s.queue.takePermit) := by
  have permits : s.queue.takePermit.permits + new.owes = s.queue.permits + old.owes := by
    rw [DropOldestQueue.permits_takePermit]
    omega
  exact inv.goTo at_i rfl rfl permits pushes inserted message

/-- The invariant is kept by every step of every call. -/
theorem Accounted.next (inv : s.Accounted capacity) {label : QueueLabel α} {s' : QueueState α}
    (moves : (queueMachine α).step label s = some s') : s'.Accounted capacity := by
  cases label with
  | call op =>
    cases moves
    exact inv.call op
  | move i =>
    obtain ⟨call, at_i, step⟩ := Option.bind_eq_some_iff.mp moves
    cases call with
    | push msg =>
      cases step
      exact inv.insert at_i
    | pushed =>
      cases step
      exact inv.goTo at_i rfl rfl rfl rfl rfl rfl
    | pop =>
      obtain ⟨permit, step⟩ := Option.ite_none_right_eq_some.mp step
      cases step
      exact inv.acquire at_i permit rfl rfl rfl rfl
    | popHolds =>
      cases step
      exact inv.take at_i rfl (fun _ => rfl) (fun _ => rfl) (fun _ => rfl) fun _ => rfl
    | popFound msg =>
      cases msg with
      | none => cases step; exact inv.goTo at_i rfl rfl rfl rfl rfl rfl
      | some msg => cases step; exact inv.goTo at_i rfl rfl rfl rfl rfl rfl
    | tryPop =>
      by_cases permit : 0 < s.queue.permits
      · cases (if_pos permit).symm.trans step
        exact inv.acquire at_i permit rfl rfl rfl rfl
      · cases (if_neg permit).symm.trans step
        exact inv.goTo at_i rfl rfl rfl rfl rfl rfl
    | tryHolds =>
      cases step
      exact inv.take at_i rfl (fun _ => rfl) (fun _ => rfl) (fun _ => rfl) fun _ => rfl
    | tryFound msg =>
      cases step
      exact inv.goTo at_i rfl rfl rfl rfl rfl rfl
    | pushReturned => cases step
    | returned => cases step

theorem accounted_of_reaches {cond : QueueLabel α → QueueState α → Prop}
    (reaches : (queueMachine α).Reaches cond (fresh capacity) s) : s.Accounted capacity :=
  reaches.invariant accounted_fresh fun _ _ _ inv _ moves => inv.next moves

/-! ### Delivery -/

/-- What the queue is for. A push puts in the message that it was called with, once, and no other
call puts in anything. The messages that were taken form a subsequence of those put in; a call
returns what it took, and takes at most one message; all others are still in the buffer, or were
the oldest of a full buffer when a push dropped them. While nothing is in progress, a pop of
either kind finds the head of the buffer. -/
structure DeliversInOrder (capacity : Nat) (s : QueueState α) : Prop where
  pushes : ∀ i op, s.ops[i]? = some op → ∃ call, s.calls[i]? = some call ∧
    s.insertedBy i = if call.hasInserted then op.message.toList else []
  among : ∀ entry ∈ s.inserted, entry.1 < s.ops.length
  popped : s.popped.Sublist s.messages
  returns : ∀ i call, s.calls[i]? = some call → s.takenBy i = call.message.toList
  conserves : s.messages = s.removed.map Removal.msg ++ s.queue.buf
  drops : ∀ found msg, Removal.dropped found msg ∈ s.removed → found = max capacity 1
  bounded : s.queue.buf.length ≤ max capacity 1
  ready : s.idle = true → ∀ msg rest, s.queue.buf = msg :: rest →
    ∀ op ∈ [QueueOp.pop, QueueOp.tryPop], ∃ s',
      (queueMachine α).runUnder (fun _ _ => True)
        (.call op :: List.replicate 3 (.move s.calls.length)) s = some s' ∧
      s'.calls[s.calls.length]? = some (.returned (some msg)) ∧ s'.queue.buf = rest

/-- Each call is where its operation leads, with what it was to put in. -/
theorem Accounted.called_at (inv : s.Accounted capacity) {i : Nat} {op : QueueOp α}
    (at_i : s.ops[i]? = some op) : ∃ call, s.calls[i]? = some call ∧ call.pushes = op.message := by
  have value : (s.calls.map QueueCall.pushes)[i]? = some op.message := by
    rw [inv.called, List.getElem?_map, at_i]
    rfl
  rw [List.getElem?_map] at value
  exact Option.map_eq_some_iff.mp value

theorem Accounted.insertedBy_eq (inv : s.Accounted capacity) {i : Nat} {op : QueueOp α}
    (at_i : s.ops[i]? = some op) : ∃ call, s.calls[i]? = some call ∧
      s.insertedBy i = if call.hasInserted then op.message.toList else [] := by
  obtain ⟨call, called, pushes⟩ := inv.called_at at_i
  refine ⟨call, called, ?_⟩
  rw [inv.inserts i, called, Option.bind_some, QueueCall.inserted, pushes]
  cases call.hasInserted <;> rfl

/-- Only calls put in messages. -/
theorem Accounted.lt_of_inserted (inv : s.Accounted capacity) {entry : Nat × α}
    (mem : entry ∈ s.inserted) : entry.1 < s.ops.length := by
  have own : entry.2 ∈ s.insertedBy entry.1 :=
    List.mem_filterMap.mpr ⟨entry, mem, if_pos rfl⟩
  have lengths : s.calls.length = s.ops.length := by
    simpa using congrArg List.length inv.called
  by_contra beyond
  rw [inv.inserts, List.getElem?_eq_none (lengths ▸ Nat.not_lt.mp beyond)] at own
  cases own

/-- While nothing is in progress, there is a permit for each message that was ever put in. -/
theorem Accounted.permits_of_idle (inv : s.Accounted capacity) (idle : s.idle = true) :
    s.queue.permits = s.messages.length := by
  have nothing : (s.calls.map QueueCall.owes).sum = 0 := by
    apply List.sum_eq_zero_iff_forall_eq_nat.mpr
    intro n mem
    obtain ⟨call, among, rfl⟩ := List.mem_map.mp mem
    have returned := List.all_eq_true.mp idle call among
    cases call <;> first | rfl | cases returned
  have permits := inv.permits
  omega

/-- The messages that were taken are among those that left the buffer, in the same order. -/
theorem Accounted.popped_sublist (inv : s.Accounted capacity) : s.popped.Sublist s.messages := by
  have taken : s.popped.Sublist (s.removed.map Removal.msg) := by
    rw [popped]
    induction s.removed with
    | nil => exact .slnil
    | cons removal rest ih =>
      cases removal with
      | dropped found msg => exact ih.cons _
      | taken call msg => exact ih.cons_cons _
  rw [inv.fifo]
  exact taken.trans (List.sublist_append_left _ _)

/-- A pop that runs alone while there is a permit and a message. -/
theorem run_alone {msg : α} {rest : List α} (permit : 0 < s.queue.permits)
    (head : s.queue.buf = msg :: rest) {op : QueueOp α} (pops : op ∈ [QueueOp.pop, .tryPop]) :
    ∃ s', (queueMachine α).runUnder (fun _ _ => True)
        (.call op :: List.replicate 3 (.move s.calls.length)) s = some s' ∧
      s'.calls[s.calls.length]? = some (.returned (some msg)) ∧ s'.queue.buf = rest := by
  rcases List.mem_pair.mp pops with rfl | rfl
  · simp [Machine.runUnder, queueMachine, QueueCall.ofOp, advance, permit, goTo, take, head]
  · simp [Machine.runUnder, queueMachine, QueueCall.ofOp, advance, permit, goTo, take, head]

end QueueState

open QueueState in
/-- In every run of any number of calls of the queue, its messages are delivered in order. -/
theorem deliversInOrder_of_reaches {α : Type} {capacity : Nat} {s : QueueState α}
    (reaches : (queueMachine α).Reaches (fun _ _ => True) (fresh capacity) s) :
    DeliversInOrder capacity s := by
  have inv := accounted_of_reaches reaches
  refine ⟨fun _ _ => inv.insertedBy_eq, fun _ => inv.lt_of_inserted, inv.popped_sublist, ?_,
    inv.fifo, ?_, ?_, ?_⟩
  · intro i call at_i
    rw [inv.takes i, at_i, Option.bind_some]
  · intro found msg mem
    exact (inv.drops found msg mem).trans inv.cap
  · rw [← inv.cap]
    exact inv.bounded
  · intro idle msg rest head op pops
    have permits := inv.permits_of_idle idle
    apply run_alone ?_ head pops
    rw [permits, inv.fifo, head, List.length_append, List.length_cons]
    omega

/-- Two pushes into a queue with room for one message, and a pop that began before them. -/
theorem deliversInOrder_dropped :
    ∃ s, (queueMachine Nat).Reaches (fun _ _ => True) (QueueState.fresh 0) s ∧
      s.removed = [.dropped 1 7, .taken 0 8] ∧ QueueState.DeliversInOrder 0 s := by
  obtain ⟨s, reaches, removed⟩ := Machine.exists_reaches (queueMachine Nat) (fun _ _ => True)
    (QueueState.fresh 0) [.call .pop, .call (.push 7), .call (.push 8), .move 1, .move 2, .move 1,
      .move 0, .move 0, .move 0, .move 2]
    (fun s => decide (s.removed = [.dropped 1 7, .taken 0 8])) (by decide +kernel)
  exact ⟨s, reaches, of_decide_eq_true removed, deliversInOrder_of_reaches reaches⟩

end TollBackend

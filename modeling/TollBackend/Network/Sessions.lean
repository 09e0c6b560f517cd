import TollBackend.Concurrent.Machine
import TollBackend.Fe.Dispatch

/-!
# The session table

A `CONNECT` gets a session id from a sequence of the database, or, when the sequence fails, the
number of its connection. What requests, ends of connections and timers change in the session
map they send as updates, which one task applies in the order in which they were sent.

## Main definitions

* `SessionServer`: the connections, the map and the updates that are to be applied.
* `SessionServer.table`: the map when they have been applied.
* `OneOwner`, `OwnSessions`: who owns the sessions, and what requests do to them.
* `SessionsApart`: the condition on a step under which the sessions are kept apart.

## Main results

* `sessions_of_reaches`: sessions that are kept apart have one owner, whose requests refresh them.
* `sessionMap_of_reaches`: the same of the map itself, when no update is pending.
-/

namespace TollBackend

open Concurrent Fe

structure SessionInfo where
  connId : Int
  lastReceivedTime : Nat
deriving DecidableEq, Repr

/-- The session map, with one entry for a session id. -/
abbrev SessionMap := List (Int × SessionInfo)

inductive SessionUpdate
  | insert (sessionId connId : Int) (lastReceivedTime : Nat)
  | updateHandshake (sessionId : Int) (lastReceivedTime : Nat)
  | remove (sessionId : Int)
  | removeByConnId (connId : Int)
deriving DecidableEq, Repr

namespace SessionUpdate

/-- What the task does to the map for an update. -/
def apply (sessions : SessionMap) : SessionUpdate → SessionMap
  | .insert sessionId connId time =>
    (sessionId, ⟨connId, time⟩) :: sessions.filter fun e => e.1 ≠ sessionId
  | .updateHandshake sessionId time =>
    sessions.map fun e =>
      if e.1 = sessionId then (e.1, { e.2 with lastReceivedTime := time }) else e
  | .remove sessionId => sessions.filter fun e => e.1 ≠ sessionId
  | .removeByConnId connId => sessions.filter fun e => e.2.connId ≠ connId

variable {sessions : SessionMap} {e : Int × SessionInfo} {sessionId connId : Int} {time : Nat}

@[simp] theorem mem_insert :
    e ∈ (insert sessionId connId time).apply sessions ↔
      e = (sessionId, ⟨connId, time⟩) ∨ e ∈ sessions ∧ e.1 ≠ sessionId := by
  simp [apply]

@[simp] theorem mem_remove :
    e ∈ (remove sessionId).apply sessions ↔ e ∈ sessions ∧ e.1 ≠ sessionId := by
  simp [apply]

@[simp] theorem mem_removeByConnId :
    e ∈ (removeByConnId connId).apply sessions ↔ e ∈ sessions ∧ e.2.connId ≠ connId := by
  simp [apply]

/-- A refresh changes no other session. -/
theorem mem_updateHandshake_of_ne (other : e.1 ≠ sessionId) :
    e ∈ (updateHandshake sessionId time).apply sessions ↔ e ∈ sessions := by
  constructor
  · intro mem
    obtain ⟨e', mem', rfl⟩ := List.mem_map.mp mem
    split at other
    · next same => exact absurd same other
    · next ne =>
      rw [if_neg ne]
      exact mem'
  · intro mem
    exact List.mem_map.mpr ⟨e, mem, if_neg other⟩

/-- A refresh keeps whose a session is. -/
theorem exists_of_mem_updateHandshake (mem : e ∈ (updateHandshake sessionId time).apply sessions) :
    ∃ e' ∈ sessions, e'.1 = e.1 ∧ e'.2.connId = e.2.connId := by
  obtain ⟨e', mem', rfl⟩ := List.mem_map.mp mem
  refine ⟨e', mem', ?_⟩
  split <;> exact ⟨rfl, rfl⟩

theorem mem_updateHandshake (mem : e ∈ sessions) :
    (e.1, if e.1 = sessionId then ⟨e.2.connId, time⟩ else e.2) ∈
      (updateHandshake sessionId time).apply sessions := by
  refine List.mem_map.mpr ⟨e, mem, ?_⟩
  split <;> rfl

/-- There stays one entry for a session id. -/
theorem nodup_apply (nodup : (sessions.map (·.1)).Nodup) (update : SessionUpdate) :
    ((update.apply sessions).map (·.1)).Nodup := by
  cases update with
  | insert sessionId connId time =>
    simp only [apply, List.map_cons, List.nodup_cons]
    refine ⟨?_, nodup.sublist (List.filter_sublist.map _)⟩
    intro mem
    obtain ⟨e, kept, same⟩ := List.mem_map.mp mem
    exact absurd same (of_decide_eq_true (List.mem_filter.mp kept).2)
  | updateHandshake sessionId time =>
    have keys : (apply sessions (.updateHandshake sessionId time)).map (·.1) =
        sessions.map (·.1) := by
      simp only [apply, List.map_map]
      apply List.map_congr_left
      intro e _
      simp only [Function.comp_apply]
      split <;> rfl
    rwa [keys]
  | remove sessionId => exact nodup.sublist (List.filter_sublist.map _)
  | removeByConnId connId => exact nodup.sublist (List.filter_sublist.map _)

end SessionUpdate

/-- A connection. `owned` are the session ids with which its `CONNECT`s were answered with status
0, and which it has not terminated; `terminating` is the session of a `TERMINATE` that is being
processed. -/
structure Peer where
  connId : Int
  isOpen : Bool := true
  owned : List Int := []
  terminating : Option Int := none
deriving DecidableEq, Repr

/-- The server as far as sessions go: `cleanup` holds the idle sessions that the cleanup has found,
with their connections. -/
structure SessionServer where
  now : Nat := 0
  nextConnId : Int := 1
  peers : List Peer := []
  activeConns : List Int := []
  sessions : SessionMap := []
  updates : List SessionUpdate := []
  cleanup : List (Int × Int) := []
deriving DecidableEq, Repr

/-- What happens next. A request that is refused for its length, its command or its station sends
no update, and is no step. -/
inductive SessionLabel
  | tick (seconds : Nat)
  | accept
  | connect (i : Nat) (sequence : Option Int) (accepted : Bool)
  | request (i : Nat) (command : Int) (data : Bytes)
  | removes (i : Nat)
  | finish (i : Nat)
  | timerEnds (i : Nat)
  | idleFinds (j : Nat)
  | idleNext
  | update

/-- The connection whose request it is. -/
def SessionLabel.requester : SessionLabel → Option Nat
  | .connect i _ _ | .request i _ _ | .removes i => some i
  | .tick _ | .accept | .finish _ | .timerEnds _ | .idleFinds _ | .idleNext | .update => none

namespace SessionServer

variable (s : SessionServer)

/-- The session map, when all updates that have been sent are applied. -/
def table : SessionMap :=
  s.updates.foldl SessionUpdate.apply s.sessions

def send (update : SessionUpdate) : SessionServer :=
  { s with updates := s.updates ++ [update] }

/-- The next connection; its number is the next one, which is 1 again after the largest. -/
def accept : SessionServer :=
  { s with
    nextConnId := if s.nextConnId = 2 ^ 31 - 1 then 1 else s.nextConnId + 1
    peers := s.peers ++ [{ connId := s.nextConnId }]
    activeConns := s.nextConnId :: s.activeConns.filter (· ≠ s.nextConnId) }

/-- `handle_connect`: a value of the sequence is the session id, or the number of the connection
if there is none. -/
def connect (i : Nat) (p : Peer) (sequence : Option Int) (accepted : Bool) : SessionServer :=
  let sessionId := sequence.getD p.connId
  if accepted then
    { s with peers := s.peers.set i { p with owned := sessionId :: p.owned } }.send
      (.insert sessionId p.connId s.now)
  else s

/-- `process_request` refreshes the session that it reads, and then a `TERMINATE` is parsed. -/
def request (i : Nat) (p : Peer) (command : Int) (data : Bytes) (ids : I64 × I64) :
    SessionServer :=
  let terminating :=
    if command = TERMINATE then (parseTerminate data).toOption.map (·.2.sessionId.val) else none
  { s with peers := s.peers.set i { p with terminating := terminating } }.send
    (.updateHandshake ids.2.val s.now)

/-- `handle_terminate` removes the session that it has parsed. -/
def removes (i : Nat) (p : Peer) (sessionId : Int) : SessionServer :=
  { s with
    peers := s.peers.set i
      { p with terminating := none, owned := p.owned.filter (· ≠ sessionId) } }.send
    (.remove sessionId)

/-- A connection ends. -/
def finish (i : Nat) (p : Peer) : SessionServer :=
  { s with
    peers := s.peers.set i { p with isOpen := false }
    activeConns := s.activeConns.filter (· ≠ p.connId) }.send (.removeByConnId p.connId)

/-- A step, where it is possible. -/
def step (idleTimeout : Nat) (label : SessionLabel) : Option SessionServer :=
  match label with
  | .tick seconds => some { s with now := s.now + seconds }
  | .accept => some s.accept
  | .connect i sequence accepted =>
    s.peers[i]?.bind fun p =>
      if p.isOpen ∧ p.terminating = none then some (s.connect i p sequence accepted) else none
  | .request i command data =>
    s.peers[i]?.bind fun p =>
      if p.isOpen ∧ p.terminating = none ∧ command ≠ CONNECT ∧
          (checkRequest command data).isOk = true then
        (dispatchIds command data).toOption.map (s.request i p command data)
      else none
  | .removes i =>
    s.peers[i]?.bind fun p => if p.isOpen then p.terminating.map (s.removes i p) else none
  | .finish i => s.peers[i]?.bind fun p => if p.isOpen then some (s.finish i p) else none
  | .timerEnds i =>
    -- the timer of a connection closes it, unless it finds a session of it
    s.peers[i]?.bind fun p =>
      if s.sessions.any fun e => e.2.connId == p.connId then none
      else some (s.send (.removeByConnId p.connId))
  | .idleFinds j =>
    s.sessions[j]?.bind fun e =>
      if s.now - e.2.lastReceivedTime ≤ idleTimeout then none
      else some { s with cleanup := s.cleanup ++ [(e.1, e.2.connId)] }
  | .idleNext =>
    match s.cleanup with
    | [] => none
    | (sessionId, connId) :: rest =>
      if s.activeConns.contains connId then some { s with cleanup := rest }
      else some ({ s with cleanup := rest }.send (.remove sessionId))
  | .update =>
    match s.updates with
    | [] => none
    | update :: rest => some { s with sessions := update.apply s.sessions, updates := rest }

end SessionServer

/-- The steps of the server. -/
def sessionServer (idleTimeout : Nat) : Machine SessionLabel SessionServer where
  step label s := s.step idleTimeout label

/-! ### Owners -/

/-- A session has one owner among the open connections, and the map has sessions of open
connections only, which their `CONNECT`s have got. -/
structure OneOwner (s : SessionServer) : Prop where
  unique : ∀ (i j : Nat) (p q : Peer) (sessionId : Int), s.peers[i]? = some p →
    s.peers[j]? = some q → p.isOpen = true → q.isOpen = true →
    sessionId ∈ p.owned → sessionId ∈ q.owned → i = j
  entries : ∀ e ∈ s.table, ∃ p ∈ s.peers, p.isOpen = true ∧ p.connId = e.2.connId ∧ e.1 ∈ p.owned

/-- A request leaves the sessions of other open connections alone. If it carries a session of its
connection, it refreshes this session and nothing else. -/
structure OwnSessions (label : SessionLabel) (s s' : SessionServer) : Prop where
  others : ∀ (i j : Nat) (q : Peer) (e : Int × SessionInfo), label.requester = some i → j ≠ i →
    s.peers[j]? = some q → q.isOpen = true → e.1 ∈ q.owned → (e ∈ s'.table ↔ e ∈ s.table)
  refreshes : ∀ (i : Nat) (command : Int) (data : Bytes) (p : Peer) (session : I64),
    label = .request i command data → s.peers[i]? = some p →
    carriedSession command data = some session → session.val ∈ p.owned →
      (session.val, ⟨p.connId, s.now⟩) ∈ s'.table ∧
        ∀ e, e.1 ≠ session.val → (e ∈ s'.table ↔ e ∈ s.table)

/-- No open connection but this one owns the session. -/
def SessionServer.NotElsewhere (s : SessionServer) (i : Nat) (sessionId : Int) : Prop :=
  ∀ q ∈ s.peers.eraseIdx i, q.isOpen = true → sessionId ∉ q.owned

instance (s : SessionServer) (i : Nat) (sessionId : Int) :
    Decidable (s.NotElsewhere i sessionId) :=
  inferInstanceAs (Decidable (∀ q ∈ s.peers.eraseIdx i, q.isOpen = true → sessionId ∉ q.owned))

/-- No number of an open connection is given again. The session id that a `CONNECT` gets, the one
that a `TERMINATE` carries and the one that is read from a request belong to no other open
connection, and no version before the ids of a request is overlooked that carries a session of its
connection. The timer of a connection does not miss a session that the connection has got, and
no session that the cleanup has found has been given to an open connection since. -/
def SessionsApart (label : SessionLabel) (s : SessionServer) : Prop :=
  match label with
  | .accept => ∀ q ∈ s.peers, q.isOpen = true → q.connId ≠ s.nextConnId
  | .connect i sequence accepted =>
    ∀ p ∈ s.peers[i]?, accepted = true → s.NotElsewhere i (sequence.getD p.connId)
  | .request i command data =>
    (∀ ids ∈ (dispatchIds command data).toOption, s.NotElsewhere i ids.2.val) ∧
    ∀ p ∈ s.peers[i]?, ∀ session ∈ carriedSession command data, session.val ∈ p.owned →
      versionUnexpected.contains command = true → i64 data 16 24 = i64 data 20 28
  | .removes i => ∀ p ∈ s.peers[i]?, ∀ sessionId ∈ p.terminating, s.NotElsewhere i sessionId
  | .timerEnds i =>
    ∀ p ∈ s.peers[i]?, ∀ q ∈ s.peers, q.isOpen = true → q.connId = p.connId → q.owned = []
  | .idleNext => ∀ found ∈ s.cleanup.head?, s.activeConns.contains found.2 = false →
      ∀ q ∈ s.peers, q.isOpen = true → found.1 ∉ q.owned
  | _ => True

instance (label : SessionLabel) (s : SessionServer) : Decidable (SessionsApart label s) := by
  unfold SessionsApart
  cases label <;> dsimp only <;> infer_instance


section Steps

open SessionUpdate

variable {idleTimeout : Nat} {label : SessionLabel} {s s' : SessionServer}
variable {i j : Nat} {p p' q : Peer} {sessionId : Int}

@[simp] theorem SessionServer.table_send (update : SessionUpdate) :
    (s.send update).table = update.apply s.table := by
  simp only [table, send, List.foldl_append, List.foldl_cons, List.foldl_nil]

theorem SessionServer.NotElsewhere.not_mem (elsewhere : s.NotElsewhere i sessionId)
    (found : s.peers[j]? = some q) (other : j ≠ i) (isOpen : q.isOpen = true) :
    sessionId ∉ q.owned :=
  elsewhere q (List.mem_eraseIdx_iff_getElem?.mpr ⟨j, other, found⟩) isOpen

/-- After a connection has changed, it is the new one, and the others are as before. -/
theorem getElem?_set_peer {peers : List Peer} (found : (peers.set i p')[j]? = some q) :
    j = i ∧ q = p' ∨ j ≠ i ∧ peers[j]? = some q := by
  by_cases same : j = i
  · subst same
    rw [List.getElem?_set] at found
    split at found
    · split at found
      · exact Or.inl ⟨rfl, (Option.some.inj found).symm⟩
      · cases found
    · next ne => exact absurd rfl ne
  · rw [List.getElem?_set_ne (Ne.symm same)] at found
    exact Or.inr ⟨same, found⟩

/-- Each session of the map is owned by an open connection, and the other way round; open
connections have different numbers. -/
structure Attached (s : SessionServer) : Prop where
  apart : ∀ (i j : Nat) (p q : Peer), s.peers[i]? = some p → s.peers[j]? = some q →
    p.isOpen = true → q.isOpen = true → p.connId = q.connId → i = j
  keys : (s.table.map (·.1)).Nodup
  owners : ∀ e ∈ s.table, ∃ (i : Nat) (p : Peer), s.peers[i]? = some p ∧ p.isOpen = true ∧
    p.connId = e.2.connId ∧ e.1 ∈ p.owned
  entries : ∀ (i : Nat) (p : Peer), s.peers[i]? = some p → p.isOpen = true →
    ∀ sessionId ∈ p.owned, ∃ e ∈ s.table, e.1 = sessionId ∧ e.2.connId = p.connId

namespace Attached

/-- Only connections and the map matter. -/
theorem of_eq (attached : Attached s) (peers : s'.peers = s.peers) (table : s'.table = s.table) :
    Attached s' := by
  obtain ⟨apart, keys, owners, entries⟩ := attached
  rw [← peers] at apart owners entries
  rw [← table] at keys owners entries
  exact ⟨apart, keys, owners, entries⟩

/-- The numbers stay different if a connection keeps its own and is not opened again. -/
theorem apart_set (attached : Attached s) (found : s.peers[i]? = some p)
    (same : p'.connId = p.connId) (isOpen : p'.isOpen = true → p.isOpen = true) :
    ∀ (j k : Nat) (q r : Peer), (s.peers.set i p')[j]? = some q →
      (s.peers.set i p')[k]? = some r → q.isOpen = true → r.isOpen = true →
      q.connId = r.connId → j = k := by
  intro j k q r at_j at_k left_open right_open numbers
  obtain ⟨rfl, rfl⟩ | ⟨-, left⟩ := getElem?_set_peer at_j
  · obtain ⟨rfl, rfl⟩ | ⟨-, right⟩ := getElem?_set_peer at_k
    · rfl
    · exact attached.apart _ _ p r found right (isOpen left_open) right_open (same ▸ numbers)
  · obtain ⟨rfl, rfl⟩ | ⟨-, right⟩ := getElem?_set_peer at_k
    · exact attached.apart _ _ q p left found left_open (isOpen right_open) (same ▸ numbers)
    · exact attached.apart j k q r left right left_open right_open numbers

theorem unique (attached : Attached s) (left : s.peers[i]? = some p) (right : s.peers[j]? = some q)
    (left_open : p.isOpen = true) (right_open : q.isOpen = true) (left_owns : sessionId ∈ p.owned)
    (right_owns : sessionId ∈ q.owned) : i = j := by
  obtain ⟨e, mem, key, number⟩ := attached.entries i p left left_open sessionId left_owns
  obtain ⟨e', mem', key', number'⟩ := attached.entries j q right right_open sessionId right_owns
  have same : e = e' :=
    List.inj_on_of_nodup_map attached.keys mem mem' (key.trans key'.symm)
  subst same
  exact attached.apart i j p q left right left_open right_open (number.symm.trans number')

/-- A session that no open connection owns is not in the map. -/
theorem not_mem (attached : Attached s)
    (unowned : ∀ q ∈ s.peers, q.isOpen = true → sessionId ∉ q.owned) :
    ∀ e ∈ s.table, e.1 ≠ sessionId := by
  rintro e mem rfl
  obtain ⟨k, q, found, isOpen, -, owns⟩ := attached.owners e mem
  exact unowned q (List.mem_of_getElem? found) isOpen owns

theorem accept (attached : Attached s)
    (fresh : ∀ q ∈ s.peers, q.isOpen = true → q.connId ≠ s.nextConnId) : Attached s.accept := by
  have old {k : Nat} {q : Peer} (found : s.accept.peers[k]? = some q) :
      s.peers[k]? = some q ∨ k = s.peers.length ∧ q = { connId := s.nextConnId } := by
    by_cases before : k < s.peers.length
    · left
      rwa [SessionServer.accept, List.getElem?_append_left before] at found
    · right
      rw [SessionServer.accept, List.getElem?_append_right (Nat.not_lt.mp before)] at found
      obtain ⟨bound, rfl⟩ := List.getElem?_eq_some_iff.mp found
      rw [List.length_singleton] at bound
      exact ⟨by omega, List.getElem_singleton _⟩
  refine ⟨?_, attached.keys, ?_, ?_⟩
  · intro k l q r left right left_open right_open numbers
    obtain left | ⟨rfl, rfl⟩ := old left
    · obtain right | ⟨rfl, rfl⟩ := old right
      · exact attached.apart k l q r left right left_open right_open numbers
      · exact absurd numbers (fresh q (List.mem_of_getElem? left) left_open)
    · obtain right | ⟨rfl, rfl⟩ := old right
      · exact absurd numbers.symm (fresh r (List.mem_of_getElem? right) right_open)
      · rfl
  · intro e mem
    obtain ⟨k, q, found, owns⟩ := attached.owners e mem
    have bound : k < s.peers.length := (List.getElem?_eq_some_iff.mp found).1
    exact ⟨k, q, by rw [SessionServer.accept, List.getElem?_append_left bound]; exact found, owns⟩
  · intro k q found isOpen sessionId owns
    obtain found | ⟨rfl, rfl⟩ := old found
    · exact attached.entries k q found isOpen sessionId owns
    · cases owns

theorem connect (attached : Attached s) (found : s.peers[i]? = some p) (isOpen : p.isOpen = true)
    {sequence : Option Int} {accepted : Bool}
    (elsewhere : accepted = true → s.NotElsewhere i (sequence.getD p.connId)) :
    Attached (s.connect i p sequence accepted) := by
  have bound : i < s.peers.length := (List.getElem?_eq_some_iff.mp found).1
  cases accepted with
  | false => exact attached
  | true =>
    have elsewhere := elsewhere rfl
    unfold SessionServer.connect
    refine ⟨attached.apart_set found rfl id, ?_, ?_, ?_⟩
    · rw [if_pos rfl, SessionServer.table_send]
      exact nodup_apply attached.keys _
    · rw [if_pos rfl, SessionServer.table_send]
      intro e mem
      obtain rfl | ⟨mem, other⟩ := mem_insert.mp mem
      · exact ⟨i, _, List.getElem?_set_self bound, isOpen, rfl, List.mem_cons_self⟩
      · obtain ⟨k, q, at_k, open_k, number, owns⟩ := attached.owners e mem
        by_cases same : k = i
        · subst same
          cases found.symm.trans at_k
          exact ⟨k, _, List.getElem?_set_self bound, isOpen, number, List.mem_cons_of_mem _ owns⟩
        · exact ⟨k, q, (List.getElem?_set_ne (Ne.symm same)).trans at_k, open_k, number, owns⟩
    · rw [if_pos rfl, SessionServer.table_send]
      intro k q at_k open_k sessionId owns
      obtain ⟨rfl, rfl⟩ | ⟨other, at_k⟩ := getElem?_set_peer at_k
      · by_cases new : sessionId = sequence.getD p.connId
        · exact ⟨_, mem_insert.mpr (Or.inl rfl), new.symm, rfl⟩
        · have old : sessionId ∈ p.owned := (List.mem_cons.mp owns).resolve_left new
          obtain ⟨e, mem, rfl, number⟩ := attached.entries k p found isOpen sessionId old
          exact ⟨e, mem_insert.mpr (Or.inr ⟨mem, new⟩), rfl, number⟩
      · obtain ⟨e, mem, rfl, number⟩ := attached.entries k q at_k open_k sessionId owns
        refine ⟨e, mem_insert.mpr (Or.inr ⟨mem, fun same => ?_⟩), rfl, number⟩
        exact elsewhere.not_mem at_k other open_k (same ▸ owns)

theorem request (attached : Attached s) (found : s.peers[i]? = some p) (command : Int)
    (data : Bytes) (ids : I64 × I64) : Attached (s.request i p command data ids) := by
  have bound : i < s.peers.length := (List.getElem?_eq_some_iff.mp found).1
  unfold SessionServer.request
  refine ⟨attached.apart_set found rfl id, ?_, ?_, ?_⟩
  · rw [SessionServer.table_send]
    exact nodup_apply attached.keys _
  · rw [SessionServer.table_send]
    intro e mem
    obtain ⟨e', mem', key, number⟩ := exists_of_mem_updateHandshake mem
    obtain ⟨k, q, at_k, open_k, same_number, owns⟩ := attached.owners e' mem'
    rw [key] at owns
    rw [number] at same_number
    by_cases same : k = i
    · subst same
      cases found.symm.trans at_k
      exact ⟨k, _, List.getElem?_set_self bound, open_k, same_number, owns⟩
    · exact ⟨k, q, (List.getElem?_set_ne (Ne.symm same)).trans at_k, open_k, same_number, owns⟩
  · rw [SessionServer.table_send]
    have old {k : Nat} {q : Peer} (at_k : s.peers[k]? = some q) (open_k : q.isOpen = true)
        {sessionId : Int} (owns : sessionId ∈ q.owned) :
        ∃ e ∈ (updateHandshake ids.2.val s.now).apply s.table,
          e.1 = sessionId ∧ e.2.connId = q.connId := by
      obtain ⟨e, mem, rfl, number⟩ := attached.entries k q at_k open_k sessionId owns
      refine ⟨_, mem_updateHandshake mem, rfl, ?_⟩
      dsimp only
      split <;> exact number
    intro k q at_k open_k sessionId owns
    obtain ⟨rfl, rfl⟩ | ⟨-, at_k⟩ := getElem?_set_peer at_k
    · exact old found open_k owns
    · exact old at_k open_k owns

theorem removes (attached : Attached s) (found : s.peers[i]? = some p) (isOpen : p.isOpen = true)
    (elsewhere : s.NotElsewhere i sessionId) : Attached (s.removes i p sessionId) := by
  have bound : i < s.peers.length := (List.getElem?_eq_some_iff.mp found).1
  unfold SessionServer.removes
  refine ⟨attached.apart_set found rfl id, ?_, ?_, ?_⟩
  · rw [SessionServer.table_send]
    exact nodup_apply attached.keys _
  · rw [SessionServer.table_send]
    intro e mem
    obtain ⟨mem, other⟩ := mem_remove.mp mem
    obtain ⟨k, q, at_k, open_k, number, owns⟩ := attached.owners e mem
    by_cases same : k = i
    · subst same
      cases found.symm.trans at_k
      exact ⟨k, _, List.getElem?_set_self bound, isOpen, number,
        List.mem_filter.mpr ⟨owns, decide_eq_true other⟩⟩
    · exact ⟨k, q, (List.getElem?_set_ne (Ne.symm same)).trans at_k, open_k, number, owns⟩
  · rw [SessionServer.table_send]
    intro k q at_k open_k id owns
    obtain ⟨rfl, rfl⟩ | ⟨other, at_k⟩ := getElem?_set_peer at_k
    · obtain ⟨owns, kept⟩ := List.mem_filter.mp owns
      obtain ⟨e, mem, rfl, number⟩ := attached.entries k p found isOpen id owns
      exact ⟨e, mem_remove.mpr ⟨mem, of_decide_eq_true kept⟩, rfl, number⟩
    · obtain ⟨e, mem, rfl, number⟩ := attached.entries k q at_k open_k id owns
      refine ⟨e, mem_remove.mpr ⟨mem, fun same => ?_⟩, rfl, number⟩
      exact elsewhere.not_mem at_k other open_k (same ▸ owns)

theorem finish (attached : Attached s) (found : s.peers[i]? = some p) (isOpen : p.isOpen = true) :
    Attached (s.finish i p) := by
  unfold SessionServer.finish
  refine ⟨attached.apart_set found rfl nofun, ?_, ?_, ?_⟩
  · rw [SessionServer.table_send]
    exact nodup_apply attached.keys _
  · rw [SessionServer.table_send]
    intro e mem
    obtain ⟨mem, other⟩ := mem_removeByConnId.mp mem
    obtain ⟨k, q, at_k, open_k, number, owns⟩ := attached.owners e mem
    have ne : k ≠ i := by
      rintro rfl
      cases found.symm.trans at_k
      exact other number.symm
    exact ⟨k, q, (List.getElem?_set_ne (Ne.symm ne)).trans at_k, open_k, number, owns⟩
  · rw [SessionServer.table_send]
    intro k q at_k open_k id owns
    obtain ⟨rfl, rfl⟩ | ⟨other, at_k⟩ := getElem?_set_peer at_k
    · cases open_k
    · -- another open connection has another number
      obtain ⟨e, mem, rfl, number⟩ := attached.entries k q at_k open_k id owns
      refine ⟨e, mem_removeByConnId.mpr ⟨mem, fun same => ?_⟩, rfl, number⟩
      exact other (attached.apart k i q p at_k found open_k isOpen (number.symm.trans same))

/-- An update that takes nothing from the map changes nothing. -/
theorem send_of_forall (attached : Attached s) {update : SessionUpdate}
    (nothing : update.apply s.table = s.table) : Attached (s.send update) :=
  attached.of_eq rfl (by rw [SessionServer.table_send, nothing])

end Attached

theorem attached_step (attached : Attached s) (apart : SessionsApart label s)
    (moves : s.step idleTimeout label = some s') : Attached s' := by
  cases label with
  | tick seconds =>
    cases moves
    exact attached.of_eq rfl rfl
  | accept =>
    cases moves
    exact attached.accept apart
  | connect i sequence accepted =>
    obtain ⟨p, found, moves⟩ := Option.bind_eq_some_iff.mp moves
    split at moves
    · next ready =>
      cases moves
      exact attached.connect found ready.1 (apart p found)
    · cases moves
  | request i command data =>
    obtain ⟨p, found, moves⟩ := Option.bind_eq_some_iff.mp moves
    split at moves
    · obtain ⟨ids, -, rfl⟩ := Option.map_eq_some_iff.mp moves
      exact attached.request found command data ids
    · cases moves
  | removes i =>
    obtain ⟨p, found, moves⟩ := Option.bind_eq_some_iff.mp moves
    split at moves
    · next isOpen =>
      obtain ⟨sessionId, terminating, rfl⟩ := Option.map_eq_some_iff.mp moves
      exact attached.removes found isOpen (apart p found sessionId terminating)
    · cases moves
  | finish i =>
    obtain ⟨p, found, moves⟩ := Option.bind_eq_some_iff.mp moves
    split at moves
    · next isOpen =>
      cases moves
      exact attached.finish found isOpen
    · cases moves
  | timerEnds i =>
    obtain ⟨p, found, moves⟩ := Option.bind_eq_some_iff.mp moves
    split at moves
    · cases moves
    · cases moves
      -- no open connection with this number owns a session, so there is none to remove
      apply attached.send_of_forall
      refine List.filter_eq_self.mpr fun e mem => decide_eq_true ?_
      intro number
      obtain ⟨k, q, at_k, open_k, same, owns⟩ := attached.owners e mem
      have none_owned := apart p found q (List.mem_of_getElem? at_k) open_k (same.trans number)
      rw [none_owned] at owns
      cases owns
  | idleFinds j =>
    obtain ⟨e, -, moves⟩ := Option.bind_eq_some_iff.mp moves
    split at moves
    · cases moves
    · cases moves
      exact attached.of_eq rfl rfl
  | idleNext =>
    simp only [SessionServer.step] at moves
    split at moves
    · cases moves
    · next sessionId connId rest cleanup =>
      have idle : Attached { s with cleanup := rest } := attached.of_eq rfl rfl
      split at moves
      · cases moves
        exact idle
      · next gone =>
        cases moves
        apply idle.send_of_forall
        refine List.filter_eq_self.mpr fun e mem => decide_eq_true ?_
        refine attached.not_mem (apart (sessionId, connId) ?_ (Bool.not_eq_true _ ▸ gone)) e mem
        rw [cleanup]
        rfl
  | update =>
    simp only [SessionServer.step] at moves
    split at moves
    · cases moves
    · next update rest updates =>
      cases moves
      refine attached.of_eq rfl ?_
      simp only [SessionServer.table, updates, List.foldl_cons]

/-- A request that reads the session it carries refreshes it, and one that is processed leaves
the sessions of others alone. -/
theorem ownSessions_of_step (attached : Attached s) (apart : SessionsApart label s)
    (moves : s.step idleTimeout label = some s') : OwnSessions label s s' := by
  constructor
  · intro i j q e requester other at_j open_j owns
    cases label with
    | connect i' sequence accepted =>
      cases requester
      obtain ⟨p, found, moves⟩ := Option.bind_eq_some_iff.mp moves
      split at moves
      · cases moves
        cases accepted with
        | false => exact Iff.rfl
        | true =>
          have ne : e.1 ≠ sequence.getD p.connId := fun same =>
            (apart p found rfl).not_mem at_j other open_j (same ▸ owns)
          unfold SessionServer.connect
          rw [if_pos rfl, SessionServer.table_send, mem_insert]
          constructor
          · rintro (rfl | mem)
            · exact absurd rfl ne
            · exact mem.1
          · exact fun mem => Or.inr ⟨mem, ne⟩
      · cases moves
    | request i' command data =>
      cases requester
      obtain ⟨p, found, moves⟩ := Option.bind_eq_some_iff.mp moves
      split at moves
      · obtain ⟨ids, read, rfl⟩ := Option.map_eq_some_iff.mp moves
        have ne : e.1 ≠ ids.2.val := fun same =>
          (apart.1 ids read).not_mem at_j other open_j (same ▸ owns)
        unfold SessionServer.request
        rw [SessionServer.table_send]
        exact mem_updateHandshake_of_ne ne
      · cases moves
    | removes i' =>
      cases requester
      obtain ⟨p, found, moves⟩ := Option.bind_eq_some_iff.mp moves
      split at moves
      · obtain ⟨sessionId, terminating, rfl⟩ := Option.map_eq_some_iff.mp moves
        have ne : e.1 ≠ sessionId := fun same =>
          (apart p found sessionId terminating).not_mem at_j other open_j (same ▸ owns)
        unfold SessionServer.removes
        rw [SessionServer.table_send, mem_remove]
        exact and_iff_left ne
      · cases moves
    | tick | accept | finish | timerEnds | idleFinds | idleNext | update => cases requester
  · rintro i command data p session rfl found carried owns
    obtain ⟨p', found', moves⟩ := Option.bind_eq_some_iff.mp moves
    cases found.symm.trans found'
    split at moves
    · next ready =>
      obtain ⟨isOpen, -, -, checked⟩ := ready
      obtain ⟨ids, read, rfl⟩ := Option.map_eq_some_iff.mp moves
      have ok : checkRequest command data = .ok () := by
        cases check : checkRequest command data with
        | ok => rfl
        | error e =>
          rw [check] at checked
          cases checked
      have read_ok : dispatchIds command data = .ok ids := by
        cases dispatched : dispatchIds command data with
        | ok ids' =>
          rw [dispatched] at read
          exact congrArg _ (Option.some.inj read)
        | error e =>
          rw [dispatched] at read
          cases read
      -- the session that is read is the one that the request carries
      have same : ids.2 = session :=
        (session_read_iff ok read_ok carried).mpr (apart.2 p found session carried owns)
      unfold SessionServer.request
      rw [SessionServer.table_send, same]
      obtain ⟨e, mem, key, number⟩ := attached.entries i p found isOpen _ owns
      have refreshed :
          (e.1, if e.1 = session.val then ⟨e.2.connId, s.now⟩ else e.2) ∈
            (updateHandshake session.val s.now).apply s.table := mem_updateHandshake mem
      rw [if_pos key, key, number] at refreshed
      exact ⟨refreshed, fun e ne => mem_updateHandshake_of_ne ne⟩
    · cases moves

theorem attached_of_reaches (reaches : (sessionServer idleTimeout).Reaches SessionsApart {} s) :
    Attached s := by
  have start : Attached {} := ⟨nofun, List.nodup_nil, nofun, nofun⟩
  exact reaches.invariant start fun label a b attached apart moves =>
    attached_step attached apart moves

theorem Attached.oneOwner (attached : Attached s) : OneOwner s where
  unique _ _ _ _ _ left right left_open right_open left_owns right_owns :=
    attached.unique left right left_open right_open left_owns right_owns
  entries e mem := by
    obtain ⟨i, p, found, owns⟩ := attached.owners e mem
    exact ⟨p, List.mem_of_getElem? found, owns⟩

/-- When no update is pending, the map is what it is when all have been applied. -/
theorem SessionServer.table_of_applied (applied : s.updates = []) : s.table = s.sessions := by
  rw [table, applied]
  rfl

end Steps

/-- Sessions that are kept apart have one owner among the open connections, and they are removed
and refreshed by its requests only. -/
theorem sessions_of_reaches {idleTimeout : Nat} {s : SessionServer}
    (reaches : (sessionServer idleTimeout).Reaches SessionsApart {} s) :
    OneOwner s ∧ ∀ (label : SessionLabel) (s' : SessionServer), SessionsApart label s →
      (sessionServer idleTimeout).step label s = some s' → OwnSessions label s s' := by
  have attached := attached_of_reaches reaches
  exact ⟨attached.oneOwner, fun label s' apart moves => ownSessions_of_step attached apart moves⟩

/-- The same of the map itself: when no update is pending, it has sessions of open connections
only; and when the update of a request has been applied, the session that the request carries
has been refreshed, and no other entry has changed. -/
theorem sessionMap_of_reaches {idleTimeout : Nat} {s : SessionServer}
    (reaches : (sessionServer idleTimeout).Reaches SessionsApart {} s) (applied : s.updates = []) :
    (∀ e ∈ s.sessions, ∃ p ∈ s.peers, p.isOpen = true ∧ p.connId = e.2.connId ∧ e.1 ∈ p.owned) ∧
      ∀ (i : Nat) (command : Int) (data : Bytes) (s' s'' : SessionServer) (p : Peer) (session : I64),
        SessionsApart (.request i command data) s →
        (sessionServer idleTimeout).step (.request i command data) s = some s' →
        (sessionServer idleTimeout).step .update s' = some s'' → s''.updates = [] →
        s.peers[i]? = some p → carriedSession command data = some session →
        session.val ∈ p.owned → (session.val, ⟨p.connId, s.now⟩) ∈ s''.sessions ∧
          ∀ e, e.1 ≠ session.val → (e ∈ s''.sessions ↔ e ∈ s.sessions) := by
  have attached := attached_of_reaches reaches
  refine ⟨fun e mem => attached.oneOwner.entries e ?_, ?_⟩
  · rw [SessionServer.table_of_applied applied]
    exact mem
  · intro i command data s' s'' p session apart moves updates applied' found carried owns
    have same : s''.table = s'.table := by
      simp only [sessionServer, SessionServer.step] at updates
      split at updates
      · cases updates
      · next update rest sent =>
        cases updates
        rw [SessionServer.table, SessionServer.table, sent, List.foldl_cons]
    rw [← SessionServer.table_of_applied applied, ← SessionServer.table_of_applied applied', same]
    have own : ∀ label s', SessionsApart label s → (sessionServer idleTimeout).step label s = some s' →
        OwnSessions label s s' := fun _ _ apart moves => ownSessions_of_step attached apart moves
    exact (own _ _ apart moves).refreshes i command data p session rfl found carried owns

/-- A `SHAKE` that carries session 7. -/
def shakeOfSeven : Bytes :=
  [28, 0, 0, 0, 28, 0, 0, 0, 1, 0, 0, 0] ++ [5, 0, 0, 0, 0, 0, 0, 0] ++ [7, 0, 0, 0, 0, 0, 0, 0]

/-- Two connections get the sessions 7 and 8 from the sequence, and the first one shakes. -/
theorem ownSessions_shake :
    ∃ s s', OneOwner s ∧ (sessionServer 60).step (.request 0 HANDSHAKE shakeOfSeven) s = some s' ∧
      OwnSessions (.request 0 HANDSHAKE shakeOfSeven) s s' := by
  obtain ⟨s, reaches, holds⟩ := (sessionServer 60).exists_reaches SessionsApart {}
    [.accept, .accept, .connect 0 (some 7) true, .connect 1 (some 8) true, .update]
    (fun s => decide (SessionsApart (.request 0 HANDSHAKE shakeOfSeven) s) &&
      ((sessionServer 60).step (.request 0 HANDSHAKE shakeOfSeven) s).isSome) (by decide +kernel)
  rw [Bool.and_eq_true, decide_eq_true_eq] at holds
  obtain ⟨s', moves⟩ := Option.isSome_iff_exists.mp holds.2
  obtain ⟨owner, own⟩ := sessions_of_reaches reaches
  exact ⟨s, s', owner, moves, own _ s' holds.1 moves⟩

/-- The first connection gets session 2 from the sequence. The sequence fails for the second one,
which gets its own number: session 2 as well. -/
theorem fallback_not_apart :
    ¬ ∀ (idleTimeout : Nat) (s : SessionServer),
      (sessionServer idleTimeout).Reaches (fun _ _ => True) {} s → OneOwner s := by
  intro claim
  obtain ⟨s, reaches, ends⟩ := (sessionServer 60).exists_reaches (fun _ _ => True) {}
    [.accept, .accept, .connect 0 (some 2) true, .connect 1 none true]
    (fun s => s.peers == [{ connId := 1, owned := [2] }, { connId := 2, owned := [2] }])
    (by decide +kernel)
  rw [beq_iff_eq] at ends
  have same := (claim 60 s reaches).unique 0 1 { connId := 1, owned := [2] }
    { connId := 2, owned := [2] } 2 (by rw [ends]; rfl) (by rw [ends]; rfl) rfl rfl
    (List.mem_singleton.mpr rfl) (List.mem_singleton.mpr rfl)
  cases same

end TollBackend

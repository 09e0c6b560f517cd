import TollBackend.Network.Connection

/-!
# The routing of replies

Connections are accepted under ids that count up, and start over after `i32::MAX`. What a
connection has handed to the logic handler is passed on to the router, which looks up the write
channel by the id and spawns a task that sends the reply into it. The replies of a connection
that has been closed are dropped.

## Main definitions

* `ServerConn`: a connection with its id, its write channel and what was written.
* `Router`: the connections, the channels between the tasks, and the sends under way.
* `routerTasks`: the steps of all of these.
* `Router.Moves`: what a step can do.

## Main results

* `Router.moves_of_step`: every step is one of the moves.
-/

namespace TollBackend

open Concurrent

/-- `network::MAX_CLOSED_CONN_IDS`. -/
def MAX_CLOSED_CONN_IDS : Nat :=
  10000

/-- `i32::MAX`. -/
def i32Max : Int :=
  2 ^ 31 - 1

/-- `ReplyToRoute`, with the connection that has handed it over. The router goes by the id. -/
structure ReplyToRoute (α : Type) where
  owner : Nat
  connId : Int
  requestId : Int
  data : α
deriving DecidableEq

/-- What is in the write channel of a connection: a reply, or a pong or notice, which do not
come through the router. -/
inductive Outgoing (α : Type) : Type
  | reply (r : ReplyToRoute α)
  | other
deriving DecidableEq

/-- The reply, if it is one. -/
def Outgoing.reply? {α : Type} : Outgoing α → Option (ReplyToRoute α)
  | .reply r => some r
  | .other => none

/-- How far the task of a connection is: it runs, `handle_connection` has returned and with it
the receiver of the write channel is gone, the connection is not registered any more, or the
router has been told. -/
inductive ConnPhase
  | running
  | returned
  | unregistered
  | ended
deriving DecidableEq

/-- The connection can be found under its id. -/
def ConnPhase.registered : ConnPhase → Bool
  | .running | .returned => true
  | .unregistered | .ended => false

/-- A connection: its id, its write channel, and what was written to its socket. -/
structure ServerConn (α : Type) where
  connId : Int := 0
  phase : ConnPhase := .ended
  queue : List (Outgoing α) := []
  written : List (Outgoing α) := []

/-- The replies that have got into the write channel, the written ones first. -/
def ServerConn.received {α : Type} (c : ServerConn α) : List (ReplyToRoute α) :=
  (c.written ++ c.queue).filterMap Outgoing.reply?

/-- The settings of the router; `0` stands for no limit. -/
structure RouterConfig where
  replySendMaxConcurrent : Nat := 0
  replySendTimeoutSecs : Nat := 0
  channelCap : Nat := 256

/-- The connections by the order in which they were accepted, and what the tasks share.
`handed`, `delivered` and `dropped` are histories: the replies that connections have handed
over, those that were put into a write channel, and those that the router gave up. -/
structure Router (α : Type) where
  nextConnId : Int := 1
  accepted : Nat := 0
  conn : Nat → ServerConn α := fun _ => {}
  active : Int → Option Nat := fun _ => none
  requests : List (ReplyToRoute α) := []
  handling : Option (ReplyToRoute α) := none
  replies : List (ReplyToRoute α) := []
  sends : List (Nat × ReplyToRoute α) := []
  closedNotices : List Int := []
  closed : List Int := []
  handed : List (ReplyToRoute α) := []
  delivered : List (Nat × ReplyToRoute α) := []
  dropped : List (ReplyToRoute α) := []

namespace Router

variable {α : Type} (s : Router α)

/-- Change a connection. -/
def put (k : Nat) (c : ServerConn α) : Router α :=
  { s with conn := Function.update s.conn k c }

/-- `run_tcp_server` accepts a connection and registers it. -/
def accept : Router α :=
  { s with
    nextConnId := if s.nextConnId = i32Max then 1 else s.nextConnId + 1
    accepted := s.accepted + 1
    conn := Function.update s.conn s.accepted { connId := s.nextConnId, phase := .running }
    active := Function.update s.active s.nextConnId (some s.accepted) }

/-- A closed connection is remembered; the set is cleared when it gets too large. -/
def remember (id : Int) : List Int :=
  if MAX_CLOSED_CONN_IDS < (s.closed.insert id).length then [] else s.closed.insert id

/-- The router takes a reply. -/
def route (config : RouterConfig) (r : ReplyToRoute α) : Router α :=
  if r.connId ∈ s.closed then { s with dropped := s.dropped ++ [r] }
  else
    match s.active r.connId with
    -- not registered any more: further replies to the id are dropped at once
    | none => { s with closed := s.closed.insert r.connId, dropped := s.dropped ++ [r] }
    | some target =>
      -- no permit is left, and the router does not wait for one
      if 0 < config.replySendMaxConcurrent ∧ config.replySendMaxConcurrent ≤ s.sends.length then
        { s with dropped := s.dropped ++ [r] }
      else { s with sends := s.sends ++ [(target, r)] }

end Router

/-- What happens next. Connections are meant by the order in which they were accepted, and sends
by their position. -/
inductive RouterLabel (α : Type) : Type
  | accept
  | hand (k : Nat) (requestId : Int) (data : α)
  | logicRecv
  | logicSend
  | connClosed
  | reply
  | send (i : Nat)
  | timeout (i : Nat)
  | other (k : Nat)
  | write (k : Nat)
  | returns (k : Nat)
  | unregister (k : Nat)
  | notify (k : Nat)

/-- A step, where it is possible. -/
def Router.step {α : Type} (config : RouterConfig) (s : Router α) :
    RouterLabel α → Option (Router α)
  | .accept => some s.accept
  | .hand k requestId data =>
    -- the reply carries the id only; who the owner is, the router does not know
    let r : ReplyToRoute α := ⟨k, (s.conn k).connId, requestId, data⟩
    if (s.conn k).phase = .running ∧ s.requests.length < config.channelCap then
      some { s with requests := s.requests ++ [r], handed := s.handed ++ [r] }
    else none
  | .logicRecv =>
    match s.handling, s.requests with
    | none, r :: rest => some { s with handling := some r, requests := rest }
    | none, [] => none
    | some _, _ => none
  | .logicSend =>
    match s.handling with
    | some r =>
      if s.replies.length < config.channelCap then
        some { s with handling := none, replies := s.replies ++ [r] }
      else none
    | none => none
  | .connClosed =>
    match s.closedNotices with
    | id :: rest => some { s with closedNotices := rest, closed := s.remember id }
    | [] => none
  | .reply =>
    match s.replies with
    | r :: rest => some ({ s with replies := rest }.route config r)
    | [] => none
  | .send i =>
    match s.sends[i]? with
    | some (target, r) =>
      let c := s.conn target
      if c.phase = .running then
        -- a full channel makes the send wait, a channel without a receiver ends it
        if c.queue.length < writeCapacity then
          some { s.put target { c with queue := c.queue ++ [.reply r] } with
            sends := s.sends.eraseIdx i
            delivered := s.delivered ++ [(target, r)] }
        else none
      else some { s with sends := s.sends.eraseIdx i, dropped := s.dropped ++ [r] }
    | none => none
  | .timeout i =>
    match s.sends[i]? with
    | some (_, r) =>
      if 0 < config.replySendTimeoutSecs then
        some { s with sends := s.sends.eraseIdx i, dropped := s.dropped ++ [r] }
      else none
    | none => none
  | .other k =>
    let c := s.conn k
    if c.phase = .running ∧ c.queue.length < writeCapacity then
      some (s.put k { c with queue := c.queue ++ [.other] })
    else none
  | .write k =>
    let c := s.conn k
    match c.queue with
    | m :: rest =>
      if c.phase = .running then
        some (s.put k { c with queue := rest, written := c.written ++ [m] })
      else none
    | [] => none
  | .returns k =>
    if (s.conn k).phase = .running then some (s.put k { s.conn k with phase := .returned })
    else none
  | .unregister k =>
    if (s.conn k).phase = .returned then
      some { s.put k { s.conn k with phase := .unregistered } with
        active := Function.update s.active (s.conn k).connId none }
    else none
  | .notify k =>
    if (s.conn k).phase = .unregistered then
      some { s.put k { s.conn k with phase := .ended } with
        closedNotices := s.closedNotices ++ [(s.conn k).connId] }
    else none

/-- The connections, the logic handler, the router and its sends. -/
def routerTasks (α : Type) (config : RouterConfig) : Machine (RouterLabel α) (Router α) where
  step label s := s.step config label

/-- Ids are not used twice: fewer connections are accepted than there are ids. -/
def IdsFresh {α : Type} : RouterLabel α → Router α → Prop
  | .accept, s => (s.accepted : Int) < i32Max
  | .hand _ _ _, _ | .logicRecv, _ | .logicSend, _ | .connClosed, _ | .reply, _ | .send _, _
  | .timeout _, _ | .other _, _ | .write _, _ | .returns _, _ | .unregister _, _
  | .notify _, _ => True

instance {α : Type} (label : RouterLabel α) (s : Router α) : Decidable (IdsFresh label s) := by
  unfold IdsFresh
  split <;> infer_instance

/-! ### What a step can do -/

/-- What a step can do, with the conditions under which it does it. -/
inductive Router.Moves {α : Type} (config : RouterConfig) (s : Router α) :
    RouterLabel α → Router α → Prop
  | accepts : Moves config s .accept s.accept
  | hands {label} (k : Nat) (requestId : Int) (data : α) (running : (s.conn k).phase = .running) :
      Moves config s label { s with
        requests := s.requests ++ [⟨k, (s.conn k).connId, requestId, data⟩]
        handed := s.handed ++ [⟨k, (s.conn k).connId, requestId, data⟩] }
  | logicRecv {label} (r rest) (idle : s.handling = none) (requests : s.requests = r :: rest) :
      Moves config s label { s with handling := some r, requests := rest }
  | logicSend {label} (r) (handling : s.handling = some r) :
      Moves config s label { s with handling := none, replies := s.replies ++ [r] }
  | connClosed {label} (id rest) (notices : s.closedNotices = id :: rest) :
      Moves config s label { s with closedNotices := rest, closed := s.remember id }
  | dropsClosed {label} (r rest) (replies : s.replies = r :: rest) (closed : r.connId ∈ s.closed) :
      Moves config s label { s with replies := rest, dropped := s.dropped ++ [r] }
  | dropsUnknown {label} (r rest) (replies : s.replies = r :: rest)
      (unknown : s.active r.connId = none) :
      Moves config s label { s with
        replies := rest, closed := s.closed.insert r.connId, dropped := s.dropped ++ [r] }
  | dropsFull {label} (r rest) (replies : s.replies = r :: rest)
      (limited : 0 < config.replySendMaxConcurrent) :
      Moves config s label { s with replies := rest, dropped := s.dropped ++ [r] }
  | spawns {label} (r rest target) (replies : s.replies = r :: rest)
      (found : s.active r.connId = some target)
      (room : 0 < config.replySendMaxConcurrent →
        s.sends.length < config.replySendMaxConcurrent) :
      Moves config s label { s with replies := rest, sends := s.sends ++ [(target, r)] }
  | puts {label} (i target r) (found : s.sends[i]? = some (target, r))
      (running : (s.conn target).phase = .running) :
      Moves config s label { s.put target { s.conn target with
          queue := (s.conn target).queue ++ [.reply r] } with
        sends := s.sends.eraseIdx i
        delivered := s.delivered ++ [(target, r)] }
  | fails {label} (i target r) (found : s.sends[i]? = some (target, r))
      (gone : (s.conn target).phase ≠ .running) :
      Moves config s label { s with sends := s.sends.eraseIdx i, dropped := s.dropped ++ [r] }
  | timesOut {label} (i target r) (found : s.sends[i]? = some (target, r))
      (limited : 0 < config.replySendTimeoutSecs) :
      Moves config s label { s with sends := s.sends.eraseIdx i, dropped := s.dropped ++ [r] }
  | channel {label} (k c) (connId : c.connId = (s.conn k).connId)
      (phase : c.phase = (s.conn k).phase) (received : c.received = (s.conn k).received) :
      Moves config s label (s.put k c)
  | returns {label} (k) (running : (s.conn k).phase = .running) :
      Moves config s label (s.put k { s.conn k with phase := .returned })
  | unregisters {label} (k) (returned : (s.conn k).phase = .returned) :
      Moves config s label { s.put k { s.conn k with phase := .unregistered } with
        active := Function.update s.active (s.conn k).connId none }
  | notifies {label} (k) (unregistered : (s.conn k).phase = .unregistered) :
      Moves config s label { s.put k { s.conn k with phase := .ended } with
        closedNotices := s.closedNotices ++ [(s.conn k).connId] }

namespace Router

variable {α : Type} {config : RouterConfig} {s s' : Router α} {label : RouterLabel α}

theorem moves_route {r : ReplyToRoute α} {rest : List (ReplyToRoute α)}
    (replies : s.replies = r :: rest) :
    Moves config s label ({ s with replies := rest }.route config r) := by
  unfold route
  split
  · next closed => exact .dropsClosed r rest replies closed
  · split
    · next unknown => exact .dropsUnknown r rest replies unknown
    · next target found =>
      split
      · next full => exact .dropsFull r rest replies full.1
      · next room =>
        refine .spawns r rest target replies found fun limited => ?_
        exact Nat.not_le.mp fun full => room ⟨limited, full⟩

/-- Every step is one of the moves. -/
theorem moves_of_step (moves : s.step config label = some s') : Moves config s label s' := by
  unfold step at moves
  cases label with
  | accept =>
    cases moves
    exact .accepts
  | hand k requestId data =>
    dsimp only at moves
    split at moves
    · next meets =>
      cases moves
      exact .hands k requestId data meets.1
    · cases moves
  | logicRecv =>
    dsimp only at moves
    split at moves
    · next r rest idle requests =>
      cases moves
      exact .logicRecv r rest idle requests
    · cases moves
    · cases moves
  | logicSend =>
    dsimp only at moves
    split at moves
    · next r handling =>
      split at moves
      · cases moves
        exact .logicSend r handling
      · cases moves
    · cases moves
  | connClosed =>
    dsimp only at moves
    split at moves
    · next id rest notices =>
      cases moves
      exact .connClosed id rest notices
    · cases moves
  | reply =>
    dsimp only at moves
    split at moves
    · next r rest replies =>
      cases moves
      exact moves_route replies
    · cases moves
  | send i =>
    dsimp only at moves
    split at moves
    · next target r found =>
      split at moves
      · next running =>
        split at moves
        · cases moves
          exact .puts i target r found running
        · cases moves
      · next gone =>
        cases moves
        exact .fails i target r found gone
    · cases moves
  | timeout i =>
    dsimp only at moves
    split at moves
    · next target r found =>
      split at moves
      · next limited =>
        cases moves
        exact .timesOut i target r found limited
      · cases moves
    · cases moves
  | other k =>
    dsimp only at moves
    split at moves
    · cases moves
      exact .channel k _ rfl rfl (by simp [ServerConn.received, Outgoing.reply?])
    · cases moves
  | write k =>
    dsimp only at moves
    split at moves
    · next m rest queue =>
      split at moves
      · cases moves
        exact .channel k _ rfl rfl (by simp [ServerConn.received, queue])
      · cases moves
    · cases moves
  | returns k =>
    dsimp only at moves
    split at moves
    · next running =>
      cases moves
      exact .returns k running
    · cases moves
  | unregister k =>
    dsimp only at moves
    split at moves
    · next returned =>
      cases moves
      exact .unregisters k returned
    · cases moves
  | notify k =>
    dsimp only at moves
    split at moves
    · next unregistered =>
      cases moves
      exact .notifies k unregistered
    · cases moves

end Router

end TollBackend

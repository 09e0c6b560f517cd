import TollBackend.Concurrent.Machine
import TollBackend.Fe.Commands
import TollBackend.Network.Framing

/-!
# The task of a connection

`handle_connection` reads from the socket, answers pings before it knows the key of the peer,
then alternates between reading and writing: what it reads goes through
`process_message_buffer`, and what it writes comes from a channel with a capacity of 64, into
which replies are routed, and of which the task itself is the only receiver. While the task
runs, its connection is registered and the channel is open.

## Main definitions

* `Control`: where the task waits, or what it does next.
* `Connection`: the buffer, the keys, the write channel and the replies on their way to it.
* `connectionTask`: the steps of the task and of what it works with.
-/

namespace TollBackend

open Concurrent Wire

/-- The capacity of the write channel of a connection. -/
def writeCapacity : Nat :=
  64

/-- `terminate::ERROR_DECRYPT_FAILED`. -/
def ERROR_DECRYPT_FAILED : Int := 304

/-- `terminate::ERROR_HANDSHAKE_TIMEOUT`. -/
def ERROR_HANDSHAKE_TIMEOUT : Int := 305

/-- `terminate::ERROR_INVALID_MESSAGE`. -/
def ERROR_INVALID_MESSAGE : Int := 306

/-- A decrypted request; requests are numbered as they are taken from the buffer. -/
structure Request where
  number : Nat
  command : Int
  data : Bytes
deriving DecidableEq, Repr

/-- What is written to the socket: a pong, the reply to a request, or a `TERMINATE_RESP` that
an error path has sent with a status. -/
inductive Message
  | pong
  | reply (request : Nat) (command : Int) (data : Bytes)
  | notice (status : Int)
deriving DecidableEq, Repr

/-- A `TERMINATE_RESP`. -/
def Message.isTerminateResp : Message → Bool
  | .pong => false
  | .reply _ command _ => command == Fe.TERMINATE
  | .notice _ => true

/-- The call of `process_message_buffer` that is under way: the one at the head of the main
loop, or the one after a read. -/
inductive Caller
  | head
  | read
deriving DecidableEq, Repr

/-- Where the task is. -/
inductive Control
  /-- before authentication, waiting for a read -/
  | preRead
  /-- before authentication, waiting to send a pong -/
  | prePong
  /-- waiting for the configuration of the peer -/
  | config
  /-- at the head of the main loop -/
  | head
  /-- in `process_message_buffer`, at the head of its loop -/
  | buffer (caller : Caller) (consecutiveErrors : Nat)
  /-- there, waiting to send a pong -/
  | pong (caller : Caller) (consecutiveErrors : Nat)
  /-- there, waiting for a permit of `reply_in_flight` -/
  | permit (caller : Caller) (request : Request)
  /-- there, waiting for `process_request` -/
  | request (caller : Caller) (request : Request)
  /-- there, waiting to hand a reply to the logic handler -/
  | forward (caller : Caller) (message : Message)
  /-- waiting for a read or for a message to write -/
  | select
  /-- `handle_connection` has returned, after a `TERMINATE` or otherwise -/
  | closed (terminate : Bool)
deriving DecidableEq, Repr

/-- The state of the task, and the replies and notices that are on their way to its write
channel. `written` and `replies` are histories: what was written to the socket, and the replies
that were handed to the logic handler. -/
structure Connection where
  control : Control := .preRead
  buf : Bytes := []
  candidateKeys : List String := []
  resolvedKey : Option String := none
  pendingCommand : Option Int := none
  requests : Nat := 0
  inFlight : List Message := []
  notices : List Int := []
  queue : List Message := []
  written : List Message := []
  replies : List Message := []
deriving DecidableEq, Repr

namespace Connection

variable (c : Connection)

/-- A message is put into the write channel, as soon as there is room. -/
def enqueue (m : Message) : Option Connection :=
  if c.queue.length < writeCapacity then some { c with queue := c.queue ++ [m] } else none

/-- A read before authentication: one ping is taken off the buffer, and other data ends the
pre-authentication loop. -/
def preAuthRead (bytes : Bytes) : Connection :=
  let buf := c.buf ++ bytes
  -- what is left of the buffer waits for the next read
  if isPlainPing buf then { c with buf := buf.drop 4, control := .prePong }
  else { c with buf := buf, control := .config }

/-- The keys of `load_server_config`: without a key, or with an empty one, the connection is
refused. -/
def configured (keys : List String) : Connection :=
  if keys.isEmpty || keys.any (fun key => (trim key).isEmpty) then
    { c with control := .closed false }
  else { c with candidateKeys := keys, control := .head }

/-- The head of the main loop: what is in the buffer is processed before the next read. -/
def loopHead : Connection :=
  if 4 ≤ c.buf.length then { c with control := .buffer .head 0 } else { c with control := .select }

/-- A call of `process_message_buffer` has returned `true`. -/
def returned : Caller → Connection
  | .head => { c with control := .select }
  | .read => { c with control := .head }

/-- The payload is decrypted with the key of the connection, or with the first candidate that
decrypts it, which becomes the key. -/
def decryptPayload (decrypt : String → Bytes → Option Bytes) (payload : Bytes) :
    Option (Bytes × Connection) :=
  match c.resolvedKey with
  | some key => (decrypt key payload).map fun data => (data, c)
  | none =>
    -- the keys are tried in the order of the records; the others are dropped
    (c.candidateKeys.findSome? fun key => (decrypt key payload).map fun data => (data, key)).map
      fun (data, key) => (data, { c with resolvedKey := some key, candidateKeys := [] })

/-- The command of a payload that can be decrypted and is long enough to have one. -/
def commandOf (decrypt : String → Bytes → Option Bytes) (payload : Bytes) : Option Int :=
  (c.decryptPayload decrypt payload).bind fun (data, _) =>
    if data.length < 8 then none else some ((SInt.read 4 (slice data 4 8)).val)

/-- A message has been taken off the buffer. -/
def takeMessage (decrypt : String → Bytes → Option Bytes) (caller : Caller) (payload : Bytes) :
    Connection :=
  match c.decryptPayload decrypt payload with
  -- the frame is gone, and the loop goes on with the next one
  | none => { c with notices := c.notices ++ [ERROR_DECRYPT_FAILED], control := .buffer caller 0 }
  | some (data, c) =>
    -- a payload without a command is passed over
    if data.length < 8 then { c with control := .buffer caller 0 }
    else
      let command := (SInt.read 4 (slice data 4 8)).val
      { c with
        pendingCommand := some command
        requests := c.requests + 1
        control := .permit caller { number := c.requests, command := command, data := data } }

/-- An iteration of the loop of `process_message_buffer`. -/
def iterate (decrypt : String → Bytes → Option Bytes) (caller : Caller)
    (consecutiveErrors : Nat) : Connection :=
  match scan consecutiveErrors c.buf with
  | .wait => c.returned caller
  | .ping rest => { c with buf := rest, control := .pong caller consecutiveErrors }
  -- an invalid length counts as an error, of which a few are let pass
  | .skip rest => { c with buf := rest, control := .buffer caller (consecutiveErrors + 1) }
  | .giveUp =>
    { c with buf := [], notices := c.notices ++ [ERROR_INVALID_MESSAGE], control := .closed false }
  | .message payload rest => { c with buf := rest }.takeMessage decrypt caller payload

/-- What `process_request` returns: a reply, or an error with the response that
`build_connect_error_response` builds. -/
inductive Outcome
  | ok (data : Bytes)
  | error (built : Option Bytes)
deriving DecidableEq, Repr

/-- The response to a request that has failed: only a `CONNECT` gets one. -/
def connectError (request : Request) (built : Option Bytes) : Option Bytes :=
  if request.command == Fe.CONNECT && 20 ≤ request.data.length then built else none

/-- `process_request` has returned: an error clears the pending command. -/
def answered (caller : Caller) (request : Request) : Outcome → Connection
  | .ok data => { c with control := .forward caller (.reply request.number request.command data) }
  | .error built =>
    match connectError request built with
    | some data =>
      { c with
        pendingCommand := none
        control := .forward caller (.reply request.number Fe.CONNECT_RESP data) }
    | none => { c with pendingCommand := none, control := .buffer caller 0 }

/-- The oldest message of the channel has been written and flushed. -/
def wrote (m : Message) (rest : List Message) : Connection :=
  -- whatever was written, it is taken for the reply to the TERMINATE
  if c.pendingCommand = some Fe.TERMINATE then
    { c with queue := rest, written := c.written ++ [m], control := .closed true }
  else
    { c with
      queue := rest
      written := c.written ++ [m]
      pendingCommand := none
      control := .head }

end Connection

/-- What happens next: the socket is read or written, the task goes on by itself, the
configuration or the request it waits for is answered, or a reply or notice gets on. -/
inductive ConnectionLabel
  | read (bytes : Bytes)
  | eof
  | timedOut
  | readError (reset : Bool)
  | go
  | config (keys : List String)
  | answer (outcome : Connection.Outcome)
  | handlerGone
  | route
  | notice (session : Bool)
  | write
  | writeFails
  | dropped
deriving DecidableEq, Repr

/-- What a step reads from the socket. -/
def ConnectionLabel.bytes? : ConnectionLabel → Option Bytes
  | .read bytes => some bytes
  | _ => none

/-- A condition on what is read can be decided. -/
theorem ConnectionLabel.forall_read (label : ConnectionLabel) (P : Bytes → Prop) :
    (∀ bytes, label = .read bytes → P bytes) ↔ ∀ bytes ∈ label.bytes?, P bytes := by
  cases label <;> simp [bytes?]

/-- The next step of the task itself. -/
def Connection.go (decrypt : String → Bytes → Option Bytes) (c : Connection) :
    Option Connection :=
  match c.control with
  | .prePong => { c with control := .preRead }.enqueue .pong
  | .head => some c.loopHead
  | .buffer caller errors => some (c.iterate decrypt caller errors)
  | .pong caller errors => { c with control := .buffer caller errors }.enqueue .pong
  | .permit caller request => some { c with control := .request caller request }
  | .forward caller m =>
    some { c with
      inFlight := c.inFlight ++ [m]
      replies := c.replies ++ [m]
      control := .buffer caller 0 }
  | .preRead | .config | .request _ _ | .select | .closed _ => none

/-- A step, where it is possible. -/
def Connection.step (decrypt : String → Bytes → Option Bytes) (label : ConnectionLabel)
    (c : Connection) : Option Connection :=
  match label, c.control with
  | _, .closed _ => none
  | .read bytes, .preRead => if bytes = [] then none else some (c.preAuthRead bytes)
  | .read bytes, .select =>
    if bytes = [] then none
    else some { c with buf := c.buf ++ bytes, control := .buffer .read 0 }
  | .eof, .preRead | .eof, .select => some { c with control := .closed false }
  -- the pre-authentication loop ends, and the main loop reads on
  | .timedOut, .preRead => some { c with control := .config }
  | .timedOut, .select =>
    some { c with notices := c.notices ++ [ERROR_HANDSHAKE_TIMEOUT], control := .head }
  | .readError reset, .preRead =>
    some { c with control := if reset then .closed false else .config }
  | .readError _, .select => some { c with control := .closed false }
  | .go, _ => c.go decrypt
  | .config keys, .config => some (c.configured keys)
  | .answer outcome, .request caller request => some (c.answered caller request outcome)
  | .handlerGone, .forward _ _ => some { c with control := .closed false }
  | .route, _ =>
    match c.inFlight with
    | [] => none
    | m :: rest => { c with inFlight := rest }.enqueue m
  | .notice session, _ =>
    match c.notices with
    | [] => none
    | status :: rest =>
      if session then { c with notices := rest }.enqueue (.notice status)
      else some { c with notices := rest }
  -- the channel is polled only where the task waits
  | .write, .select =>
    match c.queue with
    | [] => none
    | m :: rest => some (c.wrote m rest)
  | .writeFails, .select => if c.queue = [] then none else some { c with control := .closed false }
  | .dropped, _ => some { c with control := .closed false }
  | _, _ => none

/-- The task of a connection, with the cipher it decrypts with. -/
def connectionTask (decrypt : String → Bytes → Option Bytes) :
    Machine ConnectionLabel Connection where
  step := Connection.step decrypt

/-- What a step of the task can do, with the conditions under which it does it. -/
inductive Connection.Moves (decrypt : String → Bytes → Option Bytes) (c : Connection) :
    ConnectionLabel → Connection → Prop
  | closes (label c') (control : c'.control = .closed false) (queue : c'.queue = c.queue)
      (written : c'.written = c.written) (replies : c'.replies = c.replies) :
      Moves decrypt c label c'
  | preAuthPing (bytes) (control : c.control = .preRead)
      (ping : isPlainPing (c.buf ++ bytes) = true) : Moves decrypt c (.read bytes)
        { c with buf := (c.buf ++ bytes).drop 4, control := .prePong }
  | preAuthData (bytes) (control : c.control = .preRead) :
      Moves decrypt c (.read bytes) { c with buf := c.buf ++ bytes, control := .config }
  | preAuthLeft (label) (control : c.control = .preRead) :
      Moves decrypt c label { c with control := .config }
  | preAuthPong (control : c.control = .prePong) (room : c.queue.length < writeCapacity) :
      Moves decrypt c .go { c with control := .preRead, queue := c.queue ++ [.pong] }
  | configured (keys) (control : c.control = .config) :
      Moves decrypt c (.config keys) { c with candidateKeys := keys, control := .head }
  | starts (control : c.control = .head) (long : 4 ≤ c.buf.length) :
      Moves decrypt c .go { c with control := .buffer .head 0 }
  | selects (control : c.control = .head) (short : c.buf.length < 4) :
      Moves decrypt c .go { c with control := .select }
  | reads (bytes) (control : c.control = .select) :
      Moves decrypt c (.read bytes)
        { c with buf := c.buf ++ bytes, control := .buffer .read 0 }
  | readTimeout (control : c.control = .select) :
      Moves decrypt c .timedOut
        { c with notices := c.notices ++ [ERROR_HANDSHAKE_TIMEOUT], control := .head }
  | waits (caller errors) (control : c.control = .buffer caller errors)
      (front : scan errors c.buf = .wait) : Moves decrypt c .go (c.returned caller)
  | ping (caller errors rest) (control : c.control = .buffer caller errors)
      (front : scan errors c.buf = .ping rest) :
      Moves decrypt c .go { c with buf := rest, control := .pong caller errors }
  | skips (caller errors rest) (control : c.control = .buffer caller errors)
      (front : scan errors c.buf = .skip rest) :
      Moves decrypt c .go { c with buf := rest, control := .buffer caller (errors + 1) }
  | refuses (caller errors payload rest) (control : c.control = .buffer caller errors)
      (front : scan errors c.buf = .message payload rest) (notices keys) (key : Option String) :
      Moves decrypt c .go { c with
        buf := rest
        notices := notices
        candidateKeys := keys
        resolvedKey := key
        control := .buffer caller 0 }
  | takes (caller errors payload rest) (control : c.control = .buffer caller errors)
      (front : scan errors c.buf = .message payload rest) (keys) (key : Option String)
      (command data) (sent : c.commandOf decrypt payload = some command) :
      Moves decrypt c .go { c with
        buf := rest
        candidateKeys := keys
        resolvedKey := key
        pendingCommand := some command
        requests := c.requests + 1
        control := .permit caller { number := c.requests, command := command, data := data } }
  | pong (caller errors) (control : c.control = .pong caller errors)
      (room : c.queue.length < writeCapacity) : Moves decrypt c .go
        { c with control := .buffer caller errors, queue := c.queue ++ [.pong] }
  | permitted (caller request) (control : c.control = .permit caller request) :
      Moves decrypt c .go { c with control := .request caller request }
  | answers (caller request data) (control : c.control = .request caller request) :
      Moves decrypt c (.answer (.ok data)) { c with
        control := .forward caller (.reply request.number request.command data) }
  | refusesConnect (caller request data built) (control : c.control = .request caller request)
      (connect : request.command = Fe.CONNECT) :
      Moves decrypt c (.answer (.error built)) { c with
        pendingCommand := none
        control := .forward caller (.reply request.number Fe.CONNECT_RESP data) }
  | fails (caller request built) (control : c.control = .request caller request) :
      Moves decrypt c (.answer (.error built))
        { c with pendingCommand := none, control := .buffer caller 0 }
  | forwards (caller m) (control : c.control = .forward caller m) : Moves decrypt c .go { c with
      inFlight := c.inFlight ++ [m]
      replies := c.replies ++ [m]
      control := .buffer caller 0 }
  | routes (m rest) (inFlight : c.inFlight = m :: rest) (room : c.queue.length < writeCapacity)
      (isOpen : ∀ terminate, c.control ≠ .closed terminate) :
      Moves decrypt c .route { c with inFlight := rest, queue := c.queue ++ [m] }
  | notices (status rest) (room : c.queue.length < writeCapacity)
      (isOpen : ∀ terminate, c.control ≠ .closed terminate) :
      Moves decrypt c (.notice true)
        { c with notices := rest, queue := c.queue ++ [.notice status] }
  | unnoticed (rest) (isOpen : ∀ terminate, c.control ≠ .closed terminate) :
      Moves decrypt c (.notice false) { c with notices := rest }
  | writes (m rest) (control : c.control = .select) (queue : c.queue = m :: rest) :
      Moves decrypt c .write (c.wrote m rest)

namespace Connection

variable {decrypt : String → Bytes → Option Bytes} {label : ConnectionLabel} {c c' : Connection}

theorem of_enqueue {m : Message} (put : c.enqueue m = some c') :
    c.queue.length < writeCapacity ∧ c' = { c with queue := c.queue ++ [m] } := by
  unfold enqueue at put
  split at put
  · next room =>
    cases put
    exact ⟨room, rfl⟩
  · cases put

/-- Decryption changes nothing but the keys, and does not look at the buffer. -/
theorem of_decryptPayload {payload rest data : Bytes}
    (opened : { c with buf := rest }.decryptPayload decrypt payload = some (data, c')) :
    ∃ candidates key, c' = { c with buf := rest, candidateKeys := candidates, resolvedKey := key } ∧
      c.decryptPayload decrypt payload =
        some (data, { c with candidateKeys := candidates, resolvedKey := key }) := by
  cases resolved : c.resolvedKey with
  | some key =>
    have known : ∀ c₀ : Connection, c₀.resolvedKey = some key →
        c₀.decryptPayload decrypt payload = (decrypt key payload).map fun data => (data, c₀) := by
      intro c₀ eq
      rw [decryptPayload, eq]
    rw [known { c with buf := rest } resolved] at opened
    obtain ⟨_, opens, same⟩ := Option.map_eq_some_iff.mp opened
    cases same
    refine ⟨c.candidateKeys, c.resolvedKey, rfl, ?_⟩
    rw [known c resolved, opens]
    rfl
  | none =>
    unfold decryptPayload at opened ⊢
    simp only [resolved] at opened ⊢
    obtain ⟨⟨_, key⟩, opens, same⟩ := Option.map_eq_some_iff.mp opened
    cases same
    refine ⟨[], some key, rfl, ?_⟩
    rw [opens, Option.map_some]

theorem moves_takeMessage {caller : Caller} {errors : Nat} {payload rest : Bytes}
    (control : c.control = .buffer caller errors)
    (front : scan errors c.buf = .message payload rest) :
    Moves decrypt c .go ({ c with buf := rest }.takeMessage decrypt caller payload) := by
  unfold takeMessage
  split
  · exact .refuses caller errors payload rest control front _ _ _
  · next data c' opened =>
    obtain ⟨candidates, key, rfl, opens⟩ := of_decryptPayload opened
    split
    · exact .refuses caller errors payload rest control front _ _ _
    · next long =>
      apply Moves.takes caller errors payload rest control front
      rw [commandOf, opens, Option.bind_some]
      exact if_neg long

theorem moves_iterate {caller : Caller} {errors : Nat}
    (control : c.control = .buffer caller errors) :
    Moves decrypt c .go (c.iterate decrypt caller errors) := by
  unfold iterate
  split
  · next front => exact .waits caller errors control front
  · next rest front => exact .ping caller errors rest control front
  · next rest front => exact .skips caller errors rest control front
  · exact .closes _ _ rfl rfl rfl rfl
  · next payload rest front => exact moves_takeMessage control front

theorem moves_of_go (moves : c.go decrypt = some c') : Moves decrypt c .go c' := by
  unfold go at moves
  split at moves
  · next control =>
    obtain ⟨room, rfl⟩ := of_enqueue moves
    exact .preAuthPong control room
  · next control =>
    cases moves
    unfold loopHead
    split
    · next long => exact .starts control long
    · next short => exact .selects control (Nat.not_le.mp short)
  · next caller errors control =>
    cases moves
    exact moves_iterate control
  · next caller errors control =>
    obtain ⟨room, rfl⟩ := of_enqueue moves
    exact .pong caller errors control room
  · next caller request control =>
    cases moves
    exact .permitted caller request control
  · next caller m control =>
    cases moves
    exact .forwards caller m control
  all_goals cases moves

theorem moves_answered {caller : Caller} {request : Request}
    (control : c.control = .request caller request) (outcome : Outcome) :
    Moves decrypt c (.answer outcome) (c.answered caller request outcome) := by
  cases outcome with
  | ok data => exact .answers caller request data control
  | error built =>
    cases response : connectError request built with
    | some data =>
      have connect : request.command = Fe.CONNECT := by
        by_contra other
        simp [connectError, other] at response
      simp only [answered, response]
      exact .refusesConnect caller request data built control connect
    | none =>
      simp only [answered, response]
      exact .fails caller request built control

/-- Every step is one of the moves. -/
theorem moves_of_step (moves : c.step decrypt label = some c') : Moves decrypt c label c' := by
  unfold step at moves
  split at moves
  · cases moves
  · next bytes control =>
    split at moves
    · cases moves
    · cases moves
      simp only [preAuthRead]
      split
      · next ping => exact .preAuthPing bytes control ping
      · exact .preAuthData bytes control
  · next bytes control =>
    split at moves
    · cases moves
    · cases moves
      exact .reads bytes control
  · cases moves
    exact .closes _ _ rfl rfl rfl rfl
  · cases moves
    exact .closes _ _ rfl rfl rfl rfl
  · next control =>
    cases moves
    exact .preAuthLeft _ control
  · next control =>
    cases moves
    exact .readTimeout control
  · next reset control =>
    cases moves
    cases reset with
    | true => exact .closes _ _ rfl rfl rfl rfl
    | false => exact .preAuthLeft _ control
  · cases moves
    exact .closes _ _ rfl rfl rfl rfl
  · exact moves_of_go moves
  · next keys control =>
    cases moves
    unfold configured
    split
    · exact .closes _ _ rfl rfl rfl rfl
    · exact .configured keys control
  · next outcome caller request control =>
    cases moves
    exact moves_answered control outcome
  · cases moves
    exact .closes _ _ rfl rfl rfl rfl
  · next isOpen =>
    split at moves
    · cases moves
    · next m rest inFlight =>
      obtain ⟨room, rfl⟩ := of_enqueue moves
      exact .routes m rest inFlight room isOpen
  · next session isOpen =>
    split at moves
    · cases moves
    · next status rest _ =>
      cases session with
      | true =>
        rw [if_pos rfl] at moves
        obtain ⟨room, rfl⟩ := of_enqueue moves
        exact .notices status rest room isOpen
      | false =>
        rw [if_neg Bool.false_ne_true] at moves
        cases moves
        exact .unnoticed rest isOpen
  · next control =>
    split at moves
    · cases moves
    · next m rest queue =>
      cases moves
      exact .writes m rest control queue
  · split at moves
    · cases moves
    · cases moves
      exact .closes _ _ rfl rfl rfl rfl
  · cases moves
    exact .closes _ _ rfl rfl rfl rfl
  · cases moves

end Connection

/-! ### Frames in plain text -/

/-- The frame of a command without data: 28 bytes of plain text in two blocks. -/
def plainFrame (command : UInt8) : Bytes :=
  [36, 0, 0, 0, 28, 0, 0, 0, command, 0, 0, 0] ++ List.replicate 24 0

/-- A cipher that leaves the plain text as it is, and pads it to two blocks. -/
def unpad : String → Bytes → Option Bytes :=
  fun _ payload => some (payload.take 28)

end TollBackend

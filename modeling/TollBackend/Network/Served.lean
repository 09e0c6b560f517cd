import TollBackend.Fe.Client
import TollBackend.Fe.MessageBuilder
import TollBackend.Network.Segmentation

/-!
# A client and its connection

The test client encrypts each request, puts it into a frame and writes it to its socket. The
connection reads the bytes in pieces of any size, between its writes, the answers of handlers
and the pongs that other clients ask for.

## Main definitions

* `ClientMessage.bytes`: what a client writes.
* `Link`: a connection together with the bytes that are on their way to it.
* `Served`: what a client that keeps to the protocol gets.

## Main results

* `served_of_reaches`: every run of the connection serves such a client.
-/

namespace TollBackend

open Concurrent Wire Fe.FeClient

/-! ### The client -/

/-- What a client sends: a ping, or a request without a line of its fee. -/
inductive ClientMessage
  | ping (letters : Bytes) (four : letters.length = 4) (isPing : isPlainPing letters = true)
  | request (r : Fe.Request Fe.client) (noLines : r.NoLines)

namespace ClientMessage

/-- The bytes of a message. -/
def bytes (cipher : Fe.BlockCipher) (key : Fe.AesKey) : ClientMessage → Bytes
  | .ping letters _ _ => letters
  | .request r _ => send cipher key (Fe.build r)

/-- The request, if the message is one. -/
def request? : ClientMessage → Option (Fe.Request Fe.client)
  | .ping _ _ _ => none
  | .request r _ => some r

/-- The message is a ping. -/
def isPing : ClientMessage → Bool
  | .ping _ _ _ => true
  | .request _ _ => false

end ClientMessage

/-- The requests among the messages. -/
def requestsOf (messages : List ClientMessage) : List (Fe.Request Fe.client) :=
  messages.filterMap ClientMessage.request?

/-- The number of pings among the messages. -/
def pingsOf (messages : List ClientMessage) : Nat :=
  messages.countP ClientMessage.isPing

/-- The stream of the messages. -/
def streamOf (cipher : Fe.BlockCipher) (key : Fe.AesKey) (messages : List ClientMessage) : Bytes :=
  messages.flatMap (ClientMessage.bytes cipher key)

/-! ### The connection -/

/-- The request that the task works on. -/
def Control.request? : Control → Option Request
  | .permit _ q | .request _ q => some q
  | .preRead | .prePong | .config | .head | .buffer _ _ | .pong _ _ | .forward _ _ | .select
  | .closed _ => none

/-- A connection, and what its client has sent and the task has not read. The requests that the
task has taken off its buffer are kept as a history. -/
structure Link where
  connection : Connection := {}
  unread : Bytes
  handled : List Request := []

/-- What a step takes off the buffer for `process_request`. -/
def taken (before after : Connection) : List Request :=
  if after.requests = before.requests then [] else after.control.request?.toList

namespace Link

/-- A read gets what the client has sent, in order. -/
def readable (l : Link) : ConnectionLabel → Bool
  | .read bytes => bytes.isPrefixOf l.unread
  | .eof | .timedOut | .readError _ | .go | .config _ | .answer _ | .handlerGone | .route
  | .notice _ | .write | .writeFails | .dropped => true

/-- What is left to be read. -/
def left (l : Link) : ConnectionLabel → Bytes
  | .read bytes => l.unread.drop bytes.length
  | .eof | .timedOut | .readError _ | .go | .config _ | .answer _ | .handlerGone | .route
  | .notice _ | .write | .writeFails | .dropped => l.unread

/-- A step of the connection, whose reads are of the stream. -/
def step (decrypt : String → Bytes → Option Bytes) (label : ConnectionLabel) (l : Link) :
    Option Link :=
  if l.readable label then
    (l.connection.step decrypt label).map fun c =>
      { connection := c, unread := l.left label, handled := l.handled ++ taken l.connection c }
  else none

end Link

/-- A connection with the bytes that are on their way to it. -/
def linkTask (cipher : Fe.BlockCipher) : Machine ConnectionLabel Link where
  step := Link.step (decryptPadded cipher.decrypt)

/-- The keys that a step gets from the configuration. -/
def ConnectionLabel.keys? : ConnectionLabel → Option (List String)
  | .config keys => some keys
  | .read _ | .eof | .timedOut | .readError _ | .go | .answer _ | .handlerGone | .route
  | .notice _ | .write | .writeFails | .dropped => none

/-- The client's key is one of those for its address, and none of the others comes before it that
makes something of the first frame. -/
def KeyConfigured (cipher : Fe.BlockCipher) (key : Fe.AesKey) (messages : List ClientMessage)
    (label : ConnectionLabel) (_ : Link) : Prop :=
  ∀ keys ∈ label.keys?, key.val ∈ keys ∧ ∀ r ∈ (requestsOf messages).head?,
    KeyComesFirst cipher.decrypt keys key.val (cipher.encryptPadded key (Fe.build r))

/-- `process_request` lets the request pass, and the handler of its command gets all fields as
the client has them. -/
def Understood (request : Request) (r : Fe.Request Fe.client) : Prop :=
  request.command = r.command ∧ Fe.checkRequest request.command request.data = .ok () ∧
    (Fe.parseRequest request.command request.data).map
        (Prod.map id (Fe.Request.map Fe.normalized)) =
      .ok (r.header, r.map Fe.received)

/-- The number of the request that a message replies to. -/
def Message.request? : Message → Option Nat
  | .reply request _ _ => some request
  | .pong | .notice _ => none

/-- The pongs that were sent. -/
def Connection.pongs (c : Connection) : Nat :=
  (c.written ++ c.queue).count .pong

/-- What the client of a connection gets. -/
structure Served (messages : List ClientMessage) (l : Link) : Prop where
  /-- The requests are handled in order, and each is what the client sent. -/
  handled : List.Forall₂ Understood l.handled ((requestsOf messages).take l.handled.length)
  /-- Each is handled once. -/
  numbered : l.handled.map Request.number = List.range l.handled.length
  /-- They are answered in order, each at most once. -/
  answered : (l.connection.replies.filterMap Message.request?).Sublist
    (List.range l.handled.length)
  /-- The client is never told that a message is invalid or cannot be decrypted. -/
  unblamed : ∀ status, .notice status ∈ l.connection.written ++ l.connection.queue →
    status = ERROR_HANDSHAKE_TIMEOUT
  /-- Nobody is sent a pong that no ping asked for. -/
  pongs : l.connection.pongs ≤ pingsOf messages
  /-- Whenever the task waits for input and there is none, everything has been handled. -/
  caughtUp : l.connection.control = .select → l.unread = [] →
    l.handled.length = (requestsOf messages).length ∧ l.connection.pongs = pingsOf messages

/-! ### The stream -/

section Stream

variable {cipher : Fe.BlockCipher} {key : Fe.AesKey} {messages todo : List ClientMessage}
variable {buf unread rest : Bytes}

theorem minLenForCommand_le : ∀ command ∈ Fe.validCommands, Fe.minLenForCommand command ≤ 203 := by
  decide

theorem length_encryptPadded_build (cipher : Fe.BlockCipher) (key : Fe.AesKey)
    (r : Fe.Request Fe.client) :
    (cipher.encryptPadded key (Fe.build r)).length + 4 ≤ maxMessageSize := by
  have padded := (Fe.encryptPadded_spec cipher key (Fe.build r)).1
  have missing : pkcs7Missing 16 (Fe.build r).length ≤ 16 := Nat.sub_le _ _
  have short := minLenForCommand_le r.command (Fe.command_mem r)
  rw [← Fe.length_build] at short
  unfold maxMessageSize
  omega

/-- A message as an element of the stream. -/
def ClientMessage.sent (cipher : Fe.BlockCipher) (key : Fe.AesKey) : ClientMessage → Sent
  | .ping letters four isPing => .ping letters four isPing
  | .request r _ =>
    .frame (cipher.encryptPadded key (Fe.build r)) (length_encryptPadded_build cipher key r)

theorem ClientMessage.bytes_sent (m : ClientMessage) :
    (m.sent cipher key).bytes = m.bytes cipher key := by
  cases m with
  | ping letters four isPing => rfl
  | request r noLines =>
    rw [sent, Sent.bytes, bytes, send, Fe.wrapEncrypted, Nat.add_comm]

/-- The first message is found at the front of the stream. -/
theorem nextElement_streamOf (m : ClientMessage) (todo : List ClientMessage) :
    nextElement (streamOf cipher key (m :: todo)) =
      some ((m.sent cipher key).element, streamOf cipher key todo) := by
  rw [streamOf, List.flatMap_cons, ← m.bytes_sent, nextElement_bytes]
  rfl

/-- What is complete in the buffer is the first message that is left. -/
theorem eq_cons_of_nextElement {e : Element}
    (stream : buf ++ unread = streamOf cipher key todo)
    (found : nextElement buf = some (e, rest)) :
    ∃ m later, todo = m :: later ∧ (m.sent cipher key).element = e ∧
      rest ++ unread = streamOf cipher key later := by
  have more := nextElement_append found unread
  rw [stream] at more
  cases todo with
  | nil => cases more
  | cons m later =>
    rw [nextElement_streamOf, Option.some.injEq, Prod.mk.injEq] at more
    exact ⟨m, later, rfl, more.1, more.2.symm⟩

/-- No length in the stream is out of range. -/
theorem not_invalidLength (stream : buf ++ unread = streamOf cipher key todo) :
    ¬ InvalidLength buf := by
  intro invalid
  have stuck := nextElement_of_invalid (invalid.append unread)
  rw [stream] at stuck
  cases todo with
  | nil =>
    have long := (invalid.append unread).1
    rw [stream, streamOf, List.flatMap_nil, List.length_nil] at long
    omega
  | cons m later => cases (nextElement_streamOf m later).symm.trans stuck

/-- What an iteration of the loop finds in a buffer with a part of the stream. -/
inductive StreamFront (cipher : Fe.BlockCipher) (key : Fe.AesKey) (todo : List ClientMessage)
    (buf unread : Bytes) : Scan → Prop
  | wait (none_left : nextElement buf = none) : StreamFront cipher key todo buf unread .wait
  | ping (letters four isPing later rest) (first : todo = .ping letters four isPing :: later)
      (stream : rest ++ unread = streamOf cipher key later) :
      StreamFront cipher key todo buf unread (.ping rest)
  | request (r noLines later rest) (first : todo = .request r noLines :: later)
      (stream : rest ++ unread = streamOf cipher key later) :
      StreamFront cipher key todo buf unread
        (.message (cipher.encryptPadded key (Fe.build r)) rest)

theorem streamFront_scan (errors : Nat) (stream : buf ++ unread = streamOf cipher key todo) :
    StreamFront cipher key todo buf unread (scan errors buf) := by
  cases found : nextElement buf with
  | none =>
    have wait : scan errors buf = .wait := by
      rcases front_cases buf with short | ⟨long, ping⟩ | invalid | frame
      · exact scan_of_short short
      · rw [nextElement, scan_of_ping long ping] at found
        cases found
      · exact absurd invalid (not_invalidLength stream)
      · rw [scan_of_frame frame]
        by_cases incomplete : buf.length < leNat (buf.take 4)
        · exact if_pos incomplete
        · rw [nextElement, scan_of_frame frame, if_neg incomplete] at found
          cases found
    rw [wait]
    exact .wait found
  | some next =>
    obtain ⟨e, rest⟩ := next
    obtain ⟨m, later, rfl, element, remaining⟩ := eq_cons_of_nextElement stream found
    have front := (scan_of_nextElement found).2 errors
    subst element
    cases m with
    | ping letters four isPing =>
      rw [front]
      exact .ping letters four isPing later rest rfl remaining
    | request r noLines =>
      rw [front]
      exact .request r noLines later rest rfl remaining

end Stream

/-! ### Following the client -/

/-- The number of the request that the task works on or is about to answer. -/
def Control.busy : Control → Option Nat
  | .permit _ q | .request _ q => some q.number
  | .forward _ m => m.request?
  | .preRead | .prePong | .config | .head | .buffer _ _ | .pong _ _ | .select | .closed _ => none

/-- The reply that the task is about to hand over. -/
def Control.inHand : Control → Option Message
  | .forward _ m => some m
  | .preRead | .prePong | .config | .head | .buffer _ _ | .pong _ _ | .permit _ _ | .request _ _
  | .select | .closed _ => none

/-- The pongs that the task is about to send. -/
def Control.owes : Control → Nat
  | .prePong | .pong _ _ => 1
  | .preRead | .config | .head | .buffer _ _ | .permit _ _ | .request _ _ | .forward _ _ | .select
  | .closed _ => 0

/-- The keys have been loaded. -/
def Control.configured : Control → Bool
  | .preRead | .prePong | .config => false
  | .head | .buffer _ _ | .pong _ _ | .permit _ _ | .request _ _ | .forward _ _ | .select
  | .closed _ => true

/-- The connection has taken some messages of the client, and what it has not taken is in its
buffer or unread. -/
structure Follows (cipher : Fe.BlockCipher) (key : Fe.AesKey) (messages : List ClientMessage)
    (l : Link) (done todo : List ClientMessage) : Prop where
  split : messages = done ++ todo
  stream : l.connection.buf ++ l.unread = streamOf cipher key todo
  handled : List.Forall₂ Understood l.handled (requestsOf done)
  numbered : l.handled.map Request.number = List.range l.handled.length
  requests : l.connection.requests = l.handled.length
  answered : (l.connection.replies.filterMap Message.request? ++
    l.connection.control.busy.toList).Sublist (List.range l.handled.length)
  pongs : l.connection.pongs + l.connection.control.owes = pingsOf done
  settled : l.connection.control = .select → nextElement l.connection.buf = none
  inHand : ∀ m ∈ l.connection.control.inHand, m.request?.isSome = true
  inFlight : ∀ m ∈ l.connection.inFlight, m.request?.isSome = true
  notices : ∀ status ∈ l.connection.notices, status = ERROR_HANDSHAKE_TIMEOUT
  unblamed : ∀ status, .notice status ∈ l.connection.written ++ l.connection.queue →
    status = ERROR_HANDSHAKE_TIMEOUT
  resolved : l.connection.resolvedKey = some key.val ∨
    l.connection.resolvedKey = none ∧ requestsOf done = [] ∧
      (l.connection.control.configured = true → key.val ∈ l.connection.candidateKeys ∧
        ∀ r ∈ (requestsOf messages).head?, KeyComesFirst cipher.decrypt
          l.connection.candidateKeys key.val (cipher.encryptPadded key (Fe.build r)))

section Follows

variable {cipher : Fe.BlockCipher} {key : Fe.AesKey}
variable {messages done todo later : List ClientMessage}
variable {l : Link} {c c' : Connection} {label : ConnectionLabel}

theorem requestsOf_append (done todo : List ClientMessage) :
    requestsOf (done ++ todo) = requestsOf done ++ requestsOf todo :=
  List.filterMap_append

theorem pingsOf_append (done todo : List ClientMessage) :
    pingsOf (done ++ todo) = pingsOf done + pingsOf todo :=
  List.countP_append

/-- A client that is followed is served. -/
theorem Follows.served (follows : Follows cipher key messages l done todo) :
    Served messages l := by
  have length : l.handled.length = (requestsOf done).length := follows.handled.length_eq
  have requests : requestsOf messages = requestsOf done ++ requestsOf todo := by
    rw [follows.split, requestsOf_append]
  have pings : pingsOf messages = pingsOf done + pingsOf todo := by
    rw [follows.split, pingsOf_append]
  have pongs := follows.pongs
  constructor
  · rw [requests, List.take_left' length.symm]
    exact follows.handled
  · exact follows.numbered
  · exact (List.sublist_append_left _ _).trans follows.answered
  · exact follows.unblamed
  · omega
  · intro select empty
    -- nothing complete is in the buffer, and nothing is to come
    have none_left := follows.settled select
    have stream := follows.stream
    rw [empty, List.append_nil] at stream
    have nothing : todo = [] := by
      cases todo with
      | nil => rfl
      | cons m later =>
        rw [stream, nextElement_streamOf] at none_left
        cases none_left
    rw [nothing] at requests pings
    rw [select] at pongs
    constructor
    · rw [requests, length, requestsOf, requestsOf, List.filterMap_nil, List.append_nil]
    · exact pongs.trans pings.symm

/-- Closing a connection takes nothing back. -/
theorem Served.closed (served : Served messages l) {terminate : Bool} {unread : Bytes}
    (control : c.control = .closed terminate)
    (sent : c.written ++ c.queue = l.connection.written ++ l.connection.queue)
    (replies : c.replies = l.connection.replies) :
    Served messages { connection := c, unread := unread, handled := l.handled } where
  handled := served.handled
  numbered := served.numbered
  answered := by
    rw [replies]
    exact served.answered
  unblamed := by
    rw [sent]
    exact served.unblamed
  pongs := by
    rw [Connection.pongs, sent]
    exact served.pongs
  caughtUp select := by cases control.symm.trans select

/-! ### Taking a message -/

theorem Connection.decryptPayload_of_resolved {decrypt : String → Bytes → Option Bytes}
    {key : String} {payload data : Bytes} (resolved : c.resolvedKey = some key)
    (opens : decrypt key payload = some data) :
    c.decryptPayload decrypt payload = some (data, c) := by
  rw [decryptPayload, resolved]
  simp only [opens, Option.map_some]

/-- The first frame is opened with the client's key. -/
theorem Connection.decryptPayload_of_first {cbc : String → Bytes → Bytes} {key : String}
    {payload data : Bytes} (unresolved : c.resolvedKey = none) (candidate : key ∈ c.candidateKeys)
    (first : KeyComesFirst cbc c.candidateKeys key payload)
    (opens : decryptPadded cbc key payload = some data) :
    c.decryptPayload (decryptPadded cbc) payload =
      some (data, { c with resolvedKey := some key, candidateKeys := [] }) := by
  have found : (c.candidateKeys.findSome? fun key =>
      (decryptPadded cbc key payload).map fun data => (data, key)) = some (data, key) := by
    have others := first.2
    generalize c.candidateKeys = keys at candidate others
    induction keys with
    | nil => cases candidate
    | cons k keys ih =>
      by_cases same : k = key
      · rw [same, List.findSome?_cons, opens]
        rfl
      · rw [List.takeWhile_cons_of_pos (by simpa using same), List.forall_mem_cons] at others
        rw [List.findSome?_cons, others.1.2]
        exact ih ((List.mem_cons.mp candidate).resolve_left (Ne.symm same)) others.2
  rw [decryptPayload, unresolved]
  simp only [found, Option.map_some]

/-- A frame that holds a request is taken for `process_request`. -/
theorem Connection.takeMessage_build {decrypt : String → Bytes → Option Bytes}
    {payload : Bytes} {r : Fe.Request Fe.client}
    (opens : c.decryptPayload decrypt payload = some (Fe.build r, c')) (caller : Caller) :
    c.takeMessage decrypt caller payload =
      { c' with
        pendingCommand := some r.command
        requests := c'.requests + 1
        control := .permit caller
          { number := c'.requests, command := r.command, data := Fe.build r } } := by
  have long : ¬ (Fe.build r).length < 8 := by
    rw [Fe.length_build]
    exact Nat.not_lt.mpr (Fe.minLenForCommand_ge r.command (Fe.command_mem r))
  have command : (SInt.read 4 (slice (Fe.build r) 4 8)).val = r.command :=
    Fe.i32_command_build r
  simp only [takeMessage, opens, if_neg long, command]

theorem understood_build (r : Fe.Request Fe.client) (noLines : r.NoLines) (number : Nat) :
    Understood { number := number, command := r.command, data := Fe.build r } r :=
  ⟨rfl, Fe.checkRequest_build r, Fe.parseRequest_command_build r noLines⟩

theorem taken_of_requests (same : c'.requests = c.requests) : taken c c' = [] :=
  if_pos same

/-- The task takes the next request, once it has its frame. -/
theorem Follows.takes {caller : Caller} {errors : Nat} {rest : Bytes}
    {r : Fe.Request Fe.client} {noLines : r.NoLines} {candidates : List String}
    (follows : Follows cipher key messages l done (.request r noLines :: later))
    (control : l.connection.control = .buffer caller errors)
    (stream : rest ++ l.unread = streamOf cipher key later)
    (opens : { l.connection with buf := rest }.decryptPayload (decryptPadded cipher.decrypt)
      (cipher.encryptPadded key (Fe.build r)) = some (Fe.build r, { l.connection with
        buf := rest, resolvedKey := some key.val, candidateKeys := candidates }))
    (taking : c = { l.connection with buf := rest }.takeMessage (decryptPadded cipher.decrypt)
      caller (cipher.encryptPadded key (Fe.build r))) :
    Follows cipher key messages
      { connection := c, unread := l.unread, handled := l.handled ++ taken l.connection c }
      (done ++ [.request r noLines]) later := by
  rw [Connection.takeMessage_build opens caller] at taking
  have new : taken l.connection c =
      [{ number := l.connection.requests, command := r.command, data := Fe.build r }] := by
    rw [taking, taken, if_neg (Nat.succ_ne_self _)]
    rfl
  have answered := follows.answered
  have pongs := follows.pongs
  rw [control] at answered pongs
  rw [new, taking]
  exact
    { split := by rw [follows.split, List.append_assoc, List.singleton_append]
      stream := stream
      handled := by
        rw [requestsOf_append]
        exact List.rel_append follows.handled (.cons (understood_build r noLines _) .nil)
      numbered := by
        rw [List.map_append, follows.numbered, List.length_append, List.length_singleton,
          List.range_succ, follows.requests]
        rfl
      requests := by
        rw [List.length_append, List.length_singleton, ← follows.requests]
      answered := by
        rw [List.length_append, List.length_singleton, List.range_succ, ← follows.requests]
        rw [← follows.requests, Control.busy, Option.toList, List.append_nil] at answered
        exact answered.append (.refl _)
      pongs := by
        rw [pingsOf_append]
        exact pongs
      settled := nofun
      inHand := nofun
      inFlight := follows.inFlight
      notices := follows.notices
      unblamed := follows.unblamed
      resolved := .inl rfl }

/-- The task goes on where it has taken no message. -/
theorem Follows.goesTo {buf unread : Bytes} (follows : Follows cipher key messages l done todo)
    (control : Control)
    (stream : buf ++ unread = streamOf cipher key todo)
    (busy : control.busy = l.connection.control.busy)
    (owes : control.owes = l.connection.control.owes)
    (configured : control.configured = l.connection.control.configured)
    (inHand : ∀ m ∈ control.inHand, m.request?.isSome = true)
    (settled : control = .select → nextElement buf = none) :
    Follows cipher key messages
      { connection := { l.connection with buf := buf, control := control }
        unread := unread, handled := l.handled } done todo :=
  { follows with
    stream := stream
    settled := settled
    inHand := inHand
    answered := by
      rw [busy]
      exact follows.answered
    pongs := by
      rw [owes]
      exact follows.pongs
    resolved := by
      rw [configured]
      exact follows.resolved }

/-- The task takes a ping, and is about to answer it. -/
theorem Follows.takesPing {control : Control} {rest unread letters : Bytes}
    {four : letters.length = 4} {isPing : isPlainPing letters = true}
    (follows : Follows cipher key messages l done (.ping letters four isPing :: later))
    (stream : rest ++ unread = streamOf cipher key later)
    (busy : control.busy = l.connection.control.busy)
    (idle : l.connection.control.owes = 0) (owes : control.owes = 1)
    (configured : control.configured = l.connection.control.configured)
    (inHand : ∀ m ∈ control.inHand, m.request?.isSome = true) :
    Follows cipher key messages
      { connection := { l.connection with buf := rest, control := control }
        unread := unread, handled := l.handled } (done ++ [.ping letters four isPing]) later := by
  have same : requestsOf (done ++ [.ping letters four isPing]) = requestsOf done := by
    rw [requestsOf_append]
    exact List.append_nil _
  have pongs := follows.pongs
  rw [idle] at pongs
  exact
    { follows with
      split := by rw [follows.split, List.append_assoc, List.singleton_append]
      stream := stream
      handled := same ▸ follows.handled
      answered := by
        rw [busy]
        exact follows.answered
      pongs := by
        rw [owes, pingsOf_append]
        exact congrArg (· + 1) pongs
      inHand := inHand
      settled := by
        rintro rfl
        cases owes
      resolved := by
        rw [same, configured]
        exact follows.resolved }

/-- An iteration of the loop takes the next message, if it is there. -/
theorem Follows.iterate {caller : Caller} {errors : Nat}
    (follows : Follows cipher key messages l done todo)
    (control : l.connection.control = .buffer caller errors)
    (moves : c = l.connection.iterate (decryptPadded cipher.decrypt) caller errors) :
    ∃ done todo, Follows cipher key messages
      { connection := c, unread := l.unread, handled := l.handled ++ taken l.connection c }
      done todo := by
  have front := streamFront_scan errors follows.stream
  have resolved := follows.resolved
  rw [control] at resolved
  unfold Connection.iterate at moves
  generalize scan errors l.connection.buf = found at front moves
  cases front with
  | wait none_left =>
    have none_taken : taken l.connection c = [] := by
      rw [moves]
      cases caller <;> exact if_pos rfl
    refine ⟨done, todo, ?_⟩
    rw [none_taken, List.append_nil, moves]
    cases caller with
    | head =>
      exact follows.goesTo _ follows.stream (by rw [control]; rfl) (by rw [control]; rfl)
        (by rw [control]; rfl) nofun fun _ => none_left
    | read =>
      exact follows.goesTo _ follows.stream (by rw [control]; rfl) (by rw [control]; rfl)
        (by rw [control]; rfl) nofun nofun
  | ping letters four isPing later rest first stream =>
    have none_taken : taken l.connection c = [] := by
      rw [moves]
      exact if_pos rfl
    subst first
    refine ⟨done ++ [.ping letters four isPing], later, ?_⟩
    rw [none_taken, List.append_nil, moves]
    exact follows.takesPing stream (by rw [control]; rfl) (by rw [control]; rfl) rfl
      (by rw [control]; rfl) nofun
  | request r noLines later rest first stream =>
    subst first
    refine ⟨done ++ [.request r noLines], later, ?_⟩
    have opens := (Fe.encryptPadded_spec cipher key (Fe.build r)).2
    rcases resolved with known | ⟨unresolved, none_before, configured⟩
    · have same : { l.connection with buf := rest } = { l.connection with
          buf := rest, resolvedKey := some key.val, candidateKeys := l.connection.candidateKeys } := by
        rw [← known]
      have opened := Connection.decryptPayload_of_resolved
        (c := { l.connection with buf := rest }) known opens
      exact follows.takes control stream (opened.trans (by rw [same])) moves
    · obtain ⟨candidate, first⟩ := configured rfl
      -- no request was taken before, so this is the one for which the keys were configured
      have head : r ∈ (requestsOf messages).head? := by
        rw [follows.split, requestsOf_append, none_before]
        rfl
      have opened := Connection.decryptPayload_of_first
        (c := { l.connection with buf := rest }) unresolved candidate (first r head) opens
      exact follows.takes control stream opened moves

/-! ### Reading -/

theorem Connection.of_step_read {decrypt : String → Bytes → Option Bytes} {bytes : Bytes}
    (moves : c.step decrypt (.read bytes) = some c') :
    c.control = .preRead ∧ c' = c.preAuthRead bytes ∨
      c.control = .select ∧ c' = { c with buf := c.buf ++ bytes, control := .buffer .read 0 } := by
  cases control : c.control with
  | preRead =>
    simp only [step, control, Option.ite_none_left_eq_some, Option.some.injEq] at moves
    exact .inl ⟨rfl, moves.2.symm⟩
  | select =>
    simp only [step, control, Option.ite_none_left_eq_some, Option.some.injEq] at moves
    exact .inr ⟨rfl, moves.2.symm⟩
  | _ => simp [step, control] at moves

theorem length_of_isPlainPing {buf : Bytes} (ping : isPlainPing buf = true) : 4 ≤ buf.length := by
  match buf, ping with
  | _ :: _ :: _ :: _ :: rest, _ => exact Nat.le_add_left 4 rest.length

/-- The bytes of a read are the next ones of the stream. -/
theorem Follows.read {bytes : Bytes} (follows : Follows cipher key messages l done todo)
    (readable : l.readable (.read bytes) = true)
    (moves : l.connection.step (decryptPadded cipher.decrypt) (.read bytes) = some c) :
    ∃ done todo, Follows cipher key messages
      { connection := c, unread := l.left (.read bytes)
        handled := l.handled ++ taken l.connection c } done todo := by
  have stream : (l.connection.buf ++ bytes) ++ l.unread.drop bytes.length =
      streamOf cipher key todo := by
    obtain ⟨rest, unread⟩ := List.isPrefixOf_iff_prefix.mp readable
    rw [← follows.stream, ← unread, List.drop_left, List.append_assoc]
  rcases Connection.of_step_read moves with ⟨control, moves⟩ | ⟨control, moves⟩
  · rw [Connection.preAuthRead] at moves
    by_cases ping : isPlainPing (l.connection.buf ++ bytes) = true
    · rw [if_pos ping] at moves
      have none_taken : taken l.connection c = [] := by
        rw [moves]
        exact if_pos rfl
      have found : nextElement (l.connection.buf ++ bytes) =
          some (.ping, (l.connection.buf ++ bytes).drop 4) := by
        rw [nextElement, scan_of_ping (length_of_isPlainPing ping) ping]
      obtain ⟨m, later, first, element, remaining⟩ := eq_cons_of_nextElement stream found
      cases m with
      | request r noLines => cases element
      | ping letters four isPing =>
        subst first
        refine ⟨done ++ [.ping letters four isPing], later, ?_⟩
        rw [none_taken, List.append_nil, moves]
        exact follows.takesPing remaining (by rw [control]; rfl) (by rw [control]; rfl) rfl
          (by rw [control]; rfl) (by rintro _ ⟨⟩)
    · rw [if_neg ping] at moves
      have none_taken : taken l.connection c = [] := by
        rw [moves]
        exact if_pos rfl
      refine ⟨done, todo, ?_⟩
      rw [none_taken, List.append_nil, moves]
      exact follows.goesTo _ stream (by rw [control]; rfl) (by rw [control]; rfl)
        (by rw [control]; rfl) (by rintro _ ⟨⟩) (by rintro ⟨⟩)
  · have none_taken : taken l.connection c = [] := by
      rw [moves]
      exact if_pos rfl
    refine ⟨done, todo, ?_⟩
    rw [none_taken, List.append_nil, moves]
    exact follows.goesTo _ stream (by rw [control]; rfl) (by rw [control]; rfl)
      (by rw [control]; rfl) (by rintro _ ⟨⟩) (by rintro ⟨⟩)

/-! ### Other steps -/

/-- The task answers the ping that it has taken. -/
theorem Follows.sendsPong {control : Control}
    (follows : Follows cipher key messages l done todo)
    (busy : control.busy = l.connection.control.busy)
    (owed : l.connection.control.owes = 1) (owes : control.owes = 0)
    (configured : control.configured = l.connection.control.configured)
    (inHand : ∀ m ∈ control.inHand, m.request?.isSome = true) (waits : control ≠ .select) :
    Follows cipher key messages
      { connection := { l.connection with
          control := control, queue := l.connection.queue ++ [.pong] }
        unread := l.unread, handled := l.handled } done todo := by
  have pongs := follows.pongs
  rw [owed] at pongs
  have more : (l.connection.written ++ (l.connection.queue ++ [Message.pong])).count .pong =
      l.connection.pongs + 1 := by
    rw [← List.append_assoc, List.count_append, List.count_singleton_self]
    rfl
  exact
    { follows with
      answered := by
        rw [busy]
        exact follows.answered
      pongs := by
        rw [owes, Connection.pongs, more]
        exact pongs
      settled := fun select => absurd select waits
      inHand := inHand
      unblamed := by
        intro status mem
        apply follows.unblamed status
        rw [← List.append_assoc, List.mem_append, List.mem_singleton] at mem
        exact mem.resolve_right nofun
      resolved := by
        rw [configured]
        exact follows.resolved }

/-- A reply gets into the write channel. -/
theorem Follows.routes {m : Message} {rest : List Message}
    (follows : Follows cipher key messages l done todo) (inFlight : l.connection.inFlight = m :: rest) :
    Follows cipher key messages
      { connection := { l.connection with inFlight := rest, queue := l.connection.queue ++ [m] }
        unread := l.unread, handled := l.handled } done todo := by
  have all := follows.inFlight
  rw [inFlight, List.forall_mem_cons] at all
  exact
    { follows with
      inFlight := all.2
      pongs := by
        have other : m ≠ .pong := by
          rintro rfl
          exact absurd all.1 nofun
        rw [Connection.pongs, ← List.append_assoc, List.count_append,
          List.count_singleton, if_neg (by simpa using other)]
        exact follows.pongs
      unblamed := by
        intro status mem
        rw [← List.append_assoc, List.mem_append, List.mem_singleton] at mem
        rcases mem with mem | rfl
        · exact follows.unblamed status mem
        · exact absurd all.1 nofun }

theorem Connection.of_step_notice {decrypt : String → Bytes → Option Bytes} {session : Bool}
    (moves : c.step decrypt (.notice session) = some c') :
    ∃ status rest, c.notices = status :: rest ∧ c' = { c with
      notices := rest
      queue := if session then c.queue ++ [.notice status] else c.queue } := by
  cases notices : c.notices with
  | nil => cases control : c.control <;> simp [step, control, notices] at moves
  | cons status rest =>
    refine ⟨status, rest, rfl, ?_⟩
    cases session with
    | false =>
      have given_up : c' = { c with notices := rest } := by
        cases control : c.control <;> simp [step, control, notices] at moves <;> exact moves.symm
      exact given_up
    | true =>
      have put : { c with notices := rest }.enqueue (.notice status) = some c' := by
        cases control : c.control <;> simp [step, control, notices] at moves <;> exact moves
      exact (of_enqueue put).2

/-- A notice gets into the write channel, or is given up. -/
theorem Follows.notifies {session : Bool} (follows : Follows cipher key messages l done todo)
    (moves : l.connection.step (decryptPadded cipher.decrypt) (.notice session) = some c) :
    c.requests = l.connection.requests ∧ Follows cipher key messages
      { connection := c, unread := l.unread, handled := l.handled } done todo := by
  obtain ⟨status, rest, notices, moves⟩ := Connection.of_step_notice moves
  have all := follows.notices
  rw [notices, List.forall_mem_cons] at all
  rw [moves]
  cases session with
  | false => exact ⟨rfl, { follows with notices := all.2 }⟩
  | true =>
    refine ⟨rfl, { follows with notices := all.2, pongs := ?_, unblamed := ?_ }⟩
    · rw [Connection.pongs, if_pos rfl, ← List.append_assoc, List.count_append,
        List.count_singleton, if_neg (by simp)]
      exact follows.pongs
    · intro told mem
      rw [if_pos rfl, ← List.append_assoc, List.mem_append, List.mem_singleton] at mem
      rcases mem with mem | told
      · exact follows.unblamed _ mem
      · cases told
        exact all.1

/-- The other steps take nothing off the buffer. -/
theorem Follows.moves (follows : Follows cipher key messages l done todo)
    (configured : KeyConfigured cipher key messages label l)
    (no_read : ∀ bytes, label ≠ .read bytes) (no_notice : ∀ session, label ≠ .notice session)
    (elsewhere : label = .go → ∀ caller errors, l.connection.control ≠ .buffer caller errors)
    (moves : Connection.Moves (decryptPadded cipher.decrypt) l.connection label c) :
    c.requests = l.connection.requests ∧ Follows cipher key messages
        { connection := c, unread := l.unread, handled := l.handled } done todo ∨
      (∃ terminate, c.control = .closed terminate) ∧ Served messages
        { connection := c, unread := l.unread, handled := l.handled } := by
  have answered := follows.answered
  have pongs := follows.pongs
  cases moves with
  | closes _ _ control queue written replies =>
    refine .inr ⟨⟨false, control⟩, follows.served.closed control ?_ replies⟩
    rw [queue, written]
  | preAuthPing bytes => exact absurd rfl (no_read bytes)
  | preAuthData bytes => exact absurd rfl (no_read bytes)
  | reads bytes => exact absurd rfl (no_read bytes)
  | preAuthLeft _ control =>
    exact .inl ⟨rfl, follows.goesTo _ follows.stream (by rw [control]; rfl) (by rw [control]; rfl)
      (by rw [control]; rfl) nofun nofun⟩
  | preAuthPong control room =>
    exact .inl ⟨rfl, follows.sendsPong (by rw [control]; rfl) (by rw [control]; rfl) rfl
      (by rw [control]; rfl) nofun nofun⟩
  | configured keys control =>
    have resolved := follows.resolved
    rw [control] at answered pongs
    refine .inl ⟨rfl, { follows with
      answered := answered, pongs := pongs, settled := nofun, inHand := nofun
      resolved := resolved.imp_right ?_ }⟩
    rintro ⟨unresolved, none_before, -⟩
    exact ⟨unresolved, none_before, fun _ => configured keys rfl⟩
  | starts control long =>
    exact .inl ⟨rfl, follows.goesTo _ follows.stream (by rw [control]; rfl) (by rw [control]; rfl)
      (by rw [control]; rfl) nofun nofun⟩
  | selects control short =>
    have wait : scan 0 l.connection.buf = .wait := scan_of_short short
    exact .inl ⟨rfl, follows.goesTo _ follows.stream (by rw [control]; rfl) (by rw [control]; rfl)
      (by rw [control]; rfl) nofun fun _ => nextElement_of_wait wait⟩
  | readTimeout control =>
    have goes := follows.goesTo .head follows.stream (by rw [control]; rfl)
      (by rw [control]; rfl) (by rw [control]; rfl) nofun nofun
    refine .inl ⟨rfl, { goes with notices := ?_ }⟩
    intro status mem
    rw [List.mem_append, List.mem_singleton] at mem
    exact mem.elim (follows.notices status) id
  | waits caller errors control => exact absurd control (elsewhere rfl caller errors)
  | ping caller errors rest control => exact absurd control (elsewhere rfl caller errors)
  | skips caller errors rest control => exact absurd control (elsewhere rfl caller errors)
  | refuses caller errors payload rest control => exact absurd control (elsewhere rfl caller errors)
  | takes caller errors payload rest control => exact absurd control (elsewhere rfl caller errors)
  | pong caller errors control room =>
    exact .inl ⟨rfl, follows.sendsPong (by rw [control]; rfl) (by rw [control]; rfl) rfl
      (by rw [control]; rfl) nofun nofun⟩
  | permitted caller request control =>
    exact .inl ⟨rfl, follows.goesTo _ follows.stream (by rw [control]; rfl) (by rw [control]; rfl)
      (by rw [control]; rfl) nofun nofun⟩
  | answers caller request data control =>
    exact .inl ⟨rfl, follows.goesTo _ follows.stream (by rw [control]; rfl) (by rw [control]; rfl)
      (by rw [control]; rfl) (by rintro _ ⟨⟩; rfl) nofun⟩
  | refusesConnect caller request data built control connect =>
    have goes := follows.goesTo
      (.forward caller (.reply request.number Fe.CONNECT_RESP data)) follows.stream
      (by rw [control]; rfl) (by rw [control]; rfl) (by rw [control]; rfl)
      (by rintro _ ⟨⟩; rfl) nofun
    exact .inl ⟨rfl, { goes with }⟩
  | fails caller request built control =>
    have resolved := follows.resolved
    rw [control] at pongs resolved
    exact .inl ⟨rfl, { follows with
      answered := by
        rw [Control.busy, Option.toList, List.append_nil]
        exact (List.sublist_append_left _ _).trans answered
      pongs := pongs, resolved := resolved, settled := nofun, inHand := nofun }⟩
  | forwards caller m control =>
    have resolved := follows.resolved
    have inHand := follows.inHand
    rw [control] at answered pongs resolved inHand
    refine .inl ⟨rfl, { follows with
      answered := ?_, pongs := pongs, resolved := resolved, settled := nofun, inHand := nofun
      inFlight := ?_ }⟩
    · obtain ⟨number, replies⟩ := Option.isSome_iff_exists.mp (inHand m rfl)
      rw [Control.busy, replies] at answered
      rw [List.filterMap_append, List.filterMap_cons_some replies, List.filterMap_nil,
        Control.busy, Option.toList_none, List.append_nil]
      exact answered
    · intro m' mem
      rw [List.mem_append, List.mem_singleton] at mem
      rcases mem with mem | rfl
      · exact follows.inFlight m' mem
      · exact inHand m' rfl
  | routes m rest inFlight room isOpen => exact .inl ⟨rfl, follows.routes inFlight⟩
  | notices status rest room isOpen => exact absurd rfl (no_notice true)
  | unnoticed rest isOpen => exact absurd rfl (no_notice false)
  | writes m rest control queue =>
    have sent : l.connection.written ++ [m] ++ rest =
        l.connection.written ++ l.connection.queue := by
      rw [queue, List.append_assoc, List.singleton_append]
    unfold Connection.wrote
    split
    · exact .inr ⟨⟨true, rfl⟩, follows.served.closed rfl sent rfl⟩
    · have goes := follows.goesTo .head follows.stream (by rw [control]; rfl)
        (by rw [control]; rfl) (by rw [control]; rfl) nofun nofun
      refine .inl ⟨rfl, { goes with pongs := ?_, unblamed := ?_ }⟩
      · rw [Connection.pongs, sent]
        exact goes.pongs
      · rw [sent]
        exact follows.unblamed

/-! ### Every run -/

/-- The task follows the client until the connection is closed. -/
def FollowsOrClosed (cipher : Fe.BlockCipher) (key : Fe.AesKey) (messages : List ClientMessage)
    (l : Link) : Prop :=
  (∃ done todo, Follows cipher key messages l done todo) ∨
    (∃ terminate, l.connection.control = .closed terminate) ∧ Served messages l

theorem Link.of_step {decrypt : String → Bytes → Option Bytes} {l' : Link}
    (moves : l.step decrypt label = some l') :
    l.readable label = true ∧ ∃ c, l.connection.step decrypt label = some c ∧
      l' = { connection := c, unread := l.left label
             handled := l.handled ++ taken l.connection c } := by
  unfold Link.step at moves
  split at moves
  · next readable =>
    obtain ⟨c, moved, rfl⟩ := Option.map_eq_some_iff.mp moves
    exact ⟨readable, c, moved, rfl⟩
  · cases moves

theorem Connection.of_step_go {decrypt : String → Bytes → Option Bytes} {caller : Caller}
    {errors : Nat} (moves : c.step decrypt .go = some c')
    (control : c.control = .buffer caller errors) : c' = c.iterate decrypt caller errors := by
  simp only [step, go, control, Option.some.injEq] at moves
  exact moves.symm

theorem Connection.step_of_closed {decrypt : String → Bytes → Option Bytes} {terminate : Bool}
    (control : c.control = .closed terminate) : c.step decrypt label = none := by
  cases label <;> simp [step, control]

theorem taken_of_closed {terminate : Bool} (control : c'.control = .closed terminate) :
    taken c c' = [] := by
  rw [taken, control]
  exact ite_self _

/-- A step that is no read leaves what is unread. -/
theorem Link.left_of_no_read (no_read : ∀ bytes, label ≠ .read bytes) :
    l.left label = l.unread := by
  cases label with
  | read bytes => exact absurd rfl (no_read bytes)
  | _ => rfl

theorem Follows.step {l' : Link} (follows : Follows cipher key messages l done todo)
    (configured : KeyConfigured cipher key messages label l)
    (moves : (linkTask cipher).step label l = some l') :
    FollowsOrClosed cipher key messages l' := by
  obtain ⟨readable, c, moved, rfl⟩ := Link.of_step moves
  -- a read, an iteration of the loop and a notice are known better than by their moves
  by_cases no_read : ∀ bytes, label ≠ .read bytes
  · rw [Link.left_of_no_read no_read]
    by_cases no_notice : ∀ session, label ≠ .notice session
    · by_cases elsewhere :
          label = .go → ∀ caller errors, l.connection.control ≠ .buffer caller errors
      · have next := Connection.moves_of_step moved
        rcases follows.moves configured no_read no_notice elsewhere next with
          ⟨same, follows⟩ | ⟨⟨terminate, control⟩, served⟩
        · rw [taken_of_requests same, List.append_nil]
          exact .inl ⟨done, todo, follows⟩
        · rw [taken_of_closed control, List.append_nil]
          exact .inr ⟨⟨terminate, control⟩, served⟩
      · push Not at elsewhere
        obtain ⟨rfl, caller, errors, control⟩ := elsewhere
        exact .inl (follows.iterate control (Connection.of_step_go moved control))
    · push Not at no_notice
      obtain ⟨session, rfl⟩ := no_notice
      obtain ⟨same, follows⟩ := follows.notifies moved
      rw [taken_of_requests same, List.append_nil]
      exact .inl ⟨done, todo, follows⟩
  · push Not at no_read
    obtain ⟨bytes, rfl⟩ := no_read
    exact .inl (follows.read readable moved)

/-- Before the first read nothing has been taken. -/
theorem Follows.fresh (cipher : Fe.BlockCipher) (key : Fe.AesKey)
    (messages : List ClientMessage) :
    Follows cipher key messages { unread := streamOf cipher key messages } [] messages where
  split := rfl
  stream := rfl
  handled := .nil
  numbered := rfl
  requests := rfl
  answered := .refl _
  pongs := rfl
  settled := nofun
  inHand := nofun
  inFlight := by simp
  notices := by simp
  unblamed := by simp
  resolved := .inr ⟨rfl, rfl, nofun⟩

end Follows

/-! ### A run -/

/-- A cipher that does with `terminatePlain` what AES does. -/
def terminateCipher : Fe.BlockCipher :=
  exchanging sampleKey.val (pkcs7Pad 16 terminatePlain) terminatePayload
    (by decide +kernel)

/-- A ping, and a `TERMINATE`. -/
def pingTerminate : List ClientMessage :=
  [.ping [112, 105, 110, 103] rfl rfl,
    .request (.terminate { requestId := .wrap 8 7, sessionId := .wrap 8 9 }) trivial]

instance (cbc : String → Bytes → Bytes) (keys : List String) (key : String) (payload : Bytes) :
    Decidable (KeyComesFirst cbc keys key payload) :=
  inferInstanceAs (Decidable (_ ∧ ∀ other ∈ _, _ ∧ _))

instance (cipher : Fe.BlockCipher) (key : Fe.AesKey) (messages : List ClientMessage)
    (label : ConnectionLabel) (l : Link) : Decidable (KeyConfigured cipher key messages label l) :=
  inferInstanceAs (Decidable (∀ keys ∈ _, _ ∧ ∀ r ∈ _, _))

end TollBackend

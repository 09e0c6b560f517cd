import TollBackend.Network.Connection

/-!
# TERMINATE and pipelining

A connection should be closed because of a `TERMINATE` only after the replies to all requests
before it have been written, and it should be closed once a `TERMINATE_RESP` has been written.
The task remembers one pending command for all requests on their way: every request overwrites
it, and every write and every failed request clears it.

## Main definitions

* `TerminatesLast`: the connection is closed by its `TERMINATE_RESP`, and by nothing before it.
* `TerminateAlone`: a `TERMINATE` is taken up when nothing is left to be written, and nothing is
  taken up behind it; no error path sends a `TERMINATE_RESP`.

## Main results

* `terminatesLast_of_reaches`: connections whose `TERMINATE` is alone are closed properly.
-/

namespace TollBackend

open Concurrent Wire

variable {decrypt : String → Bytes → Option Bytes}

/-- The reply to a `TERMINATE`. -/
def Message.IsTerminateReply (m : Message) : Prop :=
  ∃ request data, m = .reply request Fe.TERMINATE data

theorem Message.IsTerminateReply.isTerminateResp {m : Message} (is : m.IsTerminateReply) :
    m.isTerminateResp = true := by
  obtain ⟨request, data, rfl⟩ := is
  rfl

/-- The connection is closed because of a `TERMINATE` only after its reply, and all replies to
the requests that were handled before, have been written; and once a `TERMINATE_RESP` has been
written, it is closed. -/
structure TerminatesLast (c : Connection) : Prop where
  after_replies : c.control = .closed true →
    (∃ m ∈ c.written, m.IsTerminateReply) ∧ ∀ m ∈ c.replies, m ∈ c.written
  at_once : (∃ m ∈ c.written, m.isTerminateResp = true) → ∃ terminate, c.control = .closed terminate

/-- The messages that are to be written, oldest first. -/
def Connection.outgoing (c : Connection) : List Message :=
  c.queue ++ c.inFlight

/-- What the loop of `process_message_buffer` takes off the buffer. -/
inductive TakenUp
  | ping
  | request (command : Int)
deriving DecidableEq, Repr

/-- What the loop takes up next: a ping, or a request that can be decrypted. -/
def Connection.takesUp (decrypt : String → Bytes → Option Bytes) (c : Connection) :
    Option TakenUp :=
  match c.control with
  | .buffer _ errors =>
    match scan errors c.buf with
    | .ping _ => some .ping
    | .message payload _ => (c.commandOf decrypt payload).map .request
    | .wait | .skip _ | .giveUp => none
  | _ => none

/-- When the loop takes up a `TERMINATE`, all messages before it have been written. Until its
reply is written, the loop takes up no ping and no other request. And no error path finds a
session to send a `TERMINATE_RESP` for. -/
structure TerminateAlone (decrypt : String → Bytes → Option Bytes) (label : ConnectionLabel)
    (c : Connection) : Prop where
  before : label = .go → c.takesUp decrypt = some (.request Fe.TERMINATE) → c.outgoing = []
  behind : label = .go → c.pendingCommand = some Fe.TERMINATE → c.takesUp decrypt = none
  no_notice : label ≠ .notice true

instance (label : ConnectionLabel) (c : Connection) : Decidable (TerminateAlone decrypt label c) :=
  decidable_of_iff
    ((label = .go → c.takesUp decrypt = some (.request Fe.TERMINATE) → c.outgoing = []) ∧
      (label = .go → c.pendingCommand = some Fe.TERMINATE → c.takesUp decrypt = none) ∧
      label ≠ .notice true)
    ⟨fun ⟨before, behind, no_notice⟩ => ⟨before, behind, no_notice⟩,
      fun ⟨before, behind, no_notice⟩ => ⟨before, behind, no_notice⟩⟩

section TakesUp

variable {c : Connection} {caller : Caller} {errors : Nat} {payload rest : Bytes}

theorem takesUp_of_ping (control : c.control = .buffer caller errors)
    (front : scan errors c.buf = .ping rest) : c.takesUp decrypt = some .ping := by
  simp only [Connection.takesUp, control, front]

theorem takesUp_of_request {command : Int} (control : c.control = .buffer caller errors)
    (front : scan errors c.buf = .message payload rest)
    (sent : c.commandOf decrypt payload = some command) :
    c.takesUp decrypt = some (.request command) := by
  simp only [Connection.takesUp, control, front, sent, Option.map_some]

end TakesUp

/-- While a `TERMINATE` is pending, it or its reply is the only thing on its way. -/
def Connection.AwaitsTerminateResp (c : Connection) : Prop :=
  match c.control with
  | .permit _ _ | .request _ _ => c.outgoing = []
  | .forward _ m => c.outgoing = [] ∧ m.IsTerminateReply
  | .buffer _ _ | .head | .select => ∃ m, m.IsTerminateReply ∧ c.outgoing = [m]
  | .preRead | .prePong | .config | .pong _ _ | .closed _ => False

/-- What holds while the connection is open. -/
structure Pipeline (c : Connection) : Prop where
  unwritten : ∀ m ∈ c.written, m.isTerminateResp = false
  kept : ∀ m ∈ c.replies, m ∈ c.written ∨ m ∈ c.outgoing
  current : ∀ caller request,
    c.control = .permit caller request ∨ c.control = .request caller request →
    c.pendingCommand = some request.command
  quiet : c.pendingCommand ≠ some Fe.TERMINATE →
    (∀ m ∈ c.outgoing, m.isTerminateResp = false) ∧
    ∀ caller m, c.control = .forward caller m → m.isTerminateResp = false
  alone : c.pendingCommand = some Fe.TERMINATE → c.AwaitsTerminateResp

/-- The connection is open with its messages in order, or closed properly. -/
def Orderly (c : Connection) : Prop :=
  match c.control with
  | .closed _ => TerminatesLast c
  | _ => Pipeline c

section Step

variable {c c' : Connection} {caller : Caller} {errors : Nat} {request : Request} {m : Message}
  {rest : List Message}

/-- No request is being handled. -/
def Control.between : Control → Bool
  | .permit _ _ | .request _ _ | .forward _ _ => false
  | _ => true

/-- A step that only moves between requests keeps the order. -/
theorem Pipeline.moved (p : Pipeline c) (between : c'.control.between = true)
    (written : c'.written = c.written) (replies : c'.replies = c.replies)
    (pending : c'.pendingCommand = c.pendingCommand) (outgoing : c'.outgoing = c.outgoing)
    (alone : c.pendingCommand = some Fe.TERMINATE → c.AwaitsTerminateResp →
      c'.AwaitsTerminateResp) : Pipeline c' := by
  refine ⟨?_, ?_, ?_, ?_, ?_⟩
  · rw [written]
    exact p.unwritten
  · rw [replies, written, outgoing]
    exact p.kept
  · rintro caller request (control | control)
    · rw [control] at between
      cases between
    · rw [control] at between
      cases between
  · rw [pending, outgoing]
    intro other
    refine ⟨(p.quiet other).1, fun caller m control => ?_⟩
    rw [control] at between
    cases between
  · rw [pending]
    exact fun is => alone is (p.alone is)

/-- A pong is put into the channel only while no `TERMINATE` is pending. -/
theorem Pipeline.sendsPong (p : Pipeline c) (between : c'.control.between = true)
    (written : c'.written = c.written) (replies : c'.replies = c.replies)
    (pending : c'.pendingCommand = c.pendingCommand)
    (outgoing : ∀ m, m ∈ c'.outgoing ↔ m ∈ c.outgoing ∨ m = .pong)
    (other : ¬ c.AwaitsTerminateResp) : Pipeline c' := by
  have not_pending : c.pendingCommand ≠ some Fe.TERMINATE := fun is => other (p.alone is)
  refine ⟨?_, ?_, ?_, ?_, ?_⟩
  · rw [written]
    exact p.unwritten
  · rw [replies, written]
    intro m mem
    exact (p.kept m mem).imp_right fun way => (outgoing m).mpr (.inl way)
  · rintro caller request (control | control)
    · rw [control] at between
      cases between
    · rw [control] at between
      cases between
  · intro _
    refine ⟨fun m mem => ?_, fun caller m control => ?_⟩
    · rcases (outgoing m).mp mem with way | rfl
      · exact (p.quiet not_pending).1 m way
      · rfl
    · rw [control] at between
      cases between
  · rw [pending]
    exact fun is => absurd is not_pending

theorem mem_outgoing_pong {control : Control} (m : Message) :
    m ∈ ({ c with control := control, queue := c.queue ++ [.pong] } : Connection).outgoing ↔
      m ∈ c.outgoing ∨ m = .pong := by
  simp only [Connection.outgoing, List.mem_append, List.mem_singleton]
  tauto

theorem outgoing_route (inFlight : c.inFlight = m :: rest) :
    (c.queue ++ [m]) ++ rest = c.outgoing := by
  rw [Connection.outgoing, inFlight, List.append_assoc]
  rfl

/-- A request is taken up, a `TERMINATE` only if nothing is on its way. -/
theorem Pipeline.takes (p : Pipeline c) {keys : List String} {key : Option String}
    {buf data : Bytes} {command : Int} (other : c.pendingCommand ≠ some Fe.TERMINATE)
    (nothing : command = Fe.TERMINATE → c.outgoing = []) :
    Pipeline { c with
      buf := buf
      candidateKeys := keys
      resolvedKey := key
      pendingCommand := some command
      requests := c.requests + 1
      control := .permit caller { number := c.requests, command := command, data := data } } where
  unwritten := p.unwritten
  kept := p.kept
  current := by
    rintro caller request (control | control)
    · cases control
      rfl
    · cases control
  quiet _ := ⟨(p.quiet other).1, fun _ _ control => by cases control⟩
  alone is := nothing (Option.some.inj is)

/-- A reply is on its way to the logic handler. -/
theorem Pipeline.answers (p : Pipeline c) (control : c.control = .request caller request)
    (data : Bytes) :
    Pipeline { c with
      control := .forward caller (.reply request.number request.command data) } where
  unwritten := p.unwritten
  kept := p.kept
  current := by rintro _ _ (control | control) <;> cases control
  quiet other := by
    refine ⟨(p.quiet other).1, fun _ m eq => ?_⟩
    cases eq
    have pending := p.current caller request (.inr control)
    have command : request.command ≠ Fe.TERMINATE := by
      intro is
      exact other (is ▸ pending)
    exact beq_eq_false_iff_ne.mpr command
  alone is := by
    have pending := p.current caller request (.inr control)
    have command : request.command = Fe.TERMINATE := Option.some.inj (pending.symm.trans is)
    have awaits := p.alone is
    simp only [Connection.AwaitsTerminateResp, control] at awaits
    exact ⟨awaits, request.number, data, by rw [command]⟩

/-- Nothing on its way is a `TERMINATE_RESP` while a request is handled. -/
theorem Pipeline.quiet_of_request (p : Pipeline c) (control : c.control = .request caller request) :
    ∀ m ∈ c.outgoing, m.isTerminateResp = false := by
  by_cases pending : c.pendingCommand = some Fe.TERMINATE
  · have awaits := p.alone pending
    simp only [Connection.AwaitsTerminateResp, control] at awaits
    rw [awaits]
    exact fun m mem => absurd mem List.not_mem_nil
  · exact (p.quiet pending).1

theorem outgoing_forward :
    ({ c with
      inFlight := c.inFlight ++ [m]
      replies := c.replies ++ [m]
      control := .buffer caller 0 } : Connection).outgoing = c.outgoing ++ [m] :=
  (List.append_assoc _ _ _).symm

/-- A reply joins those on their way. -/
theorem Pipeline.forwards (p : Pipeline c) (control : c.control = .forward caller m) :
    Pipeline { c with
      inFlight := c.inFlight ++ [m]
      replies := c.replies ++ [m]
      control := .buffer caller 0 } where
  unwritten := p.unwritten
  kept := by
    rw [outgoing_forward]
    intro m' mem
    rcases List.mem_append.mp mem with old | new
    · exact (p.kept m' old).imp_right fun way => List.mem_append_left [m] way
    · exact .inr (List.mem_append_right _ new)
  current := by rintro _ _ (control | control) <;> cases control
  quiet other := by
    rw [outgoing_forward]
    refine ⟨fun m' mem => ?_, fun _ _ eq => by cases eq⟩
    rcases List.mem_append.mp mem with old | new
    · exact (p.quiet other).1 m' old
    · rw [List.mem_singleton.mp new]
      exact (p.quiet other).2 caller m control
  alone is := by
    have awaits := p.alone is
    simp only [Connection.AwaitsTerminateResp, control] at awaits
    refine ⟨m, awaits.2, ?_⟩
    rw [outgoing_forward, awaits.1, List.nil_append]

/-- The oldest message is written: a pending `TERMINATE` closes the connection, and then the
message was its reply. -/
theorem Pipeline.writes (p : Pipeline c) (control : c.control = .select)
    (queue : c.queue = m :: rest) : Orderly (c.wrote m rest) := by
  have outgoing : c.outgoing = m :: (rest ++ c.inFlight) := by
    rw [Connection.outgoing, queue, List.cons_append]
  unfold Connection.wrote
  split
  · next pending =>
    have awaits := p.alone pending
    simp only [Connection.AwaitsTerminateResp, control] at awaits
    obtain ⟨reply, is, only⟩ := awaits
    obtain ⟨rfl, -⟩ := List.cons.inj (outgoing.symm.trans only)
    refine ⟨fun _ => ⟨⟨m, by simp, is⟩, fun m' mem => ?_⟩, fun _ => ⟨true, rfl⟩⟩
    rcases p.kept m' mem with written | way
    · exact List.mem_append_left _ written
    · rw [only] at way
      exact List.mem_append_right _ way
  · next other =>
    have quiet := (p.quiet other).1
    have kept := p.kept
    rw [outgoing] at quiet kept
    refine ⟨fun m' mem => ?_, fun m' mem => ?_, ?_, fun _ => ⟨fun m' mem => ?_, ?_⟩, ?_⟩
    · rcases List.mem_append.mp mem with old | new
      · exact p.unwritten m' old
      · rw [List.mem_singleton.mp new]
        exact quiet m List.mem_cons_self
    · rcases kept m' mem with written | way
      · exact .inl (List.mem_append_left _ written)
      · rcases List.mem_cons.mp way with rfl | later
        · exact .inl (by simp)
        · exact .inr later
    · rintro _ _ (control | control) <;> cases control
    · exact quiet m' (List.mem_cons_of_mem m mem)
    · intro _ _ control
      cases control
    · intro pending
      cases pending

/-- A connection that closes for another reason is closed properly. -/
theorem orderly_of_closed (control : c'.control = .closed false) : Orderly c' := by
  unfold Orderly
  rw [control]
  constructor
  · intro terminate
    cases control.symm.trans terminate
  · exact fun _ => ⟨false, control⟩

theorem orderly_of_pipeline (p : Pipeline c') (isOpen : ∀ terminate, c'.control ≠ .closed terminate) :
    Orderly c' := by
  unfold Orderly
  split
  · next terminate control => exact absurd control (isOpen terminate)
  · exact p

theorem pipeline_of_orderly (orderly : Orderly c)
    (isOpen : ∀ terminate, c.control ≠ .closed terminate) : Pipeline c := by
  unfold Orderly at orderly
  split at orderly
  · next terminate control => exact absurd control (isOpen terminate)
  · exact orderly

theorem open_of_step {label : ConnectionLabel} (moves : c.step decrypt label = some c') :
    ∀ terminate, c.control ≠ .closed terminate := by
  intro terminate control
  simp only [Connection.step, control] at moves
  cases moves

/-- A step that moves a message on, or does nothing to the messages, keeps the order. -/
theorem Pipeline.rerouted (p : Pipeline c) (control : c'.control = c.control)
    (written : c'.written = c.written) (replies : c'.replies = c.replies)
    (pending : c'.pendingCommand = c.pendingCommand) (outgoing : c'.outgoing = c.outgoing) :
    Pipeline c' := by
  refine ⟨?_, ?_, ?_, ?_, ?_⟩
  · rw [written]
    exact p.unwritten
  · rw [replies, written, outgoing]
    exact p.kept
  · rw [control, pending]
    exact p.current
  · rw [pending, outgoing, control]
    exact p.quiet
  · rw [pending, Connection.AwaitsTerminateResp, control, outgoing]
    exact p.alone

theorem Pipeline.permitted (p : Pipeline c) (control : c.control = .permit caller request) :
    Pipeline { c with control := .request caller request } where
  unwritten := p.unwritten
  kept := p.kept
  current := by
    rintro _ _ (eq | eq)
    · cases eq
    · cases eq
      exact p.current caller request (.inl control)
  quiet other := ⟨(p.quiet other).1, fun _ _ eq => by cases eq⟩
  alone is := by
    have awaits := p.alone is
    simp only [Connection.AwaitsTerminateResp, control] at awaits
    exact awaits

/-- A failed request leaves no command pending. -/
theorem Pipeline.fails (p : Pipeline c) (control : c.control = .request caller request) :
    Pipeline { c with pendingCommand := none, control := .buffer caller 0 } where
  unwritten := p.unwritten
  kept := p.kept
  current := by rintro _ _ (eq | eq) <;> cases eq
  quiet _ := ⟨p.quiet_of_request control, fun _ _ eq => by cases eq⟩
  alone is := by cases is

/-- Nor does a refused `CONNECT`. -/
theorem Pipeline.refusesConnect (p : Pipeline c) (control : c.control = .request caller request)
    (data : Bytes) :
    Pipeline { c with
      pendingCommand := none
      control := .forward caller (.reply request.number Fe.CONNECT_RESP data) } where
  unwritten := p.unwritten
  kept := p.kept
  current := by rintro _ _ (eq | eq) <;> cases eq
  quiet _ := by
    refine ⟨p.quiet_of_request control, fun _ m eq => ?_⟩
    cases eq
    rfl
  alone is := by cases is

/-- Every step that leaves a `TERMINATE` alone keeps the order. -/
theorem orderly_step {label : ConnectionLabel} (orderly : Orderly c)
    (alone : TerminateAlone decrypt label c) (moves : c.step decrypt label = some c') :
    Orderly c' := by
  have isOpen := open_of_step moves
  have p := pipeline_of_orderly orderly isOpen
  cases Connection.moves_of_step moves with
  | closes _ _ control => exact orderly_of_closed control
  | preAuthPing _ control | preAuthData _ control | preAuthLeft _ control
  | configured _ control =>
    -- no command is pending before the main loop
    refine p.moved rfl rfl rfl rfl rfl fun _ awaits => ?_
    simp only [Connection.AwaitsTerminateResp, control] at awaits
  | starts control | selects control | reads _ control | readTimeout control
  | skips _ _ _ control | refuses _ _ _ _ control =>
    refine p.moved rfl rfl rfl rfl rfl fun _ awaits => ?_
    simp only [Connection.AwaitsTerminateResp, control] at awaits
    exact awaits
  | waits caller errors control front =>
    have alone : c.AwaitsTerminateResp → (c.returned caller).AwaitsTerminateResp := by
      intro awaits
      simp only [Connection.AwaitsTerminateResp, control] at awaits
      cases caller <;> exact awaits
    cases caller <;> exact p.moved rfl rfl rfl rfl rfl fun _ => alone
  | preAuthPong control _ =>
    refine p.sendsPong rfl rfl rfl rfl mem_outgoing_pong fun awaits => ?_
    simp only [Connection.AwaitsTerminateResp, control] at awaits
  | ping caller errors rest control front =>
    refine p.moved rfl rfl rfl rfl rfl fun pending _ => ?_
    cases (alone.behind rfl pending).symm.trans (takesUp_of_ping control front)
  | pong caller errors control _ =>
    refine p.sendsPong rfl rfl rfl rfl mem_outgoing_pong fun awaits => ?_
    simp only [Connection.AwaitsTerminateResp, control] at awaits
  | takes caller errors payload rest control front keys key command data sent =>
    have taken := takesUp_of_request control front sent
    refine p.takes (fun pending => ?_) fun is => alone.before rfl (is ▸ taken)
    cases (alone.behind rfl pending).symm.trans taken
  | permitted caller request control => exact p.permitted control
  | answers caller request data control => exact p.answers control data
  | refusesConnect caller request data built control connect => exact p.refusesConnect control data
  | fails caller request built control => exact p.fails control
  | forwards caller m control => exact p.forwards control
  | routes m rest inFlight _ _ =>
    exact orderly_of_pipeline (p.rerouted rfl rfl rfl rfl (outgoing_route inFlight)) isOpen
  | notices status rest _ _ => exact absurd rfl alone.no_notice
  | unnoticed rest _ => exact orderly_of_pipeline (p.rerouted rfl rfl rfl rfl rfl) isOpen
  | writes m rest control queue => exact p.writes control queue

end Step

/-- A connection on which each `TERMINATE` is alone is closed by its `TERMINATE_RESP`, after all
replies before it. -/
theorem terminatesLast_of_reaches {c : Connection}
    (reaches : (connectionTask decrypt).Reaches (TerminateAlone decrypt) {} c) :
    TerminatesLast c := by
  have start : Orderly {} :=
    ⟨nofun, nofun, nofun, fun _ => ⟨nofun, nofun⟩, nofun⟩
  have orderly : Orderly c :=
    reaches.invariant start fun label a b orderly alone moves => orderly_step orderly alone moves
  by_cases isOpen : ∀ terminate, c.control ≠ .closed terminate
  · have p := pipeline_of_orderly orderly isOpen
    refine ⟨fun control => absurd control (isOpen true), ?_⟩
    rintro ⟨m, mem, is⟩
    cases (p.unwritten m mem).symm.trans is
  · push Not at isOpen
    obtain ⟨terminate, control⟩ := isOpen
    unfold Orderly at orderly
    rwa [control] at orderly

/-- A request is answered while a `TERMINATE` comes in behind it, whose reply then closes the
connection. -/
theorem terminatesLast_pipelined :
    ∃ c, c.control = .closed true ∧
      c.written = [.reply 0 Fe.HANDSHAKE [7], .reply 1 Fe.TERMINATE []] ∧ TerminatesLast c := by
  obtain ⟨c, reaches, closed⟩ := (connectionTask unpad).exists_reaches (TerminateAlone unpad) {}
    [.read (plainFrame 0x1C), .config ["0123456789abcdef"], .go, .go, .go, .answer (.ok [7]), .go,
      .go, .read (plainFrame 0x70).dropLast, .go, .route, .go, .go, .write, .go, .go, .read [0], .go,
      .go, .answer (.ok []), .go, .go, .go, .route, .write]
    (fun c => c.control == .closed true &&
      c.written == [.reply 0 Fe.HANDSHAKE [7], .reply 1 Fe.TERMINATE []])
    (by decide +kernel)
  rw [Bool.and_eq_true, beq_iff_eq, beq_iff_eq] at closed
  exact ⟨c, closed.1, closed.2, terminatesLast_of_reaches reaches⟩

/-- A ping that is answered before authentication, and then a `TERMINATE`. -/
def pingThenTerminate : List ConnectionLabel :=
  [.read [112, 105, 110, 103], .go, .read (plainFrame 0x70), .config ["0123456789abcdef"], .go, .go,
    .go, .answer (.ok []), .go, .go, .write]

/-- Writing the pong closes the connection: the `TERMINATE_RESP` is never written. -/
theorem pong_closes_terminate :
    ¬ ∀ (decrypt : String → Bytes → Option Bytes) (c : Connection),
      (connectionTask decrypt).Reaches (fun _ _ => True) {} c → TerminatesLast c := by
  intro claim
  obtain ⟨c, reaches, closed⟩ := (connectionTask unpad).exists_reaches (fun _ _ => True) {}
    pingThenTerminate (fun c => c.control == .closed true && c.written == [.pong])
    (by decide +kernel)
  rw [Bool.and_eq_true, beq_iff_eq, beq_iff_eq] at closed
  obtain ⟨⟨m, mem, request, data, rfl⟩, -⟩ := (claim unpad c reaches).after_replies closed.1
  rw [closed.2] at mem
  cases List.mem_singleton.mp mem

end TollBackend

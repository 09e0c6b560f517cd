import TollBackend.Backend
import TollBackend.Concurrent.Sent

/-!
# Answers and events

What leaves the backend: the answers to the stations, and the events handed to the Kafka
producer. Every message of a station is answered exactly once, whatever fails and however its
handler is interleaved with the others, and the event of a commit is handed over before the
answer that acknowledges it.

## Main definitions

* `Out`, `Op.outs`: what an operation sends.
* `Req.Sends`: what a request sends from its start to its end.

## Main results

* `program_sends`: the program of a request sends that.
* `answers_of_reaches`: the answers given in a run are those of its tasks.
* `acknowledged_after_event`: in every state of a run, the success answers to commits are at
  most the events of commits.
-/

namespace TollBackend

open Concurrent

/-- What leaves the backend. -/
inductive Out : Type
  | answer (a : Answer)
  | event (e : KafkaEvent)

/-- What an operation sends. -/
def Op.outs : Op → List Out
  | .sendKafka e => [.event e]
  | .answer a => [.answer a]
  | .ask _ | .stageInsertRow _ | .stageUpdate _ _ | .stageUpdateCheckinCommit _ _
  | .stageUpdateCheckoutInfo _ _ | .stageUpdateCheckoutCommit _ _ | .stageUpdateHubId _ _
  | .accountInsert _ | .accountUpdateCommitStatus _ _ _ | .cacheGetLatestCheckin _
  | .cacheGetAllByEtag _ | .cacheGetByTicketId _ | .cacheFillFromSync _ _ _ | .saveEtdr _
  | .saveEtdrToMemoryOnly _ | .cacheRemoveByTicketId _ | .cacheUpdateHubId _ _ | .takeSpawned
  | .keydbSet _ _ | .keydbRemove _ | .setPendingTcd _ _ | .removePendingTcd _ => []

/-- An operation sends the same however it is resolved. -/
def sendsOut (o : Op) (_ : Choice) (_ : Sys) : List Out :=
  o.outs

/-- The answer, if it is one. -/
def Out.answer? : Out → Option Answer
  | .answer a => some a
  | .event _ => none

/-- The event, if it is one. -/
def Out.event? : Out → Option KafkaEvent
  | .answer _ => none
  | .event e => some e

/-- What a request sends from its start to its end: each of the five messages of a station, a
check-in, a commit, a reserve, an exit commit and a rollback, has one answer, and a commit that is
acknowledged has sent its event before. A look-up of a tag and the background tasks send
nothing. -/
inductive Req.Sends : Req → List Out → Prop
  | checkin (call : CheckinCall) (status ticketId : Int) :
      Sends (.checkin call) [.answer (.checkin call.req status ticketId)]
  | commitRefused (req : FeCommitIn) {status : Int} (ticketId : Int) (refused : status ≠ 0) :
      Sends (.commit req) [.answer (.commit req status ticketId)]
  | committed (req : FeCommitIn) (etdr : Etdr) :
      Sends (.commit req) [.event (.checkin etdr), .answer (.commit req 0 etdr.ticketId)]
  | reserve (req : CheckoutReserveBoo) (status ticketId : Int) :
      Sends (.reserve req) [.answer (.reserve req status ticketId)]
  | checkoutCommitRefused (req : CheckoutCommitBoo) {status : Int} (ticketId : Int)
      (refused : status ≠ 0) :
      Sends (.checkoutCommit req) [.answer (.checkoutCommit req status ticketId)]
  | checkoutCommitted (req : CheckoutCommitBoo) (etdr : Etdr) (at_ : Int) :
      Sends (.checkoutCommit req)
        [.event (.checkout etdr at_), .answer (.checkoutCommit req 0 etdr.ticketId)]
  | rollback (req : CheckoutRollbackBoo) :
      Sends (.rollback req) [.answer (.checkoutRollback req 0 req.ticketInId)]
  | lookup (etag : String) : Sends (.lookup etag) []
  | retryCycle : Sends .retryCycle []
  | syncKeydb : Sends .syncKeydb []
  | hubUpdate (ticketId hubId : Int) : Sends (.hubUpdate ticketId hubId) []

/-! ### What the programs send -/

section Programs

variable {α : Type} {post : α → List Out → Prop} {sent : List Out}

theorem sends_ask_bind {q : Query} {next : q.Reply → Program α}
    (rest : ∀ r, (next r).Sends Op.exec sendsOut sent post) :
    (ask q >>= next).Sends Op.exec sendsOut sent post :=
  Prog.sends_op_of_silent (fun _ _ => rfl) rest

theorem sends_perform_bind {o : Op} {next : o.Res → Program α} (silent : o.outs = [])
    (rest : ∀ r, (next r).Sends Op.exec sendsOut sent post) :
    (perform o >>= next).Sends Op.exec sendsOut sent post :=
  Prog.sends_op_of_silent (fun _ _ => silent) rest

theorem sends_sendKafka_bind {e : KafkaEvent} {next : Unit → Program α} :
    (perform (.sendKafka e) >>= next).Sends Op.exec sendsOut sent post ↔
      (next ()).Sends Op.exec sendsOut (sent ++ [.event e]) post :=
  ⟨fun sends => sends default {}, fun sends _ _ => sends⟩

theorem sends_answer {a : Answer} {post : Unit → List Out → Prop} :
    (perform (.answer a)).Sends Op.exec sendsOut sent post ↔ post () (sent ++ [.answer a]) :=
  ⟨fun sends => sends default {}, fun sends _ _ => sends⟩

/-- The first part of a program sends nothing. -/
theorem sends_silent_bind {β : Type} {p : Program β} {next : β → Program α}
    (only : p.Only fun o => o.outs = []) (rest : ∀ r, (next r).Sends Op.exec sendsOut sent post) :
    (p >>= next).Sends Op.exec sendsOut sent post :=
  (only.mono fun _ silent _ _ => silent).sends_bind rest

end Programs

theorem outs_ask (q : Query) : (Op.ask q).outs = [] := rfl

theorem LookupOp.outs_eq_nil {o : Op} (op : LookupOp o) : o.outs = [] := by
  cases op <;> rfl

/-- The lookup of a record sends nothing. -/
theorem resolveLatestEtdr_sends {α : Type} {etag : String} {next : Option Etdr → Program α}
    {post : α → List Out → Prop} {sent : List Out}
    (rest : ∀ latest, (next latest).Sends Op.exec sendsOut sent post) :
    (resolveLatestEtdr etag >>= next).Sends Op.exec sendsOut sent post :=
  sends_silent_bind ((resolveLatestEtdr_only etag).mono fun _ op => op.outs_eq_nil) rest

theorem processCheckin_sends (call : CheckinCall) :
    (processCheckin call).Sends Op.exec sendsOut [] fun _ => (Req.checkin call).Sends := by
  have answered : ∀ status ticketId, (perform (.answer (.checkin call.req status ticketId))).Sends
      Op.exec sendsOut [] fun _ => (Req.checkin call).Sends :=
    fun status ticketId => sends_answer.mpr (.checkin call status ticketId)
  refine sends_ask_bind fun subscriberInfo => ?_
  refine sends_silent_bind (minBalanceTooLow_only outs_ask _) fun tooLow => ?_
  split
  · exact answered _ _
  · refine sends_ask_bind fun ticketId => ?_
    refine sends_silent_bind (existingPendingTicketId_only outs_ask _) fun existing => ?_
    refine sends_ask_bind fun env => ?_
    refine sends_silent_bind (exListVehicleType_only outs_ask _ _) fun exVehicleType => ?_
    refine sends_ask_bind fun env' => ?_
    refine sends_silent_bind ((stageSave_only _).mono fun o op => ?_) fun saved => ?_
    · cases op <;> rfl
    · cases saved with
      | ok _ => exact sends_perform_bind rfl fun _ => answered _ _
      | error _ => exact sends_perform_bind rfl fun _ => answered _ _

/-- The end of a commit: its event, and then its answer. -/
theorem finishCommit_sends (req : FeCommitIn) (etdr : Etdr) (updated : DbResult Bool) :
    (finishCommit req etdr updated).Sends Op.exec sendsOut [] fun _ => (Req.commit req).Sends := by
  refine sends_silent_bind (commitOutcome_only outs_ask _ _) fun outcome => ?_
  refine sends_perform_bind rfl fun _ => ?_
  refine sends_sendKafka_bind.mpr (sends_answer.mpr ?_)
  exact .committed req _

theorem processCommit_sends (req : FeCommitIn) :
    (processCommit req).Sends Op.exec sendsOut [] fun _ => (Req.commit req).Sends := by
  have refused : ∀ status ticketId, status ≠ 0 →
      (perform (.answer (.commit req status ticketId))).Sends Op.exec sendsOut []
        fun _ => (Req.commit req).Sends :=
    fun status ticketId nonzero => sends_answer.mpr (.commitRefused req ticketId nonzero)
  refine sends_ask_bind fun laneType => ?_
  split
  · refine sends_perform_bind rfl fun cached => ?_
    split
    · exact refused _ _ (by decide)
    · refine sends_ask_bind fun env => sends_perform_bind rfl fun _ => ?_
      exact refused _ _ (by decide)
  · split
    · refine sends_ask_bind fun env => resolveLatestEtdr_sends fun latest => ?_
      split
      · exact refused _ _ (by decide)
      · split
        · exact refused _ _ (by decide)
        · refine sends_ask_bind fun found => ?_
          split
          · split
            · exact refused _ _ (by decide)
            · refine sends_silent_bind (duplicateTicketInId_only outs_ask _ _) fun dup => ?_
              split
              · exact refused _ _ (by decide)
              · exact sends_perform_bind rfl fun updated => finishCommit_sends req _ _
          · exact refused _ _ (by decide)
    · split
      · exact refused _ _ (by decide)
      · exact refused _ _ (by decide)

theorem reserveEtdr_sends (req : CheckoutReserveBoo) (etdr : Etdr) (transAmount : Int)
    (details : List RatingDetail) :
    (reserveEtdr req etdr transAmount details).Sends Op.exec sendsOut []
      fun _ => (Req.reserve req).Sends := by
  refine sends_ask_bind fun subscriberInfo => sends_ask_bind fun env => ?_
  refine sends_perform_bind rfl fun _ => sends_ask_bind fun env' => ?_
  refine sends_silent_bind ?_ fun accountTransId => ?_
  · unfold chargeAccount
    split
    · refine (only_perform_bind _ _).mpr ⟨rfl, fun r => ?_⟩
      split <;> trivial
    · trivial
  · refine sends_perform_bind rfl fun _ => ?_
    refine sends_silent_bind ?_ fun _ => sends_answer.mpr (.reserve req _ _)
    refine (only_ask_bind _ _).mpr ⟨rfl, fun saved => ?_⟩
    split
    · trivial
    · exact (only_perform _).mpr rfl

theorem processCheckoutReserve_sends (req : CheckoutReserveBoo) :
    (processCheckoutReserve req).Sends Op.exec sendsOut [] fun _ => (Req.reserve req).Sends := by
  refine resolveLatestEtdr_sends fun latest => ?_
  split
  · exact sends_answer.mpr (.reserve req _ _)
  · split
    · exact sends_answer.mpr (.reserve req _ _)
    · refine sends_ask_bind fun fee => ?_
      split
      · exact reserveEtdr_sends req _ _ _
      · refine sends_ask_bind fun env => ?_
        split
        · exact reserveEtdr_sends req _ _ _
        · exact sends_answer.mpr (.reserve req _ _)

/-- The commit of a row: its event, and then its answer. -/
theorem commitStage_sends (req : CheckoutCommitBoo) (etdr : Etdr)
    (stage : TransportTransactionStage) :
    (commitStage req etdr stage etdr.ticketId).Sends Op.exec sendsOut []
      fun _ => (Req.checkoutCommit req).Sends := by
  refine sends_ask_bind fun env => sends_silent_bind ?_ fun _ => ?_
  · unfold commitAccount
    split
    · trivial
    · split
      · refine (only_ask_bind _ _).mpr ⟨rfl, fun data => ?_⟩
        split
        · split
          · exact (only_perform_bind _ _).mpr ⟨rfl, fun _ => trivial⟩
          · trivial
        · trivial
      · trivial
  · refine sends_perform_bind rfl fun _ => sends_sendKafka_bind.mpr ?_
    -- forgetting the record sends nothing
    refine sends_silent_bind ?_ fun _ => sends_answer.mpr (.checkoutCommitted req _ _)
    refine (only_perform_bind _ _).mpr ⟨rfl, fun _ => ?_⟩
    exact (only_perform_bind _ _).mpr ⟨rfl, fun _ => (only_perform _).mpr rfl⟩

/-- The record of a checkout commit is one of its ticket. -/
theorem checkoutCommitRecord_sends (req : CheckoutCommitBoo) (ticketId : Int) :
    (checkoutCommitRecord req ticketId).Sends Op.exec sendsOut []
      fun found sent => sent = [] ∧ ∀ etdr ∈ found, etdr.ticketId = ticketId := by
  intro c s
  dsimp only [Op.exec]
  cases read : (s.cache.getByTicketId ticketId c.env.now c.seed).1 with
  | some etdr =>
    refine ⟨rfl, fun e mem => ?_⟩
    cases Option.mem_some_iff.mp mem
    exact (EtdrCache.getByTicketId_cached read).2
  | none =>
    refine resolveLatestEtdr_sends fun latest => ⟨rfl, fun etdr mem => ?_⟩
    have own := (Option.filter_eq_some_iff.mp mem).2
    exact beq_iff_eq.mp own

theorem processCheckoutCommit_sends (req : CheckoutCommitBoo) :
    (processCheckoutCommit req).Sends Op.exec sendsOut []
      fun _ => (Req.checkoutCommit req).Sends := by
  have refused : ∀ ticketId,
      (perform (.answer (.checkoutCommit req notFoundRouteTransaction ticketId))).Sends Op.exec
        sendsOut [] fun _ => (Req.checkoutCommit req).Sends :=
    fun ticketId => sends_answer.mpr (.checkoutCommitRefused req ticketId (by decide))
  refine sends_silent_bind ?_ fun ticketId => ?_
  · unfold checkoutCommitTicket
    split
    · trivial
    · exact ((resolveLatestEtdr_only _).mono fun _ op => op.outs_eq_nil).bind fun _ => trivial
  · split
    · exact refused _
    · refine Prog.sends_bind.mpr ((checkoutCommitRecord_sends req ticketId).mono ?_)
      rintro found sent ⟨rfl, own⟩
      cases found with
      | none => exact refused _
      | some etdr =>
        obtain rfl := own etdr rfl
        show (checkoutCommitEtdr req etdr etdr.ticketId).Sends _ _ _ _
        unfold checkoutCommitEtdr
        split
        · exact refused _
        · refine sends_ask_bind fun stage => ?_
          split
          · exact commitStage_sends req _ _
          · exact refused _

/-- A program whose operations send nothing. -/
theorem sends_of_silent {p : Program Unit} {req : Req} (only : p.Only fun o => o.outs = [])
    (nothing : req.Sends []) : p.Sends Op.exec sendsOut [] fun _ => req.Sends :=
  (only.mono fun _ silent _ _ => silent).sends.mono fun _ sent same => by rw [same]; exact nothing

/-- The program of a request sends what is listed for it. -/
theorem program_sends (req : Req) : req.program.Sends Op.exec sendsOut [] fun _ => req.Sends := by
  have silent : ∀ {P : Op → Prop} {p : Program Unit}, (∀ o, P o → o.outs = []) → p.Only P →
      p.Only fun o => o.outs = [] := fun none only => only.mono none
  cases req with
  | checkin call => exact processCheckin_sends call
  | commit req => exact processCommit_sends req
  | reserve req => exact processCheckoutReserve_sends req
  | checkoutCommit req => exact processCheckoutCommit_sends req
  | rollback req => exact sends_answer.mpr (.rollback req)
  | lookup etag =>
    exact sends_of_silent (silent (fun o op => op.outs_eq_nil) (program_only (.lookup etag)))
      (.lookup etag)
  | retryCycle =>
    exact sends_of_silent (silent (fun o op => by cases op <;> rfl) (program_only .retryCycle))
      .retryCycle
  | syncKeydb =>
    exact sends_of_silent (silent (fun o op => by cases op <;> rfl) (program_only .syncKeydb))
      .syncKeydb
  | hubUpdate ticketId hubId =>
    exact sends_of_silent
      (silent (fun o op => by cases op <;> rfl) (program_only (.hubUpdate ticketId hubId)))
      (.hubUpdate ticketId hubId)

/-! ### Runs -/

/-- The answers among what is sent. -/
def answersOf (sent : List Out) : List Answer :=
  sent.filterMap Out.answer?

/-- The events among what is sent. -/
def eventsOf (sent : List Out) : List KafkaEvent :=
  sent.filterMap Out.event?

@[simp] theorem answersOf_nil : answersOf [] = [] := rfl

@[simp] theorem answersOf_answer (a : Answer) (sent : List Out) :
    answersOf (.answer a :: sent) = a :: answersOf sent := rfl

@[simp] theorem answersOf_event (e : KafkaEvent) (sent : List Out) :
    answersOf (.event e :: sent) = answersOf sent := rfl

@[simp] theorem eventsOf_nil : eventsOf [] = [] := rfl

@[simp] theorem eventsOf_answer (a : Answer) (sent : List Out) :
    eventsOf (.answer a :: sent) = eventsOf sent := rfl

@[simp] theorem eventsOf_event (e : KafkaEvent) (sent : List Out) :
    eventsOf (.event e :: sent) = e :: eventsOf sent := rfl

theorem answers_outs_of_exec (o : Op) (c : Choice) (s : Sys) :
    (o.exec c s).2.answers = s.answers ++ answersOf o.outs := by
  rw [answers_of_exec]
  cases o <;> rfl

theorem kafka_outs_of_exec (o : Op) (c : Choice) (s : Sys) :
    (o.exec c s).2.kafka = s.kafka ++ eventsOf o.outs := by
  rcases o.kind with op | op | op
  · obtain ⟨stages, accounts, commits, eq⟩ := op.exec_eq c s
    rw [eq]
    cases op <;> exact (List.append_nil _).symm
  · obtain ⟨keydb, pendingTcds, eq⟩ := op.exec_eq c s
    rw [eq]
    cases op <;> exact (List.append_nil _).symm
  · cases op with
    | kafka e => rfl
    | _ => exact (List.append_nil _).symm

/-- A task of the backend. -/
abbrev BackendTask : Type :=
  Task Op Op.Res Choice Sys Req

/-- The answers of tasks. -/
def answersBy (tasks : List BackendTask) : List Answer :=
  tasks.flatMap fun task => answersOf (task.sent sendsOut)

/-- The events of tasks. -/
def eventsBy (tasks : List BackendTask) : List KafkaEvent :=
  tasks.flatMap fun task => eventsOf (task.sent sendsOut)

section Run

variable {cond : BackendPool → BackendLabel → Prop} {s : Sys} {pool : BackendPool}

/-- The answers that have been given are those of the tasks. -/
theorem perm_answers_of_reaches (reaches : backend.Reaches cond (Pool.init s) pool) :
    pool.state.answers.Perm (s.answers ++ answersBy pool.tasks) := by
  have perm := System.perm_sent_of_reaches answers_outs_of_exec reaches
  refine perm.trans (List.Perm.of_eq ?_)
  rw [answersBy]
  congr 2
  funext task
  exact Task.sent_filterMap sendsOut Out.answer? task

/-- The events that have been handed over are those of the tasks. -/
theorem perm_kafka_of_reaches (reaches : backend.Reaches cond (Pool.init s) pool) :
    pool.state.kafka.Perm (s.kafka ++ eventsBy pool.tasks) := by
  have perm := System.perm_sent_of_reaches kafka_outs_of_exec reaches
  refine perm.trans (List.Perm.of_eq ?_)
  rw [eventsBy]
  congr 2
  funext task
  exact Task.sent_filterMap sendsOut Out.event? task

/-- Every message of a station is answered exactly once, and nothing else is: the answers of a
run are those of its tasks, each of which has sent a beginning of what its request sends, and
all of it when it has ended. -/
theorem answered_once_of_reaches (reaches : backend.Reaches cond (Pool.init s) pool) :
    pool.state.answers.Perm (s.answers ++ answersBy pool.tasks) ∧
      ∀ (i : Nat) (task : BackendTask), pool.tasks[i]? = some task →
        ∃ more, task.req.Sends (task.sent sendsOut ++ more) ∧ (task.busy = false → more = []) :=
  ⟨perm_answers_of_reaches reaches, fun _ _ found =>
    System.exists_more_of_reaches program_sends reaches found⟩

end Run

/-- A commit that has begun, and one for the same trip that has ended meanwhile: one answer. -/
theorem answered_once_two_commits : ∃ pool : BackendPool,
    backend.Reaches anyStep (Pool.init beforeCommit) pool ∧
      pool.state.answers.length = 1 ∧
      pool.state.answers.Perm (answersBy pool.tasks) ∧
      ∀ (i : Nat) (task : BackendTask), pool.tasks[i]? = some task →
        ∃ more, task.req.Sends (task.sent sendsOut ++ more) ∧ (task.busy = false → more = []) := by
  obtain ⟨pool, reaches, one⟩ := backend.exists_reaches anyStep (Pool.init beforeCommit)
    (.start (.commit { etag := "BECT01" }) :: .act 0 entryLane ::
      .start (.commit { etag := "BECT01" }) :: List.replicate 14 (.act 1 entryLane))
    (fun pool => decide (pool.state.answers.length = 1)) (by decide +kernel)
  obtain ⟨perm, each⟩ := answered_once_of_reaches reaches
  exact ⟨pool, reaches, of_decide_eq_true one, perm, each⟩

/-! ### Acknowledged commits -/

/-- A commit of a ticket, on entry or on exit. -/
inductive Commit : Type
  | checkin (ticketId : Int)
  | checkout (ticketId : Int)
deriving DecidableEq

/-- The commit that an answer acknowledges. -/
def Answer.commit? : Answer → Option Commit
  | .commit _ status ticketId => if status = 0 then some (.checkin ticketId) else none
  | .checkoutCommit _ status ticketId => if status = 0 then some (.checkout ticketId) else none
  | .checkin _ _ _ | .reserve _ _ _ | .checkoutRollback _ _ _ => none

/-- The commit that an event tells of. -/
def KafkaEvent.commit : KafkaEvent → Commit
  | .checkin etdr => .checkin etdr.ticketId
  | .checkout etdr _ => .checkout etdr.ticketId

/-- How many of the answers acknowledge the commit. -/
def acknowledged (commit : Commit) (answers : List Answer) : Nat :=
  answers.countP fun a => a.commit? = some commit

/-- How many of the events tell of the commit. -/
def told (commit : Commit) (events : List KafkaEvent) : Nat :=
  events.countP fun e => e.commit = commit

theorem told_cons (commit : Commit) (e : KafkaEvent) (events : List KafkaEvent) :
    told commit (e :: events) = told commit events + if e.commit = commit then 1 else 0 := by
  simp [told, List.countP_cons]

theorem acknowledged_append (commit : Commit) (answers more : List Answer) :
    acknowledged commit (answers ++ more) =
      acknowledged commit answers + acknowledged commit more :=
  List.countP_append

theorem told_append (commit : Commit) (events more : List KafkaEvent) :
    told commit (events ++ more) = told commit events + told commit more :=
  List.countP_append

/-- What has been sent of a request acknowledges a commit at most as often as it tells of it,
and tells of it at most once more, and then only while something is left to send. -/
def Told (commit : Commit) (sent more : List Out) : Prop :=
  acknowledged commit (answersOf sent) ≤ told commit (eventsOf sent) ∧
    told commit (eventsOf sent) ≤
      acknowledged commit (answersOf sent) + if more = [] then 0 else 1

theorem told_of_nil {commit : Commit} {sent more : List Out} (all : sent ++ more = []) :
    Told commit sent more := by
  obtain ⟨rfl, -⟩ := List.append_eq_nil_iff.mp all
  exact ⟨le_rfl, Nat.zero_le _⟩

/-- One answer, to no commit. -/
theorem told_of_answer {commit : Commit} {sent more : List Out} {a : Answer}
    (refused : a.commit? = none) (all : sent ++ more = [.answer a]) : Told commit sent more := by
  rcases List.append_eq_singleton_iff.mp all with ⟨rfl, -⟩ | ⟨rfl, -⟩
  · exact ⟨le_rfl, Nat.zero_le _⟩
  · simp [Told, refused, acknowledged, told]

/-- An event, and then the answer that acknowledges its commit. -/
theorem told_of_event {commit : Commit} {sent more : List Out} {e : KafkaEvent} {a : Answer}
    (own : a.commit? = some e.commit) (all : sent ++ more = [.event e, .answer a]) :
    Told commit sent more := by
  rcases List.append_eq_cons_iff.mp all with ⟨rfl, -⟩ | ⟨sent', rfl, rest⟩
  · exact ⟨le_rfl, Nat.zero_le _⟩
  · rcases List.append_eq_singleton_iff.mp rest.symm with ⟨rfl, rfl⟩ | ⟨rfl, rfl⟩
    · -- the event alone
      simp only [Told, answersOf_event, answersOf_nil, eventsOf_event, eventsOf_nil, told_cons]
      simp only [acknowledged, told, List.countP_nil]
      split <;> simp
    · simp [Told, own, acknowledged, told]

theorem Req.Sends.told {req : Req} {sent more : List Out} (sends : req.Sends (sent ++ more))
    (commit : Commit) : Told commit sent more := by
  generalize all : sent ++ more = outs at sends
  cases sends with
  | checkin call status ticketId => exact told_of_answer rfl all
  | commitRefused req ticketId refused =>
    exact told_of_answer (by rw [Answer.commit?, if_neg refused]) all
  | committed req etdr => exact told_of_event rfl all
  | reserve req status ticketId => exact told_of_answer rfl all
  | checkoutCommitRefused req ticketId refused =>
    exact told_of_answer (by rw [Answer.commit?, if_neg refused]) all
  | checkoutCommitted req etdr at_ => exact told_of_event rfl all
  | rollback req => exact told_of_answer rfl all
  | lookup etag => exact told_of_nil all
  | retryCycle => exact told_of_nil all
  | syncKeydb => exact told_of_nil all
  | hubUpdate ticketId hubId => exact told_of_nil all

/-- The counts of all tasks. -/
theorem told_of_tasks {commit : Commit} {tasks : List BackendTask}
    (each : ∀ task ∈ tasks, ∃ more, Told commit (task.sent sendsOut) more ∧
      (task.busy = false → more = [])) :
    acknowledged commit (answersBy tasks) ≤ told commit (eventsBy tasks) ∧
      told commit (eventsBy tasks) ≤
        acknowledged commit (answersBy tasks) + tasks.countP Task.busy := by
  induction tasks with
  | nil => exact ⟨le_rfl, Nat.zero_le _⟩
  | cons task tasks ih =>
    obtain ⟨low, high⟩ := ih fun t mem => each t (List.mem_cons_of_mem _ mem)
    obtain ⟨more, ⟨below, above⟩, ended⟩ := each task List.mem_cons_self
    have slack : (if more = [] then 0 else 1) ≤ if task.busy = true then 1 else 0 := by
      cases busy : task.busy with
      | false => rw [if_pos (ended busy)]; exact Nat.zero_le _
      | true => split <;> decide
    rw [answersBy, eventsBy, List.flatMap_cons, List.flatMap_cons, ← answersBy, ← eventsBy,
      acknowledged_append, told_append, List.countP_cons]
    omega

/-- In every state of a run, each commit has been acknowledged at most as often as it was told
to the hub, and told at most once more for each task that has not ended. -/
theorem acknowledged_after_event {cond : BackendPool → BackendLabel → Prop} {s : Sys}
    {pool : BackendPool} (reaches : backend.Reaches cond (Pool.init s) pool) (commit : Commit) :
    acknowledged commit pool.state.answers + told commit s.kafka ≤
        told commit pool.state.kafka + acknowledged commit s.answers ∧
      told commit pool.state.kafka + acknowledged commit s.answers ≤
        acknowledged commit pool.state.answers + told commit s.kafka +
          pool.tasks.countP Task.busy := by
  obtain ⟨low, high⟩ := told_of_tasks fun task mem => by
    obtain ⟨i, bound, rfl⟩ := List.mem_iff_getElem.mp mem
    obtain ⟨more, sends, ended⟩ := System.exists_more_of_reaches program_sends reaches
      (List.getElem?_eq_getElem bound)
    exact ⟨more, sends.told commit, ended⟩
  have answers := acknowledged_append commit s.answers (answersBy pool.tasks)
  have events := told_append commit s.kafka (eventsBy pool.tasks)
  have given : acknowledged commit pool.state.answers = _ :=
    (perm_answers_of_reaches reaches).countP_eq _
  have handed : told commit pool.state.kafka = _ := (perm_kafka_of_reaches reaches).countP_eq _
  rw [given, handed, ← acknowledged, ← told, answers, events]
  omega

/-- A commit between its event and its answer. -/
theorem acknowledged_after_event_of_told : ∃ pool : BackendPool,
    backend.Reaches anyStep (Pool.init beforeCommit) pool ∧
      told (.checkin 1) pool.state.kafka = 1 ∧
      acknowledged (.checkin 1) pool.state.answers ≤ told (.checkin 1) pool.state.kafka ∧
      told (.checkin 1) pool.state.kafka ≤
        acknowledged (.checkin 1) pool.state.answers + pool.tasks.countP Task.busy := by
  obtain ⟨pool, reaches, one⟩ := backend.exists_reaches anyStep (Pool.init beforeCommit)
    (.start (.commit { etag := "BECT01" }) :: List.replicate 13 (.act 0 entryLane))
    (fun pool => decide (told (.checkin 1) pool.state.kafka = 1)) (by decide +kernel)
  exact ⟨pool, reaches, of_decide_eq_true one, acknowledged_after_event reaches (.checkin 1)⟩

end TollBackend

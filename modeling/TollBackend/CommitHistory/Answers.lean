import TollBackend.CommitHistory.Exits
import TollBackend.CommitHistory.OwnTrip
import TollBackend.Concurrent.Local

/-!
# The history of a checkout commit

A checkout commit should follow a reserve of its ticket that was answered with success and was
not rolled back since. The commit only looks at the exit time in the record. A reserve sets it
before it answers and also when it answers with an error, and a rollback is answered with
success while the exit stays. What has to be excluded, is excluded for the tickets that commits
name.

## Main definitions

* `Reserved`: a ticket was reserved, and not rolled back since.
* `CommitHonest`: what a step of a checkout commit should satisfy.
* `HistoryCond`: the runs in which it does, where commits name the tickets of a given set.

## Main results

* `commitsHonest_of_reaches`: in such runs, every step of every checkout commit is honest.
* `foreign_commit_unreserved`: a commit of another tag after a reserve that was refused.
-/

namespace TollBackend

open Concurrent

/-- A reserve of the ticket was answered with success, and no rollback of it since. -/
def Reserved (answers : List Answer) (t : Int) : Prop :=
  ∃ before after reserve, answers = before ++ .reserve reserve 0 t :: after ∧
    ∀ rollback, .checkoutRollback rollback 0 t ∉ after

/-- The ticket of a reserve that was answered with success. -/
def Answer.reserveOf? : Answer → Option Int
  | .reserve _ status ticketId => if status = 0 then some ticketId else none
  | _ => none

/-- The ticket of a rollback that was answered with success. -/
def Answer.rollbackOf? : Answer → Option Int
  | .checkoutRollback _ status ticketId => if status = 0 then some ticketId else none
  | _ => none

/-- The step changes nothing of another tag, and a success is answered only for a trip of the
tag that is reserved. -/
structure CommitHonest (commit : CheckoutCommitBoo) (ev : Event Op Choice Sys) : Prop where
  kept : OtherTagsKept (normalizeEtag commit.etag) ev.pre (ev.op.exec ev.choice ev.pre).2
  own : ∀ t, ev.op.answer? = some (.checkoutCommit commit 0 t) →
    ev.pre.TripOf (normalizeEtag commit.etag) t
  reserved : ∀ t, ev.op.answer? = some (.checkoutCommit commit 0 t) → Reserved ev.pre.answers t

/-! ### The condition -/

/-- The status of the account check that a task has just made: it has read the owner of a tag and
then looked at the clock. -/
def accountCheck? (trace : List (Event Op Choice Sys)) : Option Int :=
  match trace.reverse with
  | ⟨.ask .observe, clock, _⟩ :: ⟨.ask (.subscriberByEtag _), owner, _⟩ :: _ =>
      some (reserveErrorStatus clock.env owner.subscriber)
  | _ => none

/-- A reserve records a ticket in `named` only after its account check has passed. -/
def AccountActive (named : Int → Prop) (trace : List (Event Op Choice Sys)) (o : Op) : Prop :=
  ∀ t ∈ o.reserved?, named t → accountCheck? trace = some 0

instance (named : Int → Prop) [DecidablePred named] (trace : List (Event Op Choice Sys))
    (o : Op) : Decidable (AccountActive named trace o) := by
  unfold AccountActive; infer_instance

theorem accountCheck?_concat (trace : List (Event Op Choice Sys)) (tag : String) (c c' : Choice)
    (s s' : Sys) :
    accountCheck? (trace ++ [⟨.ask (.subscriberByEtag tag), c, s⟩] ++ [⟨.ask .observe, c', s'⟩]) =
      some (reserveErrorStatus c'.env c.subscriber) := by
  simp [accountCheck?]

/-- Some task has recorded a reserve of the ticket. -/
def Saved (pool : BackendPool) (t : Int) : Prop :=
  ∃ task ∈ pool.tasks, ∃ ev ∈ task.trace, ev.op.reserved? = some t

/-- Every task that has recorded a reserve of the ticket has answered. -/
def ReservesAnswered (pool : BackendPool) (t : Int) : Prop :=
  ∀ task ∈ pool.tasks, (∃ ev ∈ task.trace, ev.op.reserved? = some t) →
    ∃ ev ∈ task.trace, ev.op.answer?.isSome

instance (pool : BackendPool) (t : Int) : Decidable (ReservesAnswered pool t) := by
  unfold ReservesAnswered; infer_instance

/-- What an operation is performed under, where commits name tickets in `named`: rows keep their
tags and commits read what carries theirs, exits come from reserves, which record them after their
account check has passed, commits succeed only when no reserve of the ticket is under way, and no
ticket is rolled back after its reserve was answered with success. -/
@[mk_iff]
structure HistoryStep (named : Int → Prop) (pool : BackendPool) (req : Req)
    (trace : List (Event Op Choice Sys)) (o : Op) (c : Choice) : Prop where
  names : ReadsNamed named req o
  tagKept : TagKept named o pool.state
  ownReads : OwnReads req o c pool.state
  earned : ExitEarned (fun t => ¬ named t) trace o pool.state
  active : AccountActive named trace o
  answered : ∀ a ∈ o.answer?, ∀ t ∈ a.checkoutCommitOf?, ReservesAnswered pool t
  standing : ∀ a ∈ o.answer?, ∀ t ∈ a.rollbackOf?, named t →
    ∀ b ∈ pool.state.answers, b.reserveOf? ≠ some t

instance (named : Int → Prop) [DecidablePred named] (pool : BackendPool) (req : Req)
    (trace : List (Event Op Choice Sys)) (o : Op) (c : Choice) :
    Decidable (HistoryStep named pool req trace o c) :=
  decidable_of_iff _ (historyStep_iff named pool req trace o c).symm

/-- The steps of a run in which commits are honest; `named` are the tickets that they name. -/
def HistoryCond (named : Int → Prop) (pool : BackendPool) (l : BackendLabel) : Prop :=
  (∀ req, l = .start req → PlainTag req) ∧
    System.EachStep (fun pool _ req trace o c => HistoryStep named pool req trace o c) pool l

instance (named : Int → Prop) [DecidablePred named] (pool : BackendPool) (l : BackendLabel) :
    Decidable (HistoryCond named pool l) := by
  unfold HistoryCond
  refine @instDecidableAnd _ _ ?_ inferInstance
  cases l with
  | start req => exact decidable_of_iff (PlainTag req) ⟨fun plain _ eq => by cases eq; exact plain,
      fun all => all req rfl⟩
  | act i c => exact isTrue fun _ eq => by cases eq

/-! ### The answer of a reserve -/

/-- A reserve that has recorded a ticket answers about that ticket, with success if it is in
`named`, and does nothing after it has answered. -/
def reserveAnswers (named : Int → Prop) (req : Req) (trace : List (Event Op Choice Sys))
    (o : Op) : Prop :=
  (∀ ev ∈ trace, ev.op.answer? = none) ∧
    ∀ reserve status t, req = .reserve reserve → o.answer? = some (.reserve reserve status t) →
      ∀ ev ∈ trace, ∀ t' ∈ ev.op.reserved?, (named t' → status = 0) ∧ t' = t

variable {named : Int → Prop} {req : Req} {trace : List (Event Op Choice Sys)} {s : Sys}
  {o : Op} {α : Type}

/-- The contract of a reserve about its answer. -/
def answerContract (named : Int → Prop) : Contract backend :=
  .standalone backend (fun _ => True) (fun _ trace o _ _ => AccountActive named trace o)
    fun req trace o _ _ => reserveAnswers named req trace o

/-- Nothing was answered or recorded. -/
def NotBegun (trace : List (Event Op Choice Sys)) : Prop :=
  ∀ ev ∈ trace, ev.op.answer? = none ∧ ev.op.reserved? = none

/-- Nothing was answered, and only the ticket was recorded. -/
def Recording (t : Int) (trace : List (Event Op Choice Sys)) : Prop :=
  ∀ ev ∈ trace, ev.op.answer? = none ∧ ∀ t' ∈ ev.op.reserved?, t' = t

theorem forall_mem_concat {β : Type} {P : β → Prop} {l : List β} {b : β} (old : ∀ a ∈ l, P a)
    (new : P b) : ∀ a ∈ l ++ [b], P a := by
  intro a mem
  rcases List.mem_append.mp mem with before | now
  · exact old a before
  · rw [List.mem_singleton.mp now]
    exact new

/-- The operation does not answer, and records no other ticket. -/
def RecordsOnly (t : Int) (o : Op) : Prop :=
  o.answer? = none ∧ ∀ t' ∈ o.reserved?, t' = t

theorem recordsOnly_of_none {t : Int} (silent : o.answer? = none) (other : o.reserved? = none) :
    RecordsOnly t o := by
  refine ⟨silent, fun t' recorded => ?_⟩
  rw [other] at recorded
  cases recorded

theorem Recording.concat {t : Int} {c : Choice} (recording : Recording t trace)
    (silent : RecordsOnly t o) : Recording t (trace ++ [⟨o, c, s⟩]) :=
  forall_mem_concat recording silent

theorem answerSafe_of_silent {t : Int} {p : Program α} (silent : p.Only (RecordsOnly t))
    (recording : Recording t trace) :
    (answerContract named).Safe req p (fun _ tr _ => Recording t tr) trace s := by
  refine Contract.safe_of_only (J := fun tr _ => Recording t tr) silent recording
    (fun _ _ _ recording _ _ => recording) fun tr s o c silent recording _ _ => ?_
  refine ⟨⟨fun ev mem => (recording ev mem).1, fun reserve status t' _ answered => ?_⟩, trivial,
    recording.concat silent⟩
  rw [silent.1] at answered
  cases answered

theorem NotBegun.recording (idle : NotBegun trace) (t : Int) : Recording t trace := by
  refine fun ev mem => ⟨(idle ev mem).1, fun t' recorded => ?_⟩
  rw [(idle ev mem).2] at recorded
  cases recorded

theorem reserveAnswers_of_notBegun (idle : NotBegun trace) :
    reserveAnswers named req trace o := by
  refine ⟨fun ev mem => (idle ev mem).1, fun reserve status t _ _ ev mem t' recorded => ?_⟩
  rw [(idle ev mem).2] at recorded
  cases recorded

theorem LookupOp.reserved?_eq_none (op : LookupOp o) : o.reserved? = none := by
  cases op <;> rfl

theorem answerSafe_of_lookup {p : Program α} (only : p.Only LookupOp) (idle : NotBegun trace) :
    (answerContract named).Safe req p (fun _ tr _ => NotBegun tr) trace s := by
  refine Contract.safe_of_only (J := fun tr _ => NotBegun tr) only idle
    (fun _ _ _ idle _ _ => idle) fun tr s o c op idle _ _ => ?_
  exact ⟨reserveAnswers_of_notBegun idle, trivial,
    forall_mem_concat idle ⟨op.answer?_eq_none, op.reserved?_eq_none⟩⟩

/-- An operation before which a reserve has recorded nothing. -/
theorem answerSafe_perform {next : o.Res → Program α}
    {post : α → List (Event Op Choice Sys) → Sys → Prop} (idle : NotBegun trace)
    (rest : ∀ c s, AccountActive named trace o → (answerContract named).Safe req
      (next (o.exec c s).1) post (trace ++ [⟨o, c, s⟩]) (o.exec c s).2) :
    (answerContract named).Safe req (perform o >>= next) post trace s :=
  Contract.standalone_safe_op (fun _ _ _ _ => trivial) fun c s _ active =>
    ⟨reserveAnswers_of_notBegun idle, rest c s active⟩

theorem answerSafe_ask {q : Query} {next : q.Reply → Program α}
    {post : α → List (Event Op Choice Sys) → Sys → Prop} (idle : NotBegun trace)
    (rest : ∀ c s, NotBegun (trace ++ [⟨.ask q, c, s⟩]) →
      (answerContract named).Safe req (next (q.reply c s)) post (trace ++ [⟨.ask q, c, s⟩]) s) :
    (answerContract named).Safe req (ask q >>= next) post trace s :=
  answerSafe_perform idle fun c s _ => rest c s (forall_mem_concat idle ⟨rfl, rfl⟩)

theorem answerSafe_refused (a : Answer) (idle : NotBegun trace) :
    (answerContract named).Safe req (perform (.answer a)) (fun _ _ _ => True) trace s :=
  fun _ _ _ _ _ => ⟨reserveAnswers_of_notBegun idle, trivial, trivial⟩

theorem reserveEtdr_answers (reserve : CheckoutReserveBoo) (etdr : Etdr) (transAmount : Int)
    (details : List RatingDetail) (idle : NotBegun trace) :
    (answerContract named).Safe (.reserve reserve) (reserveEtdr reserve etdr transAmount details)
      (fun _ _ _ => True) trace s := by
  refine answerSafe_ask idle fun c s idle => answerSafe_ask idle fun c' s' idle => ?_
  dsimp only
  generalize here : reserveErrorStatus (Query.observe.reply c' s')
    ((Query.subscriberByEtag (normalizeEtag reserve.etag)).reply c s) = status
  refine answerSafe_perform idle fun c'' s'' active => ?_
  -- the status is that of the check, which precedes the save
  have passed : named etdr.ticketId → status = 0 := by
    intro isNamed
    have checked := active _ rfl isNamed
    rw [accountCheck?_concat] at checked
    exact here ▸ Option.some.inj checked
  have charge : ∀ accountId now, (chargeAccount accountId transAmount etdr.ticketId now).Only
      (RecordsOnly etdr.ticketId) := by
    intro accountId now
    unfold chargeAccount
    split
    · refine (only_perform_bind _ _).mpr ⟨recordsOnly_of_none rfl rfl, fun inserted => ?_⟩
      split <;> trivial
    · trivial
  have tcd : ∀ list, (saveTcdOrPending etdr.ticketId list).Only (RecordsOnly etdr.ticketId) := by
    intro list
    refine (only_ask_bind _ _).mpr ⟨recordsOnly_of_none rfl rfl, fun saved => ?_⟩
    split
    · trivial
    · exact (only_perform _).mpr (recordsOnly_of_none rfl rfl)
  have silent : ∀ {β : Type} {p : Program β} {f : β → Program Unit} {tr s},
      p.Only (RecordsOnly etdr.ticketId) → Recording etdr.ticketId tr →
      (∀ b tr s, Recording etdr.ticketId tr → (answerContract named).Safe (.reserve reserve) (f b)
        (fun _ _ _ => True) tr s) →
      (answerContract named).Safe (.reserve reserve) (p >>= f) (fun _ _ _ => True) tr s :=
    fun only recording rest => Contract.safe_bind.mpr
      ((answerSafe_of_silent only recording).mono fun b tr s recording => rest b tr s recording)
  have saved : ∀ price now, RecordsOnly etdr.ticketId
      (.saveEtdr (.checkoutReserved etdr reserve transAmount price now)) :=
    fun _ _ => ⟨rfl, fun t' recorded => (Option.some.inj recorded).symm⟩
  refine silent ((only_ask _).mpr (recordsOnly_of_none rfl rfl))
    ((idle.recording _).concat (saved _ _)) fun env tr s recording => ?_
  refine silent (charge _ _) recording fun accountTransId tr s recording => ?_
  refine silent ((only_perform _).mpr (recordsOnly_of_none rfl rfl)) recording
    fun _ tr s recording => ?_
  refine silent (tcd _) recording fun _ tr s recording => ?_
  intro s' _ _ c _
  refine ⟨⟨fun ev mem => (recording ev mem).1, fun _ status t _ answered ev mem t' recorded => ?_⟩,
    trivial, trivial⟩
  cases answered
  have same := (recording ev mem).2 t' recorded
  exact ⟨fun isNamed => passed (same ▸ isNamed), same⟩

theorem processCheckoutReserve_answers (reserve : CheckoutReserveBoo) (idle : NotBegun trace) :
    (answerContract named).Safe (.reserve reserve) (processCheckoutReserve reserve)
      (fun _ _ _ => True) trace s := by
  refine Contract.safe_bind.mpr ((answerSafe_of_lookup (resolveLatestEtdr_only _) idle).mono ?_)
  intro latest tr s idle
  split
  · exact answerSafe_refused _ idle
  · split
    · exact answerSafe_refused _ idle
    · refine answerSafe_ask idle fun c s idle => ?_
      split
      · exact reserveEtdr_answers reserve _ _ _ idle
      · refine answerSafe_ask idle fun c s idle => ?_
        split
        · exact reserveEtdr_answers reserve _ _ _ idle
        · exact answerSafe_refused _ idle

/-- A reserve that has recorded its ticket and has answered, has answered about that ticket, with
success if it is in `named`. -/
theorem answer_of_along {reserve : CheckoutReserveBoo} {status t t' : Int}
    {saved answered : Event Op Choice Sys}
    (along : Along (fun tr o _ _ => reserveAnswers named (.reserve reserve) tr o) trace)
    (saved_mem : saved ∈ trace) (recorded : saved.op.reserved? = some t)
    (answered_mem : answered ∈ trace)
    (answer : answered.op.answer? = some (.reserve reserve status t')) :
    (named t → status = 0) ∧ t = t' := by
  obtain ⟨m, bound, rfl⟩ := List.mem_iff_getElem.mp saved_mem
  obtain ⟨k, bound', rfl⟩ := List.mem_iff_getElem.mp answered_mem
  have at_saved := along m bound _ (List.getElem?_eq_getElem bound)
  have at_answer := along k bound' _ (List.getElem?_eq_getElem bound')
  -- the record comes before the answer, as nothing follows the answer
  by_cases order : m < k
  · exact at_answer.2 reserve status t' rfl answer _
      (List.mem_take_iff_getElem.mpr ⟨m, by omega, rfl⟩) t recorded
  · by_cases same : m = k
    · subst same
      rw [Op.eq_answer_of_answer? answer] at recorded
      cases recorded
    · have quiet := at_saved.1 _ (List.mem_take_iff_getElem.mpr ⟨k, by omega, rfl⟩)
      rw [answer] at quiet
      cases quiet

/-- Only a reserve records a reserve. -/
theorem isReserve_of_performs (performs : req.Performs o) (recorded : o.reserved?.isSome) :
    ∃ reserve, req = .reserve reserve := by
  have lookup : ∀ {o}, LookupOp o → o.reserved?.isSome → ∃ reserve, req = .reserve reserve := by
    intro o op recorded
    rw [op.reserved?_eq_none] at recorded
    cases recorded
  cases req with
  | reserve reserve => exact ⟨reserve, rfl⟩
  | checkin call => cases performs <;> cases recorded
  | commit commit =>
    cases performs with
    | lookup o op => exact lookup op recorded
    | _ => cases recorded
  | checkoutCommit commit =>
    cases performs with
    | lookup o op => exact lookup op recorded
    | _ => cases recorded
  | rollback rollback =>
    subst performs
    cases recorded
  | lookup etag => exact lookup performs recorded
  | retryCycle => cases performs <;> cases recorded
  | syncKeydb => cases performs <;> cases recorded
  | hubUpdate ticketId hubId => cases performs <;> cases recorded

/-! ### Runs -/

variable {pool pool' : BackendPool} {l : BackendLabel} {c : Choice} {t : Int}

theorem Reserved.mem {answers : List Answer} (reserved : Reserved answers t) :
    ∃ a ∈ answers, a.reserveOf? = some t := by
  obtain ⟨before, after, reserve, rfl, -⟩ := reserved
  exact ⟨_, List.mem_append_right _ List.mem_cons_self, rfl⟩

/-- A reserved ticket stays so, unless it is rolled back. -/
theorem Reserved.exec (reserved : Reserved s.answers t)
    (rollback : ∀ a ∈ o.answer?, a.rollbackOf? = some t → ∀ b ∈ s.answers, b.reserveOf? ≠ some t) :
    Reserved (o.exec c s).2.answers t := by
  obtain ⟨b, mem, here⟩ := reserved.mem
  obtain ⟨before, after, reserve, eq, none_after⟩ := reserved
  refine ⟨before, after ++ o.answer?.toList, reserve, ?_, fun rb mem' => ?_⟩
  · rw [answers_of_exec, eq]
    simp
  · -- an answer of this step is no rollback of the ticket, as the reserve stands
    rcases List.mem_append.mp mem' with old | new
    · exact none_after rb old
    · exact rollback _ (Option.mem_toList.mp new) rfl b mem here

/-- What a step of the pool adds to the pasts of its tasks. -/
theorem mem_trace_cases (next : backend.step pool l = some pool')
    {task' : Task Op Op.Res Choice Sys Req} (mem : task' ∈ pool'.tasks) {ev : Event Op Choice Sys}
    (past : ev ∈ task'.trace) :
    (∃ task ∈ pool.tasks, task.req = task'.req ∧ ev ∈ task.trace) ∨
      ∃ i k trace, l = .act i ev.choice ∧ ev.pre = pool.state ∧
        pool.tasks[i]? = some ⟨task'.req, trace, .op ev.op k⟩ := by
  obtain ⟨j, at_j⟩ := List.mem_iff_getElem?.mp mem
  obtain ⟨old, -⟩ | ⟨req, rfl, rfl⟩ | ⟨c, req, trace, o, k, rfl, old, rfl⟩ :=
    System.task_cases next at_j
  · exact .inl ⟨task', List.mem_of_getElem? old, rfl, past⟩
  · exact absurd past List.not_mem_nil
  · rcases List.mem_append.mp past with before | now
    · exact .inl ⟨_, List.mem_of_getElem? old, rfl, before⟩
    · rw [List.mem_singleton.mp now]
      exact .inr ⟨j, k, trace, rfl, rfl, old⟩

theorem Saved.step (next : backend.step pool l = some pool') (saved : Saved pool t) :
    Saved pool' t := by
  obtain ⟨task, mem, ev, past, recorded⟩ := saved
  obtain ⟨req, rfl, rfl⟩ | ⟨i, c, req, trace, o, k, rfl, found, rfl⟩ := System.step_cases next
  · exact ⟨task, List.mem_append_left _ mem, ev, past, recorded⟩
  · obtain ⟨j, at_j⟩ := List.mem_iff_getElem?.mp mem
    by_cases here : j = i
    · subst here
      cases found.symm.trans at_j
      refine ⟨_, List.mem_of_getElem? (List.getElem?_set_self
        (List.getElem?_eq_some_iff.mp found).1), ev, List.mem_append_left _ past, recorded⟩
    · refine ⟨task, List.mem_of_getElem? (i := j) ?_, ev, past, recorded⟩
      rw [List.getElem?_set_ne (Ne.symm here)]
      exact at_j

/-- In a run, every exit of a ticket in `named` is of one that was recorded by then. -/
theorem exitReaches {D : Int → Prop}
    (reaches : backend.Reaches (HistoryCond named) (Pool.init s) pool)
    (others : ∀ t, ¬ named t → D t) (saved : ∀ t, Saved pool t → D t) :
    backend.Reaches (System.EachAct fun _ trace o _ s => ExitEarned D trace o s ∧
      ∀ t ∈ o.reserved?, D t) (Pool.init s) pool := by
  induction reaches with
  | refl => exact .refl
  | @step pool pool' l before meets next ih =>
    refine .step (ih fun t old => saved t (old.step next)) ?_ next
    cases l with
    | start req => trivial
    | act i c =>
      intro req trace o k found
      refine ⟨(meets.2 req trace o k found).earned.mono others, fun t recorded => saved t ?_⟩
      simp only [System.step, found] at next
      cases next
      exact ⟨_, List.mem_of_getElem? (List.getElem?_set_self
        (List.getElem?_eq_some_iff.mp found).1), _, List.mem_append_right _ List.mem_cons_self,
        recorded⟩

theorem ExitsIn.mono {D D' : Int → Prop} (exits : ExitsIn D s) (imp : ∀ t, D t → D' t) :
    ExitsIn D' s where
  row id row found exit := imp _ (exits.row id row found exit)
  cached key e cached exit := imp _ (exits.cached key e cached exit)
  keydb key e mem := ⟨fun exit => imp _ ((exits.keydb key e mem).1 exit), (exits.keydb key e mem).2⟩
  spawned write mem exit := imp _ (exits.spawned write mem exit)

/-- A commit that is about to be answered with success is one of a ticket that was recorded, or
was reserved at the start. -/
theorem saved_of_answer (exits : ExitsIn (fun t => named t → Reserved s.answers t) s)
    (reaches : backend.Reaches (HistoryCond named) (Pool.init s) pool) {i : Nat}
    (meets : HistoryCond named pool (.act i c)) {next : o.Res → Program Unit}
    (found : pool.tasks[i]? = some ⟨req, trace, .op o next⟩) {commit : CheckoutCommitBoo}
    (isNamed : named t) (answered : o.answer? = some (.checkoutCommit commit 0 t)) :
    Saved pool t ∨ Reserved s.answers t := by
  have sound := exitContract_sound fun t => named t → Saved pool t ∨ Reserved s.answers t
  have others : ∀ t, ¬ named t → named t → Saved pool t ∨ Reserved s.answers t :=
    fun _ other isNamed => absurd isNamed other
  refine sound.must_of_reaches (exits.mono fun _ reserved isNamed => .inr (reserved isNamed))
    (exitReaches reaches others fun _ saved _ => .inl saved)
    (c := c) ?_ found commit t answered isNamed
  intro req' trace' o' next' found'
  cases found.symm.trans found'
  refine ⟨(meets.2 _ _ _ _ found).earned.mono others, fun t recorded => ?_⟩
  rw [Op.eq_answer_of_answer? answered] at recorded
  cases recorded

/-- The account check of every reserve of a run passes. -/
theorem accountActive_of_reaches
    (reaches : backend.Reaches (HistoryCond named) (Pool.init s) pool) {i : Nat}
    {task : Task Op Op.Res Choice Sys Req} (found : pool.tasks[i]? = some task) :
    Along (fun tr o _ _ => AccountActive named tr o) task.trace := by
  refine reaches.induct (P := fun pool => ∀ (i : Nat) task, pool.tasks[i]? = some task →
    Along (fun tr o _ _ => AccountActive named tr o) task.trace)
    (fun i task found => by simp [Pool.init] at found) ?_ i task found
  intro pool l pool' holds meets next j task at_j
  obtain ⟨old, -⟩ | ⟨req, rfl, rfl⟩ | ⟨c, req, trace, o, k, rfl, old, rfl⟩ :=
    System.task_cases next at_j
  · exact holds j task old
  · exact fun k bound => absurd bound (Nat.not_lt_zero k)
  · exact along_append_singleton.mpr ⟨holds j _ old, (meets.2 req trace o k old).active⟩

/-- A task that has recorded a reserve of a ticket in `named` and has answered, has answered it
with success. -/
theorem answer_of_saved (reaches : backend.Reaches (HistoryCond named) (Pool.init s) pool)
    {task : Task Op Op.Res Choice Sys Req} (mem : task ∈ pool.tasks)
    {saved answered : Event Op Choice Sys} (saved_mem : saved ∈ task.trace) (isNamed : named t)
    (recorded : saved.op.reserved? = some t) (answered_mem : answered ∈ task.trace)
    (some_answer : answered.op.answer?.isSome) :
    ∃ reserve, answered.op.answer? = some (.reserve reserve 0 t) := by
  obtain ⟨i, at_i⟩ := List.mem_iff_getElem?.mp mem
  obtain ⟨performed, -⟩ := System.only_of_reaches program_only reaches at_i
  obtain ⟨reserve, isReserve⟩ :=
    isReserve_of_performs (performed saved saved_mem) (Option.isSome_iff_exists.mpr ⟨t, recorded⟩)
  obtain ⟨a, answer⟩ := Option.isSome_iff_exists.mp some_answer
  have isFor := isFor_of_performs (performed answered answered_mem) answer
  have active := accountActive_of_reaches reaches at_i
  obtain ⟨req, trace, rest⟩ := task
  cases isReserve
  have start : ∀ s, (answerContract named).Safe (.reserve reserve)
      (backend.prog (.reserve reserve)) (fun _ _ _ => True) [] s :=
    fun _ => processCheckoutReserve_answers reserve fun ev mem => absurd mem List.not_mem_nil
  have along : Along (fun tr o _ _ => reserveAnswers named (.reserve reserve) tr o) trace :=
    Contract.along_of_reaches (fun _ _ _ _ => trivial) start trivial reaches at_i active
  cases a with
  | reserve reserve' status t' =>
    cases isFor
    obtain ⟨success, rfl⟩ := answer_of_along along saved_mem recorded answered_mem answer
    cases success isNamed
    exact ⟨reserve, answer⟩
  | checkin _ _ _ =>
    obtain ⟨_, eq, -⟩ := isFor
    cases eq
  | commit _ _ _ => cases isFor
  | checkoutCommit _ _ _ => cases isFor
  | checkoutRollback _ _ _ => cases isFor

/-- What a run keeps of the reserves of tickets in `named`: those answered at its start or within
it stand, and the commits it has answered with success followed one. -/
structure ReservesKept (named : Int → Prop) (s : Sys) (pool : BackendPool) : Prop where
  initial : ∀ t, named t → Reserved s.answers t → Reserved pool.state.answers t
  answered : ∀ task ∈ pool.tasks, ∀ ev ∈ task.trace, ∀ reserve t, named t →
    ev.op.answer? = some (.reserve reserve 0 t) → Reserved pool.state.answers t
  commits : ∀ task ∈ pool.tasks, ∀ ev ∈ task.trace, ∀ commit t, named t →
    ev.op.answer? = some (.checkoutCommit commit 0 t) → Reserved ev.pre.answers t

/-- What is reserved stays so over a step of a run. -/
theorem Reserved.step (meets : HistoryCond named pool l)
    (next : backend.step pool l = some pool') (isNamed : named t)
    (reserved : Reserved pool.state.answers t) : Reserved pool'.state.answers t := by
  obtain ⟨req, rfl, rfl⟩ | ⟨i, c, req, trace, o, k, rfl, found, rfl⟩ := System.step_cases next
  · exact reserved
  · exact reserved.exec fun a answered rolledBack =>
      (meets.2 req trace o k found).standing a answered t rolledBack isNamed

/-- An answered reserve is reserved. -/
theorem reserved_of_answer {reserve : CheckoutReserveBoo}
    (answered : o.answer? = some (.reserve reserve 0 t)) : Reserved (o.exec c s).2.answers t := by
  refine ⟨s.answers, [], reserve, ?_, fun _ => List.not_mem_nil⟩
  rw [answers_of_exec, answered]
  rfl

theorem ReservesKept.step (exits : ExitsIn (fun t => named t → Reserved s.answers t) s)
    (reaches : backend.Reaches (HistoryCond named) (Pool.init s) pool)
    (kept : ReservesKept named s pool) (meets : HistoryCond named pool l)
    (next : backend.step pool l = some pool') : ReservesKept named s pool' := by
  refine ⟨fun t isNamed reserved => (kept.initial t isNamed reserved).step meets next isNamed,
    ?_, ?_⟩
  · intro task mem ev past reserve t isNamed answered
    obtain ⟨old, mem', -, past'⟩ | ⟨i, k, trace, rfl, -, found⟩ := mem_trace_cases next mem past
    · exact (kept.answered old mem' ev past' reserve t isNamed answered).step meets next isNamed
    · simp only [System.step, found] at next
      cases next
      exact reserved_of_answer answered
  · intro task mem ev past commit t isNamed answered
    obtain ⟨old, mem', -, past'⟩ | ⟨i, k, trace, rfl, pre, found⟩ := mem_trace_cases next mem past
    · exact kept.commits old mem' ev past' commit t isNamed answered
    · rw [pre]
      -- the exit that the commit goes by was recorded in the run, or was there at its start
      rcases saved_of_answer exits reaches meets found isNamed answered with saved | initial
      · obtain ⟨other, mem', ev', past', recorded⟩ := saved
        obtain ⟨reply, past'', replied⟩ := (meets.2 _ _ _ _ found).answered _ answered t rfl
          other mem' ⟨ev', past', recorded⟩
        obtain ⟨reserve, success⟩ :=
          answer_of_saved reaches mem' past' isNamed recorded past'' replied
        exact kept.answered other mem' reply past'' reserve t isNamed success
      · exact kept.initial t isNamed initial

theorem reservesKept_of_reaches (exits : ExitsIn (fun t => named t → Reserved s.answers t) s)
    (reaches : backend.Reaches (HistoryCond named) (Pool.init s) pool) :
    ReservesKept named s pool := by
  induction reaches with
  | refl => exact ⟨fun _ _ => id, fun _ mem => absurd mem List.not_mem_nil,
      fun _ mem => absurd mem List.not_mem_nil⟩
  | step before meets next ih => exact ih.step exits before meets next

/-- In such runs, every step of every checkout commit is honest, whatever happens to the tickets
that no commit names. -/
theorem commitsHonest_of_reaches (wf : s.cache.WellFormed)
    (exits : ExitsIn (fun t => named t → Reserved s.answers t) s)
    (reaches : backend.Reaches (HistoryCond named) (Pool.init s) pool) {i : Nat}
    {commit : CheckoutCommitBoo} {rest : Program Unit}
    (found : pool.tasks[i]? = some ⟨.checkoutCommit commit, trace, rest⟩) :
    ∀ ev ∈ trace, CommitHonest commit ev := by
  have sound : (ownContract named).Sound (HistoryCond named) := by
    refine ownContract_sound named (fun _ req meets => meets.1 req rfl) fun pool l meets => ?_
    cases l with
    | start req => trivial
    | act i c =>
      intro req trace o next at_i
      have here := meets.2 req trace o next at_i
      exact ⟨here.tagKept, here.ownReads, here.names⟩
  intro ev past
  obtain ⟨_, own⟩ := (sound.along_of_reaches wf reaches found).of_mem past
  obtain ⟨kept, trip⟩ := own commit rfl
  -- the ticket of the answer is one whose row the commit has read, so it is named
  refine ⟨kept, fun t answered => (trip t answered).2, fun t answered => ?_⟩
  exact (reservesKept_of_reaches exits reaches).commits _ (List.mem_of_getElem? found) ev past
    commit t (trip t answered).1 answered

/-- Nothing has an exit before the exit of the trip. -/
theorem beforeExit_exitsIn (D : Int → Prop) : ExitsIn D beforeExit where
  row id row found exit := by
    rw [List.mem_singleton.mp (StageTable.row?_eq_some_iff.mp found).1] at exit
    exact absurd rfl exit
  cached key e cached := by
    obtain ⟨recs, mem, -⟩ := cached
    cases mem
  keydb _ _ mem := absurd mem List.not_mem_nil
  spawned _ mem := absurd mem List.not_mem_nil

/-- A reserve and its commit. -/
theorem commitsHonest_beforeExit :
    ∃ pool : BackendPool, backend.Reaches (HistoryCond (· = 1)) (Pool.init beforeExit) pool ∧
      .checkoutCommit { etag := "BECT01", ticketInId := 1 } 0 1 ∈ pool.state.answers ∧
      ∀ (i : Nat) (commit : CheckoutCommitBoo) (trace : List (Event Op Choice Sys))
        (rest : Program Unit), pool.tasks[i]? = some ⟨.checkoutCommit commit, trace, rest⟩ →
        ∀ ev ∈ trace, CommitHonest commit ev := by
  obtain ⟨pool, reaches, answered⟩ := backend.exists_reaches (HistoryCond (· = 1))
    (Pool.init beforeExit)
    (.start (.reserve { etag := "BECT01", stationOut := 3 }) ::
      List.replicate 14 (.act 0 charging) ++
      .start (.checkoutCommit { etag := "BECT01", ticketInId := 1 }) ::
      List.replicate 11 (.act 1 charging))
    (fun pool => decide (
      .checkoutCommit { etag := "BECT01", ticketInId := 1 } 0 1 ∈ pool.state.answers))
    (by decide +kernel)
  exact ⟨pool, reaches, of_decide_eq_true answered, fun i commit trace rest found =>
    commitsHonest_of_reaches (.empty _ _) (beforeExit_exitsIn _) reaches found⟩

/-- A reserve of a tag without a subscriber is refused but leaves the exit, and a commit of
another tag that names the ticket is then answered with success. -/
theorem foreign_commit_unreserved :
    ¬ ∀ (s : Sys) (pool : BackendPool) (i : Nat) (commit : CheckoutCommitBoo)
      (trace : List (Event Op Choice Sys)) (rest : Program Unit), s.cache.WellFormed →
      ExitsIn (Reserved s.answers) s → backend.Reaches anyStep (Pool.init s) pool →
      pool.tasks[i]? = some ⟨.checkoutCommit commit, trace, rest⟩ →
      ∀ ev ∈ trace, CommitHonest commit ev := by
  intro claim
  obtain ⟨pool, reaches, test⟩ := backend.exists_reaches anyStep (Pool.init beforeExit)
    (.start (.reserve { etag := "BECT01", stationOut := 3 }) ::
      List.replicate 13 (.act 0 { charging with subscriber := none }) ++
      .start (.checkoutCommit { etag := "BECT02", ticketInId := 1 }) ::
      List.replicate 9 (.act 1 charging))
    (fun pool => pool.tasks[1]?.any fun task => task.trace.any fun ev => decide (
      ev.op.answer? = some (.checkoutCommit { etag := "BECT02", ticketInId := 1 } 0 1) ∧
      ¬ ev.pre.TripOf (normalizeEtag "BECT02") 1 ∧ ∀ a ∈ ev.pre.answers, a.reserveOf? ≠ some 1))
    (by decide +kernel)
  obtain ⟨⟨req, past, rest⟩, found, test⟩ := (Option.any_eq_true _ _).mp test
  obtain ⟨ev, mem, test⟩ := List.any_eq_true.mp test
  obtain ⟨answer, foreign, -⟩ := of_decide_eq_true test
  -- only the commit itself gives that answer, so it is the task
  have performed := (System.only_of_reaches program_only reaches found).1 ev mem
  cases isFor_of_performs performed answer
  have honest := claim _ pool 1 _ past rest (.empty _ _) (beforeExit_exitsIn _) reaches found ev mem
  exact foreign (honest.own 1 answer)

end TollBackend

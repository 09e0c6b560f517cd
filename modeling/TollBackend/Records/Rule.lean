import TollBackend.CommitHistory.Exits

/-!
# Properties of all records

Requests make records from check-ins and rows, and change them in a few ways before they save
them again. A property of records that these changes keep is one of every record in the cache,
in KeyDB and on its way there, and of every record that a checkout event is made from.

## Main definitions

* `RecordRule`: a property that requests keep when they make or change a record.
* `RecordsIn`: every record has the property, and stands under a key that fits it.

## Main results

* `RecordRule.recordsIn_of_reaches`: every run keeps the property.
* `RecordRule.sent_of_reaches`: the record of a checkout event has it.
-/

namespace TollBackend

open Concurrent

/-- What requests do to a record keeps `P`. The fee lines that a check-in commit finds are
taken to satisfy `Q`. -/
structure RecordRule (P : Etdr → Prop) (Q : List BooRatingDetail → Prop) : Prop where
  entered : ∀ req subscriberInfo exVehicleType ticketId now,
    P (checkinEtdr req subscriberInfo exVehicleType ticketId now)
  unsaved : ∀ e, P e → P { e with
    check := saveDbError, dbSaved := false, dbSaveRetryCount := e.dbSaveRetryCount + 1 }
  fromStage : ∀ row now, P (.fromTransportTransactionStage row now)
  filled : ∀ e sync now, P e → P (fillEtdrFromSync e sync now)
  hubId : ∀ e hubId, P e → P { e with hubId := some hubId }
  touched : ∀ e now, P e → P (EtdrWrite.touched e now).etdr
  noLines : Q []
  committed : ∀ e now details dbSaved, P e → Q details →
    P (EtdrWrite.checkinCommitted e now details dbSaved).etdr
  reserved : ∀ e req transAmount priceTicketType now, P e →
    P (EtdrWrite.checkoutReserved e req transAmount priceTicketType now).etdr
  merged : ∀ a b, P a → P b → P (mergeEtdrSameTicketId a b)
  saved : ∀ e, P e → P { e with dbSaved := true }
  counted : ∀ e, P e → P { e with dbSaveRetryCount := e.dbSaveRetryCount + 1 }
  readBack : ∀ e, P e → P e.readBack

/-- Every record satisfies `P` and fits the key it stands under. -/
structure RecordsIn (P : Etdr → Prop) (s : Sys) : Prop where
  cached : ∀ key e, s.cache.Cached key e → P e
  keydb : ∀ key e, (key, e) ∈ s.keydb → P e ∧ key.Fits e
  spawned : ∀ write ∈ s.spawned, P write.etdr

/-- The fee lines that are found satisfy `Q`. -/
def LinesFound (Q : List BooRatingDetail → Prop) (o : Op) (c : Choice) : Prop :=
  match o with
  | .ask (.ratingDetailCached _) => Q c.ratingDetails
  | _ => True

instance (Q : List BooRatingDetail → Prop) [DecidablePred Q] (o : Op) (c : Choice) :
    Decidable (LinesFound Q o c) := by
  induction o using Op.casesOn with
  | ask q => induction q using Query.casesOn <;> (unfold LinesFound; infer_instance)
  | _ => unfold LinesFound; infer_instance

/-! ### One operation -/

/-- What the operation writes satisfies `P`. -/
def Op.Writes (P : Etdr → Prop) : Op → Prop
  | .saveEtdr write => P write.etdr
  | .saveEtdrToMemoryOnly etdr => P etdr
  | .keydbSet key etdr => P etdr ∧ key.Fits etdr
  | _ => True

/-- The record of a checkout event satisfies `P`. -/
def Op.Sends (P : Etdr → Prop) : Op → Prop
  | .sendKafka (.checkout etdr _) => P etdr
  | _ => True

variable {P : Etdr → Prop} {Q : List BooRatingDetail → Prop} {s : Sys} {o : Op} {c : Choice}

/-- Operations keep the property. -/
theorem RecordsIn.exec (rule : RecordRule P Q) (records : RecordsIn P s) (written : o.Writes P) :
    RecordsIn P (o.exec c s).2 where
  cached key e cached := by
    rcases cached_of_exec cached with old | write
    · exact records.cached key e old
    · cases write with
      | save write c => exact written
      | saveToMemory etdr c => exact written
      | fill etag sync c old => exact rule.filled _ _ _ (records.cached _ _ old)
      | hubId hubId c old => exact rule.hubId _ _ (records.cached _ _ old)
  keydb key e mem := by
    rcases keydb_of_exec mem with old | ⟨etdr, rfl, rfl⟩
    · exact records.keydb key e old
    · exact ⟨rule.readBack etdr written.1, written.2⟩
  spawned write mem := by
    rcases spawned_of_exec mem with old | new
    · exact records.spawned write old
    · cases new with
      | save write => exact written
      | hubId ticketId hubId old => exact rule.hubId _ _ (records.cached _ _ old)

/-! ### The contract -/

/-- Requests write and send only records that satisfy `P`. -/
def recordContract (P : Etdr → Prop) (Q : List BooRatingDetail → Prop) : Contract backend where
  inv := RecordsIn P
  rely _ _ _ _ := True
  may _ _ o c _ := LinesFound Q o c
  must _ _ o _ _ := o.Sends P
  rely_refl _ _ _ := trivial
  rely_trans _ _ _ _ _ _ _ := trivial

/-- The operation writes and sends only records that satisfy `P`. -/
def RecordOp (P : Etdr → Prop) (o : Op) : Prop :=
  o.Writes P ∧ o.Sends P

variable {req : Req} {trace : List (Event Op Choice Sys)} {α : Type}

theorem recordOp_ask (q : Query) : RecordOp P (.ask q) := ⟨trivial, trivial⟩

theorem recordOp_answer (a : Answer) : (perform (.answer a)).Only (RecordOp P) :=
  (only_perform _).mpr ⟨trivial, trivial⟩

namespace RecordRule

variable (rule : RecordRule P Q)
include rule

theorem safe_of_only {p : Program α} (only : p.Only (RecordOp P)) :
    (recordContract P Q).Safe req p (fun _ _ _ => True) trace s :=
  Contract.safe_of_only only trivial (fun _ _ _ _ _ _ => trivial) fun _ _ _ _ op _ inv _ =>
    ⟨op.2, inv.exec rule op.1, trivial⟩

/-- One operation, and what follows it. -/
theorem safe_perform {next : o.Res → Program α}
    {post : α → List (Event Op Choice Sys) → Sys → Prop}
    (own : ∀ c s, RecordsIn P s → LinesFound Q o c → RecordOp P o ∧
      (recordContract P Q).Safe req (next (o.exec c s).1) post (trace ++ [⟨o, c, s⟩])
        (o.exec c s).2) :
    (recordContract P Q).Safe req (perform o >>= next) post trace s := by
  apply Contract.safe_perform_bind.mpr
  intro s' _ records c found
  obtain ⟨op, rest⟩ := own c s' records found
  exact ⟨op.2, records.exec rule op.1, rest⟩

theorem safe_ask {q : Query} {next : q.Reply → Program α}
    {post : α → List (Event Op Choice Sys) → Sys → Prop}
    (rest : ∀ c s tr, RecordsIn P s → LinesFound Q (.ask q) c →
      (recordContract P Q).Safe req (next (q.reply c s)) post tr s) :
    (recordContract P Q).Safe req (ask q >>= next) post trace s :=
  rule.safe_perform fun c s records found => ⟨recordOp_ask q, rest c s _ records found⟩

/-! ### Lookups -/

/-- A lookup handles only records that satisfy `P`. -/
theorem lookupKept : LookupKept (recordContract P Q) req (RecordsIn P)
    ⟨⟨fun _ => True, fun _ => True⟩, fun _ => True, P⟩ where
  others _ _ _ _ _ inv := inv
  read tr s o c read records _ _ := by
    have op : RecordOp P o := by cases read <;> exact ⟨trivial, trivial⟩
    exact ⟨op.2, records.exec rule op.1, records.exec rule op.1⟩
  save tr s write c ok records _ _ :=
    ⟨trivial, records.exec rule ok, records.exec rule ok⟩
  normalized _ _ := trivial
  sync _ _ _ _ _ _ _ _ _ := trivial
  latest _ _ _ _ _ _ _ := trivial
  byId _ _ _ _ _ _ _ _ := trivial
  record row now _ := rule.fromStage row now
  cached s key e _ records cached := records.cached key e cached

/-! ### Requests -/

theorem checkin_record (call : CheckinCall) : (processCheckin call).Only (RecordOp P) := by
  have entered : ∀ {etdr}, CheckinRecord call etdr → P etdr := by
    rintro _ ⟨subscriberInfo, exVehicleType, ticketId, now⟩
    exact rule.entered _ _ _ _ _
  refine (processCheckin_performs call).mono fun o op => ?_
  cases op with
  | ask q => exact recordOp_ask q
  | insertRow own ticketId id subscriberInfo now => exact ⟨trivial, trivial⟩
  | saved own => exact ⟨rule.saved _ (entered own), trivial⟩
  | unsaved own => exact ⟨rule.unsaved _ (entered own), trivial⟩
  | answer status ticketId => exact ⟨trivial, trivial⟩

/-- The fee lines that a check-in commit adds to a record satisfy `Q`. -/
theorem commitOutcome_record (etdr : Etdr) (updated : DbResult Bool) :
    (recordContract P Q).Safe req (commitOutcome etdr updated)
      (fun outcome _ _ => Q outcome.2.1) trace s := by
  apply rule.safe_ask
  intro c s tr _ _
  split
  · apply Contract.safe_bind.mpr
    unfold ratingDetailsIfEmpty
    split
    · rintro s' - records c' found
      exact ⟨trivial, records, found⟩
    · exact rule.noLines
  · exact rule.noLines

theorem finishCommit_record (commit : FeCommitIn) {etdr : Etdr} (ok : P etdr)
    (updated : DbResult Bool) :
    (recordContract P Q).Safe req (finishCommit commit etdr updated) (fun _ _ _ => True)
      trace s := by
  apply Contract.safe_bind.mpr
  refine (rule.commitOutcome_record etdr updated).mono fun outcome tr s lines => ?_
  apply rule.safe_of_only
  refine (only_perform_bind _ _).mpr ⟨⟨rule.committed _ _ _ _ ok lines, trivial⟩, fun _ => ?_⟩
  exact (only_perform_bind _ _).mpr ⟨⟨trivial, trivial⟩, fun _ => recordOp_answer _⟩

theorem commitEtdr_record (commit : FeCommitIn) {etdr : Etdr} (ok : P etdr) (now : Clock) :
    (recordContract P Q).Safe req (commitEtdr commit etdr now) (fun _ _ _ => True) trace s := by
  have refused : ∀ status tr s, (recordContract P Q).Safe req
      (perform (.answer (.commit commit status etdr.ticketId))) (fun _ _ _ => True) tr s :=
    fun _ _ _ => rule.safe_of_only (recordOp_answer _)
  apply rule.safe_ask
  intro c s tr _ _
  split
  · split
    · exact refused _ _ _
    · apply Contract.safe_bind.mpr
      refine (rule.safe_of_only (duplicateTicketInId_only recordOp_ask _ _)).mono ?_
      intro isDuplicate tr s _
      split
      · exact refused _ _ _
      · apply rule.safe_perform
        intro c s _ _
        exact ⟨⟨trivial, trivial⟩, rule.finishCommit_record commit ok _⟩
  · exact refused _ _ _

theorem commit_record (commit : FeCommitIn) :
    (recordContract P Q).Safe req (processCommit commit) (fun _ _ _ => True) trace s := by
  have refused : ∀ status t tr s, (recordContract P Q).Safe req
      (perform (.answer (.commit commit status t))) (fun _ _ _ => True) tr s :=
    fun _ _ _ _ => rule.safe_of_only (recordOp_answer _)
  apply rule.safe_ask
  intro c s tr _ _
  split
  · apply rule.safe_perform
    intro c s records _
    refine ⟨⟨trivial, trivial⟩, ?_⟩
    split
    · exact refused _ _ _ _
    · next etdr cached =>
      have ok : P etdr := records.cached _ _ (EtdrCache.getLatestCheckin_cached cached)
      apply rule.safe_of_only
      refine (only_ask_bind _ _).mpr ⟨recordOp_ask _, fun env => ?_⟩
      exact (only_perform_bind _ _).mpr ⟨⟨rule.touched _ _ ok, trivial⟩, fun _ =>
        recordOp_answer _⟩
  · split
    · apply rule.safe_ask
      intro c s tr records _
      apply Contract.safe_bind.mpr
      refine (rule.lookupKept.resolveLatestEtdr trivial records).mono ?_
      rintro latest tr s ⟨-, ok⟩
      split
      · exact refused _ _ _ _
      · next etdr =>
        split
        · exact refused _ _ _ _
        · exact rule.commitEtdr_record commit (ok etdr rfl) _
    · split
      · exact refused _ _ _ _
      · exact refused _ _ _ _

theorem reserveEtdr_record (reserve : CheckoutReserveBoo) {etdr : Etdr} (ok : P etdr)
    (transAmount : Int) (details : List RatingDetail) :
    (reserveEtdr reserve etdr transAmount details).Only (RecordOp P) := by
  refine (only_ask_bind _ _).mpr ⟨recordOp_ask _, fun subscriberInfo => ?_⟩
  refine (only_ask_bind _ _).mpr ⟨recordOp_ask _, fun env => ?_⟩
  refine (only_perform_bind _ _).mpr ⟨⟨rule.reserved _ _ _ _ _ ok, trivial⟩, fun _ => ?_⟩
  refine (only_ask_bind _ _).mpr ⟨recordOp_ask _, fun env' => ?_⟩
  refine Prog.Only.bind ?_ fun accountTransId => ?_
  · unfold chargeAccount
    split
    · refine (only_perform_bind _ _).mpr ⟨⟨trivial, trivial⟩, fun r => ?_⟩
      split <;> trivial
    · trivial
  · refine (only_perform_bind _ _).mpr ⟨⟨trivial, trivial⟩, fun _ => ?_⟩
    refine Prog.Only.bind ?_ fun _ => recordOp_answer _
    refine (only_ask_bind _ _).mpr ⟨recordOp_ask _, fun saved => ?_⟩
    split
    · trivial
    · exact (only_perform _).mpr ⟨trivial, trivial⟩

theorem reserve_record (reserve : CheckoutReserveBoo) (records : RecordsIn P s) :
    (recordContract P Q).Safe req (processCheckoutReserve reserve) (fun _ _ _ => True)
      trace s := by
  have refused : ∀ status t tr s, (recordContract P Q).Safe req
      (perform (.answer (.reserve reserve status t))) (fun _ _ _ => True) tr s :=
    fun _ _ _ _ => rule.safe_of_only (recordOp_answer _)
  apply Contract.safe_bind.mpr
  refine (rule.lookupKept.resolveLatestEtdr trivial records).mono ?_
  rintro latest tr s ⟨-, ok⟩
  split
  · exact refused _ _ _ _
  · next etdr =>
    split
    · exact refused _ _ _ _
    · apply rule.safe_ask
      intro c s tr _ _
      split
      · exact rule.safe_of_only (rule.reserveEtdr_record reserve (ok etdr rfl) _ _)
      · apply rule.safe_ask
        intro c s tr _ _
        split
        · exact rule.safe_of_only (rule.reserveEtdr_record reserve (ok etdr rfl) _ _)
        · exact refused _ _ _ _

omit rule in
theorem commitStage_record (commit : CheckoutCommitBoo) {etdr : Etdr} (ok : P etdr)
    (stage : TransportTransactionStage) (ticketId : Int) :
    (commitStage commit etdr stage ticketId).Only (RecordOp P) := by
  refine (only_ask_bind _ _).mpr ⟨recordOp_ask _, fun env => Prog.Only.bind ?_ fun _ => ?_⟩
  · unfold commitAccount
    split
    · trivial
    · split
      · refine (only_ask_bind _ _).mpr ⟨recordOp_ask _, fun data => ?_⟩
        split
        · split
          · exact (only_perform_bind _ _).mpr ⟨⟨trivial, trivial⟩, fun _ => trivial⟩
          · trivial
        · trivial
      · trivial
  · refine (only_perform_bind _ _).mpr ⟨⟨trivial, trivial⟩, fun _ => ?_⟩
    -- the only event that is made from a record with an exit
    refine (only_perform_bind _ _).mpr ⟨⟨trivial, ok⟩, fun _ => ?_⟩
    refine Prog.Only.bind ?_ fun _ => recordOp_answer _
    refine (only_perform_bind _ _).mpr ⟨⟨trivial, trivial⟩, fun _ => ?_⟩
    exact (only_perform_bind _ _).mpr ⟨⟨trivial, trivial⟩, fun _ =>
      (only_perform _).mpr ⟨trivial, trivial⟩⟩

theorem checkoutCommitRecord_record (commit : CheckoutCommitBoo) (ticketId : Int) :
    (recordContract P Q).Safe req (checkoutCommitRecord commit ticketId)
      (fun record _ _ => ∀ e ∈ record, P e) trace s := by
  apply rule.safe_perform
  intro c s records _
  refine ⟨⟨trivial, trivial⟩, ?_⟩
  have after : RecordsIn P ((Op.cacheGetByTicketId ticketId).exec c s).2 :=
    records.exec rule trivial
  split
  · next etdr cached =>
    obtain ⟨⟨key, old⟩, -⟩ := EtdrCache.getByTicketId_cached cached
    intro e found
    cases found
    exact records.cached key _ old
  · apply Contract.safe_bind.mpr
    refine (rule.lookupKept.resolveLatestEtdr trivial after).mono ?_
    rintro latest tr s ⟨-, ok⟩ e found
    exact ok e (Option.filter_eq_some_iff.mp found).1

theorem checkoutCommit_record (commit : CheckoutCommitBoo) (records : RecordsIn P s) :
    (recordContract P Q).Safe req (processCheckoutCommit commit) (fun _ _ _ => True)
      trace s := by
  have refused : ∀ t tr s, (recordContract P Q).Safe req
      (perform (.answer (.checkoutCommit commit notFoundRouteTransaction t)))
      (fun _ _ _ => True) tr s := fun _ _ _ => rule.safe_of_only (recordOp_answer _)
  have ticket : (recordContract P Q).Safe req (checkoutCommitTicket commit)
      (fun _ _ _ => True) trace s := by
    unfold checkoutCommitTicket
    split
    · trivial
    · exact Contract.safe_bind.mpr ((rule.lookupKept.resolveLatestEtdr trivial records).mono
        fun _ _ _ _ => trivial)
  refine Contract.safe_bind.mpr (ticket.mono fun t tr s _ => ?_)
  split
  · exact refused _ _ _
  · refine Contract.safe_bind.mpr ((rule.checkoutCommitRecord_record commit t).mono ?_)
    intro record tr s ok
    split
    · exact refused _ _ _
    · next etdr =>
      unfold checkoutCommitEtdr
      split
      · exact refused _ _ _
      · apply rule.safe_ask
        intro c s tr _ _
        split
        · exact rule.safe_of_only (commitStage_record commit (ok etdr rfl) _ t)
        · exact refused _ _ _

/-! ### Background tasks -/

theorem retryRecord_record (key : KeydbKey) {etdr : Etdr} (ok : P etdr) :
    (retryRecord key etdr).Only (RecordOp P) := by
  have attempt : (retrySaveEtdrToDb etdr).Only (RecordOp P) :=
    (retrySaveEtdrToDb_only etdr).mono fun o op => by cases op <;> exact ⟨trivial, trivial⟩
  refine attempt.bind fun saved => ?_
  split
  · refine (only_perform_bind _ _).mpr ⟨⟨trivial, trivial⟩, fun _ => ?_⟩
    split
    · exact (only_perform_bind _ _).mpr ⟨⟨trivial, trivial⟩, fun _ =>
        (only_perform _).mpr ⟨trivial, trivial⟩⟩
    · have done : P { etdr with dbSaved := true } := rule.saved _ ok
      refine (only_perform_bind _ _).mpr ⟨⟨⟨done, fun t eq => by cases eq⟩, trivial⟩, fun _ => ?_⟩
      exact (only_perform _).mpr ⟨done, trivial⟩
  · unfold retryFailed
    dsimp only
    split
    · exact (only_perform_bind _ _).mpr ⟨⟨trivial, trivial⟩, fun _ =>
        (only_perform _).mpr ⟨trivial, trivial⟩⟩
    · exact (only_perform _).mpr ⟨⟨rule.counted _ ok, fun t eq => by cases eq; rfl⟩, trivial⟩

theorem retryFirstUnlocked_record {toSave : List (KeydbKey × Etdr)}
    (ok : ∀ kv ∈ toSave, P kv.2) : (retryFirstUnlocked toSave).Only (RecordOp P) := by
  induction toSave with
  | nil => trivial
  | cons kv rest ih =>
    refine (only_ask_bind _ _).mpr ⟨recordOp_ask _, fun locked => ?_⟩
    split
    · exact rule.retryRecord_record _ (ok kv List.mem_cons_self)
    · exact ih fun kv' mem => ok kv' (List.mem_cons_of_mem kv mem)

theorem etdrsFromKeydb_record :
    (recordContract P Q).Safe req etdrsFromKeydbForDbSync
      (fun found _ _ => ∀ kv ∈ found, P kv.2) trace s := by
  have nothing : ∀ tr s, (recordContract P Q).Safe req
      (pure [] : Program (List (KeydbKey × Etdr))) (fun found _ _ => ∀ kv ∈ found, P kv.2) tr s :=
    fun _ _ kv mem => absurd mem List.not_mem_nil
  apply rule.safe_ask
  intro c s tr _ _
  split
  · exact nothing _ _
  · apply rule.safe_ask
    intro c s tr _ _
    dsimp only
    split
    · exact nothing _ _
    · apply rule.safe_ask
      intro c s tr records _
      split
      · exact nothing _ _
      · next values read =>
        intro kv mem
        obtain ⟨key, stored⟩ := mem_keydb_of_getMany read (mem_of_unsaved mem)
        exact (records.keydb key kv.2 stored).1

theorem retryCycle_record :
    (recordContract P Q).Safe req etdrDbRetryCycle (fun _ _ _ => True) trace s := by
  apply Contract.safe_bind.mpr
  refine rule.etdrsFromKeydb_record.mono fun fromKeydb tr s inKeydb => ?_
  apply rule.safe_ask
  intro c s tr records _
  have inMemory : ∀ etdr ∈ Query.unsavedFromMemory.reply c s, P etdr := by
    intro etdr mem
    obtain ⟨⟨key, e⟩, unsaved, rfl⟩ := List.mem_map.mp mem
    exact records.cached key e (EtdrCache.cached_of_getAllUnsavedEtdrs unsaved)
  apply rule.safe_ask
  intro c s tr _ _
  apply rule.safe_of_only
  refine rule.retryFirstUnlocked_record
    (dedupeByTicketId_forall (fun a b old new _ => rule.merged a b old new) _ fun kv mem => ?_)
  rcases List.mem_append.mp mem with old | new
  · exact inKeydb kv old
  · obtain ⟨etdr, here, rfl⟩ := List.mem_map.mp new
    exact inMemory etdr here

theorem syncKeydb_record :
    (recordContract P Q).Safe req syncEtdrToKeydb (fun _ _ _ => True) trace s := by
  have setEtag : ∀ etag etdr, P etdr →
      (perform (.keydbSet (.etag etag) etdr)).Only (RecordOp P) :=
    fun _ _ ok => (only_perform _).mpr ⟨⟨ok, fun _ eq => by cases eq⟩, trivial⟩
  apply rule.safe_perform
  intro c s records _
  refine ⟨⟨trivial, trivial⟩, ?_⟩
  split
  · trivial
  · next etdr taken =>
    exact rule.safe_of_only (setEtag _ etdr (records.spawned _ (List.mem_of_getElem? taken)))
  · next etdr taken =>
    have ok : P etdr := records.spawned _ (List.mem_of_getElem? taken)
    dsimp only
    split
    · apply rule.safe_ask
      intro c s tr records _
      apply rule.safe_of_only
      have stored : ∀ e ∈ (Query.keydbGet (.retry etdr.ticketId)).reply c s,
          P e ∧ e.ticketId = etdr.ticketId := by
        intro e read
        simp only [Query.reply] at read
        split at read
        · cases read
        · obtain ⟨ok, fits⟩ := records.keydb _ e (mem_keydb_of_lookup read)
          exact ⟨ok, fits _ rfl⟩
      refine (only_perform_bind _ _).mpr ⟨⟨?_, trivial⟩, fun _ => setEtag _ etdr ok⟩
      cases read : (Query.keydbGet (.retry etdr.ticketId)).reply c s with
      | none => exact ⟨ok, fun t eq => by cases eq; rfl⟩
      | some e =>
        obtain ⟨ok', same⟩ := stored e read
        refine ⟨rule.merged _ _ ok' ok, fun t eq => ?_⟩
        cases eq
        exact mergeEtdrSameTicketId_ticketId same
    · exact rule.safe_of_only (setEtag _ etdr ok)

/-- Every request keeps the contract. -/
theorem program_record (req : Req) (records : RecordsIn P s) :
    (recordContract P Q).Safe req req.program (fun _ _ _ => True) [] s := by
  cases req with
  | checkin call => exact rule.safe_of_only (rule.checkin_record call)
  | commit commit => exact rule.commit_record commit
  | reserve reserve => exact rule.reserve_record reserve records
  | checkoutCommit commit => exact rule.checkoutCommit_record commit records
  | rollback rollback => exact rule.safe_of_only (recordOp_answer _)
  | lookup etag =>
    exact Contract.safe_bind.mpr ((rule.lookupKept.lookup trivial records).mono
      fun _ _ _ _ => trivial)
  | retryCycle => exact rule.retryCycle_record
  | syncKeydb => exact rule.syncKeydb_record
  | hubUpdate ticketId hubId =>
    exact rule.safe_of_only ((only_perform_bind _ _).mpr ⟨⟨trivial, trivial⟩, fun _ =>
      (only_perform _).mpr ⟨trivial, trivial⟩⟩)

theorem recordContract_sound :
    (recordContract P Q).Sound (System.EachAct fun _ _ o c _ => LinesFound Q o c) where
  start _ req records _ := rule.program_record req records
  own _ _ _ req trace o next meets found := meets req trace o next found
  others _ _ _ _ _ _ _ _ _ _ _ _ _ _ _ _ _ _ := trivial

/-! ### Runs -/

variable {pool : BackendPool}
  (reaches : backend.Reaches (System.EachAct fun _ _ o c _ => LinesFound Q o c) (Pool.init s) pool)
include reaches

/-- Every record of a run satisfies `P`. -/
theorem recordsIn_of_reaches (initial : RecordsIn P s) : RecordsIn P pool.state :=
  (rule.recordContract_sound.holds_of_reaches initial reaches).1

/-- The record of a checkout event that is about to be sent satisfies `P`. -/
theorem sent_of_reaches (initial : RecordsIn P s) {i : Nat} {etdr : Etdr} {at_ : Int}
    {next : Unit → Program Unit}
    (found : pool.tasks[i]? = some ⟨req, trace, .op (.sendKafka (.checkout etdr at_)) next⟩) :
    P etdr := by
  have allowed : System.EachAct (fun _ _ o c _ => LinesFound Q o c) pool (.act i default) := by
    intro req' trace' o' next' found'
    cases found.symm.trans found'
    trivial
  exact rule.recordContract_sound.must_of_reaches initial reaches allowed found

end RecordRule

end TollBackend

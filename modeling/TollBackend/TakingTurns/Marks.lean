import TollBackend.TakingTurns.Tickets

/-!
# Times that stay set

A reserve sets the exit time of a trip, and a checkout commit the time of the commit. The row
and every cached record of the trip then keep it, whatever lookups of its tag do.

## Main definitions

* `Mark`: a time of a trip that stands in a record, in a row, and in a sync record, and what is
  done only with trips that have it.
* `Marked`: a ticket has the time in the table and wherever it is cached.
* `Mark.Settled`: a ticket is marked once it was done.
* `SameLedger`: nothing was charged, committed, sent or answered.

## Main results

* `Mark.LeavesLookups.keptBy`: lookups keep tickets settled.
-/

namespace TollBackend

open Concurrent

variable {req : Req} {s s' : Sys} {t : Int} {trace tr : Past} {c : Choice} {o : Op}

/-! ### The ledger -/

/-- What has been charged, committed, sent and answered is the same. -/
structure SameLedger (s s' : Sys) : Prop where
  accounts : s'.accounts = s.accounts
  accountCommits : s'.accountCommits = s.accountCommits
  kafka : s'.kafka = s.kafka
  answers : s'.answers = s.answers

theorem SameLedger.refl (s : Sys) : SameLedger s s :=
  ⟨rfl, rfl, rfl, rfl⟩

theorem sameLedger_of_lookup (op : LookupOp o) (c : Choice) (s : Sys) :
    SameLedger s (o.exec c s).2 := by
  cases op with
  | insertRow stage =>
    simp only [Op.exec]
    split
    · -- a failed statement may have had its effect, which is one on the rows only
      next stages _ =>
      rcases statement_snd c () s { s with stages := stages } with ok | error
      · rw [ok]
        exact ⟨rfl, rfl, rfl, rfl⟩
      · rw [error]
        exact .refl s
    · exact .refl s
  | _ => exact ⟨rfl, rfl, rfl, rfl⟩

theorem LookupRead.lookupOp {scope : LookupScope} (read : LookupRead scope o) : LookupOp o := by
  cases read <;> constructor

/-- The commands to KeyDB about one key. -/
inductive KeyCommand : Op → Prop
  | setPending (id : Int) (list : List TransportTransStageTcd) : KeyCommand (.setPendingTcd id list)
  | removePending (id : Int) : KeyCommand (.removePendingTcd id)
  | removeKey (key : KeydbKey) : KeyCommand (.keydbRemove key)

/-- Such a command leaves the cache and the ledger alone. -/
theorem KeyCommand.same (command : KeyCommand o) (c : Choice) (s : Sys) :
    (o.exec c s).2.cache = s.cache ∧ SameLedger s (o.exec c s).2 := by
  cases command <;> (simp only [Op.exec]; split) <;> exact ⟨rfl, rfl, rfl, rfl, rfl⟩

/-! ### Marked tickets -/

/-- A time of a trip that stands in a record, in a row, and in a sync record; and what is done
only with trips that have it, as far as the ledger tells. -/
structure Mark where
  time : Etdr → Int
  column : TransportTransactionStage → Option DbDatetime
  syncColumn : TransportTransStageSync → Option DbDatetime
  done : Int → Sys → Prop
  fromStage : ∀ row now, time (.fromTransportTransactionStage row now) = millisOrZero (column row)
  selected : ∀ row, column row.selectRow = column row
  filled : ∀ e sync now, time (fillEtdrFromSync e sync now) =
    ((syncColumn sync).map DbDatetime.timestampMillis).getD (time e)
  time_withoutHub : ∀ e, time e.withoutHub = time e
  column_withoutHub : ∀ row, column row.withoutHub = column row
  done_of_same : ∀ t s s', SameTicket t s s' → done t s' → done t s
  done_of_ledger : ∀ t s s', SameLedger s s' → done t s' → done t s

/-- The time of the exit. Only trips that have it are charged. -/
def exitMark : Mark where
  time e := e.checkoutDatetime
  column row := row.checkoutDatetime
  syncColumn sync := sync.checkoutDatetime
  done t s := s.accountsOf t ≠ []
  fromStage _ _ := rfl
  selected _ := rfl
  filled _ _ _ := rfl
  time_withoutHub _ := rfl
  column_withoutHub _ := rfl
  done_of_same _ _ _ same charged := by rwa [← same.accounts]
  done_of_ledger t _ _ same charged := by rwa [Sys.accountsOf, same.accounts] at charged

/-- The time of the checkout commit. Only trips that have it are sent to Kafka or answered
with success. -/
def commitMark : Mark where
  time e := e.checkoutCommitDatetime
  column row := row.checkoutCommitDatetime
  syncColumn sync := sync.checkoutCommitDatetime
  done t s := s.checkoutEvents t ≠ [] ∨ s.commitAnswers t ≠ []
  fromStage _ _ := rfl
  selected _ := rfl
  filled _ _ _ := rfl
  time_withoutHub _ := rfl
  column_withoutHub _ := rfl
  done_of_same _ _ _ same committed := by rwa [same.events, same.answers] at committed
  done_of_ledger _ _ _ same committed := by
    rwa [Sys.checkoutEvents, Sys.commitAnswers, same.kafka, same.answers] at committed

/-- The sync record has no zero time. -/
def Mark.Set (m : Mark) (sync : TransportTransStageSync) : Prop :=
  ∀ d ∈ m.syncColumn sync, d.timestampMillis ≠ 0

instance (m : Mark) : DecidablePred m.Set := fun sync => by
  unfold Mark.Set; infer_instance

/-- The ticket has the time in the table and wherever it is cached. -/
structure Marked (m : Mark) (t : Int) (s : Sys) : Prop where
  row : ∃ row, s.stages.row? t = some row ∧ millisOrZero (m.column row) ≠ 0
  cached : ∀ key e, s.cache.Cached key e → e.ticketId = t → m.time e ≠ 0

/-- The ticket is marked once it was done. -/
def Mark.Settled (m : Mark) (t : Int) (s : Sys) : Prop :=
  m.done t s → Marked m t s

/-- The tickets that a request has met are settled. -/
abbrev AllSettled (m : Mark) (trace : Past) (s : Sys) : Prop :=
  byTicket.AllIdle m.Settled trace s

variable {m : Mark}

theorem Marked.of_same (marked : Marked m t s) (same : SameTicket t s s') : Marked m t s' where
  row := by
    obtain ⟨row, stored, time⟩ := marked.row
    have found := same.row
    rw [stored, Option.map_some] at found
    obtain ⟨row', stored', eq⟩ := Option.map_eq_some_iff.mp found
    refine ⟨row', stored', ?_⟩
    rwa [← m.column_withoutHub, eq, m.column_withoutHub]
  cached key e' cached ticket := by
    obtain ⟨e, old, eq⟩ := same.cached key e' cached ticket
    rw [← m.time_withoutHub, ← eq, m.time_withoutHub]
    exact marked.cached key e old ((congrArg Etdr.ticketId eq).trans ticket)

theorem settled_of_same (t : Int) (s s' : Sys) (settled : m.Settled t s)
    (same : SameTicket t s s') : m.Settled t s' :=
  fun done => (settled (m.done_of_same t s s' same done)).of_same same

/-- Operations of a lookup other than saves keep a ticket marked. -/
theorem Marked.read {scope : LookupScope} (marked : Marked m t s) (read : LookupRead scope o)
    (filled : ∀ etag refTransId sync, o = .cacheFillFromSync etag refTransId sync → m.Set sync) :
    Marked m t (o.exec c s).2 where
  row := by
    obtain ⟨row, stored, time⟩ := marked.row
    obtain ⟨row', found, rfl | write⟩ := row?_of_exec (o := o) (c := c) stored
    · exact ⟨row', found, time⟩
    · -- a lookup changes no row that exists
      cases read <;> cases write
  cached key e cached ticket := by
    rcases cached_of_exec cached with old | write
    · exact marked.cached key e old ticket
    · cases write with
      | @fill etag sync c e old =>
        rw [fillEtdrFromSync_ticketId] at ticket
        have time : m.time e ≠ 0 := marked.cached _ e old ticket
        rw [m.filled]
        -- a null column leaves the time that the record has
        cases column : m.syncColumn sync with
        | none => exact time
        | some d => exact filled _ _ _ rfl d column
      | save write c => cases read
      | saveToMemory e c => cases read
      | hubId hubId c old => cases read

/-- Saving a record that has the time keeps a ticket marked. -/
theorem Marked.put {e : Etdr} (marked : Marked m t s) (put : CachePut e s s')
    (time : e.ticketId = t → m.time e ≠ 0) : Marked m t s' where
  row := by
    rw [put.stages]
    exact marked.row
  cached key e' cached ticket := by
    rcases put.cached key e' cached with ⟨-, rfl⟩ | old
    · exact time ticket
    · exact marked.cached key e' old ticket

/-! ### Lookups -/

/-- What a lookup knows: the rows and records that it has read have the time, if their tickets
are done. -/
def Mark.facts (m : Mark) : LookupFacts where
  tag _ := True
  sync _ := True
  holds := AllSettled m
  row trace s row := row.transportTransId ∈ byTicket.usedIn trace ∧
    (m.done row.transportTransId s → millisOrZero (m.column row) ≠ 0)
  etdr trace s e := e.ticketId ∈ byTicket.usedIn trace ∧ (m.done e.ticketId s → m.time e ≠ 0)
  filled trace s e := e.ticketId ∈ byTicket.usedIn trace ∧ (m.done e.ticketId s → m.time e ≠ 0)

/-- The rest of a contract under which lookups keep tickets settled: it speaks of the ledger,
asks nothing of a lookup, and allows it to fill only from sync records without zero times. -/
structure Mark.LeavesLookups (m : Mark) (inv : Sys → Prop)
    (P must : Req → Past → Op → Choice → Sys → Prop) : Prop where
  ledger : ∀ s s', SameLedger s s' → inv s → inv s'
  must : ∀ req trace o c s, LookupOp o → must req trace o c s
  filled : ∀ req trace etag refTransId sync c s,
    P req trace (.cacheFillFromSync etag refTransId sync) c s → m.Set sync

/-- The contract of a request that takes its turn with each ticket, and leaves it settled. -/
abbrev Mark.contract (m : Mark) (inv : Sys → Prop)
    (P must : Req → Past → Op → Choice → Sys → Prop) : Contract backend :=
  byTicket.contract (fun s => s.cache.WellFormed ∧ inv s) m.Settled P must

variable {inv : Sys → Prop} {P must : Req → Past → Op → Choice → Sys → Prop}

theorem Mark.facts_lasts (used : ∀ t ∈ byTicket.usedIn trace, t ∈ byTicket.usedIn tr)
    (undone : ∀ t ∈ byTicket.usedIn trace, m.done t s' → m.done t s) (holds : AllSettled m tr s') :
    m.facts.Lasts trace s tr s' where
  holds := holds
  row _ known := ⟨used _ known.1, fun done => known.2 (undone _ known.1 done)⟩
  etdr _ known := ⟨used _ known.1, fun done => known.2 (undone _ known.1 done)⟩

/-- An operation that leaves the ledger alone and keeps tickets settled keeps what is known. -/
theorem Mark.facts_lasts_exec (same : SameLedger s (o.exec c s).2)
    (holds : AllSettled m (trace ++ [⟨o, c, s⟩]) (o.exec c s).2) :
    m.facts.Lasts trace s (trace ++ [⟨o, c, s⟩]) (o.exec c s).2 :=
  m.facts_lasts (fun _ used => Keyed.mem_usedIn_append_singleton.mpr (.inl used))
    (fun t _ => m.done_of_ledger t s _ same) holds

/-- A row that is read has the time, if its ticket is done. -/
theorem Mark.known_of_row (m : Mark) {row : TransportTransactionStage}
    (holds : AllSettled m trace s) (may : (m.contract inv P must).may req trace o c s)
    (mem : row.transportTransId ∈ o.tickets c s)
    (stored : s.stages.row? row.transportTransId = some row) :
    m.facts.row (trace ++ [⟨o, c, s⟩]) s row.selectRow := by
  have used : row.transportTransId ∈ byTicket.usedIn (trace ++ [⟨o, c, s⟩]) :=
    Keyed.mem_usedIn_append_singleton.mpr (.inr mem)
  refine ⟨used, fun done => ?_⟩
  obtain ⟨row', stored', time⟩ := (Keyed.idle_of_may holds may used done).row
  cases stored.symm.trans stored'
  rw [m.selected]
  exact time

/-- A cached record that is read has the time, if its ticket is done. -/
theorem Mark.known_of_cached (m : Mark) {key : String} {e : Etdr} (op : LookupOp o)
    (holds : AllSettled m trace s) (may : (m.contract inv P must).may req trace o c s)
    (mem : e.ticketId ∈ o.tickets c s) (cached : s.cache.Cached key e) :
    m.facts.etdr (trace ++ [⟨o, c, s⟩]) (o.exec c s).2 e := by
  have used : e.ticketId ∈ byTicket.usedIn (trace ++ [⟨o, c, s⟩]) :=
    Keyed.mem_usedIn_append_singleton.mpr (.inr mem)
  refine ⟨used, fun done => ?_⟩
  have before := m.done_of_ledger _ s _ (sameLedger_of_lookup op c s) done
  exact (Keyed.idle_of_may holds may used before).cached key e cached rfl

/-- A lookup keeps tickets settled. -/
theorem Mark.LeavesLookups.keptBy (leaves : m.LeavesLookups inv P must) (req : Req) :
    m.facts.KeptBy (m.contract inv P must) req where
  others tr s s' holds rely _ :=
    m.facts_lasts (fun _ used => used) (fun t used => m.done_of_same t s s' (rely t used))
      (Keyed.AllIdle.of_rely settled_of_same holds rely)
  filled tr s s' e _ rely _ known :=
    ⟨known.1, fun done => known.2 (m.done_of_same _ s s' (rely _ known.1) done)⟩
  read tr s o c read holds inv may := by
    have same := sameLedger_of_lookup read.lookupOp c s
    refine ⟨leaves.must req tr o c s read.lookupOp,
      ⟨wellFormed_exec inv.1, leaves.ledger _ _ same inv.2⟩,
      m.facts_lasts_exec same fun t mem done => ?_⟩
    -- what is done after the read was done before, so the ticket was marked
    have marked := Keyed.idle_of_may holds may mem (m.done_of_ledger t s _ same done)
    refine marked.read read ?_
    rintro etag refTransId sync rfl
    exact leaves.filled req tr etag refTransId sync c s may.1
  save tr s write c writes holds inv may := by
    have same : SameLedger s ((Op.saveEtdr write).exec c s).2 := ⟨rfl, rfl, rfl, rfl⟩
    -- the record is built from a row, or was filled, and either was read with its time
    have known : write.etdr.ticketId ∈ byTicket.usedIn tr ∧
        (m.done write.etdr.ticketId s → m.time write.etdr ≠ 0) := by
      cases writes with
      | @fromStage row known now =>
        refine ⟨known.1, fun done => ?_⟩
        rw [show (EtdrWrite.fromStage row now).etdr = .fromTransportTransactionStage row now from rfl,
          m.fromStage]
        exact known.2 done
      | filled known => exact known
    have lookup : LookupOp (.saveEtdr write) := by
      cases writes with
      | fromStage known now => exact .saveStage _ now
      | filled known => exact .saveFilled _
    refine ⟨leaves.must req tr _ c s lookup,
      ⟨wellFormed_exec inv.1, leaves.ledger _ _ same inv.2⟩,
      m.facts_lasts_exec same fun t mem done => ?_,
      Keyed.mem_usedIn_append_singleton.mpr (.inl known.1),
      fun done => known.2 (m.done_of_ledger _ s _ same done)⟩
    have before := m.done_of_ledger t s _ same done
    -- another ticket stays marked, and this one gets a record that has the time
    refine (Keyed.idle_of_may holds may mem before).put (cachePut_saveEtdr write c s) ?_
    rintro rfl
    exact known.2 before
  normalized _ _ := trivial
  sync _ _ _ _ _ _ _ _ _ := trivial
  latest tr s c etag row _ holds _ may found stored _ :=
    m.known_of_row holds may
      (Option.mem_toList.mpr (Option.mem_map.mpr ⟨_, found, rfl⟩)) stored
  byId tr s c id row holds _ may stored := by
    have own : row.transportTransId = id := StageTable.transportTransId_of_row? stored
    refine m.known_of_row holds may (List.mem_singleton.mpr own) ?_
    rw [own]
    exact stored
  latestCached tr s c etag e _ holds _ may read :=
    m.known_of_cached (.getLatest etag) holds may
      (Option.mem_toList.mpr (Option.mem_map.mpr ⟨e, read, rfl⟩))
      (EtdrCache.getLatestCheckin_cached read)
  allCached tr s c etag e _ holds _ may read :=
    m.known_of_cached (.getAll etag) holds may (List.mem_map.mpr ⟨e, read, rfl⟩)
      (EtdrCache.getAllByEtag_cached read)

end TollBackend

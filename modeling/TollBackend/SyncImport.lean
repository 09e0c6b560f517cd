import TollBackend.Backend
import TollBackend.Concurrent.Serial

/-!
# The import of a sync record

A lookup that prefers the sync record inserts it into the main table. It does not do so when
the newest row of the tag is that of the record or is not older, or when a row has its
`TICKET_IN_ID`; but it makes these checks before it inserts, a check that fails lets it go on,
and without a `TICKET_IN_ID` only the first one is made. Lookups that overlap, or that do not
recognise the row, import the record again.

## Main definitions

* `ImportedOnce`: no sync record has been imported again.
* `CheckTells`: the check that decides about an import recognises an imported record.
* `Undecided`: no other lookup has made that check.

## Main results

* `importedOnce_of_reaches`: lookups whose checks tell and that do not overlap import a record
  once.
* `overlapping_lookups_import_twice`: two lookups that overlap import a record twice.
-/

namespace TollBackend

open Concurrent

/-- The rows that were imported from a sync record. -/
def Sys.imports (s : Sys) (transportSyncId : Int) : List TransportTransactionStage :=
  s.stages.rows.filter fun row => row.transportSyncId == some transportSyncId

/-- No sync record has more than one row, unless it had before. -/
def ImportedOnce (s₀ s : Sys) : Prop :=
  ∀ x, (s.imports x).length ≤ max 1 (s₀.imports x).length

/-- `sync.ticket_in_id.is_some_and(|tid| tid != 0)`. -/
def TransportTransStageSync.hasTicketInId (sync : TransportTransStageSync) : Bool :=
  sync.ticketInId.any (· ≠ 0)

/-- The newest row is that of the sync record, or is not older than the window. -/
def prefersMain (sync : TransportTransStageSync) (tts : TransportTransactionStage) : Bool :=
  tts.transportSyncId == some sync.transportSyncId ||
    decide (recordTimeMs sync.checkinDatetime sync.insertDatetime <
      recordTimeMs tts.checkinDatetime tts.insertDatetime + bestRecordSyncWindowMs)

theorem bestPendingRecord_some (sync : TransportTransStageSync)
    (details : List TransportTransStageSyncDt) (tts : TransportTransactionStage) :
    bestPendingRecord (some (sync, details)) (some tts) =
      if prefersMain sync tts then some (.bect tts) else some (.sync sync details) := by
  simp only [bestPendingRecord, prefersMain, Option.any_some, Option.map_some, Option.getD_some,
    Bool.or_eq_true, decide_eq_true_eq]
  by_cases same : (tts.transportSyncId == some sync.transportSyncId) = true
  · simp [same]
  · simp [same]

/-! ### The checks of a lookup -/

/-- The operation reads the newest row of a tag. -/
def Op.isMainRead : Op → Bool
  | .ask (.stageFindLatestByEtag _) => true
  | _ => false

/-- The operation begins an insert of the repository. -/
def Op.isConnect : Op → Bool
  | .ask .connect => true
  | _ => false

/-- The operation is an `INSERT` into the main table. -/
def Op.isInsert : Op → Bool
  | .stageInsertRow _ => true
  | _ => false

/-- Where a lookup is decided to insert a sync record: with a `TICKET_IN_ID` it looks for that
once more when the insert has begun, and otherwise it goes by the newest row. -/
def Op.decides (sync : TransportTransStageSync) (o : Op) : Bool :=
  if sync.hasTicketInId then o.isConnect else o.isMainRead

/-- If the newest sync record of the tag has been imported, then the check that a lookup is
decided by succeeds, and shows it. -/
def CheckTells (etag : String) (trace : List (Event Op Choice Sys)) (o : Op) (c : Choice)
    (s : Sys) : Prop :=
  ∀ sync ∈ syncFindLatestByEtag s.syncs (normalizeEtag etag),
    (s.imports sync.transportSyncId).isEmpty = false →
    match o with
    | .ask (.stageFindLatestByEtag tag) => sync.hasTicketInId = false →
        ((c.orFault (s.stages.findLatestByEtag tag c.rank)).toOption.getD none).any
          (prefersMain sync) = true
    | .ask (.stageFindByTicketInId tid) => sync.hasTicketInId = true →
        (trace.any fun ev => ev.op.isConnect) = true →
        ((c.orFault (s.stages.findByTicketInId tid c.rank)).toOption.getD none).isSome = true
    | _ => True

/-- The lookup is decided about the newest sync record of its tag. -/
def Decided (etag : String) (trace : List (Event Op Choice Sys)) (s : Sys) : Prop :=
  ∃ sync ∈ syncFindLatestByEtag s.syncs (normalizeEtag etag),
    (trace.any fun ev => ev.op.decides sync) = true

/-- Lookups of the tag. -/
def Req.LooksUp (etag : String) : Req → Prop
  | .lookup tag => tag = etag
  | _ => False

/-- Lookups of one tag. Their checks tell, and one inserts only while no other one is decided
to. -/
def ImportsApart (etag : String) (pool : BackendPool) : BackendLabel → Prop
  | .start req => req.LooksUp etag
  | .act i c => System.EachAct (fun _ trace o c s => CheckTells etag trace o c s) pool (.act i c) ∧
      System.EachOther (fun o s _ trace => o.isInsert = true → ¬ Decided etag trace s) pool
        (.act i c)

instance (etag : String) : DecidablePred (Req.LooksUp etag) := fun req => by
  induction req using Req.casesOn <;> (unfold Req.LooksUp; infer_instance)

instance (etag : String) (trace : List (Event Op Choice Sys)) (o : Op) (c : Choice) (s : Sys) :
    Decidable (CheckTells etag trace o c s) := by
  induction o using Op.casesOn with
  | ask q => induction q using Query.casesOn <;> (unfold CheckTells; infer_instance)
  | _ => unfold CheckTells; infer_instance

instance (etag : String) (trace : List (Event Op Choice Sys)) (s : Sys) :
    Decidable (Decided etag trace s) := by
  unfold Decided; infer_instance

instance (etag : String) (pool : BackendPool) (l : BackendLabel) :
    Decidable (ImportsApart etag pool l) := by
  induction l using Label.casesOn <;> (unfold ImportsApart; infer_instance)

/-! ### One operation -/

variable {s₀ s s' : Sys} {o : Op} {c : Choice} {etag : String} {sync : TransportTransStageSync}
variable {trace : List (Event Op Choice Sys)}

theorem syncs_exec (o : Op) (c : Choice) (s : Sys) : (o.exec c s).2.syncs = s.syncs := by
  rcases o.kind with op | op | op
  · obtain ⟨stages, accounts, commits, eq⟩ := op.exec_eq c s
    rw [eq]
  · obtain ⟨keydb, pendingTcds, eq⟩ := op.exec_eq c s
    rw [eq]
  · cases op <;> rfl

/-- The operations of a lookup that do not insert. -/
def LookupStep (o : Op) : Prop :=
  LookupOp o ∧ o.isInsert = false

theorem lookupStep_ask (q : Query) : LookupStep (.ask q) :=
  ⟨.ask q, rfl⟩

theorem LookupStep.stages (step : LookupStep o) (c : Choice) (s : Sys) :
    (o.exec c s).2.stages = s.stages := by
  obtain ⟨op, other⟩ := step
  cases op with
  | insertRow stage => cases other
  | _ => rfl

theorem Sys.imports_congr (same : s'.stages = s.stages) (x : Int) : s'.imports x = s.imports x := by
  rw [Sys.imports, same, Sys.imports]

/-- An `INSERT` for a sync record that was not imported. -/
theorem ImportedOnce.insert {entity : TransportTransactionStage}
    (once : ImportedOnce s₀ s) (clear : ∀ x ∈ entity.transportSyncId, s.imports x = []) :
    ImportedOnce s₀ ((Op.stageInsertRow entity).exec c s).2 := by
  rcases stages_of_exec (.stageInsertRow entity) c s with same | write
  · intro x
    rw [Sys.imports_congr same]
    exact once x
  · generalize after : ((Op.stageInsertRow entity).exec c s).2 = s' at write ⊢
    generalize table_eq : s'.stages = table at write
    cases write with
    | @insert _ sysdate _ done =>
      have rows : table.rows = s.stages.rows ++ [entity.insertColumns sysdate] := by
        unfold StageTable.insertRow at done
        split at done
        · cases done
          rfl
        · cases done
      intro x
      have split : s'.imports x = s.imports x ++
          [entity.insertColumns sysdate].filter fun row => row.transportSyncId == some x := by
        rw [Sys.imports, table_eq, rows, List.filter_append, Sys.imports]
      by_cases here : entity.transportSyncId = some x
      · have none_before := clear x here
        rw [split, none_before, List.nil_append]
        exact (List.length_filter_le _ _).trans (Nat.le_max_left _ _)
      · have other : ([entity.insertColumns sysdate].filter fun row =>
            row.transportSyncId == some x) = [] := by
          simp [TransportTransactionStage.insertColumns, here]
        rw [split, other, List.append_nil]
        exact once x

/-! ### The contract -/

/-- Lookups keep sync records imported once. Nobody inserts a row once a lookup is decided. -/
def importContract (etag : String) (s₀ : Sys) : Contract backend where
  inv s := ImportedOnce s₀ s ∧ s.syncs = s₀.syncs
  rely _ trace s s' := s'.syncs = s.syncs ∧ (Decided etag trace s → s'.stages = s.stages)
  may _ trace o c s := CheckTells etag trace o c s
  must _ _ o _ _ := LookupOp o
  rely_refl _ _ _ := ⟨rfl, fun _ => rfl⟩
  rely_trans _ trace s s' s'' := by
    rintro ⟨syncs, kept⟩ ⟨syncs', kept'⟩
    refine ⟨syncs'.trans syncs, fun decided => ?_⟩
    have still : Decided etag trace s' := by
      unfold Decided
      rwa [syncs]
    exact (kept' still).trans (kept decided)

/-- The lookup is decided, and the sync record has not been imported. -/
structure Clear (etag : String) (sync : TransportTransStageSync)
    (trace : List (Event Op Choice Sys)) (s : Sys) : Prop where
  decided : Decided etag trace s
  imports : s.imports sync.transportSyncId = []

variable {req : Req} {α : Type}

theorem Clear.of_rely (clear : Clear etag sync trace s)
    (rely : (importContract etag s₀).rely req trace s s') : Clear etag sync trace s' where
  decided := by
    unfold Decided
    rw [rely.1]
    exact clear.decided
  imports := by
    rw [Sys.imports_congr (rely.2 clear.decided)]
    exact clear.imports

theorem Decided.concat (decided : Decided etag trace s) (same : s'.syncs = s.syncs)
    (ev : Event Op Choice Sys) : Decided etag (trace ++ [ev]) s' := by
  obtain ⟨sync, latest, found⟩ := decided
  refine ⟨sync, by rwa [same], ?_⟩
  rw [List.any_append, found, Bool.true_or]

theorem Clear.step (clear : Clear etag sync trace s) (step : LookupStep o) (c : Choice) :
    Clear etag sync (trace ++ [⟨o, c, s⟩]) (o.exec c s).2 where
  decided := clear.decided.concat (syncs_exec o c s) _
  imports := by
    rw [Sys.imports_congr (step.stages c s)]
    exact clear.imports

/-- The invariant after an operation that does not insert. -/
theorem importInv_step (inv : (importContract etag s₀).inv s) (step : LookupStep o) (c : Choice) :
    (importContract etag s₀).inv (o.exec c s).2 := by
  refine ⟨fun x => ?_, (syncs_exec o c s).trans inv.2⟩
  rw [Sys.imports_congr (step.stages c s)]
  exact inv.1 x

/-- A part of a lookup that does not insert, under a condition that stays. -/
theorem importSafe_of_only {p : Program α} (only : p.Only LookupStep)
    {D : Prop} (holds : D → Clear etag sync trace s) :
    (importContract etag s₀).Safe req p (fun _ tr s => D → Clear etag sync tr s) trace s := by
  refine Contract.safe_of_only (J := fun tr s => D → Clear etag sync tr s) only holds ?_ ?_
  · intro tr s s' clear rely _ d
    exact (clear d).of_rely rely
  · intro tr s o c step clear inv _
    exact ⟨step.1, importInv_step inv step c, fun d => (clear d).step step c⟩

/-- A part of a lookup after its insert. -/
theorem importSafe_after {p : Program α} (only : p.Only LookupStep) :
    (importContract etag s₀).Safe req p (fun _ _ _ => True) trace s := by
  refine Contract.safe_of_only (J := fun _ _ => True) only trivial (fun _ _ _ _ _ _ => trivial) ?_
  intro tr s o c step _ inv _
  exact ⟨step.1, importInv_step inv step c, trivial⟩

/-- A query, and what follows it. -/
theorem importSafe_ask {q : Query} {next : q.Reply → Program α}
    {post : α → List (Event Op Choice Sys) → Sys → Prop}
    (rest : ∀ s' c, (importContract etag s₀).rely req trace s s' →
      (importContract etag s₀).inv s' → CheckTells etag trace (.ask q) c s' →
      (importContract etag s₀).Safe req (next (q.reply c s')) post (trace ++ [⟨.ask q, c, s'⟩])
        s') :
    (importContract etag s₀).Safe req (ask q >>= next) post trace s := by
  apply Contract.safe_perform_bind.mpr
  intro s' rely inv c tells
  exact ⟨.ask q, inv, rest s' c rely inv tells⟩

/-! ### A lookup -/

/-- The sync record that a lookup finds is the newest one. -/
theorem latestSync_import :
    (importContract etag s₀).Safe req (latestSyncWithDetails (normalizeEtag etag))
      (fun found _ _ => ∀ sd ∈ found,
        syncFindLatestByEtag s₀.syncs (normalizeEtag etag) = some sd.1) trace s := by
  apply importSafe_ask
  intro s c _ inv _
  split
  · next sync found =>
    apply importSafe_ask
    intro s' c' _ _ _ sd eq
    cases eq
    rw [← inv.2]
    exact Choice.eq_of_ok found
  · intro sd eq
    cases eq

/-- A lookup that goes on with a sync record without a `TICKET_IN_ID` has seen that it is not
imported. -/
theorem findBestPending_import :
    (importContract etag s₀).Safe req (findBestPending (normalizeEtag etag))
      (fun best tr s => ∀ sync details, best = some (.sync sync details) →
        syncFindLatestByEtag s₀.syncs (normalizeEtag etag) = some sync ∧
          (sync.hasTicketInId = false → Clear etag sync tr s)) trace s := by
  apply Contract.safe_bind.mpr
  refine latestSync_import.mono fun found tr s latest => ?_
  apply importSafe_ask
  intro s c _ inv tells sync details chosen
  have here := latest _ (eq_some_of_bestPendingRecord_sync chosen)
  rw [← inv.2] at here
  refine ⟨by rw [← inv.2]; exact here, fun without => ⟨⟨sync, here, ?_⟩, ?_⟩⟩
  · simp [Op.decides, without, Op.isMainRead]
  · by_contra imported
    -- the row that the check returns is preferred, so the sync record was not chosen
    have shown := tells sync here (by simpa using imported) without
    obtain ⟨tts, read, prefers⟩ := (Option.any_eq_true _ _).mp shown
    have reply : (Query.reply (.stageFindLatestByEtag (normalizeEtag etag)) c s).toOption.getD
        none = some tts := read
    rw [reply, eq_some_of_bestPendingRecord_sync chosen, bestPendingRecord_some, if_pos prefers]
      at chosen
    cases chosen

theorem saveFromStage_step (record : TransportTransactionStage) :
    (saveFromStage record).Only LookupStep := by
  refine (only_ask_bind _ _).mpr ⟨lookupStep_ask _, fun env => ?_⟩
  exact (only_perform_bind _ _).mpr ⟨⟨.saveStage _ _, rfl⟩, fun _ => trivial⟩

/-- The `INSERT` of a sync record that was not imported. -/
theorem insertStatement_import {env : Ambient} {ticketId id : Int}
    (clear : Clear etag sync trace s) :
    (importContract etag s₀).Safe req
      (stageInsertStatement ((buildTransportStageFromSync sync env ticketId).withId id))
      (fun _ _ _ => True) trace s := by
  apply Contract.safe_perform_bind.mpr
  intro s' rely inv c _
  refine ⟨.insertRow _, ⟨inv.1.insert ?_, (syncs_exec _ _ _).trans inv.2⟩, ?_⟩
  · intro x of_sync
    cases of_sync
    exact (clear.of_rely rely).imports
  · split <;> trivial

theorem insertUnlessStored_import {env : Ambient} {ticketId id : Int}
    (clear : Clear etag sync trace s) :
    (importContract etag s₀).Safe req
      (stageInsertUnlessStored ((buildTransportStageFromSync sync env ticketId).withId id))
      (fun _ _ _ => True) trace s := by
  unfold stageInsertUnlessStored
  split
  · exact insertStatement_import clear
  · apply importSafe_ask
    intro s' c rely _ _
    split
    · trivial
    · exact insertStatement_import ((clear.of_rely rely).step (lookupStep_ask _) c)

theorem insertWithId_import {env : Ambient} {ticketId : Int} (clear : Clear etag sync trace s) :
    (importContract etag s₀).Safe req
      (stageInsertWithId (buildTransportStageFromSync sync env ticketId)) (fun _ _ _ => True)
      trace s := by
  unfold stageInsertWithId
  split
  · apply importSafe_ask
    intro s' c rely _ _
    split
    · exact insertUnlessStored_import ((clear.of_rely rely).step (lookupStep_ask _) c)
    · trivial
  · exact @insertUnlessStored_import _ _ _ _ _ _ env ticketId ticketId clear

/-- The insert of the repository: with a `TICKET_IN_ID`, the check that it makes decides. -/
theorem stageInsert_import {env : Ambient} {ticketId : Int}
    (latest : syncFindLatestByEtag s₀.syncs (normalizeEtag etag) = some sync)
    (clear : sync.hasTicketInId = false → Clear etag sync trace s) :
    (importContract etag s₀).Safe req
      (stageInsert (buildTransportStageFromSync sync env ticketId)) (fun _ _ _ => True)
      trace s := by
  apply importSafe_ask
  intro s₁ c₁ rely inv _
  have clear₁ : sync.hasTicketInId = false → Clear etag sync _ s₁ := fun without =>
    ((clear without).of_rely rely).step (lookupStep_ask .connect) c₁
  have connected : (trace ++ [(⟨.ask .connect, c₁, s₁⟩ : Event Op Choice Sys)]).any
      (fun ev => ev.op.isConnect) = true := by
    simp [Op.isConnect]
  split
  · trivial
  · by_cases ticket : sync.hasTicketInId = true
    · -- the record has a `TICKET_IN_ID`, and the row gets the same
      obtain ⟨tid, column, nonzero⟩ := (Option.any_eq_true _ _).mp ticket
      have entity : (buildTransportStageFromSync sync env ticketId).ticketInId = some tid := by
        simp [buildTransportStageFromSync, column]
      have check : findByTicketInIdIfSet (some tid) = ask (.stageFindByTicketInId tid) :=
        if_neg (by simpa using nonzero)
      rw [entity, check]
      apply importSafe_ask
      intro s₂ c₂ _ inv tells
      have here : syncFindLatestByEtag s₂.syncs (normalizeEtag etag) = some sync := by
        rw [inv.2]
        exact latest
      split
      · trivial
      · next missed =>
        refine insertWithId_import ⟨⟨sync, here, ?_⟩, ?_⟩
        · simp [Op.decides, ticket, Op.isConnect]
        · by_contra imported
          have shown := tells sync here (by simpa using imported) ticket connected
          simp only [Query.reply] at missed
          cases read : c₂.orFault (s₂.stages.findByTicketInId tid c₂.rank) with
          | error message =>
            rw [read] at shown
            cases shown
          | ok row =>
            rw [read] at shown
            obtain ⟨existing, rfl⟩ := Option.isSome_iff_exists.mp shown
            exact missed existing read
    · have without : sync.hasTicketInId = false := by simpa using ticket
      apply Contract.safe_bind.mpr
      refine (importSafe_of_only (D := True)
        (findByTicketInIdIfSet_only lookupStep_ask _) fun _ => clear₁ without).mono ?_
      intro found tr s clear
      split
      · trivial
      · exact insertWithId_import (clear trivial)

theorem tryCheckinFromSync_import (details : List TransportTransStageSyncDt)
    (latest : syncFindLatestByEtag s₀.syncs (normalizeEtag etag) = some sync)
    (clear : sync.hasTicketInId = false → Clear etag sync trace s) :
    (importContract etag s₀).Safe req (tryCheckinFromSync sync details) (fun _ _ _ => True)
      trace s := by
  apply Contract.safe_bind.mpr
  refine (importSafe_of_only (existingPendingTicketId_only lookupStep_ask _) clear).mono ?_
  intro existing tr s clear
  apply Contract.safe_bind.mpr
  refine (importSafe_of_only (ticketIdForSync_only lookupStep_ask existing) clear).mono ?_
  intro ticketId tr s clear
  apply importSafe_ask
  intro s' c rely _ _
  apply Contract.safe_bind.mpr
  refine (stageInsert_import latest fun without =>
    ((clear without).of_rely rely).step (lookupStep_ask .observe) c).mono ?_
  intro inserted tr s _
  apply importSafe_after
  split
  · trivial
  · refine (only_ask_bind _ _).mpr ⟨lookupStep_ask _, fun found => ?_⟩
    split
    · refine Prog.Only.bind ?_ fun _ => saveFromStage_step _
      unfold saveTcdFromSync
      split
      · trivial
      · exact (only_ask_bind _ _).mpr ⟨lookupStep_ask _, fun _ => trivial⟩
    · trivial

theorem fillCachedFromSync_step (tag : String) (sync : TransportTransStageSync)
    (ticketInId : Int) : (fillCachedFromSync tag sync ticketInId).Only LookupStep := by
  refine (only_perform_bind _ _).mpr ⟨⟨.getAll _, rfl⟩, fun all => ?_⟩
  split
  · trivial
  · refine (only_perform_bind _ _).mpr ⟨⟨.fill _ _ _, rfl⟩, fun _ => ?_⟩
    exact (only_perform_bind _ _).mpr ⟨⟨.getAll _, rfl⟩, fun _ => trivial⟩

/-- A lookup keeps sync records imported once. -/
theorem lookup_import :
    (importContract etag s₀).Safe req (getBestPendingFromSyncOrMainBect etag)
      (fun _ _ _ => True) trace s := by
  apply Contract.safe_bind.mpr
  refine findBestPending_import.mono fun best tr s chosen => ?_
  split
  · trivial
  · next sync details =>
    obtain ⟨latest, clear⟩ := chosen sync details rfl
    unfold lookupFromSync
    split
    · exact tryCheckinFromSync_import details latest clear
    · apply Contract.safe_bind.mpr
      refine (importSafe_of_only (fillCachedFromSync_step _ _ _) clear).mono ?_
      intro filled tr s clear
      split
      · apply importSafe_after
        exact (only_perform_bind _ _).mpr ⟨⟨.saveFilled _, rfl⟩, fun _ => trivial⟩
      · exact tryCheckinFromSync_import details latest clear
  · exact importSafe_after (saveFromStage_step _)

/-! ### Runs -/

theorem importContract_sound (etag : String) (s₀ : Sys) :
    (importContract etag s₀).Sound (ImportsApart etag) where
  start pool req _ lookup := by
    cases req with
    | lookup tag =>
      cases lookup
      exact Contract.safe_bind.mpr (lookup_import.mono fun _ _ _ _ => trivial)
    | _ => cases lookup
  own pool i c req trace o next meets found := meets.1 req trace o next found
  others pool i c req trace o next j req' trace' o' next' meets found _ must ne there := by
    refine ⟨syncs_exec o c pool.state, fun decided => ?_⟩
    by_cases insert : o.isInsert = true
    · exact absurd decided (System.EachOther.other meets.2 found ne there insert)
    · exact LookupStep.stages ⟨must, by simpa using insert⟩ c pool.state

/-- Lookups of a tag whose checks tell and that do not overlap import each sync record at most
once. -/
theorem importedOnce_of_reaches {etag : String} {s : Sys} {pool : BackendPool}
    (reaches : backend.Reaches (ImportsApart etag) (Pool.init s) pool) :
    ImportedOnce s pool.state :=
  ((importContract_sound etag s).holds_of_reaches
    ⟨fun _ => Nat.le_max_right 1 _, rfl⟩ reaches).1.1

/-- A sync record of a tag without a `TICKET_IN_ID`, and no row. -/
def beforeImport : Sys where
  syncs := [{ transportSyncId := 7, etagNumber := some "BECT01", checkinDatetime := some ⟨1⟩
              status := some 0, ratingType := some "E" }]

/-- Every statement succeeds, and the id service hands out `id`. -/
def handingOut (id : Int) : Choice :=
  Choice.drawing {} id

/-- Two lookups, one after the other. -/
theorem importedOnce_beforeImport :
    ∃ pool : BackendPool, backend.Reaches (ImportsApart "BECT01") (Pool.init beforeImport) pool ∧
      (pool.state.imports 7).length = 1 ∧ ImportedOnce beforeImport pool.state := by
  obtain ⟨pool, reaches, imported⟩ := backend.exists_reaches (ImportsApart "BECT01")
    (Pool.init beforeImport)
    (.start (.lookup "BECT01") :: .start (.lookup "BECT01") ::
      List.replicate 12 (.act 0 (handingOut 501)) ++ List.replicate 5 (.act 1 (handingOut 502)))
    (fun pool => decide ((pool.state.imports 7).length = 1)) (by decide +kernel)
  exact ⟨pool, reaches, of_decide_eq_true imported, importedOnce_of_reaches reaches⟩

/-- Two lookups that both read the main table before either has inserted its row. -/
theorem overlapping_lookups_import_twice :
    ¬ ∀ (etag : String) (s : Sys) (pool : BackendPool),
      backend.Reaches (Admits (Req.LooksUp etag)) (Pool.init s) pool →
      ImportedOnce s pool.state := by
  intro claim
  obtain ⟨pool, reaches, twice⟩ := backend.exists_reaches (Admits (Req.LooksUp "BECT01"))
    (Pool.init beforeImport)
    (.start (.lookup "BECT01") :: .start (.lookup "BECT01") ::
      List.replicate 3 (.act 0 (handingOut 501)) ++ List.replicate 9 (.act 1 (handingOut 502)) ++
      List.replicate 6 (.act 0 (handingOut 501)))
    (fun pool => decide ((pool.state.imports 7).length = 2 ∧
      (beforeImport.imports 7).length = 0)) (by decide +kernel)
  obtain ⟨after, before⟩ := of_decide_eq_true twice
  have once := claim "BECT01" beforeImport pool reaches 7
  omega

end TollBackend

import TollBackend.Backend
import TollBackend.Concurrent.Serial

/-!
# What a retry writes into a row

A retry that finds the row of its record keeps what the row has and fills what is missing from
the record; one that finds none builds a row from the record. The first never fills the two
commit times, sets the charge type to `L` whatever it was, clears `BOO_ETAG`, which its
`SELECT` does not return, and writes back texts as it has read them. The second leaves out the
times after the check-in and the price.

## Main definitions

* `intColumns`, `timeColumns`, `mergedTexts`, `untouchedTexts`, `textColumns`: the columns of a
  row.
* `CarriesOver`: a row carries the progress of a record, and has kept what it had.
* `SaveAccepts`: the rows and records for which it does.

## Main results

* `retrySaveEtdrToDb_carries_iff`: what a retry writes carries the record over exactly when
  the row accepts it.
* `retrySaveEtdrToDb_loses_commit`: the commit of a check-in is not written.
-/

namespace TollBackend

open Concurrent

/-! ### Columns -/

/-- The columns of numbers. -/
def intColumns : List (TransportTransactionStage → Option Int) :=
  [(·.subscriberId), (·.etagId), (·.vehicleId), (·.checkinTollId), (·.checkinLaneId),
    (·.checkinChannel), (·.checkoutTollId), (·.checkoutLaneId), (·.checkoutChannel),
    (·.totalAmount), (·.accountId), (·.accountTransId), (·.requestId), (·.imgCount),
    (·.checkinImgCount), (·.checkoutImgCount), (·.notifScan), (·.bitwiseScan),
    (·.feVehicleLength), (·.feCommitAmount), (·.feWeight), (·.feReasonId), (·.boo),
    (·.booTransportTransId), (·.mdhId), (·.chdRefId), (·.voucherUsedAmount), (·.voucherAmount),
    (·.transportSyncId), (·.ticketInId), (·.hubId), (·.ticketEtagId), (·.ticketOutId),
    (·.syncStatus)]

/-- The columns of times, but for `LAST_UPDATE`. -/
def timeColumns : List (TransportTransactionStage → Option DbDatetime) :=
  [(·.checkinCommitDatetime), (·.checkoutCommitDatetime), (·.checkinDatetime),
    (·.checkoutDatetime), (·.insertDatetime), (·.chargeDatetime)]

/-- A column of text that the merge reads, and what it fills it with when it read a null. -/
structure MergedText where
  column : TransportTransactionStage → Option String
  fill : Etdr → Ambient → TransportTransactionStage → Option String

/-- The columns of text that the merge keeps or fills. -/
def mergedTexts : List MergedText :=
  [ ⟨(·.checkinPass), fun _ _ _ => some "P"⟩,
    ⟨(·.checkinPassReasonId), fun _ _ _ => none⟩,
    ⟨(·.checkoutPass), fun _ _ _ => none⟩,
    ⟨(·.checkoutPassReasonId), fun _ _ _ => none⟩,
    ⟨(·.chargeStatus), fun _ _ _ => none⟩,
    ⟨(·.checkinStatus), fun _ _ _ => some "1"⟩,
    ⟨(·.etagNumber), fun e _ _ => nonempty? e.etagNumber⟩,
    ⟨(·.checkinPlate), fun e _ _ => nonempty? e.plate⟩,
    ⟨(·.checkinPlateStatus), fun e _ _ => some (toString e.plateStatus)⟩,
    ⟨(·.checkoutPlate), fun e _ _ => nonempty? e.plate⟩,
    ⟨(·.checkoutPlateStatus), fun _ _ _ => none⟩,
    ⟨(·.plateFromToll), fun e _ _ => nonempty? e.plate⟩,
    ⟨(·.status), fun e _ _ => some (dbStatus e.status)⟩,
    ⟨(·.tollType), fun e env row => some (resolveTollTypeForEtdr env e.booTollType
      (row.checkinTollId <|> some e.stationId) (row.checkoutTollId <|> nonzero? e.tollOut))⟩,
    ⟨(·.ratingType), fun e _ _ => e.ratingType⟩,
    ⟨(·.checkoutStatus), fun _ _ _ => none⟩,
    ⟨(·.plate), fun e _ _ => nonempty? e.plate⟩,
    ⟨(·.vehicleType), fun e _ _ => nonempty? e.vehicleType⟩,
    ⟨(·.vehicleTypeProfile), fun e _ _ => some e.vehicleTypeProfile⟩,
    ⟨(·.checkinTid), fun e _ _ => some e.tId⟩,
    ⟨(·.checkoutTid), fun _ _ _ => none⟩,
    ⟨(·.chargeIn), fun e _ _ => e.chargeIn⟩,
    ⟨(·.chargeTransId), fun _ _ _ => none⟩,
    ⟨(·.chargeInStatus), fun e _ _ => e.chargeInStatus⟩,
    ⟨(·.chargeIn104), fun e _ _ => e.chargeIn104⟩,
    ⟨(·.feOnlineStatus), fun _ _ _ => none⟩,
    ⟨(·.chdType), fun e _ _ => e.chdType⟩,
    ⟨(·.chdReason), fun e _ _ => e.chdReason⟩,
    ⟨(·.feTransId), fun e _ _ => e.feTransId⟩,
    ⟨(·.transitionClose), fun _ _ _ => some "F"⟩,
    ⟨(·.voucherCode), fun _ _ _ => none⟩]

/-- The columns of text that the `UPDATE` does not write. -/
def untouchedTexts : List (TransportTransactionStage → Option String) :=
  [(·.subscriptionIds), (·.turningCode), (·.tokenId), (·.acsAccountNo), (·.subChargeIn)]

/-- The columns of text. The last four are written by rules of their own. -/
def textColumns : List (TransportTransactionStage → Option String) :=
  mergedTexts.map (·.column) ++ untouchedTexts ++
    [(·.chargeType), (·.booEtag), (·.checkinShift), (·.checkoutShift)]

/-! ### The rule and the rows that follow it -/

/-- A column that had no value has that of the record. -/
def Carried {α : Type} (had value has : Option α) : Prop :=
  had.isSome ∨ value.isSome ∧ has = value

/-- The row `new` carries the progress of the record where `old` had none, and has kept the
columns of `old`. -/
structure CarriesOver (etdr : Etdr) (old new : TransportTransactionStage) : Prop where
  checkinCommit : etdr.checkinCommitDatetime ≠ 0 → Carried old.checkinCommitDatetime
    (epochToDatetimeUtc etdr.checkinCommitDatetime) new.checkinCommitDatetime
  checkout : etdr.checkoutDatetime ≠ 0 → Carried old.checkoutDatetime
    (epochToDatetimeUtc etdr.checkoutDatetime) new.checkoutDatetime
  checkoutCommit : etdr.checkoutCommitDatetime ≠ 0 → Carried old.checkoutCommitDatetime
    (epochToDatetimeUtc etdr.checkoutCommitDatetime) new.checkoutCommitDatetime
  tollOut : etdr.tollOut ≠ 0 → Carried old.checkoutTollId (some etdr.tollOut) new.checkoutTollId
  laneOut : etdr.laneOut ≠ 0 → Carried old.checkoutLaneId (some etdr.laneOut) new.checkoutLaneId
  price : etdr.price ≠ 0 → Carried old.totalAmount (some etdr.price) new.totalAmount
  ints : ∀ column ∈ intColumns, (column old).isSome → column new = column old
  times : ∀ column ∈ timeColumns, (column old).isSome → column new = column old
  texts : ∀ column ∈ textColumns, (column old).isSome → column new = column old

/-- A text that is written back as it was stored: it is read so, or it is read as null and the
record fills in the same. -/
def WrittenBack (fill : Option String) (text : String) : Prop :=
  readString (some text) = some text ∨ readString (some text) = none ∧ fill = some text

/-- A row into which the record can be merged without a loss. -/
structure MergeAccepts (etdr : Etdr) (env : Ambient) (row : TransportTransactionStage) : Prop where
  checkinCommit : etdr.checkinCommitDatetime ≠ 0 → row.checkinCommitDatetime.isSome
  checkout : etdr.checkoutDatetime ≠ 0 →
    row.checkoutDatetime.isSome ∨ (epochToDatetimeUtc etdr.checkoutDatetime).isSome
  checkoutCommit : etdr.checkoutCommitDatetime ≠ 0 → row.checkoutCommitDatetime.isSome
  chargeType : ∀ text ∈ row.chargeType, text = "L"
  booEtag : row.booEtag = none
  shifts : ∀ text, text ∈ row.checkinShift ∨ text ∈ row.checkoutShift →
    readString (some text) = some text ∧ text.toList.length ≤ 10
  texts : ∀ merged ∈ mergedTexts, ∀ text ∈ merged.column row,
    WrittenBack (merged.fill etdr env row) text

/-- A record from which a row can be built without a loss. -/
structure BuildAccepts (etdr : Etdr) : Prop where
  checkinCommit : etdr.checkinCommitDatetime = 0
  checkout : etdr.checkoutDatetime = 0
  checkoutCommit : etdr.checkoutCommitDatetime = 0
  price : etdr.price = 0

/-- What the record is saved over, which may be nothing, accepts it. -/
def SaveAccepts (etdr : Etdr) (env : Ambient) : Option TransportTransactionStage → Prop
  | some row => MergeAccepts etdr env row
  | none => BuildAccepts etdr

/-! ### The merge -/

variable {etdr : Etdr} {env : Ambient} {row : TransportTransactionStage}

/-- The row after the `UPDATE` of a merge. -/
def mergedRow (etdr : Etdr) (env : Ambient) (row : TransportTransactionStage) :
    TransportTransactionStage :=
  row.updateColumns (mergeEtdrIntoTransportStage row.selectRow etdr env)

theorem orElse_eq_of_isSome {α : Type} {c f : Option α} (set : c.isSome) : (c <|> f) = c := by
  obtain ⟨a, rfl⟩ := Option.isSome_iff_exists.mp set
  rfl

theorem eq_orElse_none (c : Option String) : c = (c <|> none) := by
  cases c <;> rfl

theorem mergedRow_ints :
    ∀ column ∈ intColumns, (column row).isSome → column (mergedRow etdr env row) = column row := by
  simp only [intColumns, List.forall_mem_cons]
  and_intros
  all_goals first
    | exact fun _ => rfl
    | exact fun set => orElse_eq_of_isSome set
    | exact fun _ mem => absurd mem List.not_mem_nil

theorem mergedRow_times :
    ∀ column ∈ timeColumns, (column row).isSome → column (mergedRow etdr env row) = column row := by
  simp only [timeColumns, List.forall_mem_cons]
  and_intros
  all_goals first
    | exact fun _ => rfl
    | exact fun set => orElse_eq_of_isSome set
    | exact fun _ mem => absurd mem List.not_mem_nil

theorem mergedRow_transitionClose :
    (mergedRow etdr env row).transitionClose = (readString row.transitionClose <|> some "F") := by
  have merged : (mergedRow etdr env row).transitionClose = some
      (((readString row.transitionClose <|> some "F").filter fun s => s ≠ "").getD "F") := rfl
  rw [merged]
  cases read : readString row.transitionClose with
  | none => rfl
  | some text =>
    have nonempty : text ≠ "" := by
      rintro rfl
      exact readString_ne_empty _ read
    simp [Option.filter, nonempty]

theorem mergedRow_vehicleTypeProfile : (mergedRow etdr env row).vehicleTypeProfile =
    (readString row.vehicleTypeProfile <|> some etdr.vehicleTypeProfile) := by
  have merged : (mergedRow etdr env row).vehicleTypeProfile = some
      ((readString row.vehicleTypeProfile <|> some etdr.vehicleTypeProfile).getD "STD") := rfl
  rw [merged]
  cases readString row.vehicleTypeProfile <;> rfl

/-- A text that the merge reads is kept as it was read, or filled. -/
theorem mergedRow_texts : ∀ merged ∈ mergedTexts, merged.column (mergedRow etdr env row) =
    (readString (merged.column row) <|> merged.fill etdr env row) := by
  simp only [mergedTexts, List.forall_mem_cons]
  and_intros
  all_goals first
    | exact mergedRow_transitionClose
    | exact mergedRow_vehicleTypeProfile
    | rfl
    | exact eq_orElse_none _
    | exact fun _ mem => absurd mem List.not_mem_nil

theorem orElse_read_eq_iff {c fill : Option String} :
    (c.isSome → (readString c <|> fill) = c) ↔ ∀ text ∈ c, WrittenBack fill text := by
  cases c with
  | none => simp
  | some text =>
    simp only [Option.isSome_some, forall_const, Option.mem_some_iff, forall_eq', WrittenBack]
    cases readString (some text) <;> simp

theorem mergedRow_textColumns_iff :
    (∀ column ∈ textColumns, (column row).isSome →
      column (mergedRow etdr env row) = column row) ↔
    (∀ merged ∈ mergedTexts, ∀ text ∈ merged.column row,
      WrittenBack (merged.fill etdr env row) text) ∧
    (∀ text ∈ row.chargeType, text = "L") ∧ row.booEtag = none ∧
    (∀ text ∈ row.checkinShift, readString (some text) = some text ∧ text.toList.length ≤ 10) ∧
    ∀ text ∈ row.checkoutShift, readString (some text) = some text ∧ text.toList.length ≤ 10 := by
  have merged : (∀ column ∈ mergedTexts.map (·.column), (column row).isSome →
      column (mergedRow etdr env row) = column row) ↔ ∀ merged ∈ mergedTexts,
      ∀ text ∈ merged.column row, WrittenBack (merged.fill etdr env row) text := by
    rw [List.forall_mem_map]
    refine forall₂_congr fun text mem => ?_
    rw [mergedRow_texts text mem]
    exact orElse_read_eq_iff
  have untouched : ∀ column ∈ untouchedTexts, (column row).isSome →
      column (mergedRow etdr env row) = column row := by
    simp only [untouchedTexts, List.forall_mem_cons]
    and_intros
    all_goals first
      | exact fun _ => rfl
      | exact fun _ mem => absurd mem List.not_mem_nil
  have chargeType : (row.chargeType.isSome → (mergedRow etdr env row).chargeType = row.chargeType) ↔
      ∀ text ∈ row.chargeType, text = "L" := by
    rw [show (mergedRow etdr env row).chargeType = some "L" from rfl]
    cases row.chargeType <;> simp [eq_comm]
  have booEtag : (row.booEtag.isSome → (mergedRow etdr env row).booEtag = row.booEtag) ↔
      row.booEtag = none := by
    rw [show (mergedRow etdr env row).booEtag = none from rfl]
    cases row.booEtag <;> simp
  have shifts : ∀ column : TransportTransactionStage → Option String,
      column (mergedRow etdr env row) =
        TransportTransactionStage.shiftText (readString (column row)) →
      (((column row).isSome → column (mergedRow etdr env row) = column row) ↔
        ∀ text ∈ column row, readString (some text) = some text ∧ text.toList.length ≤ 10) := by
    intro column written
    rw [written]
    exact TransportTransactionStage.shiftText_read_eq_iff
  simp only [textColumns, List.forall_mem_append, List.forall_mem_cons, merged, chargeType, booEtag,
    shifts (·.checkinShift) rfl, shifts (·.checkoutShift) rfl]
  constructor
  · rintro ⟨⟨kept, -⟩, charge, boo, entry, exit, -⟩
    exact ⟨kept, charge, boo, entry, exit⟩
  · rintro ⟨kept, charge, boo, entry, exit⟩
    exact ⟨⟨kept, untouched⟩, charge, boo, entry, exit, fun _ mem => absurd mem List.not_mem_nil⟩

theorem carried_self_iff {α : Type} {had value : Option α} :
    Carried had value had ↔ had.isSome := by
  constructor
  · rintro (set | ⟨some_value, eq⟩)
    · exact set
    · exact eq ▸ some_value
  · exact .inl

theorem carried_orElse_iff {α : Type} {had value : Option α} :
    Carried had value (had <|> value) ↔ had.isSome ∨ value.isSome := by
  cases had with
  | none => simp [Carried]
  | some a => simp [Carried]

theorem carried_nonzero {had : Option Int} {n : Int} (nonzero : n ≠ 0) :
    Carried had (some n) (had <|> nonzero? n) := by
  rw [nonzero?, if_neg nonzero]
  exact carried_orElse_iff.mpr (.inr rfl)

/-- The rule holds of a merge exactly when the row accepts the record. -/
theorem carriesOver_mergedRow_iff :
    CarriesOver etdr row (mergedRow etdr env row) ↔ MergeAccepts etdr env row := by
  constructor
  · intro carried
    obtain ⟨texts, chargeType, booEtag, entry, exit⟩ := mergedRow_textColumns_iff.mp carried.texts
    exact
      { checkinCommit := fun set => carried_self_iff.mp (carried.checkinCommit set)
        checkout := fun set => carried_orElse_iff.mp (carried.checkout set)
        checkoutCommit := fun set => carried_self_iff.mp (carried.checkoutCommit set)
        chargeType := chargeType
        booEtag := booEtag
        shifts := fun text mem => mem.elim (entry text) (exit text)
        texts := texts }
  · intro accepts
    exact
      { checkinCommit := fun set => carried_self_iff.mpr (accepts.checkinCommit set)
        checkout := fun set => carried_orElse_iff.mpr (accepts.checkout set)
        checkoutCommit := fun set => carried_self_iff.mpr (accepts.checkoutCommit set)
        tollOut := fun set => carried_nonzero set
        laneOut := fun set => carried_nonzero set
        price := fun set => carried_nonzero set
        ints := mergedRow_ints
        times := mergedRow_times
        texts := mergedRow_textColumns_iff.mpr ⟨accepts.texts, accepts.chargeType, accepts.booEtag,
          fun text mem => accepts.shifts text (.inl mem),
          fun text mem => accepts.shifts text (.inr mem)⟩ }

/-! ### The insert -/

/-- The row that the retry inserts. -/
def builtRow (etdr : Etdr) (env : Ambient) (sysdate : DbDatetime) : TransportTransactionStage :=
  (buildTransportStageFromEtdr etdr env).insertColumns sysdate

/-- The rule holds of an insert exactly when the record has nothing that is left out. -/
theorem carriesOver_builtRow_iff {sysdate : DbDatetime} :
    CarriesOver etdr {} (builtRow etdr env sysdate) ↔ BuildAccepts etdr := by
  have absent : ∀ {α : Type} {value : Option α}, ¬ Carried none value none := by
    rintro α value (set | ⟨set, eq⟩)
    · cases set
    · rw [← eq] at set
      cases set
  have exit : ∀ {n : Int}, n ≠ 0 → Carried none (some n) (nonzero? n) := by
    intro n set
    rw [nonzero?, if_neg set]
    exact .inr ⟨rfl, rfl⟩
  constructor
  · intro carried
    exact
      { checkinCommit := by_contra fun set => absent (carried.checkinCommit set)
        checkout := by_contra fun set => absent (carried.checkout set)
        checkoutCommit := by_contra fun set => absent (carried.checkoutCommit set)
        price := by_contra fun set => absent (carried.price set) }
  · intro accepts
    have empty_ints : ∀ column ∈ intColumns, ¬ (column {}).isSome := by decide
    have empty_times : ∀ column ∈ timeColumns, ¬ (column {}).isSome := by decide
    have empty_texts : ∀ column ∈ textColumns, ¬ (column {}).isSome := by decide
    exact
      { checkinCommit := fun set => absurd accepts.checkinCommit set
        checkout := fun set => absurd accepts.checkout set
        checkoutCommit := fun set => absurd accepts.checkoutCommit set
        tollOut := exit
        laneOut := exit
        price := fun set => absurd accepts.price set
        ints := fun column mem set => absurd set (empty_ints column mem)
        times := fun column mem set => absurd set (empty_times column mem)
        texts := fun column mem set => absurd set (empty_texts column mem) }

/-! ### The writes of an attempt -/

/-- The row that an operation has updated or inserted. -/
def savedRow? (ev : Event Op Choice Sys) : Option Int :=
  match ev.op with
  | .stageUpdate id _ => if ev.choice.fault.isNone then some id else none
  | .stageInsertRow entity =>
      if ev.choice.fault.isNone ∧ (ev.pre.stages.row? entity.transportTransId).isNone then
        some entity.transportTransId
      else none
  | _ => none

/-- The operation writes no row. -/
def QuietOp (o : Op) : Prop :=
  ∀ c s, (o.exec c s).2.stages = s.stages ∧ savedRow? ⟨o, c, s⟩ = none

theorem quietOp_ask (q : Query) : QuietOp (.ask q) := fun _ _ => ⟨rfl, rfl⟩

/-- The row of the ticket was saved from the state before: merged, or built where there was
none. -/
def SavedAs (etdr : Etdr) (env : Ambient) (s s' : Sys) (id : Int) : Prop :=
  match s.stages.row? id with
  | some row => s'.stages.row? id = some (mergedRow etdr env row)
  | none => ∃ sysdate, s'.stages.row? id = some (builtRow etdr env sysdate)

/-- An attempt from `s` has written nothing. -/
def RowsUnwritten (s : Sys) (trace : List (Event Op Choice Sys)) (s' : Sys) : Prop :=
  s'.stages = s.stages ∧ ∀ ev ∈ trace, savedRow? ev = none

/-- What an attempt from `s` has written is merged or built, under what it has observed. -/
def RowsWritten (etdr : Etdr) (s : Sys) (trace : List (Event Op Choice Sys)) (s' : Sys) : Prop :=
  ∀ ev ∈ trace, ∀ id ∈ savedRow? ev, ∃ seen ∈ trace, seen.op = .ask .observe ∧
    SavedAs etdr seen.choice.env s s' id

/-- The contract of an attempt that runs alone. -/
abbrev attempt : Contract backend :=
  .serial backend (fun _ => True) fun _ _ _ _ _ => True

variable {s s' : Sys} {trace : List (Event Op Choice Sys)} {req : Req} {α : Type}

theorem RowsUnwritten.written (unwritten : RowsUnwritten s trace s') : RowsWritten etdr s trace s' := by
  intro ev mem id saved
  rw [unwritten.2 ev mem] at saved
  cases saved

theorem RowsUnwritten.concat {ev : Event Op Choice Sys} {s'' : Sys} (unwritten : RowsUnwritten s trace s')
    (quiet : savedRow? ev = none) (same : s''.stages = s'.stages) :
    RowsUnwritten s (trace ++ [ev]) s'' := by
  refine ⟨same.trans unwritten.1, fun ev' mem => ?_⟩
  rcases List.mem_append.mp mem with old | new
  · exact unwritten.2 ev' old
  · rwa [List.mem_singleton.mp new]

theorem RowsWritten.concat {ev : Event Op Choice Sys} {s'' : Sys} (written : RowsWritten etdr s trace s')
    (quiet : savedRow? ev = none) (same : s''.stages = s'.stages) :
    RowsWritten etdr s (trace ++ [ev]) s'' := by
  intro ev' mem id saved
  rcases List.mem_append.mp mem with old | new
  · obtain ⟨seen, mem, observes, as⟩ := written ev' old id saved
    refine ⟨seen, List.mem_append_left _ mem, observes, ?_⟩
    unfold SavedAs at as ⊢
    rwa [same]
  · rw [List.mem_singleton.mp new, quiet] at saved
    cases saved

theorem written_of_quiet {p : Program α} (quiet : p.Only QuietOp)
    (written : RowsWritten etdr s trace s') :
    attempt.Safe req p (fun _ tr s'' => RowsWritten etdr s tr s'') trace s' := by
  refine Contract.safe_of_only (J := fun tr s'' => RowsWritten etdr s tr s'') quiet written ?_ ?_
  · rintro tr s₁ s₂ written rfl -
    exact written
  · intro tr s₁ o c quiet written _ _
    exact ⟨trivial, trivial, written.concat (quiet c s₁).2 (quiet c s₁).1⟩

/-- The one write of an attempt. -/
theorem RowsUnwritten.save {ev : Event Op Choice Sys} {s'' : Sys} {id : Int}
    (unwritten : RowsUnwritten s trace s') {seen : Event Op Choice Sys} (mem : seen ∈ trace)
    (observes : seen.op = .ask .observe) (saved : savedRow? ev = some id)
    (as : SavedAs etdr seen.choice.env s s'' id) :
    RowsWritten etdr s (trace ++ [ev]) s'' := by
  intro ev' mem' id' saved'
  rcases List.mem_append.mp mem' with old | new
  · rw [unwritten.2 ev' old] at saved'
    cases saved'
  · rw [List.mem_singleton.mp new, saved] at saved'
    cases saved'
    exact ⟨seen, List.mem_append_left _ mem, observes, as⟩

theorem retryPendingTcd_quiet (id : Int) :
    (do retryPendingTcd id; return true : Program Bool).Only QuietOp := by
  refine Prog.Only.bind ?_ fun _ => trivial
  refine (only_ask_bind _ _).mpr ⟨quietOp_ask _, fun list => ?_⟩
  split
  · trivial
  · split
    · trivial
    · refine (only_ask_bind _ _).mpr ⟨quietOp_ask _, fun saved => ?_⟩
      split
      · apply (only_perform _).mpr
        intro c s
        simp only [Op.exec]
        split <;> exact ⟨rfl, rfl⟩
      · trivial

theorem retryMerge_written {id : Int} (unwritten : RowsUnwritten s trace s')
    (stored : s.stages.row? id = some row) :
    attempt.Safe req (retryMerge etdr row.selectRow id)
      (fun _ tr s'' => RowsWritten etdr s tr s'') trace s' := by
  apply Contract.serial_perform_bind
  intro c _
  refine ⟨trivial, ?_⟩
  have observed : RowsUnwritten s (trace ++ [⟨.ask .observe, c, s'⟩]) s' :=
    unwritten.concat rfl rfl
  apply Contract.serial_perform_bind
  intro c' _
  refine ⟨trivial, ?_⟩
  simp only [backend_exec, Op.exec, Choice.statement]
  cases fault : c'.fault with
  | some message =>
    apply Contract.safe_pure.mpr
    exact (observed.concat (by simp [savedRow?, fault]) rfl).written
  | none =>
    apply written_of_quiet (retryPendingTcd_quiet id)
    have saved : ∀ entity, savedRow? ⟨.stageUpdate id entity, c', s'⟩ = some id := by
      intro entity
      simp [savedRow?, fault]
    refine observed.save (List.mem_append_right _ List.mem_cons_self) rfl (saved _) ?_
    unfold SavedAs
    rw [stored]
    dsimp only
    rw [StageTable.row?_update, if_pos rfl, unwritten.1, stored]
    rfl

/-- Reads before the write of an attempt. -/
theorem attempt_ask {q : Query} {next : q.Reply → Program α}
    {post : α → List (Event Op Choice Sys) → Sys → Prop} (unwritten : RowsUnwritten s trace s')
    (rest : ∀ c tr, trace ⊆ tr → RowsUnwritten s tr s' →
      attempt.Safe req (next (q.reply c s')) post tr s') :
    attempt.Safe req (ask q >>= next) post trace s' := by
  apply Contract.serial_perform_bind
  intro c _
  exact ⟨trivial, rest c _ (List.subset_append_left _ _) (unwritten.concat rfl rfl)⟩

theorem attempt_findByTicketInId {ticketInId : Option Int}
    {next : DbResult (Option TransportTransactionStage) → Program α}
    {post : α → List (Event Op Choice Sys) → Sys → Prop} (unwritten : RowsUnwritten s trace s')
    (found : ∀ row tr, s.stages.row? row.transportTransId = some row → RowsUnwritten s tr s' →
      attempt.Safe req (next (.ok (some row.selectRow))) post tr s')
    (missing : ∀ result tr, (∀ existing, result ≠ .ok (some existing)) → trace ⊆ tr →
      RowsUnwritten s tr s' → attempt.Safe req (next result) post tr s') :
    attempt.Safe req (findByTicketInIdIfSet ticketInId >>= next) post trace s' := by
  unfold findByTicketInIdIfSet
  split
  · next tid =>
    split
    · exact missing _ _ (fun _ eq => by cases eq) (List.Subset.refl _) unwritten
    · apply attempt_ask unwritten
      intro c tr sub unwritten
      simp only [Query.reply]
      rcases c.orFault_cases (s'.stages.findByTicketInId tid c.rank) with ok | ⟨message, error⟩
      · rw [ok]
        cases read : s'.stages.findByTicketInId tid c.rank with
        | none => exact missing _ _ (fun _ eq => by cases eq) sub unwritten
        | some existing =>
          obtain ⟨row, stored, -, -, rfl⟩ := StageTable.findByTicketInId_eq_some read
          rw [unwritten.1] at stored
          exact found row tr stored unwritten
      · rw [error]
        exact missing _ _ (fun _ eq => by cases eq) sub unwritten
  · exact missing _ _ (fun _ eq => by cases eq) (List.Subset.refl _) unwritten

/-- An insert has written the row that was built, and nothing where it fails. -/
def InsertDone (etdr : Etdr) (s : Sys) (result : DbResult Int) (trace : List (Event Op Choice Sys))
    (s' : Sys) : Prop :=
  RowsWritten etdr s trace s' ∧ ∀ message, result = .error message → RowsUnwritten s trace s'

theorem RowsUnwritten.insertDone {result : DbResult Int} (unwritten : RowsUnwritten s trace s') :
    InsertDone etdr s result trace s' :=
  ⟨unwritten.written, fun _ _ => unwritten⟩

theorem stageInsertStatement_written {seen : Event Op Choice Sys} (mem : seen ∈ trace)
    (observes : seen.op = .ask .observe) (unwritten : RowsUnwritten s trace s') :
    attempt.Safe req (stageInsertStatement (buildTransportStageFromEtdr etdr seen.choice.env))
      (InsertDone etdr s) trace s' := by
  apply Contract.serial_perform_bind
  intro c _
  refine ⟨trivial, ?_⟩
  set entity := buildTransportStageFromEtdr etdr seen.choice.env with entity_eq
  simp only [backend_exec, Op.exec]
  cases inserted : s'.stages.insertRow entity c.env.now.dbDatetime with
  | none =>
    obtain ⟨row, taken⟩ := StageTable.insertRow_eq_none_iff.mp inserted
    apply Contract.safe_pure.mpr
    exact (unwritten.concat (by simp [savedRow?, taken]) rfl).insertDone
  | some stages =>
    obtain ⟨fresh, row⟩ :=
      @StageTable.row?_insertRow _ entity.transportTransId _ _ _ inserted
    rw [if_pos rfl] at row
    simp only [Choice.statement]
    cases fault : c.fault with
    | some message =>
      apply Contract.safe_pure.mpr
      exact (unwritten.concat (by simp [savedRow?, fault]) rfl).insertDone
    | none =>
      apply Contract.safe_pure.mpr
      have saved : savedRow? ⟨.stageInsertRow entity, c, s'⟩ = some entity.transportTransId := by
        simp [savedRow?, fault, fresh]
      refine ⟨unwritten.save mem observes saved ?_, fun message eq => by cases eq⟩
      unfold SavedAs
      rw [← unwritten.1, fresh]
      exact ⟨_, row⟩

/-- The insert of an attempt writes the row that it built, if any. -/
theorem stageInsert_written (nonzero : etdr.ticketId ≠ 0) {seen : Event Op Choice Sys}
    (mem : seen ∈ trace) (observes : seen.op = .ask .observe)
    (unwritten : RowsUnwritten s trace s') :
    attempt.Safe req (stageInsert (buildTransportStageFromEtdr etdr seen.choice.env))
      (InsertDone etdr s) trace s' := by
  apply attempt_ask unwritten
  intro c tr sub unwritten
  split
  · exact Contract.safe_pure.mpr unwritten.insertDone
  · apply attempt_findByTicketInId unwritten
    · intro row tr stored unwritten
      exact Contract.safe_pure.mpr unwritten.insertDone
    · intro result tr' missing sub' unwritten
      split
      · next existing => exact absurd rfl (missing existing)
      · have settled : (buildTransportStageFromEtdr etdr seen.choice.env).transportTransId ≠ 0 :=
          nonzero
        unfold stageInsertWithId stageInsertUnlessStored
        rw [if_neg settled, if_neg settled]
        apply attempt_ask unwritten
        intro c tr'' sub'' unwritten
        split
        · exact Contract.safe_pure.mpr unwritten.insertDone
        · exact stageInsertStatement_written (sub'' (sub' (sub mem))) observes unwritten

theorem verifyAfterSave_quiet (id : Int) (attempts : Nat) :
    (verifyAfterSave id attempts).Only QuietOp :=
  verifyAfterSave_only quietOp_ask id attempts

theorem retryAfterFailedSave_quiet (errorMsg : String) :
    (retryAfterFailedSave etdr errorMsg).Only QuietOp := by
  unfold retryAfterFailedSave
  split
  · refine (only_ask_bind _ _).mpr ⟨quietOp_ask _, fun found => ?_⟩
    split
    · exact retryPendingTcd_quiet _
    · refine (findByTicketInIdIfSet_only quietOp_ask _).bind fun existing => ?_
      split
      · exact retryPendingTcd_quiet _
      · trivial
    · trivial
  · trivial

theorem retryInsert_written (nonzero : etdr.ticketId ≠ 0) (unwritten : RowsUnwritten s trace s') :
    attempt.Safe req (retryInsert etdr) (fun _ tr s'' => RowsWritten etdr s tr s'') trace s' := by
  apply Contract.serial_perform_bind
  intro c _
  refine ⟨trivial, ?_⟩
  have observed : RowsUnwritten s (trace ++ [⟨.ask .observe, c, s'⟩]) s' :=
    unwritten.concat rfl rfl
  unfold stageSave
  rw [Prog.bind_assoc']
  apply Contract.safe_bind.mpr
  have inserts := @stageInsert_written etdr s s' (trace ++ [⟨.ask .observe, c, s'⟩]) req nonzero
    ⟨.ask .observe, c, s'⟩ (List.mem_append_right trace List.mem_cons_self) rfl observed
  refine inserts.mono ?_
  rintro result tr s₁ ⟨written, failed⟩
  cases result with
  | error message =>
    exact written_of_quiet (retryAfterFailedSave_quiet _) written
  | ok id =>
    apply Contract.safe_bind.mpr
    refine Contract.safe_bind.mpr ?_
    refine (written_of_quiet (verifyAfterSave_quiet id _) written).mono fun verified tr s₂ written => ?_
    exact written_of_quiet (retryPendingTcd_quiet id) written

/-- What an attempt writes is merged into the row it has found, or built. -/
theorem retrySaveEtdrToDb_written (s : Sys) :
    attempt.Safe req (retrySaveEtdrToDb etdr)
      (fun _ tr s' => RowsWritten etdr.trimTags s tr s') [] s := by
  have start : RowsUnwritten s [] s := ⟨rfl, fun ev mem => absurd mem List.not_mem_nil⟩
  unfold retrySaveEtdrToDb
  split
  · next sufficient =>
    have nonzero : etdr.trimTags.ticketId ≠ 0 := sufficient.1
    have withoutRow : ∀ tr, RowsUnwritten s tr s → attempt.Safe req (retryWithoutRow etdr.trimTags)
        (fun _ tr s' => RowsWritten etdr.trimTags s tr s') tr s := by
      intro tr unwritten
      apply attempt_findByTicketInId unwritten
      · intro row tr stored unwritten
        exact retryMerge_written unwritten stored
      · intro result tr missing _ unwritten
        split
        · next existing => exact absurd rfl (missing existing)
        · split
          · exact Contract.safe_pure.mpr unwritten.written
          · exact retryInsert_written nonzero unwritten
    apply attempt_ask start
    intro c tr _ unwritten
    simp only [Query.reply]
    rcases c.orFault_cases (s.stages.findById etdr.trimTags.ticketId) with ok | ⟨message, error⟩
    · rw [ok]
      cases read : s.stages.findById etdr.trimTags.ticketId with
      | none => exact withoutRow tr unwritten
      | some existing =>
        obtain ⟨row, stored, rfl⟩ := Option.map_eq_some_iff.mp read
        exact retryMerge_written unwritten stored
    · rw [error]
      exact withoutRow tr unwritten
  · exact Contract.safe_pure.mpr start.written

/-- A row that was saved from the state before carries the record over exactly when the row
accepts it. -/
theorem carriesOver_of_savedAs {id : Int} (as : SavedAs etdr env s s' id)
    {row' : TransportTransactionStage} (stored : s'.stages.row? id = some row') :
    CarriesOver etdr ((s.stages.row? id).getD {}) row' ↔
      SaveAccepts etdr env (s.stages.row? id) := by
  unfold SavedAs at as
  cases before : s.stages.row? id with
  | some row =>
    rw [before] at as
    cases stored.symm.trans as
    exact carriesOver_mergedRow_iff
  | none =>
    rw [before] at as
    obtain ⟨sysdate, built⟩ := as
    cases stored.symm.trans built
    exact carriesOver_builtRow_iff

theorem carriesOver_trimTags {old new : TransportTransactionStage} :
    CarriesOver etdr.trimTags old new ↔ CarriesOver etdr old new :=
  ⟨fun ⟨a, b, c, d, e, f, g, h, i⟩ => ⟨a, b, c, d, e, f, g, h, i⟩,
    fun ⟨a, b, c, d, e, f, g, h, i⟩ => ⟨a, b, c, d, e, f, g, h, i⟩⟩

/-- The row that an attempt has updated or inserted carries the record over, and has kept what
it had, exactly when what was stored before accepts the record, under the settings that the
attempt has observed. -/
theorem retrySaveEtdrToDb_carries_iff (etdr : Etdr) (s : Sys) (choices : Nat → Choice)
    {ev : Event Op Choice Sys} (performed : ev ∈ (retrySaveEtdrToDb etdr).past Op.exec choices s)
    {id : Int} (saved : savedRow? ev = some id) {row' : TransportTransactionStage}
    (stored : ((retrySaveEtdrToDb etdr).run Op.exec choices s).2.stages.row? id = some row') :
    ∃ seen ∈ (retrySaveEtdrToDb etdr).past Op.exec choices s, seen.op = .ask .observe ∧
      (CarriesOver etdr ((s.stages.row? id).getD {}) row' ↔
        SaveAccepts etdr.trimTags seen.choice.env (s.stages.row? id)) := by
  have written : RowsWritten etdr.trimTags s ((retrySaveEtdrToDb etdr).past Op.exec choices s)
      ((retrySaveEtdrToDb etdr).run Op.exec choices s).2 :=
    Contract.serial_run (@retrySaveEtdrToDb_written etdr .retryCycle s) choices
  obtain ⟨seen, mem, observes, as⟩ := written ev performed id saved
  refine ⟨seen, mem, observes, ?_⟩
  rw [← carriesOver_trimTags]
  exact carriesOver_of_savedAs as stored

/-- The record of ticket 1 whose commit has not reached its row. -/
def uncommittedRecord : Etdr where
  ticketId := 1
  stationId := 1
  laneId := 1
  etagId := "BECT01"
  etagNumber := "BECT01"
  checkinCommitDatetime := 1700000000000

/-- The attempt to save that record over its row. -/
theorem retrySaveEtdrToDb_savesRow :
    ∃ ev ∈ (retrySaveEtdrToDb uncommittedRecord).past Op.exec (fun _ => default) beforeCommit,
      savedRow? ev = some 1 := by
  have saved : ((retrySaveEtdrToDb uncommittedRecord).past Op.exec (fun _ => default)
      beforeCommit).any (fun ev => savedRow? ev = some 1) := by
    decide +kernel
  simpa using saved

theorem retrySaveEtdrToDb_storesRow :
    ∃ row', ((retrySaveEtdrToDb uncommittedRecord).run Op.exec (fun _ => default)
      beforeCommit).2.stages.row? 1 = some row' ∧ row'.checkinCommitDatetime = none := by
  have stored : (((retrySaveEtdrToDb uncommittedRecord).run Op.exec (fun _ => default)
      beforeCommit).2.stages.row? 1).any (fun row => row.checkinCommitDatetime = none) := by
    decide +kernel
  simpa [Option.any_eq_true] using stored

theorem retrySaveEtdrToDb_carries_iff_beforeCommit :
    ∃ row', ∃ seen : Event Op Choice Sys, seen.op = .ask .observe ∧
      (CarriesOver uncommittedRecord ((beforeCommit.stages.row? 1).getD {}) row' ↔
        SaveAccepts uncommittedRecord.trimTags seen.choice.env (beforeCommit.stages.row? 1)) := by
  obtain ⟨ev, performed, saved⟩ := retrySaveEtdrToDb_savesRow
  obtain ⟨row', stored, -⟩ := retrySaveEtdrToDb_storesRow
  obtain ⟨seen, -, observes, iff⟩ :=
    retrySaveEtdrToDb_carries_iff uncommittedRecord beforeCommit (fun _ => default) performed saved
      stored
  exact ⟨row', seen, observes, iff⟩

/-- That attempt returns `true` after an `UPDATE` of the row, which has no commit time
afterwards. -/
theorem retrySaveEtdrToDb_loses_commit :
    ((retrySaveEtdrToDb uncommittedRecord).run Op.exec (fun _ => default) beforeCommit).1 = true ∧
    (∃ ev ∈ (retrySaveEtdrToDb uncommittedRecord).past Op.exec (fun _ => default) beforeCommit,
      savedRow? ev = some 1) ∧
    ∃ row', ((retrySaveEtdrToDb uncommittedRecord).run Op.exec (fun _ => default)
        beforeCommit).2.stages.row? 1 = some row' ∧
      ¬ CarriesOver uncommittedRecord enteredTrip row' := by
  refine ⟨by decide +kernel, retrySaveEtdrToDb_savesRow, ?_⟩
  obtain ⟨row', stored, lost⟩ := retrySaveEtdrToDb_storesRow
  refine ⟨row', stored, fun carried => ?_⟩
  rcases carried.checkinCommit (by decide) with had | ⟨set, eq⟩
  · cases had
  · rw [← eq, lost] at set
    cases set

end TollBackend

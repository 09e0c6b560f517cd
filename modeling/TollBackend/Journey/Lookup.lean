import TollBackend.Journey.Steps
import TollBackend.Sorting.Rank

/-!
# The lookup of a trip

The handlers of a journey go by the tag. All else that is known of the tag is older than the
trip, in the main table, in the sync table and in the cache, so a lookup finds the trip.

## Main results

* `StageTable.latestRow?_eq_of_older`: the row of a `SELECT` that orders by the check-in time.
* `bestPendingRecord_of_older`: the row is chosen over an older sync record.
* `Journey.amid_resolve`: the lookup of the tag returns a record of the trip.
-/

namespace TollBackend

open Concurrent

/-! ### The latest row -/

/-- A row is earlier than another one, and both have a time. -/
def TransportTransactionStage.EarlierThan (row : TransportTransactionStage) (seconds : Int) :
    Prop :=
  ∃ d, row.checkinTime = some d ∧ d.epochSeconds < seconds

/-- A row that is later than all others that are selected is the one that is returned. -/
theorem StageTable.latestRow?_eq_of_older {table : StageTable}
    {p : TransportTransactionStage → Bool} {row : TransportTransactionStage} {d : DbDatetime}
    (mem : row ∈ table.rows) (hit : p row = true) (checkedIn : row.CheckedIn)
    (time : row.checkinTime = some d)
    (older : ∀ other ∈ table.rows, other.transportTransId ≠ row.transportTransId →
      p other = true → other.CheckedIn → other.EarlierThan d.epochSeconds)
    (rank : Int → Nat) : table.latestRow? p rank = some row := by
  refine Sorting.head?_insertionSort (List.mem_filter.mpr ⟨mem, by simp [hit, checkedIn]⟩) ?_
  intro other selected ne
  obtain ⟨mem', hit'⟩ := List.mem_filter.mp selected
  rw [Bool.and_eq_true, decide_eq_true_eq] at hit'
  have elsewhere : other.transportTransId ≠ row.transportTransId :=
    fun same => ne (List.inj_on_of_nodup_map table.primaryKey mem' mem same)
  obtain ⟨d', time', earlier⟩ := older other mem' elsewhere hit'.1 hit'.2
  rw [time, time']
  constructor
  · exact ⟨earlier.le, fun later => absurd (lt_of_lt_of_le earlier later) (lt_irrefl _)⟩
  · exact fun before => absurd (lt_of_lt_of_le earlier before.1) (lt_irrefl _)

/-- A row is chosen over a sync record that is older. -/
theorem bestPendingRecord_of_older {syncWithDetails : Option (TransportTransStageSync ×
    List TransportTransStageSyncDt)} {tts : TransportTransactionStage} {time : Int}
    (started : 0 < time) (later : time ≤ recordTimeMs tts.checkinDatetime tts.insertDatetime)
    (older : ∀ sd ∈ syncWithDetails,
      recordTimeMs sd.1.checkinDatetime sd.1.insertDatetime < time) :
    bestPendingRecord syncWithDetails (some tts) = some (.bect tts) := by
  have before : (syncWithDetails.map fun sd =>
      recordTimeMs sd.1.checkinDatetime sd.1.insertDatetime).getD 0 < time := by
    cases syncWithDetails with
    | none => exact started
    | some sd => exact older sd rfl
  -- the window counts in favour of the row
  simp only [bestPendingRecord]
  split
  · rfl
  · rw [if_pos]
    have window : 0 < bestRecordSyncWindowMs := by decide
    omega

namespace Journey

variable {j : Journey} {s : Sys} {m n : Milestone} {charge : Charge} {status : Option Int}
variable {α : Type} {sent : List Out} {post : α → List Out → Sys → Prop}

/-- The row of the trip is the latest of its tag. -/
theorem Underway.findLatestByEtag (underway : j.Underway m n charge status s)
    (rank : Int → Nat) : ∃ row, s.stages.findLatestByEtag j.tag rank = some row.selectRow ∧
      row.transportTransId = j.ticket ∧ j.RowAt m row := by
  obtain ⟨row, found, at_⟩ := underway.row
  obtain ⟨mem, id⟩ := StageTable.row?_eq_some_iff.mp found
  obtain ⟨d, column, later⟩ := at_.checkin
  have time : row.checkinTime = some d := by
    rw [TransportTransactionStage.checkinTime, column]
    rfl
  have latest : s.stages.latestRow? (fun row => row.etagNumber == some j.tag) rank = some row := by
    refine StageTable.latestRow?_eq_of_older mem (by simp [at_.etagNumber]) at_.checkedIn time
      (fun other mem' elsewhere tag checkedIn => ?_) rank
    rw [id] at elsewhere
    obtain ⟨d', time', earlier⟩ :=
      (underway.rows other mem' elsewhere checkedIn).2 (by simpa using tag)
    exact ⟨d', time', by omega⟩
  exact ⟨row, by rw [StageTable.findLatestByEtag, latest, Option.map_some], id, at_⟩

theorem RowAt.le_recordTimeMs {row : TransportTransactionStage} (at_ : j.RowAt m row) :
    j.start * 1000 ≤ recordTimeMs row.selectRow.checkinDatetime row.selectRow.insertDatetime := by
  obtain ⟨d, column, later⟩ := at_.checkin
  have time : millisOrZero row.selectRow.checkinDatetime = d.timestampMillis := by
    show millisOrZero row.checkinDatetime = _
    rw [column, millisOrZero_some]
  refine le_trans ?_ (le_max_left _ _)
  rw [time, DbDatetime.timestampMillis]
  omega

/-! ### The lookup -/

/-- The newest sync record of the tag is from before the trip. -/
theorem amid_latestSync
    {next : Option (TransportTransStageSync × List TransportTransStageSyncDt) → Program α}
    (underway : j.Underway m n charge status s)
    (rest : ∀ found s', (∀ sd ∈ found,
        recordTimeMs sd.1.checkinDatetime sd.1.insertDatetime < j.start * 1000) →
      j.Underway m n charge status s' → j.setting.Amid (next found) sent post s') :
    j.setting.Amid (latestSyncWithDetails j.tag >>= next) sent post s := by
  refine amid_ask Spared.underway underway fun c s₁ underway₁ healthy => ?_
  simp only [Query.reply]
  rw [healthy.orFault]
  cases found : syncFindLatestByEtag s₁.syncs j.tag with
  | none => exact rest none s₁ (by simp) underway₁
  | some sync =>
    refine amid_ask Spared.underway underway₁ fun c' s₂ underway₂ healthy' => ?_
    refine rest (some (sync, _)) s₂ (fun sd same => ?_) underway₂
    cases same
    exact underway₁.syncs sync found

/-- The row of the trip is chosen. -/
theorem amid_findBestPending {next : Option BestPendingRecord → Program α}
    (underway : j.Underway m n charge status s)
    (rest : ∀ row s', row.transportTransId = j.ticket → j.RowAt m row →
      j.Underway m n charge status s' →
      j.setting.Amid (next (some (.bect row.selectRow))) sent post s') :
    j.setting.Amid (findBestPending j.tag >>= next) sent post s := by
  rw [findBestPending, Prog.bind_assoc']
  refine amid_latestSync underway fun found s₁ older underway₁ => ?_
  refine amid_ask Spared.underway underway₁ fun c s₂ underway₂ healthy => ?_
  obtain ⟨row, latest, id, at_⟩ := underway₂.findLatestByEtag c.rank
  simp only [Query.reply]
  rw [healthy.orFault, latest]
  have chosen : bestPendingRecord found (some row.selectRow) = some (.bect row.selectRow) :=
    bestPendingRecord_of_older (by have := j.started; omega) at_.le_recordTimeMs older
  have start := rest row s₂ id at_ underway₂
  rw [← chosen] at start
  exact start

/-- The tables have the trip as far as its row. -/
theorem amid_getBestPending {next : Option Etdr → Program α}
    (underway : j.Underway m m charge status s) (inside : m.hasLeft = false)
    (rest : ∀ e s', j.RecordAt m e → j.Underway m m charge status s' →
      j.setting.Amid (next (some e)) sent post s') :
    j.setting.Amid (getBestPendingFromSyncOrMainBect j.tag >>= next) sent post s := by
  rw [getBestPendingFromSyncOrMainBect, j.normalizeEtag_tag, Prog.bind_assoc']
  refine amid_findBestPending underway fun row s₁ id at_ underway₁ => ?_
  refine amid_ask Spared.underway underway₁ fun c s₂ underway₂ healthy => ?_
  have stored := at_.record id inside c.env.now
  refine amid_perform rfl Spared.underway underway₂ fun c' s₃ underway₃ healthy' => ?_
  exact rest _ _ stored (underway₃.save (.fromStage row.selectRow c.env.now) stored c')

theorem resolveLatestEtdr_bind (etag : String) (next : Option Etdr → Program α) :
    resolveLatestEtdr etag >>= next = (do
      let cached ← perform (.cacheGetLatestCheckin etag)
      let stored ← getBestPendingFromSyncOrMainBect etag
      next (mergeLatestCheckinEtdr cached stored)) := by
  rw [resolveLatestEtdr, Prog.bind_assoc']
  congr 1
  funext cached
  rw [Prog.bind_assoc']
  rfl

/-- The lookup of the tag returns a record of the trip, which is as far as the row. -/
theorem amid_resolve {next : Option Etdr → Program α} {etag : String} (tag : etag = j.tag)
    (underway : j.Underway m m charge status s) (inside : m.hasLeft = false)
    (rest : ∀ e s', j.RecordAt m e → j.Underway m m charge status s' →
      j.setting.Amid (next (some e)) sent post s') :
    j.setting.Amid (resolveLatestEtdr etag >>= next) sent post s := by
  rw [tag, resolveLatestEtdr_bind]
  refine amid_perform rfl Spared.underway underway fun c s₁ underway₁ healthy => ?_
  have spares : (Op.cacheGetLatestCheckin j.tag).Spares j s₁ := trivial
  refine amid_getBestPending ((spares.spared c).underway underway₁) inside fun e s₂ at_ kept => ?_
  simp only [Op.exec]
  cases read : (s₁.cache.getLatestCheckin j.tag c.env.now).1 with
  | none => exact rest e s₂ at_ kept
  | some cached =>
    simp only [mergeLatestCheckinEtdr]
    split
    · next newer =>
      -- a cached record of another ticket would be from before the trip
      have stored := EtdrCache.getLatestCheckin_cached read
      rw [j.normalizeEtag_tag] at stored
      by_cases own : cached.ticketId = j.ticket
      · exact rest cached s₂ (underway₁.cached _ cached stored own).2 kept
      · have old := underway₁.records cached stored own
        have later := at_.checkin
        omega
    · exact rest e s₂ at_ kept

end Journey

end TollBackend

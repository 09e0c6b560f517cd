import TollBackend.TakingTurns.Tickets

/-!
# The progress of a trip in the cache

A record gathers the commit of the check-in, the exit, its commit, the price and the fee
lines of a trip as its messages arrive. All but the price and the lines are columns of the
row as well, so between requests the cached record and the row tell the same of a trip.

## Main definitions

* `Keeps`: a record has all the progress of another one.
* `KeepsLifecycle`, `KeepsTicket`: a step loses no progress of a cached ticket.
* `Progress`: what a record and a row both tell of a trip.
* `Agrees`: the cached records of a ticket tell what its row tells.
* `Undisturbed`: nothing that matters here has changed for a ticket.

## Main results

* `CachePut.keepsTicket`, `CachePut.agrees`: saving a record that is current, and tells what the row
  tells.
-/

namespace TollBackend

open Concurrent

/-- The record `e'` has the progress of `e`. -/
@[mk_iff] structure Keeps (e e' : Etdr) : Prop where
  checkinCommit : e.checkinCommitDatetime ≠ 0 → e'.checkinCommitDatetime ≠ 0
  checkout : e.checkoutDatetime ≠ 0 → e'.checkoutDatetime ≠ 0
  checkoutCommit : e.checkoutCommitDatetime ≠ 0 → e'.checkoutCommitDatetime ≠ 0
  tollOut : e.tollOut ≠ 0 → e'.tollOut ≠ 0
  price : e.price ≠ 0 → e'.price ≠ 0
  ratingDetails : e.ratingDetails ≠ [] → e'.ratingDetails ≠ []

theorem Keeps.refl (e : Etdr) : Keeps e e :=
  ⟨id, id, id, id, id, id⟩

theorem Keeps.trans {e₁ e₂ e₃ : Etdr} (first : Keeps e₁ e₂) (second : Keeps e₂ e₃) :
    Keeps e₁ e₃ where
  checkinCommit h := second.checkinCommit (first.checkinCommit h)
  checkout h := second.checkout (first.checkout h)
  checkoutCommit h := second.checkoutCommit (first.checkoutCommit h)
  tollOut h := second.tollOut (first.tollOut h)
  price h := second.price (first.price h)
  ratingDetails h := second.ratingDetails (first.ratingDetails h)

/-- Between two states, a ticket that stays cached under a tag does not lose progress. -/
def KeepsTicket (t : Int) (s s' : Sys) : Prop :=
  ∀ key e e', s.cache.Cached key e → s'.cache.Cached key e' → e.ticketId = t → e'.ticketId = t →
    t ≠ 0 → Keeps e e'

/-- Between two states, no ticket that stays cached under a tag loses progress. -/
def KeepsLifecycle (s s' : Sys) : Prop :=
  ∀ key e e', s.cache.Cached key e → s'.cache.Cached key e' → e'.ticketId = e.ticketId →
    e.ticketId ≠ 0 → Keeps e e'

theorem keepsLifecycle_of_forall {s s' : Sys} (keeps : ∀ t, KeepsTicket t s s') :
    KeepsLifecycle s s' :=
  fun key e e' cached cached' same nonzero =>
    keeps e.ticketId key e e' cached cached' rfl same nonzero

/-! ### What the row tells as well -/

/-- What is known of a trip: whether its check-in is committed, it has an exit time, its exit
is committed, and it has an exit station. -/
structure Progress where
  committed : Bool
  exited : Bool
  exitCommitted : Bool
  exitStation : Bool
deriving DecidableEq

/-- A trip that has only been entered. -/
def Progress.entered : Progress :=
  ⟨false, false, false, false⟩

/-- What a record tells. -/
def Etdr.progress (e : Etdr) : Progress where
  committed := decide (e.checkinCommitDatetime ≠ 0)
  exited := decide (e.checkoutDatetime ≠ 0)
  exitCommitted := decide (e.checkoutCommitDatetime ≠ 0)
  exitStation := decide (e.tollOut ≠ 0)

/-- What a row tells. -/
def TransportTransactionStage.progress (row : TransportTransactionStage) : Progress where
  committed := decide (millisOrZero row.checkinCommitDatetime ≠ 0)
  exited := decide (millisOrZero row.checkoutDatetime ≠ 0)
  exitCommitted := decide (millisOrZero row.checkoutCommitDatetime ≠ 0)
  exitStation := decide (idOrZero row.checkoutTollId ≠ 0)

/-- What the main table tells of a ticket: of one without a row, nothing. -/
def Sys.progressOf (s : Sys) (t : Int) : Progress :=
  ((s.stages.row? t).map TransportTransactionStage.progress).getD .entered

/-- The record `e'` tells what `e` tells, and has its price and its fee lines. -/
structure SameLifecycle (e e' : Etdr) : Prop where
  progress : e'.progress = e.progress
  price : e'.price = e.price
  ratingDetails : e'.ratingDetails = e.ratingDetails

section Records

variable {e e' : Etdr}

theorem keeps_of_progress (same : e'.progress = e.progress) (price : e.price ≠ 0 → e'.price ≠ 0)
    (lines : e.ratingDetails ≠ [] → e'.ratingDetails ≠ []) : Keeps e e' where
  checkinCommit := (decide_eq_decide.mp (congrArg Progress.committed same)).mpr
  checkout := (decide_eq_decide.mp (congrArg Progress.exited same)).mpr
  checkoutCommit := (decide_eq_decide.mp (congrArg Progress.exitCommitted same)).mpr
  tollOut := (decide_eq_decide.mp (congrArg Progress.exitStation same)).mpr
  price := price
  ratingDetails := lines

theorem SameLifecycle.keeps (same : SameLifecycle e e') : Keeps e e' := by
  refine keeps_of_progress same.progress (fun h => ?_) fun h => ?_
  · rwa [same.price]
  · rwa [same.ratingDetails]

theorem SameLifecycle.trans {e'' : Etdr} (first : SameLifecycle e e')
    (second : SameLifecycle e' e'') : SameLifecycle e e'' where
  progress := second.progress.trans first.progress
  price := second.price.trans first.price
  ratingDetails := second.ratingDetails.trans first.ratingDetails

theorem SameLifecycle.symm (same : SameLifecycle e e') : SameLifecycle e' e :=
  ⟨same.progress.symm, same.price.symm, same.ratingDetails.symm⟩

theorem sameLifecycle_of_withoutHub (same : e.withoutHub = e'.withoutHub) :
    SameLifecycle e e' where
  progress := show e'.withoutHub.progress = e.withoutHub.progress by rw [same]
  price := show e'.withoutHub.price = e.withoutHub.price by rw [same]
  ratingDetails := show e'.withoutHub.ratingDetails = e.withoutHub.ratingDetails by rw [same]

/-- The times and the exit station that a sync record has are those of a trip. -/
@[mk_iff] structure SyncTells (sync : TransportTransStageSync) (p : Progress) : Prop where
  committed : ∀ d ∈ sync.checkinCommitDatetime, decide (d.timestampMillis ≠ 0) = p.committed
  exited : ∀ d ∈ sync.checkoutDatetime, decide (d.timestampMillis ≠ 0) = p.exited
  exitCommitted : ∀ d ∈ sync.checkoutCommitDatetime,
    decide (d.timestampMillis ≠ 0) = p.exitCommitted
  exitStation : ∀ id ∈ sync.checkoutTollId, decide (toI32 id ≠ 0) = p.exitStation

instance (sync : TransportTransStageSync) (p : Progress) : Decidable (SyncTells sync p) :=
  decidable_of_iff _ (syncTells_iff sync p).symm

theorem decide_getD {α : Type} {column : Option α} {f : α → Int} {n : Int}
    (tells : ∀ v ∈ column, decide (f v ≠ 0) = decide (n ≠ 0)) :
    decide ((column.map f).getD n ≠ 0) = decide (n ≠ 0) := by
  cases column with
  | none => rfl
  -- a column that is set replaces the time, and tells the same
  | some v => exact tells v rfl

/-- A record that is filled from such a sync record tells what it told before. -/
theorem sameLifecycle_fillEtdrFromSync {sync : TransportTransStageSync} (now : Clock)
    (tells : SyncTells sync e.progress) : SameLifecycle e (fillEtdrFromSync e sync now) where
  progress := by
    rw [Etdr.progress, Etdr.progress, Progress.mk.injEq]
    exact ⟨decide_getD tells.committed, decide_getD tells.exited,
      decide_getD tells.exitCommitted, decide_getD tells.exitStation⟩
  price := rfl
  ratingDetails := rfl

end Records

/-! ### Tickets between requests -/

/-- The cached records of a ticket tell what its row tells. -/
def Agrees (t : Int) (s : Sys) : Prop :=
  t ≠ 0 → ∀ key e, s.cache.Cached key e → e.ticketId = t → e.progress = s.progressOf t

/-- Nothing cached of the snapshot's ticket under its tag has what the snapshot lacks. -/
def SnapshotCurrent (s : Sys) (snapshot : Etdr) : Prop :=
  snapshot.ticketId ≠ 0 → ∀ e, s.cache.Cached (normalizeEtag snapshot.etagId) e →
    e.ticketId = snapshot.ticketId → Keeps e snapshot

/-- The snapshot tells what the row of its ticket tells, and is current. -/
structure Fresh (s : Sys) (snapshot : Etdr) : Prop where
  progress : snapshot.ticketId ≠ 0 → snapshot.progress = s.progressOf snapshot.ticketId
  current : SnapshotCurrent s snapshot

/-- The snapshot tells what the row of its ticket tells, and so does its cached record, which has
the same price and fee lines. -/
structure Mirrors (s : Sys) (snapshot : Etdr) : Prop where
  progress : snapshot.ticketId ≠ 0 → snapshot.progress = s.progressOf snapshot.ticketId
  cached : snapshot.ticketId ≠ 0 → ∀ e, s.cache.Cached (normalizeEtag snapshot.etagId) e →
    e.ticketId = snapshot.ticketId → SameLifecycle e snapshot

theorem Mirrors.fresh {s : Sys} {snapshot : Etdr} (mirrors : Mirrors s snapshot) :
    Fresh s snapshot where
  progress := mirrors.progress
  current nonzero e cached ticket := (mirrors.cached nonzero e cached ticket).keeps

/-- Between two states, the row of a ticket tells the same, and what is cached of it was
cached, with the same price and fee lines, before. -/
structure Undisturbed (t : Int) (s s' : Sys) : Prop where
  progress : s'.progressOf t = s.progressOf t
  cached : t ≠ 0 → ∀ key e', s'.cache.Cached key e' → e'.ticketId = t →
    ∃ e, s.cache.Cached key e ∧ e.ticketId = t ∧ SameLifecycle e e'

section Undisturbed

variable {s s' : Sys} {t : Int} {e : Etdr}

theorem SameTicket.undisturbed (same : SameTicket t s s') : Undisturbed t s s' where
  progress := by
    have progress : ∀ s : Sys, s.progressOf t = (((s.stages.row? t).map
        TransportTransactionStage.withoutHub).map TransportTransactionStage.progress).getD
          .entered := fun s => by
      rw [Option.map_map]
      rfl
    rw [progress, same.row, ← progress]
  cached _ key e' cached ticket := by
    obtain ⟨e, old, eq⟩ := same.cached key e' cached ticket
    exact ⟨e, old, (congrArg Etdr.ticketId eq).trans ticket, sameLifecycle_of_withoutHub eq⟩

theorem Undisturbed.agrees (same : Undisturbed t s s') (agrees : Agrees t s) : Agrees t s' := by
  intro nonzero key e' cached ticket
  obtain ⟨e, old, own, lifecycle⟩ := same.cached nonzero key e' cached ticket
  rw [lifecycle.progress, agrees nonzero key e old own, same.progress]

theorem Undisturbed.current (same : Undisturbed e.ticketId s s') (current : SnapshotCurrent s e) :
    SnapshotCurrent s' e := by
  intro nonzero e₁ cached ticket
  obtain ⟨e₀, old, own, lifecycle⟩ := same.cached nonzero _ e₁ cached ticket
  exact lifecycle.symm.keeps.trans (current nonzero e₀ old own)

theorem Undisturbed.fresh (same : Undisturbed e.ticketId s s') (fresh : Fresh s e) :
    Fresh s' e where
  progress nonzero := (fresh.progress nonzero).trans same.progress.symm
  current := same.current fresh.current

theorem Undisturbed.mirrors (same : Undisturbed e.ticketId s s') (mirrors : Mirrors s e) :
    Mirrors s' e where
  progress nonzero := (mirrors.progress nonzero).trans same.progress.symm
  cached nonzero e₁ cached ticket := by
    obtain ⟨e₀, old, own, lifecycle⟩ := same.cached nonzero _ e₁ cached ticket
    exact lifecycle.symm.trans (mirrors.cached nonzero e₀ old own)

theorem Undisturbed.keepsTicket (same : Undisturbed t s s') (wf : s.cache.WellFormed) :
    KeepsTicket t s s' := by
  intro key e e' cached cached' ticket ticket' nonzero
  obtain ⟨e₀, old, own, lifecycle⟩ := same.cached nonzero key e' cached' ticket'
  -- a tag has at most one record of a ticket, so it is the one that was cached
  cases wf.eq_of_ticketId old cached (own.trans ticket.symm) (by rw [own]; exact nonzero)
  exact lifecycle.keeps

end Undisturbed

/-! ### Saving a record -/

namespace CachePut

variable {s s' : Sys} {e snapshot : Etdr}

theorem progressOf (put : CachePut e s s') (t : Int) : s'.progressOf t = s.progressOf t := by
  rw [Sys.progressOf, put.stages]
  rfl

/-- A save leaves the other tickets alone. -/
theorem undisturbed {t : Int} (put : CachePut e s s') (other : t ≠ e.ticketId) :
    Undisturbed t s s' where
  progress := put.progressOf t
  cached _ key e' cached ticket := by
    rcases put.cached key e' cached with ⟨-, rfl⟩ | old
    · exact absurd ticket.symm other
    · exact ⟨e', old, ticket, rfl, rfl, rfl⟩

/-- Saving a current snapshot loses no progress of its ticket. -/
theorem keepsTicket (put : CachePut e s s') (wf : s.cache.WellFormed)
    (current : SnapshotCurrent s e) : KeepsTicket e.ticketId s s' := by
  intro key e₁ e₂ cached cached' ticket ticket' nonzero
  rcases put.cached key e₂ cached' with ⟨rfl, rfl⟩ | old
  · exact current nonzero e₁ cached ticket
  · -- a record that was not put is the one that was there
    cases wf.eq_of_ticketId old cached (ticket'.trans ticket.symm) (by rw [ticket']; exact nonzero)
    exact .refl _

/-- After a snapshot that tells what the row tells was saved, the ticket agrees. -/
theorem agrees (put : CachePut e s s') (agrees : Agrees e.ticketId s)
    (tells : e.ticketId ≠ 0 → e.progress = s.progressOf e.ticketId) : Agrees e.ticketId s' := by
  intro nonzero key e' cached ticket
  rw [put.progressOf]
  rcases put.cached key e' cached with ⟨-, rfl⟩ | old
  · exact tells nonzero
  · exact agrees nonzero key e' old ticket

/-- The record that was saved is current. -/
theorem current (put : CachePut e s s') (wf : s.cache.WellFormed) : SnapshotCurrent s' e := by
  intro nonzero e' cached ticket
  rw [put.replaced wf nonzero e' cached ticket]
  exact .refl e

/-- A snapshot stays current if it has all the progress of the record that is put. -/
theorem current_of_keeps (put : CachePut e s s') (current : SnapshotCurrent s snapshot)
    (keeps : snapshot.ticketId ≠ 0 → e.ticketId = snapshot.ticketId →
      normalizeEtag snapshot.etagId = normalizeEtag e.etagId → Keeps e snapshot) :
    SnapshotCurrent s' snapshot := by
  intro nonzero e' cached ticket
  rcases put.cached _ e' cached with ⟨tag, rfl⟩ | old
  · exact keeps nonzero ticket tag
  · exact current nonzero e' old ticket

end CachePut

end TollBackend

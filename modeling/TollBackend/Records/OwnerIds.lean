import TollBackend.Records.Rule

/-!
# The ids of the owner

Rows and the lookup of a subscriber have the ids of the subscriber, the tag, the vehicle and the
account as numbers of 64 bits. A record keeps each in 32 bits, and what is written back of a
record are these.

## Main definitions

* `OwnerIds`, `Carrying`: the ids, and the records that are made from them and changed.
* `OwnerWrite`: the places where ids of a record are written.
* `OwnerIds.Keeps`: a write leaves a column as it is, or writes the id the record was made from.

## Main results

* `Carrying.narrowed`: a record has the low 32 bits of its ids, whatever was done to it.
* `ownerIds_kept_iff`: when a write keeps the ids.
-/

namespace TollBackend

open Concurrent

/-- The ids of a subscriber, a tag, a vehicle and an account. -/
structure OwnerIds where
  subscriber : Option Int := none
  etag : Option Int := none
  vehicle : Option Int := none
  account : Option Int := none

/-- The ids of a row. -/
def TransportTransactionStage.ownerIds (row : TransportTransactionStage) : OwnerIds where
  subscriber := row.subscriberId
  etag := row.etagId
  vehicle := row.vehicleId
  account := row.accountId

/-- The ids of a lookup. A tag has no id if it is zero. -/
def ownerIdsOf (subscriberInfo : Option SubscriberInfo) : OwnerIds where
  subscriber := subscriberInfo.map (·.subscriberId)
  etag := subscriberInfo.bind fun sub => nonzero? sub.etagId
  vehicle := subscriberInfo.map (·.vehicleId)
  account := subscriberInfo.map (·.accountId)

/-- The records that are made from a lookup or a row with these ids, and changed by requests and
by the retry task. A merge of two records keeps the ids of the one with the later check-in. -/
inductive Carrying : OwnerIds → Etdr → Prop
  | entered (req : FeCheckin) (subscriberInfo : Option SubscriberInfo)
      (exVehicleType : Option String) (ticketId : Int) (now : Clock) :
      Carrying (ownerIdsOf subscriberInfo)
        (checkinEtdr req subscriberInfo exVehicleType ticketId now)
  | fromStage (row : TransportTransactionStage) (now : Clock) :
      Carrying row.ownerIds (.fromTransportTransactionStage row now)
  | unsaved {ids : OwnerIds} {e : Etdr} : Carrying ids e → Carrying ids { e with
      check := saveDbError, dbSaved := false, dbSaveRetryCount := e.dbSaveRetryCount + 1 }
  | filled {ids : OwnerIds} {e : Etdr} (sync : TransportTransStageSync) (now : Clock) :
      Carrying ids e → Carrying ids (fillEtdrFromSync e sync now)
  | hubId {ids : OwnerIds} {e : Etdr} (hubId : Int) :
      Carrying ids e → Carrying ids { e with hubId := some hubId }
  | touched {ids : OwnerIds} {e : Etdr} (now : Clock) :
      Carrying ids e → Carrying ids (EtdrWrite.touched e now).etdr
  | committed {ids : OwnerIds} {e : Etdr} (now : Clock) (details : List BooRatingDetail)
      (dbSaved : Bool) :
      Carrying ids e → Carrying ids (EtdrWrite.checkinCommitted e now details dbSaved).etdr
  | reserved {ids : OwnerIds} {e : Etdr} (req : CheckoutReserveBoo) (transAmount : Int)
      (priceTicketType : Int) (now : Clock) : Carrying ids e →
      Carrying ids (EtdrWrite.checkoutReserved e req transAmount priceTicketType now).etdr
  | merged {ids : OwnerIds} (a b : Etdr) :
      Carrying ids (if b.checkinDatetime ≤ a.checkinDatetime then a else b) →
      Carrying ids (mergeEtdrSameTicketId a b)
  | saved {ids : OwnerIds} {e : Etdr} : Carrying ids e → Carrying ids { e with dbSaved := true }
  | counted {ids : OwnerIds} {e : Etdr} : Carrying ids e →
      Carrying ids { e with dbSaveRetryCount := e.dbSaveRetryCount + 1 }
  | trimmed {ids : OwnerIds} {e : Etdr} : Carrying ids e → Carrying ids e.trimTags
  | readBack {ids : OwnerIds} {e : Etdr} : Carrying ids e → Carrying ids e.readBack

/-- A record has the low 32 bits of the ids, and zero for a missing id other than that of the
tag. -/
structure Narrowed (ids : OwnerIds) (e : Etdr) : Prop where
  subId : e.subId = idOrZero ids.subscriber
  etagKey : e.etagKey = ids.etag.map toI32
  vehicleId : e.vehicleId = idOrZero ids.vehicle
  accountId : e.accountId = idOrZero ids.account

/-! ### Writing back -/

/-- The places where ids of a record are written: the merge into a row, a new row, the checkout
columns of a row, and the subscription of fee lines. -/
inductive OwnerWrite
  | merge (existing : TransportTransactionStage) (env : Ambient)
  | build (env : Ambient)
  | reserve (row : TransportTransactionStage) (req : CheckoutReserveBoo) (transAmount : Int)
      (errorStatus : Int) (accountTransId : Option Int) (now : Clock)
  | feeLines

namespace OwnerWrite

/-- The ids before the write. -/
def before : OwnerWrite → OwnerIds
  | merge existing _ => existing.ownerIds
  | reserve row .. => row.ownerIds
  | build _ | feeLines => {}

/-- The ids after the write. The fee lines get the subscriber that the fee is asked for. -/
def after (e : Etdr) : OwnerWrite → OwnerIds
  | merge existing env => (mergeEtdrIntoTransportStage existing e env).ownerIds
  | build env => (buildTransportStageFromEtdr e env).ownerIds
  | reserve row req transAmount errorStatus accountTransId now =>
      (row.setCheckoutInfo
        (checkoutInfoColumns req e transAmount errorStatus accountTransId now)).ownerIds
  | feeLines => { subscriber := nonzero? e.subId }

end OwnerWrite

/-- A column is left as it is, or gets the id that the record was made from. -/
def KeepsId (source before after : Option Int) : Prop :=
  after = before ∨ after = source

/-- All four columns are. -/
structure OwnerIds.Keeps (source before after : OwnerIds) : Prop where
  subscriber : KeepsId source.subscriber before.subscriber after.subscriber
  etag : KeepsId source.etag before.etag after.etag
  vehicle : KeepsId source.vehicle before.vehicle after.vehicle
  account : KeepsId source.account before.account after.account

/-! ### When ids are kept -/

/-- The number fits in 32 bits. -/
def FitsI32 (id : Int) : Prop :=
  -2 ^ 31 ≤ id ∧ id < 2 ^ 31

/-- The id is missing, or fits, or its low bits are such that nothing is written. -/
def FitsUnless (unwritten : Int → Prop) (source : Option Int) : Prop :=
  ∀ id, source = some id → FitsI32 id ∨ unwritten (toI32 id)

/-- When a write keeps the ids. -/
def OwnerWrite.Fits (source : OwnerIds) : OwnerWrite → Prop
  | merge existing _ =>
      (existing.subscriberId = none → FitsUnless (· ≤ 0) source.subscriber) ∧
      (existing.etagId = none → FitsUnless (fun _ => False) source.etag) ∧
      (existing.vehicleId = none → FitsUnless (· = 0) source.vehicle) ∧
      (existing.accountId = none → FitsUnless (· = 0) source.account)
  | build _ =>
      FitsUnless (· ≤ 0) source.subscriber ∧ FitsUnless (fun _ => False) source.etag ∧
      FitsUnless (· ≤ 0) source.vehicle ∧ FitsUnless (· ≤ 0) source.account
  | reserve row .. =>
      row.accountId = some (idOrZero source.account) ∨
        ∃ id, source.account = some id ∧ FitsI32 id
  | feeLines => FitsUnless (· = 0) source.subscriber

/-! ### Records -/

variable {ids : OwnerIds} {e : Etdr}

/-- A record keeps the low bits of its ids, whatever is done to it. -/
theorem Carrying.narrowed (carrying : Carrying ids e) : Narrowed ids e := by
  induction carrying with
  | entered req subscriberInfo exVehicleType ticketId now =>
    cases subscriberInfo with
    | none => exact ⟨rfl, rfl, rfl, rfl⟩
    | some sub =>
      refine ⟨rfl, ?_, rfl, rfl⟩
      change (if sub.etagId ≠ 0 then some (toI32 sub.etagId) else none) =
        (nonzero? sub.etagId).map toI32
      by_cases zero : sub.etagId = 0 <;> simp [nonzero?, zero]
  | fromStage row now => exact ⟨rfl, rfl, rfl, rfl⟩
  | merged a b _ ih =>
    by_cases later : b.checkinDatetime ≤ a.checkinDatetime
    · rw [if_pos later] at ih
      rw [mergeEtdrSameTicketId, if_pos later]
      exact ⟨ih.subId, ih.etagKey, ih.vehicleId, ih.accountId⟩
    · rw [if_neg later] at ih
      rw [mergeEtdrSameTicketId, if_neg later]
      exact ⟨ih.subId, ih.etagKey, ih.vehicleId, ih.accountId⟩
  | unsaved _ ih | filled _ _ _ ih | hubId _ _ ih | touched _ _ ih | committed _ _ _ _ ih
  | reserved _ _ _ _ _ ih | saved _ ih | counted _ ih | trimmed _ ih | readBack _ ih =>
    exact ⟨ih.subId, ih.etagKey, ih.vehicleId, ih.accountId⟩

/-- Requests only make records that carry the ids of a lookup or a row. -/
theorem carrying_recordRule :
    RecordRule (fun e => ∃ ids, Carrying ids e) fun _ => True where
  entered req subscriberInfo exVehicleType ticketId now :=
    ⟨_, .entered req subscriberInfo exVehicleType ticketId now⟩
  unsaved _ := fun ⟨ids, carrying⟩ => ⟨ids, carrying.unsaved⟩
  fromStage row now := ⟨_, .fromStage row now⟩
  filled _ sync now := fun ⟨ids, carrying⟩ => ⟨ids, carrying.filled sync now⟩
  hubId _ hubId := fun ⟨ids, carrying⟩ => ⟨ids, carrying.hubId hubId⟩
  touched _ now := fun ⟨ids, carrying⟩ => ⟨ids, carrying.touched now⟩
  noLines := trivial
  committed _ now details dbSaved := fun ⟨ids, carrying⟩ _ =>
    ⟨ids, carrying.committed now details dbSaved⟩
  reserved _ req transAmount priceTicketType now := fun ⟨ids, carrying⟩ =>
    ⟨ids, carrying.reserved req transAmount priceTicketType now⟩
  merged a b := by
    rintro ⟨idsA, carryingA⟩ ⟨idsB, carryingB⟩
    by_cases later : b.checkinDatetime ≤ a.checkinDatetime
    · exact ⟨idsA, .merged a b (by rwa [if_pos later])⟩
    · exact ⟨idsB, .merged a b (by rwa [if_neg later])⟩
  saved _ := fun ⟨ids, carrying⟩ => ⟨ids, carrying.saved⟩
  counted _ := fun ⟨ids, carrying⟩ => ⟨ids, carrying.counted⟩
  readBack _ := fun ⟨ids, carrying⟩ => ⟨ids, carrying.readBack⟩

/-- So every record of a run does: in the cache, in KeyDB and on its way there. -/
theorem carrying_of_reaches {s : Sys} {pool : BackendPool}
    (initial : RecordsIn (fun e => ∃ ids, Carrying ids e) s)
    (reaches : backend.Reaches (System.EachAct fun _ _ o c _ => LinesFound (fun _ => True) o c)
      (Pool.init s) pool) :
    RecordsIn (fun e => ∃ ids, Carrying ids e) pool.state :=
  carrying_recordRule.recordsIn_of_reaches reaches initial

/-! ### Columns one by one -/

theorem toI32_eq_self_iff (id : Int) : toI32 id = id ↔ FitsI32 id := by
  constructor
  · intro same
    have low := Int.le_bmod (x := id) (m := 2 ^ 32) (by decide)
    have high := Int.bmod_lt (x := id) (m := 2 ^ 32) (by decide)
    unfold toI32 at same
    rw [same] at low high
    constructor <;> omega
  · rintro ⟨low, high⟩
    exact toI32_of_mem low high

/-- What is written of an id into an empty column. -/
theorem keepsId_write_iff {unwritten : Int → Prop} {write : Int → Option Int}
    (writes : ∀ n, write n = none ∧ unwritten n ∨ write n = some n ∧ ¬ unwritten n)
    (source : Option Int) (missing : source = none → unwritten 0) :
    KeepsId source none (write (idOrZero source)) ↔ FitsUnless unwritten source := by
  cases source with
  | none =>
    apply iff_of_true
    · rcases writes (idOrZero none) with ⟨nothing, -⟩ | ⟨-, written⟩
      · exact .inl nothing
      · exact absurd (missing rfl) written
    · intro id given
      cases given
  | some id =>
    have fits : FitsUnless unwritten (some id) ↔ FitsI32 id ∨ unwritten (toI32 id) := by
      simp [FitsUnless]
    rw [fits, idOrZero_some, KeepsId]
    rcases writes (toI32 id) with ⟨nothing, not⟩ | ⟨written, not⟩
    · exact iff_of_true (.inl nothing) (.inr not)
    · rw [written, Option.some.injEq, toI32_eq_self_iff]
      simp [not]

theorem positive?_cases (n : Int) :
    positive? n = none ∧ n ≤ 0 ∨ positive? n = some n ∧ ¬ n ≤ 0 := by
  by_cases positive : 0 < n
  · exact .inr ⟨if_pos positive, Int.not_le.mpr positive⟩
  · exact .inl ⟨if_neg positive, Int.not_lt.mp positive⟩

theorem nonzero?_cases (n : Int) :
    nonzero? n = none ∧ n = 0 ∨ nonzero? n = some n ∧ ¬ n = 0 := by
  by_cases zero : n = 0
  · exact .inl ⟨if_pos zero, zero⟩
  · exact .inr ⟨if_neg zero, zero⟩

/-- The id of a tag is written whatever it is. -/
theorem keepsId_etag_iff (source : Option Int) :
    KeepsId source none (source.map toI32) ↔ FitsUnless (fun _ => False) source := by
  cases source with
  | none => exact iff_of_true (.inl rfl) fun id given => by cases given
  | some id => simp [KeepsId, FitsUnless, toI32_eq_self_iff]

/-- A column that has a value is left as it is. -/
theorem keepsId_orElse_iff (source existing filled : Option Int) :
    KeepsId source existing (existing <|> filled) ↔
      (existing = none → KeepsId source none filled) := by
  cases existing with
  | none => simp
  | some id => exact iff_of_true (.inl rfl) fun empty => by cases empty

/-- The account of a reserve is written whatever it is. -/
theorem keepsId_account_iff (source before : Option Int) :
    KeepsId source before (some (idOrZero source)) ↔
      before = some (idOrZero source) ∨ ∃ id, source = some id ∧ FitsI32 id := by
  rw [KeepsId, eq_comm]
  apply or_congr_right
  cases source with
  | none => simp
  | some id => simp [toI32_eq_self_iff]

/-! ### Writes -/

/-- The charge of a reserve is for the account of the lookup, in 64 bits. -/
def ChargesOwner (subscriberInfo : Option SubscriberInfo) (o : Op) : Prop :=
  ∀ params, o = .accountInsert params →
    (ownerIdsOf subscriberInfo).account = some params.accountId

theorem chargeAccount_owner (subscriberInfo : Option SubscriberInfo) (transAmount ticketId : Int)
    (now : Clock) : (chargeAccount ((subscriberInfo.map (·.accountId)).getD 0) transAmount
      ticketId now).Only (ChargesOwner subscriberInfo) := by
  unfold chargeAccount
  split
  · next charged =>
    cases subscriberInfo with
    | none => exact absurd charged.1 (by decide)
    | some sub =>
      apply (only_perform_bind _ _).mpr
      constructor
      · intro params same
        cases same
        rfl
      · intro result
        split <;> trivial
  · trivial

/-- When a write keeps the ids that a record was made from. -/
theorem Narrowed.keeps_iff (narrowed : Narrowed ids e) (write : OwnerWrite) :
    ids.Keeps write.before (write.after e) ↔ write.Fits ids := by
  have split (before after : OwnerIds) : ids.Keeps before after ↔
      KeepsId ids.subscriber before.subscriber after.subscriber ∧
      KeepsId ids.etag before.etag after.etag ∧
      KeepsId ids.vehicle before.vehicle after.vehicle ∧
      KeepsId ids.account before.account after.account :=
    ⟨fun k => ⟨k.1, k.2, k.3, k.4⟩, fun k => ⟨k.1, k.2.1, k.2.2.1, k.2.2.2⟩⟩
  rw [split]
  cases write with
  | merge existing env =>
    apply and_congr
    · refine (keepsId_orElse_iff _ _ _).trans (imp_congr_right fun _ => ?_)
      rw [narrowed.subId]
      exact keepsId_write_iff positive?_cases _ fun _ => Int.le_refl 0
    apply and_congr
    · refine (keepsId_orElse_iff _ _ _).trans (imp_congr_right fun _ => ?_)
      rw [narrowed.etagKey]
      exact keepsId_etag_iff _
    apply and_congr
    · refine (keepsId_orElse_iff _ _ _).trans (imp_congr_right fun _ => ?_)
      rw [narrowed.vehicleId]
      exact keepsId_write_iff nonzero?_cases _ fun _ => rfl
    · refine (keepsId_orElse_iff _ _ _).trans (imp_congr_right fun _ => ?_)
      rw [narrowed.accountId]
      exact keepsId_write_iff nonzero?_cases _ fun _ => rfl
  | build env =>
    apply and_congr
    · change KeepsId ids.subscriber none (positive? e.subId) ↔ _
      rw [narrowed.subId]
      exact keepsId_write_iff positive?_cases _ fun _ => Int.le_refl 0
    apply and_congr
    · change KeepsId ids.etag none e.etagKey ↔ _
      rw [narrowed.etagKey]
      exact keepsId_etag_iff _
    apply and_congr
    · change KeepsId ids.vehicle none (positive? e.vehicleId) ↔ _
      rw [narrowed.vehicleId]
      exact keepsId_write_iff positive?_cases _ fun _ => Int.le_refl 0
    · change KeepsId ids.account none (positive? e.accountId) ↔ _
      rw [narrowed.accountId]
      exact keepsId_write_iff positive?_cases _ fun _ => Int.le_refl 0
  | reserve row req transAmount errorStatus accountTransId now =>
    have account : KeepsId ids.account row.accountId (some e.accountId) ↔
        OwnerWrite.Fits ids (.reserve row req transAmount errorStatus accountTransId now) := by
      rw [narrowed.accountId]
      exact keepsId_account_iff _ _
    rw [← account]
    constructor
    · intro keeps
      exact keeps.2.2.2
    · intro keeps
      exact ⟨.inl rfl, .inl rfl, .inl rfl, keeps⟩
  | feeLines =>
    have subscriber : KeepsId ids.subscriber none (nonzero? e.subId) ↔
        OwnerWrite.Fits ids .feeLines := by
      rw [narrowed.subId]
      exact keepsId_write_iff nonzero?_cases _ fun _ => rfl
    rw [← subscriber]
    constructor
    · intro keeps
      exact keeps.1
    · intro keeps
      exact ⟨keeps, .inl rfl, .inl rfl, .inl rfl⟩

/-- Whatever is done to a record, each place that writes its ids leaves a column as it is or
writes the id that the record was made from, exactly if the ids fit or nothing is written of
them; and a reserve charges the account of the lookup. -/
theorem ownerIds_kept_iff (carrying : Carrying ids e) (write : OwnerWrite)
    (subscriberInfo : Option SubscriberInfo) (transAmount ticketId : Int) (now : Clock) :
    (ids.Keeps write.before (write.after e) ↔ write.Fits ids) ∧
      (chargeAccount ((subscriberInfo.map (·.accountId)).getD 0) transAmount ticketId now).Only
        (ChargesOwner subscriberInfo) :=
  ⟨carrying.narrowed.keeps_iff write, chargeAccount_owner subscriberInfo transAmount ticketId now⟩

/-- A row with a small account. -/
def smallAccountRow : TransportTransactionStage :=
  { transportTransId := 7, accountId := some 5 }

theorem ownerIds_kept_iff_smallAccountRow :
    (smallAccountRow.ownerIds.Keeps (OwnerWrite.merge smallAccountRow {}).before
      ((OwnerWrite.merge smallAccountRow {}).after
        (.fromTransportTransactionStage smallAccountRow default)) ↔
      (OwnerWrite.merge smallAccountRow {}).Fits smallAccountRow.ownerIds) ∧
      (chargeAccount ((none.map SubscriberInfo.accountId).getD 0) 10 7 default).Only
        (ChargesOwner none) :=
  ownerIds_kept_iff (.fromStage smallAccountRow default) (.merge smallAccountRow {}) none 10 7
    default

/-- A row with an account above 32 bits. -/
def largeAccountRow : TransportTransactionStage :=
  { transportTransId := 7, accountId := some (2 ^ 32 + 5) }

/-- A reserve replaces the account by another one. -/
theorem other_account_written :
    let write := OwnerWrite.reserve largeAccountRow {} 10 0 none default
    let etdr := Etdr.fromTransportTransactionStage largeAccountRow default
    (write.after etdr).account = some 5 ∧
      ¬ largeAccountRow.ownerIds.Keeps write.before (write.after etdr) := by
  have written : idOrZero largeAccountRow.accountId = 5 := by decide
  intro write etdr
  constructor
  · exact congrArg some written
  · intro keeps
    rcases keeps.account with same | same
    · cases (congrArg some written).symm.trans same
    · cases (congrArg some written).symm.trans same

end TollBackend

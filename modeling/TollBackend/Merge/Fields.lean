import TollBackend.Etdr.Convert
import TollBackend.Merge.Records

/-!
# The fields of a merge

`merge_etdr_same_ticket_id` has a rule for each field of the record: three numbers become the
larger of the two, and every other field comes from the record with the later check-in or from
the other one.

## Main definitions

* `Etdr.mergeFields`, `Etdr.flagFields`, `Etdr.largerFields`: all fields of the record.
* `etdrMerge`: the merge, as one that is given by its fields.

## Main results

* `mergeEtdrSameTicketId_version`: each field of a merge is the merge of that field.
* `Etdr.ext_fields`: the fields determine the record.
-/

namespace TollBackend

open Merge RecordField

namespace Etdr

/-- The fields that hold data and are taken from one of the two records. -/
def mergeFields : List (RecordField Etdr) :=
  [number .base (·.timeUpdate), number .base (·.subId), text .base (·.etagId),
    maybe .base (·.etagKey), text .otherFirst (·.etagNumber), number .base (·.accountId),
    number .base (·.vehicleId), number .base (·.status), text .base (·.hashValue),
    text .base (·.vehicleType), text .base (·.vehicleTypeProfile), text .otherFirst (·.plate),
    number .base (·.plateStatus), maybe .base (·.seatNum), number .base (·.weight),
    maybe .base (·.weightGoods), maybe .base (·.weightAll), text .base (·.registerVehicleType),
    number .base (·.vehicleLength), number .base (·.requestId), number .base (·.ticketId),
    number .base (·.refTransId), number .base (·.commandId), text .base (·.tId),
    number .base (·.ticketType), number .base (·.priceTicketType), number .otherFirst (·.price),
    maybe .base (·.priceId), number .otherFirst (·.commitAmount), number .base (·.reasonId),
    number .baseFirst (·.imageCount), number .baseFirst (·.stationId),
    number .base (·.stationType), number .baseFirst (·.laneId), number .otherFirst (·.tollOut),
    number .otherFirst (·.laneOut), number .base (·.timeRouteCheckin),
    number .base (·.timeRouteCheckinCommit), number .base (·.timeRouteCheckout),
    number .base (·.timeStationCheckin), number .otherFirst (·.checkoutDatetime),
    number .otherFirst (·.checkoutCommitDatetime), number .base (·.booTicketId),
    number .base (·.booTransAmount), maybe .base (·.booTransDatetime), maybe .base (·.booLaneType),
    maybe .base (·.booTollType), maybe .base (·.booTicketType), maybe .base (·.booSubscriptionIds),
    maybe .base (·.chargeIn), maybe .base (·.subChargeIn), maybe .base (·.chargeInStatus),
    maybe .base (·.chargeTransId), maybe .base (·.chargeDatetime), maybe .base (·.chargeIn104),
    maybe .base (·.chdType), maybe .base (·.chdRefId), maybe .base (·.chdReason),
    several .base (·.ratingDetails), maybe .base (·.tollTurningTimeCode), number .base (·.check),
    maybe .base (·.ratingType), maybe .base (·.feTransId), maybe .base (·.ticketInId),
    maybe .base (·.ticketEtagId), maybe .base (·.ticketOutId), maybe .base (·.hubId),
    number .base (·.syncStatus)]

/-- The truth values, all taken from the record with the later check-in. -/
def flagFields : List (RecordField Etdr) :=
  [flag .base (·.freeTurning), flag .base (·.enoughMinBalance), flag .base (·.checkinFromSync),
    flag .base (·.dbSaved)]

/-- The numbers of which a merge has the larger one. -/
def largerFields : List (Etdr → Int) :=
  [(·.checkinDatetime), (·.checkinCommitDatetime), (·.dbSaveRetryCount)]

/-- The record with the later check-in, the first one when both are equally late. -/
def newer (a b : Etdr) : Etdr :=
  if b.checkinDatetime ≤ a.checkinDatetime then a else b

/-- The other record. -/
def older (a b : Etdr) : Etdr :=
  if b.checkinDatetime ≤ a.checkinDatetime then b else a

/-- Two records that agree in every field are the same. -/
theorem ext_fields {a b : Etdr} (fields : ∀ f ∈ mergeFields ++ flagFields, f.get a = f.get b)
    (larger : ∀ f ∈ largerFields, f a = f b) : a = b := by
  simp only [mergeFields, flagFields, largerFields, List.cons_append, List.nil_append,
    List.forall_mem_cons, number, text, maybe, several, flag] at fields larger
  cases a
  cases b
  simp_all

end Etdr

/-! ### The merge -/

variable {a b : Etdr}

/-- Every field other than the larger ones, by its rule. -/
theorem mergeEtdrSameTicketId_get (a b : Etdr) :
    ∀ f ∈ Etdr.mergeFields ++ Etdr.flagFields,
      f.get (mergeEtdrSameTicketId a b) =
        f.rule.pick f.empty (f.get (a.newer b)) (f.get (a.older b)) := by
  unfold mergeEtdrSameTicketId Etdr.newer Etdr.older
  simp only [Etdr.mergeFields, Etdr.flagFields, List.cons_append, List.nil_append,
    List.forall_mem_cons]
  by_cases later : b.checkinDatetime ≤ a.checkinDatetime
  · simp only [if_pos later]
    and_intros <;> first | rfl | simp
  · simp only [if_neg later]
    and_intros <;> first | rfl | simp

/-- The numbers of which the larger one stays. -/
theorem mergeEtdrSameTicketId_larger (a b : Etdr) :
    ∀ f ∈ Etdr.largerFields, f (mergeEtdrSameTicketId a b) = max (f a) (f b) := by
  unfold mergeEtdrSameTicketId
  simp only [Etdr.largerFields, List.forall_mem_cons]
  by_cases later : b.checkinDatetime ≤ a.checkinDatetime
  · simp [if_pos later]
  · simp [if_neg later, max_comm]

@[simp] theorem mergeEtdrSameTicketId_checkinDatetime (a b : Etdr) :
    (mergeEtdrSameTicketId a b).checkinDatetime = max a.checkinDatetime b.checkinDatetime :=
  mergeEtdrSameTicketId_larger a b (·.checkinDatetime) (by simp [Etdr.largerFields])

/-- Each field of a merge is the merge of that field, timed by the check-ins. -/
theorem mergeEtdrSameTicketId_version (a b : Etdr) :
    ∀ f ∈ Etdr.mergeFields ++ Etdr.flagFields,
      f.version (·.checkinDatetime) (mergeEtdrSameTicketId a b) =
        (f.version (·.checkinDatetime) a).merge f.empty f.rule
          (f.version (·.checkinDatetime) b) := by
  intro f mem
  ext
  · rw [Version.merge_time]
    exact mergeEtdrSameTicketId_checkinDatetime a b
  · rw [RecordField.version, mergeEtdrSameTicketId_get a b f mem, Etdr.newer, Etdr.older]
    by_cases later : b.checkinDatetime ≤ a.checkinDatetime
    · rw [Version.merge_value_of_le later, if_pos later, if_pos later]
      rfl
    · rw [Version.merge_value_of_lt (lt_of_not_ge later), if_neg later, if_neg later]
      rfl

/-- The merge of records of one ticket, by fields. -/
def etdrMerge : RecordMerge Int Etdr where
  merge := mergeEtdrSameTicketId
  time := (·.checkinDatetime)
  fields := Etdr.mergeFields ++ Etdr.flagFields
  larger := Etdr.largerFields
  time_larger := List.mem_cons_self
  merge_version := mergeEtdrSameTicketId_version
  merge_larger := mergeEtdrSameTicketId_larger
  ext_fields _ _ := Etdr.ext_fields

end TollBackend

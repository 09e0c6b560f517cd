import TollBackend.Etdr.Retry
import TollBackend.Merge.Fields

/-!
# One record for each ticket

`dedupe_by_ticket_id` goes through the records that are not in the database and keeps one pair of
a key and a record for each ticket. The lists come from KeyDB and from a hash map, in no order
that the code fixes.

## Main definitions

* `dedupePairs`: the loop, for any kind of key.
* `DedupesSoundly`: one pair for each ticket, with the key, the count and the record that the
  ticket's pairs call for, whatever their order.
* `OrderlessPairs`: the order of a ticket's pairs does not matter.

## Main results

* `pairsOf_dedupePairs`: what the result has for a ticket.
* `dedupesSoundly_iff`: the result is sound exactly when the order of no ticket's pairs matters.
* `dedupe_depends_on_order`: two orders of the same pairs leave different hub ids.
-/

namespace TollBackend

open Merge

variable {K : Type} [DecidableEq K] (retryKey : Int → K)

/-- The pair that stays of two that have the same ticket. -/
def dedupeJoin (existing kv : K × Etdr) : K × Etdr :=
  let keyRetry := retryKey kv.2.ticketId
  (if kv.1 = keyRetry ∨ existing.1 = keyRetry then keyRetry
    else if existing.2.checkinDatetime ≤ kv.2.checkinDatetime then kv.1
    else existing.1,
    mergeEtdrSameTicketId existing.2 kv.2)

/-- One pass of the loop of `dedupe_by_ticket_id`. -/
def dedupeStep (byTicket : List (K × Etdr)) (kv : K × Etdr) : List (K × Etdr) :=
  if kv.2.ticketId = 0 then byTicket
  else joinInto (·.2.ticketId) (dedupeJoin retryKey) byTicket kv

/-- `dedupe_by_ticket_id`, for keys of which `retryKey` is the one of the retry store, in the
order in which the hash map is left. -/
def dedupePairs (toSave : List (K × Etdr)) (order : Int → Nat) : List (K × Etdr) :=
  (toSave.foldl (dedupeStep retryKey) []).insertionSort fun a b =>
    order a.2.ticketId ≤ order b.2.ticketId

/-- The keys of the retry task are one kind of key. -/
theorem dedupeByTicketId_eq (toSave : List (KeydbKey × Etdr)) (order : Int → Nat) :
    dedupeByTicketId toSave order = dedupePairs .retry toSave order := by
  have step : (fun byTicket (kv : KeydbKey × Etdr) => dedupeInsert byTicket kv.1 kv.2) =
      dedupeStep .retry := by
    funext byTicket kv
    by_cases zero : kv.2.ticketId = 0
    · rw [dedupeInsert, dedupeStep, if_pos zero, if_pos zero]
    · rw [dedupeInsert, dedupeStep, if_neg zero, if_neg zero]
      rfl
  rw [dedupeByTicketId, dedupePairs, step]

/-- The pairs of a ticket. -/
def pairsOf (toSave : List (K × Etdr)) (ticketId : Int) : List (K × Etdr) :=
  toSave.filter fun kv => kv.2.ticketId = ticketId

variable {retryKey} {toSave : List (K × Etdr)} {order : Int → Nat} {t : Int}

omit [DecidableEq K] in
theorem mem_pairsOf {kv : K × Etdr} :
    kv ∈ pairsOf toSave t ↔ kv ∈ toSave ∧ kv.2.ticketId = t := by
  simp [pairsOf]

/-! ### The result for one ticket -/

/-- The result has one pair for each ticket: the ticket's pairs, joined in their order. -/
theorem pairsOf_dedupePairs (toSave : List (K × Etdr)) (order : Int → Nat) (t : Int) :
    pairsOf (dedupePairs retryKey toSave order) t =
      if t = 0 then [] else (joinAll (dedupeJoin retryKey) (pairsOf toSave t)).toList :=
  filter_sorted_joinInto (fun kv : K × Etdr => kv.2.ticketId) (dedupeJoin retryKey)
    (fun _ _ same => mergeEtdrSameTicketId_ticketId same) 0 _ toSave t

/-! ### The pairs of one ticket, joined -/

/-- The record of the joined pairs is the merge of their records, from the left. -/
theorem foldl_dedupeJoin_etdr (l : List (K × Etdr)) (a : K × Etdr) :
    (l.foldl (dedupeJoin retryKey) a).2 = (l.map (·.2)).foldl mergeEtdrSameTicketId a.2 := by
  induction l generalizing a with
  | nil => rfl
  | cons b l ih => exact ih _

theorem joinAll_dedupeJoin_etdr (l : List (K × Etdr)) :
    (joinAll (dedupeJoin retryKey) l).map (·.2) =
      joinAll mergeEtdrSameTicketId (l.map (·.2)) := by
  cases l with
  | nil => rfl
  | cons a l => exact congrArg some (foldl_dedupeJoin_etdr l a)

/-- No pair of the list has a later check-in. -/
def NewestPair (l : List (K × Etdr)) (kv : K × Etdr) : Prop :=
  ∀ kv' ∈ l, kv'.2.checkinDatetime ≤ kv.2.checkinDatetime

theorem dedupeJoin_ticketId {a b : K × Etdr} (same_a : a.2.ticketId = t)
    (same_b : b.2.ticketId = t) : (dedupeJoin retryKey a b).2.ticketId = t :=
  (mergeEtdrSameTicketId_ticketId (same_a.trans same_b.symm)).trans same_b

/-- A pair joined of a ticket's pairs is one of the ticket. -/
theorem foldl_dedupeJoin_ticketId {l : List (K × Etdr)} {a : K × Etdr}
    (same : ∀ kv ∈ a :: l, kv.2.ticketId = t) :
    (l.foldl (dedupeJoin retryKey) a).2.ticketId = t := by
  induction l generalizing a with
  | nil => exact same a List.mem_cons_self
  | cons b l ih =>
    apply ih
    intro kv inside
    rcases List.mem_cons.mp inside with rfl | inside
    · exact dedupeJoin_ticketId (same a List.mem_cons_self) (same b (by simp))
    · exact same kv (by simp [inside])

theorem dedupeJoin_retry {a b : K × Etdr} (same : b.2.ticketId = t)
    (retry : b.1 = retryKey t ∨ a.1 = retryKey t) : (dedupeJoin retryKey a b).1 = retryKey t := by
  subst same
  exact if_pos retry

theorem dedupeJoin_key {a b : K × Etdr} (same : b.2.ticketId = t) (no_a : a.1 ≠ retryKey t)
    (no_b : b.1 ≠ retryKey t) : (dedupeJoin retryKey a b).1 =
      if a.2.checkinDatetime ≤ b.2.checkinDatetime then b.1 else a.1 := by
  subst same
  apply if_neg
  rw [not_or]
  exact ⟨no_b, no_a⟩

/-- The joined pair has a check-in that is as late as each of the pairs. -/
theorem le_foldl_dedupeJoin (l : List (K × Etdr)) (a : K × Etdr) : ∀ kv ∈ a :: l,
    kv.2.checkinDatetime ≤ (l.foldl (dedupeJoin retryKey) a).2.checkinDatetime := by
  intro kv inside
  rw [foldl_dedupeJoin_etdr]
  apply etdrMerge.le_foldl_larger (l.map (·.2)) a.2 etdrMerge.time_larger
  exact List.mem_map_of_mem (f := (·.2)) inside

/-- The retry key stays. -/
theorem foldl_dedupeJoin_retry {l : List (K × Etdr)} {a : K × Etdr}
    (same : ∀ kv ∈ a :: l, kv.2.ticketId = t) (retry : ∃ kv ∈ a :: l, kv.1 = retryKey t) :
    (l.foldl (dedupeJoin retryKey) a).1 = retryKey t := by
  induction l generalizing a with
  | nil =>
    obtain ⟨kv, inside, is_retry⟩ := retry
    cases List.mem_singleton.mp inside
    exact is_retry
  | cons b l ih =>
    have same_a := same a List.mem_cons_self
    have same_b := same b (by simp)
    apply ih
    · intro kv inside
      rcases List.mem_cons.mp inside with rfl | inside
      · exact dedupeJoin_ticketId same_a same_b
      · exact same kv (by simp [inside])
    · obtain ⟨kv, inside, is_retry⟩ := retry
      by_cases in_l : kv ∈ l
      · exact ⟨kv, List.mem_cons_of_mem _ in_l, is_retry⟩
      · refine ⟨_, List.mem_cons_self, dedupeJoin_retry same_b ?_⟩
        rcases List.mem_cons.mp inside with rfl | inside
        · exact .inr is_retry
        · rcases List.mem_cons.mp inside with rfl | inside
          · exact .inl is_retry
          · exact absurd inside in_l

/-- Without the retry key, the key of a newest pair stays. -/
theorem foldl_dedupeJoin_key {l : List (K × Etdr)} {a : K × Etdr}
    (same : ∀ kv ∈ a :: l, kv.2.ticketId = t) (no_retry : ∀ kv ∈ a :: l, kv.1 ≠ retryKey t) :
    ∃ kv ∈ a :: l, kv.1 = (l.foldl (dedupeJoin retryKey) a).1 ∧
      kv.2.checkinDatetime = (l.foldl (dedupeJoin retryKey) a).2.checkinDatetime := by
  induction l generalizing a with
  | nil => exact ⟨a, List.mem_cons_self, rfl, rfl⟩
  | cons b l ih =>
    have same_a := same a List.mem_cons_self
    have same_b := same b (by simp)
    have key := dedupeJoin_key same_b (no_retry a List.mem_cons_self) (no_retry b (by simp))
    have time : (dedupeJoin retryKey a b).2.checkinDatetime =
        max a.2.checkinDatetime b.2.checkinDatetime :=
      mergeEtdrSameTicketId_checkinDatetime a.2 b.2
    -- the pair whose key the join of the first two has
    obtain ⟨first, first_in, first_key, first_time⟩ : ∃ kv ∈ a :: b :: l,
        kv.1 = (dedupeJoin retryKey a b).1 ∧
          kv.2.checkinDatetime = (dedupeJoin retryKey a b).2.checkinDatetime := by
      by_cases later : a.2.checkinDatetime ≤ b.2.checkinDatetime
      · rw [if_pos later] at key
        exact ⟨b, by simp, key.symm, by rw [time, max_eq_right later]⟩
      · rw [if_neg later] at key
        exact ⟨a, by simp, key.symm, by rw [time, max_eq_left (le_of_not_ge later)]⟩
    have rest_same : ∀ kv ∈ dedupeJoin retryKey a b :: l, kv.2.ticketId = t := by
      intro kv inside
      rcases List.mem_cons.mp inside with rfl | inside
      · exact dedupeJoin_ticketId same_a same_b
      · exact same kv (by simp [inside])
    have rest_no_retry : ∀ kv ∈ dedupeJoin retryKey a b :: l, kv.1 ≠ retryKey t := by
      intro kv inside
      rcases List.mem_cons.mp inside with rfl | inside
      · rw [← first_key]
        exact no_retry first first_in
      · exact no_retry kv (by simp [inside])
    obtain ⟨kv, inside, kv_key, kv_time⟩ := ih rest_same rest_no_retry
    rcases List.mem_cons.mp inside with rfl | inside
    · exact ⟨first, first_in, first_key.trans kv_key, first_time.trans kv_time⟩
    · exact ⟨kv, by simp [inside], kv_key, kv_time⟩

/-- Without the retry key, a newest pair that comes last gives its key. -/
theorem foldl_dedupeJoin_last {l : List (K × Etdr)} {a kv : K × Etdr}
    (same : ∀ x ∈ a :: (l ++ [kv]), x.2.ticketId = t)
    (no_retry : ∀ x ∈ a :: (l ++ [kv]), x.1 ≠ retryKey t)
    (newest : NewestPair (a :: (l ++ [kv])) kv) :
    ((l ++ [kv]).foldl (dedupeJoin retryKey) a).1 = kv.1 := by
  have sub : ∀ x ∈ a :: l, x ∈ a :: (l ++ [kv]) := fun x inside =>
    List.cons_subset_cons a (List.subset_append_left l [kv]) inside
  obtain ⟨x, inside, key, time⟩ := foldl_dedupeJoin_key (fun x inside => same x (sub x inside))
    fun x inside => no_retry x (sub x inside)
  rw [List.foldl_append, List.foldl_cons, List.foldl_nil, dedupeJoin_key (same kv (by simp))]
  · apply if_pos
    rw [← time]
    exact newest x (sub x inside)
  · rw [← key]
    exact no_retry x (sub x inside)
  · exact no_retry kv (by simp)

/-- The order of the keys of a ticket does not matter: one of them is the retry key, or the newest
pairs have the same key. -/
def KeysAlike (retryKey : Int → K) (t : Int) (l : List (K × Etdr)) : Prop :=
  (∃ kv ∈ l, kv.1 = retryKey t) ∨
    ∀ a ∈ l, ∀ b ∈ l, NewestPair l a → NewestPair l b → a.1 = b.1

/-- The key of a ticket's pairs that do not depend on the order is that of each newest pair. -/
theorem key_of_newest {l : List (K × Etdr)} (same : ∀ kv ∈ l, kv.2.ticketId = t)
    (no_retry : ∀ kv ∈ l, kv.1 ≠ retryKey t)
    (orderless : ∀ l', l.Perm l' →
      joinAll (dedupeJoin retryKey) l' = joinAll (dedupeJoin retryKey) l)
    {kv : K × Etdr} (mem : kv ∈ l) (newest : NewestPair l kv) :
    (joinAll (dedupeJoin retryKey) l).map (·.1) = some kv.1 := by
  obtain ⟨s, perm⟩ := Version.exists_perm_cons mem
  cases s with
  | nil =>
    rw [List.perm_singleton.mp perm]
    rfl
  | cons a s =>
    have last : l.Perm (a :: (s ++ [kv])) :=
      perm.trans (List.perm_append_singleton kv (a :: s)).symm
    rw [← orderless _ last]
    apply congrArg some
    apply foldl_dedupeJoin_last (fun x inside => same x (last.mem_iff.mpr inside))
      fun x inside => no_retry x (last.mem_iff.mpr inside)
    exact fun x inside => newest x (last.mem_iff.mpr inside)

/-- The key of joined pairs whose order does not matter. -/
theorem joinAll_key_perm {l l' : List (K × Etdr)} (same : ∀ kv ∈ l, kv.2.ticketId = t)
    (alike : KeysAlike retryKey t l) (perm : l.Perm l') :
    (joinAll (dedupeJoin retryKey) l').map (·.1) = (joinAll (dedupeJoin retryKey) l).map (·.1) := by
  cases l with
  | nil => rw [perm.nil_eq]
  | cons a l =>
    cases l' with
    | nil => cases perm.length_eq
    | cons b l' =>
      have same' : ∀ kv ∈ b :: l', kv.2.ticketId = t := fun kv inside =>
        same kv (perm.mem_iff.mpr inside)
      apply congrArg some
      dsimp only
      by_cases retry : ∃ kv ∈ a :: l, kv.1 = retryKey t
      · obtain ⟨kv, inside, is_retry⟩ := retry
        rw [foldl_dedupeJoin_retry same ⟨kv, inside, is_retry⟩,
          foldl_dedupeJoin_retry same' ⟨kv, perm.mem_iff.mp inside, is_retry⟩]
      · have newest_alike := alike.resolve_left retry
        have no_retry : ∀ kv ∈ a :: l, kv.1 ≠ retryKey t := fun kv inside is_retry =>
          retry ⟨kv, inside, is_retry⟩
        obtain ⟨x, x_in, x_key, x_time⟩ := foldl_dedupeJoin_key same no_retry
        obtain ⟨y, y_in, y_key, y_time⟩ := foldl_dedupeJoin_key same' fun kv inside =>
          no_retry kv (perm.mem_iff.mpr inside)
        rw [← x_key, ← y_key]
        apply newest_alike y (perm.mem_iff.mpr y_in) x x_in
        · intro kv inside
          rw [y_time]
          exact le_foldl_dedupeJoin l' b kv (perm.mem_iff.mp inside)
        · intro kv inside
          rw [x_time]
          exact le_foldl_dedupeJoin l a kv inside

/-- The order of a ticket's pairs matters neither for the key nor for a field of the record. -/
structure OrderlessPairs (retryKey : Int → K) (t : Int) (l : List (K × Etdr)) : Prop where
  keys : KeysAlike retryKey t l
  fields : ∀ f ∈ Etdr.mergeFields ++ Etdr.flagFields, Version.OrderFree f.empty f.rule
    ((l.map (·.2)).map (f.version (·.checkinDatetime)))

/-- The pairs of a ticket are joined to the same pair in every order exactly when they are
orderless. -/
theorem joinAll_dedupeJoin_perm_iff {l : List (K × Etdr)} (same : ∀ kv ∈ l, kv.2.ticketId = t) :
    (∀ l', l.Perm l' → joinAll (dedupeJoin retryKey) l' = joinAll (dedupeJoin retryKey) l) ↔
      OrderlessPairs retryKey t l := by
  constructor
  · intro orderless
    constructor
    case keys =>
      by_cases retry : ∃ kv ∈ l, kv.1 = retryKey t
      · exact .inl retry
      · apply Or.inr
        have no_retry : ∀ kv ∈ l, kv.1 ≠ retryKey t := fun kv inside is_retry =>
          retry ⟨kv, inside, is_retry⟩
        intro a in_a b in_b newest_a newest_b
        have key_a := key_of_newest same no_retry orderless in_a newest_a
        rw [key_of_newest same no_retry orderless in_b newest_b] at key_a
        exact (Option.some.inj key_a).symm
    case fields =>
      intro f mem
      apply (etdrMerge.joinAll_perm_iff (l.map (·.2))).mp _ f mem
      intro etdrs perm
      obtain ⟨l', perm', rfl⟩ := RecordMerge.exists_perm_of_perm_map perm
      have joined := congrArg (Option.map (·.2)) (orderless l' perm')
      rwa [joinAll_dedupeJoin_etdr, joinAll_dedupeJoin_etdr] at joined
  · intro orderless l' perm
    have keys := joinAll_key_perm same orderless.keys perm
    have records : (joinAll (dedupeJoin retryKey) l').map (·.2) =
        (joinAll (dedupeJoin retryKey) l).map (·.2) := by
      rw [joinAll_dedupeJoin_etdr, joinAll_dedupeJoin_etdr]
      have every := (etdrMerge.joinAll_perm_iff _).mpr orderless.fields
      exact every _ (perm.map _)
    cases h : joinAll (dedupeJoin retryKey) l with
    | none =>
      rw [h] at keys
      exact Option.map_eq_none_iff.mp keys
    | some kv =>
      rw [h, Option.map_some] at keys records
      obtain ⟨kv', joined, key⟩ := Option.map_eq_some_iff.mp keys
      rw [joined, Option.map_some] at records
      rw [joined, Prod.ext key (Option.some.inj records)]

/-! ### The whole result -/

/-- What `dedupe_by_ticket_id` is to leave of the pairs it is given. -/
structure DedupesSoundly (retryKey : Int → K) (toSave : List (K × Etdr)) (order : Int → Nat) :
    Prop where
  one : ∀ kv ∈ toSave, kv.2.ticketId ≠ 0 →
    ∃ kept, pairsOf (dedupePairs retryKey toSave order) kv.2.ticketId = [kept]
  no_other : ∀ kv ∈ dedupePairs retryKey toSave order, kv.2.ticketId ≠ 0 ∧
    pairsOf toSave kv.2.ticketId ≠ []
  retry_key : ∀ kv ∈ dedupePairs retryKey toSave order,
    (∃ given ∈ pairsOf toSave kv.2.ticketId, given.1 = retryKey kv.2.ticketId) →
      kv.1 = retryKey kv.2.ticketId
  other_key : ∀ kv ∈ dedupePairs retryKey toSave order,
    (∀ given ∈ pairsOf toSave kv.2.ticketId, given.1 ≠ retryKey kv.2.ticketId) →
      ∃ given ∈ pairsOf toSave kv.2.ticketId, given.1 = kv.1
  retry_count : ∀ kv ∈ dedupePairs retryKey toSave order,
    IsGreatest { n | ∃ given ∈ pairsOf toSave kv.2.ticketId, given.2.dbSaveRetryCount = n }
      kv.2.dbSaveRetryCount
  merged : ∀ kv ∈ dedupePairs retryKey toSave order, ∃ first rest,
    (pairsOf toSave kv.2.ticketId).map (·.2) = first :: rest ∧
      kv.2 = rest.foldl mergeEtdrSameTicketId first
  orderless : ∀ (toSave' : List (K × Etdr)) (order' : Int → Nat), toSave.Perm toSave' →
    ∀ kv, kv ∈ dedupePairs retryKey toSave' order' ↔ kv ∈ dedupePairs retryKey toSave order

/-- A pair of the result joins the pairs of its ticket. -/
theorem mem_dedupePairs_iff {kv : K × Etdr} : kv ∈ dedupePairs retryKey toSave order ↔
    kv.2.ticketId ≠ 0 ∧
      joinAll (dedupeJoin retryKey) (pairsOf toSave kv.2.ticketId) = some kv := by
  have here : kv ∈ dedupePairs retryKey toSave order ↔
      kv ∈ pairsOf (dedupePairs retryKey toSave order) kv.2.ticketId := by
    simp [mem_pairsOf]
  rw [here, pairsOf_dedupePairs]
  by_cases zero : kv.2.ticketId = 0
  · simp [zero, joinAll]
  · simp [zero]

/-- A pair of the result, from the pairs of its ticket. -/
theorem exists_of_mem_dedupePairs {kv : K × Etdr}
    (mem : kv ∈ dedupePairs retryKey toSave order) : kv.2.ticketId ≠ 0 ∧
      ∃ a l, pairsOf toSave kv.2.ticketId = a :: l ∧ l.foldl (dedupeJoin retryKey) a = kv := by
  obtain ⟨ticket, joined⟩ := mem_dedupePairs_iff.mp mem
  refine ⟨ticket, ?_⟩
  cases pairs : pairsOf toSave kv.2.ticketId with
  | nil =>
    rw [pairs] at joined
    cases joined
  | cons a l =>
    rw [pairs] at joined
    exact ⟨a, l, rfl, Option.some.inj joined⟩

/-- The joined pair of a ticket is in the result. -/
theorem mem_dedupePairs_of_joinAll {kv : K × Etdr} (order : Int → Nat) (ticket : t ≠ 0)
    (joined : joinAll (dedupeJoin retryKey) (pairsOf toSave t) = some kv) :
    kv.2.ticketId = t ∧ kv ∈ dedupePairs retryKey toSave order := by
  have same : kv.2.ticketId = t := by
    cases pairs : pairsOf toSave t with
    | nil =>
      rw [pairs] at joined
      cases joined
    | cons a l =>
      rw [pairs] at joined
      cases joined
      apply foldl_dedupeJoin_ticketId
      intro kv inside
      rw [← pairs] at inside
      exact (mem_pairsOf.mp inside).2
  refine ⟨same, mem_dedupePairs_iff.mpr ?_⟩
  rw [same]
  exact ⟨ticket, joined⟩

/-- The larger numbers of the records have the largest of the pairs' own. -/
theorem isGreatest_foldl_dedupeJoin (retryKey : Int → K) (l : List (K × Etdr)) (a : K × Etdr) :
    IsGreatest { n | ∃ given ∈ a :: l, given.2.dbSaveRetryCount = n }
      (l.foldl (dedupeJoin retryKey) a).2.dbSaveRetryCount := by
  have larger : (·.dbSaveRetryCount) ∈ etdrMerge.larger := by
    simp [etdrMerge, Etdr.largerFields]
  rw [foldl_dedupeJoin_etdr]
  constructor
  · obtain ⟨etdr, inside, same⟩ := etdrMerge.exists_foldl_larger (l.map (·.2)) a.2 larger
    have inside : etdr ∈ (a :: l).map fun given => given.2 := inside
    obtain ⟨given, there, rfl⟩ := List.mem_map.mp inside
    exact ⟨given, there, same⟩
  · rintro _ ⟨given, inside, rfl⟩
    apply etdrMerge.le_foldl_larger (l.map (·.2)) a.2 larger
    exact List.mem_map_of_mem (f := (·.2)) inside

/-- Every order of the pairs gives the same result exactly when it matters for no ticket. -/
theorem dedupePairs_perm_iff (retryKey : Int → K) (toSave : List (K × Etdr))
    (order : Int → Nat) :
    (∀ (toSave' : List (K × Etdr)) (order' : Int → Nat), toSave.Perm toSave' → ∀ kv,
        kv ∈ dedupePairs retryKey toSave' order' ↔ kv ∈ dedupePairs retryKey toSave order) ↔
      ∀ kv ∈ toSave, kv.2.ticketId ≠ 0 →
        OrderlessPairs retryKey kv.2.ticketId (pairsOf toSave kv.2.ticketId) := by
  have same (t : Int) : ∀ kv ∈ pairsOf toSave t, kv.2.ticketId = t := fun kv inside =>
    (mem_pairsOf.mp inside).2
  constructor
  · intro orderless given mem ticket
    apply (joinAll_dedupeJoin_perm_iff (same _)).mp
    intro l' perm
    -- the same pairs, those of the ticket first and in the other order
    let toSave' := l' ++ toSave.filter fun kv => !decide (kv.2.ticketId = given.2.ticketId)
    have reordered : toSave.Perm toSave' :=
      (List.filter_append_perm _ toSave).symm.trans (perm.append_right _)
    have pairs' : pairsOf toSave' given.2.ticketId = l' := by
      have first : l'.filter (fun kv => kv.2.ticketId = given.2.ticketId) = l' := by
        rw [List.filter_eq_self]
        exact fun kv inside => decide_eq_true (same _ kv (perm.mem_iff.mpr inside))
      have rest : (toSave.filter fun kv => !decide (kv.2.ticketId = given.2.ticketId)).filter
          (fun kv => kv.2.ticketId = given.2.ticketId) = [] := by
        rw [List.filter_filter, List.filter_eq_nil_iff]
        intro kv _
        simp
      rw [pairsOf, List.filter_append, first, rest, List.append_nil]
    cases pairs : pairsOf toSave given.2.ticketId with
    | nil =>
      have inside : given ∈ pairsOf toSave given.2.ticketId := mem_pairsOf.mpr ⟨mem, rfl⟩
      rw [pairs] at inside
      cases inside
    | cons a l =>
      have joined : joinAll (dedupeJoin retryKey) (pairsOf toSave given.2.ticketId) =
          some (l.foldl (dedupeJoin retryKey) a) := by rw [pairs]; rfl
      obtain ⟨same_ticket, kept⟩ := mem_dedupePairs_of_joinAll order ticket joined
      have kept' := (mem_dedupePairs_iff.mp ((orderless toSave' order reordered _).mpr kept)).2
      rw [same_ticket, pairs'] at kept'
      rw [kept', ← pairs, joined]
  · intro orderless toSave' order' perm kv
    rw [mem_dedupePairs_iff, mem_dedupePairs_iff]
    apply and_congr_right
    intro ticket
    have pairs : (pairsOf toSave kv.2.ticketId).Perm (pairsOf toSave' kv.2.ticketId) :=
      perm.filter _
    cases here : pairsOf toSave kv.2.ticketId with
    | nil =>
      rw [here] at pairs
      rw [pairs.nil_eq]
    | cons given l =>
      have mem : given ∈ pairsOf toSave kv.2.ticketId := by
        rw [here]
        exact List.mem_cons_self
      obtain ⟨mem, same_ticket⟩ := mem_pairsOf.mp mem
      have free := orderless given mem (by rw [same_ticket]; exact ticket)
      rw [same_ticket] at free
      rw [← here, (joinAll_dedupeJoin_perm_iff (same _)).mpr free _ pairs]

/-- The result is sound exactly when the order of no ticket's pairs matters. -/
theorem dedupesSoundly_iff (retryKey : Int → K) (toSave : List (K × Etdr)) (order : Int → Nat) :
    DedupesSoundly retryKey toSave order ↔ ∀ kv ∈ toSave, kv.2.ticketId ≠ 0 →
      OrderlessPairs retryKey kv.2.ticketId (pairsOf toSave kv.2.ticketId) := by
  constructor
  · intro sound
    exact (dedupePairs_perm_iff retryKey toSave order).mp sound.orderless
  · intro orderless
    constructor
    case one =>
      intro kv mem ticket
      rw [pairsOf_dedupePairs, if_neg ticket]
      cases pairs : pairsOf toSave kv.2.ticketId with
      | nil =>
        have inside : kv ∈ pairsOf toSave kv.2.ticketId := mem_pairsOf.mpr ⟨mem, rfl⟩
        rw [pairs] at inside
        cases inside
      | cons a l => exact ⟨_, rfl⟩
    case no_other =>
      intro kv mem
      obtain ⟨ticket, a, l, pairs, -⟩ := exists_of_mem_dedupePairs mem
      rw [pairs]
      exact ⟨ticket, List.cons_ne_nil a l⟩
    case retry_key =>
      intro kv mem retry
      obtain ⟨-, a, l, pairs, joined⟩ := exists_of_mem_dedupePairs mem
      rw [pairs] at retry
      rw [← foldl_dedupeJoin_retry (pairs ▸ fun x inside => (mem_pairsOf.mp inside).2) retry,
        joined]
    case other_key =>
      intro kv mem no_retry
      obtain ⟨-, a, l, pairs, joined⟩ := exists_of_mem_dedupePairs mem
      rw [pairs] at no_retry ⊢
      obtain ⟨given, inside, key, -⟩ := foldl_dedupeJoin_key
        (pairs ▸ fun x inside => (mem_pairsOf.mp inside).2) no_retry
      exact ⟨given, inside, key.trans (congrArg Prod.fst joined)⟩
    case retry_count =>
      intro kv mem
      obtain ⟨-, a, l, pairs, joined⟩ := exists_of_mem_dedupePairs mem
      have greatest := isGreatest_foldl_dedupeJoin retryKey l a
      rwa [joined, ← pairs] at greatest
    case merged =>
      intro kv mem
      obtain ⟨-, a, l, pairs, joined⟩ := exists_of_mem_dedupePairs mem
      rw [pairs, ← joined]
      exact ⟨a.2, l.map (·.2), rfl, foldl_dedupeJoin_etdr l a⟩
    case orderless => exact (dedupePairs_perm_iff retryKey toSave order).mpr orderless

/-- The keys of the retry store. -/
def etdrRetryKey (ticketId : Int) : String :=
  "etdr_retry:" ++ toString ticketId

/-- A ticket's pair in the retry store, from before the hub knew the trip. -/
def storedPair : String × Etdr :=
  (etdrRetryKey 11, { ticketId := 11, etagId := "BECT01", checkinDatetime := 1000 })

/-- The pair of the same ticket in memory. -/
def cachedPair : String × Etdr :=
  ("etdr:BECT01", { storedPair.2 with hubId := some 7 })

/-- The hub id is kept only when the pair that has it comes first. -/
theorem dedupe_depends_on_order :
    ¬ ∀ (toSave : List (String × Etdr)) (order : Int → Nat),
      DedupesSoundly etdrRetryKey toSave order := by
  intro claim
  have orderless := (claim [storedPair, cachedPair] fun _ => 0).orderless [cachedPair, storedPair]
    (fun _ => 0) (.swap ..)
  have one_order : (dedupePairs etdrRetryKey [storedPair, cachedPair] fun _ => 0).map
      (·.2.hubId) = [none] := by decide +kernel
  have other_order : (dedupePairs etdrRetryKey [cachedPair, storedPair] fun _ => 0).map
      (·.2.hubId) = [some 7] := by decide +kernel
  obtain ⟨kv, mem, no_hub⟩ := List.mem_map.mp (one_order ▸ List.mem_singleton.mpr rfl)
  have there := List.mem_map_of_mem (f := (·.2.hubId)) ((orderless kv).mpr mem)
  rw [other_order, no_hub] at there
  exact absurd there (by decide)

end TollBackend

import Mathlib.Algebra.Order.Group.Multiset
import Mathlib.Tactic.Abel
import TollBackend.Network.Router

/-!
# Replies get to their connections

The routing over whole runs: what is handed over is conserved, ids lead to the connections that
have them, and so a write channel receives the replies of its own connection. Sends are tasks of
their own, so the replies of a connection can overtake each other.

## Main definitions

* `Router.Conserved`, `Router.Registered`, `Router.Delivers`, `Router.NoneLost`: what the steps
  keep.
* `Router.RoutesReplies`: what the routing is for.

## Main results

* `Router.routesReplies_of_reaches`: the routing keeps to it while ids are not used twice.
* `Router.noneLost_of_reaches`: without limits, no reply of a running connection is lost.
-/

namespace TollBackend

open Concurrent

namespace Router

variable {α : Type} {config : RouterConfig} {s s' : Router α} {label : RouterLabel α}

/-! ### Conservation -/

/-- The replies that wait on their way through the router. -/
def waiting (s : Router α) : List (ReplyToRoute α) :=
  s.requests ++ s.handling.toList ++ s.replies ++ s.sends.map (·.2)

/-- Whatever was handed over waits, was given up, or was put into a write channel. -/
def Conserved (s : Router α) : Prop :=
  (s.handed : Multiset (ReplyToRoute α)) = s.waiting + s.dropped + s.delivered.map (·.2)

theorem coe_waiting (s : Router α) : (s.waiting : Multiset (ReplyToRoute α)) =
    s.requests + s.handling.toList + s.replies + s.sends.map (·.2) := by
  simp only [waiting, Multiset.coe_add]

theorem coe_append_singleton (l : List (ReplyToRoute α)) (r : ReplyToRoute α) :
    ((l ++ [r] : List (ReplyToRoute α)) : Multiset (ReplyToRoute α)) = l + {r} := by
  rw [← Multiset.coe_add, Multiset.coe_singleton]

theorem coe_cons (r : ReplyToRoute α) (l : List (ReplyToRoute α)) :
    ((r :: l : List (ReplyToRoute α)) : Multiset (ReplyToRoute α)) = {r} + l := by
  rw [← Multiset.cons_coe, Multiset.singleton_add]

/-- A send that ends leaves the others. -/
theorem coe_map_eraseIdx {sends : List (Nat × ReplyToRoute α)} {i target : Nat}
    {r : ReplyToRoute α} (found : sends[i]? = some (target, r)) :
    (sends.map (·.2) : Multiset (ReplyToRoute α)) = {r} + (sends.eraseIdx i).map (·.2) := by
  obtain ⟨bound, here⟩ := List.getElem?_eq_some_iff.mp found
  have perm := (List.getElem_cons_eraseIdx_perm bound).symm.map (·.2)
  rw [List.map_cons, here] at perm
  rw [Multiset.coe_eq_coe.mpr perm, coe_cons]

/-- Every step keeps what was handed over. -/
theorem Conserved.step (conserved : s.Conserved) (moves : Moves config s label s') :
    s'.Conserved := by
  unfold Conserved at *
  rw [coe_waiting] at *
  cases moves with
  | accepts => exact conserved
  | hands k requestId data running =>
    simp only [coe_append_singleton, conserved]
    abel
  | logicRecv r rest idle requests =>
    simp only [conserved, idle, requests, Option.toList, coe_cons, Multiset.coe_nil,
      Multiset.coe_singleton]
    abel
  | logicSend r handling =>
    simp only [conserved, handling, Option.toList, coe_append_singleton, Multiset.coe_nil,
      Multiset.coe_singleton]
    abel
  | connClosed id rest notices => exact conserved
  | dropsClosed r rest replies closed =>
    simp only [conserved, replies, coe_cons, coe_append_singleton]
    abel
  | dropsUnknown r rest replies unknown =>
    simp only [conserved, replies, coe_cons, coe_append_singleton]
    abel
  | dropsFull r rest replies limited =>
    simp only [conserved, replies, coe_cons, coe_append_singleton]
    abel
  | spawns r rest target replies found room =>
    simp only [conserved, replies, List.map_append, List.map_singleton, coe_cons,
      coe_append_singleton]
    abel
  | puts i target r found running =>
    simp only [put, conserved, coe_map_eraseIdx found, List.map_append, List.map_singleton,
      coe_append_singleton]
    abel
  | fails i target r found gone =>
    simp only [conserved, coe_map_eraseIdx found, coe_append_singleton]
    abel
  | timesOut i target r found limited =>
    simp only [conserved, coe_map_eraseIdx found, coe_append_singleton]
    abel
  | channel k c connId phase received => exact conserved
  | returns k running => exact conserved
  | unregisters k returned => exact conserved
  | notifies k unregistered => exact conserved

/-- Where a reply that is not in a write channel is found, it was handed over. -/
theorem Conserved.mem_handed (conserved : s.Conserved) {r : ReplyToRoute α}
    (mem : r ∈ s.waiting ∨ r ∈ s.dropped ∨ r ∈ s.delivered.map (·.2)) : r ∈ s.handed := by
  rw [← Multiset.mem_coe, conserved, Multiset.mem_add, Multiset.mem_add, Multiset.mem_coe,
    Multiset.mem_coe, Multiset.mem_coe]
  tauto

/-! ### Ids -/

/-- Ids are not used twice, and lead to the connections that are registered; an id that the
router takes for closed is that of a connection that is not. -/
structure Registered (s : Router α) : Prop where
  fits : (s.accepted : Int) ≤ i32Max
  next : (s.accepted : Int) < i32Max → s.nextConnId = s.accepted + 1
  connId : ∀ k < s.accepted, (s.conn k).connId = k + 1
  unborn : ∀ k, s.accepted ≤ k → (s.conn k).phase = .ended
  active : ∀ id k, s.active id = some k ↔
    k < s.accepted ∧ (s.conn k).connId = id ∧ (s.conn k).phase.registered = true
  closed : ∀ id ∈ s.closedNotices ++ s.closed, ∃ k < s.accepted,
    (s.conn k).connId = id ∧ (s.conn k).phase.registered = false
  owned : ∀ r ∈ s.handed, r.owner < s.accepted ∧ r.connId = (s.conn r.owner).connId

namespace Registered

theorem inj (reg : s.Registered) {j k : Nat} (hj : j < s.accepted) (hk : k < s.accepted)
    (same : (s.conn j).connId = (s.conn k).connId) : j = k := by
  rw [reg.connId j hj, reg.connId k hk] at same
  omega

/-- A connection that is in some phase before the end has been accepted. -/
theorem lt_accepted (reg : s.Registered) {k : Nat} (phase : (s.conn k).phase ≠ .ended) :
    k < s.accepted := by
  by_contra beyond
  exact phase (reg.unborn k (Nat.not_lt.mp beyond))

/-- The id of a registered connection is not among the closed ones. -/
theorem not_mem_closed (reg : s.Registered) {k : Nat} (bound : k < s.accepted)
    (registered : (s.conn k).phase.registered = true) : (s.conn k).connId ∉ s.closed := by
  intro mem
  obtain ⟨j, below, same, gone⟩ := reg.closed _ (List.mem_append_right _ mem)
  rw [reg.inj below bound same, registered] at gone
  cases gone

/-- A step that leaves the connections, their ids and the table as they are, up to what it
changes of a write channel. -/
theorem of_same (reg : s.Registered) (accepted : s'.accepted = s.accepted)
    (next : s'.nextConnId = s.nextConnId) (active : s'.active = s.active)
    (connId : ∀ k, (s'.conn k).connId = (s.conn k).connId)
    (phase : ∀ k, (s'.conn k).phase = (s.conn k).phase)
    (closed : ∀ id ∈ s'.closedNotices ++ s'.closed, id ∈ s.closedNotices ++ s.closed ∨
      ∃ k < s.accepted, (s.conn k).connId = id ∧ (s.conn k).phase.registered = false)
    (owned : ∀ r ∈ s'.handed, r ∈ s.handed ∨
      r.owner < s.accepted ∧ r.connId = (s.conn r.owner).connId) : s'.Registered where
  fits := by rw [accepted]; exact reg.fits
  next := by rw [accepted, next]; exact reg.next
  connId k bound := by rw [connId]; exact reg.connId k (accepted ▸ bound)
  unborn k bound := by rw [phase]; exact reg.unborn k (accepted ▸ bound)
  active id k := by rw [active, accepted, connId, phase]; exact reg.active id k
  closed id mem := by
    obtain ⟨k, below, same, gone⟩ := (closed id mem).elim (reg.closed id) fun h => h
    exact ⟨k, by rw [accepted]; exact below, by rw [connId]; exact same, by rw [phase]; exact gone⟩
  owned r mem := by
    rw [accepted, connId]
    exact (owned r mem).elim (reg.owned r) fun h => h

theorem put_conn (s : Router α) (k j : Nat) (c : ServerConn α) :
    (s.put k c).conn j = if j = k then c else s.conn j :=
  Function.update_apply _ _ _ _

theorem phase_put (k j : Nat) (phase : ConnPhase) :
    ((s.put k { s.conn k with phase := phase }).conn j).phase =
      if j = k then phase else (s.conn j).phase := by
  rw [put_conn]
  split <;> rfl

theorem connId_put (k j : Nat) {c : ServerConn α} (connId : c.connId = (s.conn k).connId) :
    ((s.put k c).conn j).connId = (s.conn j).connId := by
  rw [put_conn]
  split
  · next same => rw [connId, same]
  · rfl

/-- A step that only changes what is in a write channel. -/
theorem of_channel (reg : s.Registered) {k : Nat} {c : ServerConn α}
    (connId : c.connId = (s.conn k).connId) (phase : c.phase = (s.conn k).phase) :
    (s.put k c).Registered := by
  refine reg.of_same rfl rfl rfl (fun j => connId_put k j connId) (fun j => ?_)
    (fun id mem => .inl mem) fun r mem => .inl mem
  rw [put_conn]
  split
  · next same => rw [phase, same]
  · rfl

/-- A connection is accepted under an id that is not in use. -/
theorem accept (reg : s.Registered) (fresh : (s.accepted : Int) < i32Max) :
    s.accept.Registered := by
  have id := reg.next fresh
  have conn : ∀ k, s.accept.conn k =
      if k = s.accepted then { connId := s.nextConnId, phase := .running } else s.conn k :=
    fun k => Function.update_apply _ _ _ _
  have old : ∀ {k}, k < s.accepted → s.accept.conn k = s.conn k :=
    fun bound => (conn _).trans (if_neg (Nat.ne_of_lt bound))
  refine ⟨?_, ?_, ?_, ?_, ?_, ?_, ?_⟩
  · show ((s.accepted + 1 : Nat) : Int) ≤ i32Max
    omega
  · intro below
    show (if s.nextConnId = i32Max then 1 else s.nextConnId + 1) =
      ((s.accepted + 1 : Nat) : Int) + 1
    have : ((s.accepted + 1 : Nat) : Int) < i32Max := below
    rw [if_neg (by omega)]
    omega
  · intro k bound
    rw [conn]
    split
    · next same => rw [id, same]
    · next other => exact reg.connId k (by simp only [Router.accept] at bound; omega)
  · intro k bound
    have beyond : s.accepted + 1 ≤ k := bound
    rw [conn, if_neg (by omega)]
    exact reg.unborn k (by omega)
  · intro i k
    -- the new id is none of those in use
    have unused : ∀ j, j < s.accepted → (s.conn j).connId ≠ s.nextConnId := by
      intro j bound same
      rw [reg.connId j bound, id] at same
      omega
    show Function.update s.active s.nextConnId (some s.accepted) i = some k ↔ _
    rw [Function.update_apply, conn]
    by_cases new : k = s.accepted
    · subst new
      rw [if_pos rfl]
      split
      · next same => simp [Router.accept, same, ConnPhase.registered]
      · next other =>
        rw [reg.active]
        simp only [lt_irrefl, false_and, false_iff]
        exact fun ⟨_, same, _⟩ => other same.symm
    · rw [if_neg new]
      split
      · next same =>
        subst same
        simp only [Option.some.injEq]
        refine ⟨fun eq => absurd eq.symm new, fun ⟨bound, same, _⟩ => ?_⟩
        exact absurd same (unused k (by simp only [Router.accept] at bound; omega))
      · rw [reg.active]
        simp only [Router.accept]
        refine and_congr_left fun _ => ?_
        omega
  · intro i mem
    obtain ⟨k, below, same, gone⟩ := reg.closed i mem
    exact ⟨k, Nat.lt_succ_of_lt below, by rw [old below]; exact same, by rw [old below]; exact gone⟩
  · intro r mem
    obtain ⟨below, same⟩ := reg.owned r mem
    exact ⟨Nat.lt_succ_of_lt below, by rw [old below]; exact same⟩

/-- A connection goes on to another phase. -/
theorem of_phase (reg : s.Registered) {k : Nat} (bound : k < s.accepted) {phase : ConnPhase}
    (active : Int → Option Nat) {notices : List Int}
    (found : ∀ id j, active id = some j ↔ j < s.accepted ∧ (s.conn j).connId = id ∧
      (if j = k then phase else (s.conn j).phase).registered = true)
    (gone : (s.conn k).phase.registered = false → phase.registered = false)
    (noticed : ∀ id ∈ notices, id ∈ s.closedNotices ∨
      id = (s.conn k).connId ∧ phase.registered = false) :
    Registered { s.put k { s.conn k with phase := phase } with
      active := active, closedNotices := notices } := by
  have connId : ∀ j, ((s.put k { s.conn k with phase := phase }).conn j).connId =
      (s.conn j).connId := fun j => connId_put k j rfl
  have phases := fun j => phase_put (s := s) k j phase
  refine ⟨reg.fits, reg.next, ?_, ?_, ?_, ?_, ?_⟩
  · intro j below
    exact (connId j).trans (reg.connId j below)
  · intro j beyond
    have other : j ≠ k := Nat.ne_of_gt (Nat.lt_of_lt_of_le bound beyond)
    exact (phases j).trans ((if_neg other).trans (reg.unborn j beyond))
  · intro id j
    refine (found id j).trans ?_
    show _ ↔ j < s.accepted ∧ ((s.put k { s.conn k with phase := phase }).conn j).connId = id ∧
      ((s.put k { s.conn k with phase := phase }).conn j).phase.registered = true
    rw [connId, phases]
  · intro id mem
    have old : id ∈ s.closedNotices ++ s.closed ∨
        id = (s.conn k).connId ∧ phase.registered = false := by
      rcases List.mem_append.mp mem with notice | remembered
      · exact (noticed id notice).imp_left (List.mem_append_left _)
      · exact .inl (List.mem_append_right _ remembered)
    rcases old with before | ⟨rfl, now⟩
    · obtain ⟨j, below, same, unregistered⟩ := reg.closed id before
      refine ⟨j, below, (connId j).trans same, (congrArg _ (phases j)).trans ?_⟩
      split
      · next here =>
        subst here
        exact gone unregistered
      · exact unregistered
    · exact ⟨k, bound, connId k, (congrArg _ (phases k)).trans (by rw [if_pos rfl]; exact now)⟩
  · intro r mem
    obtain ⟨below, same⟩ := reg.owned r mem
    exact ⟨below, same.trans (connId _).symm⟩

theorem step (reg : s.Registered) (conserved : s.Conserved) (moves : Moves config s label s')
    (fresh : IdsFresh label s) : s'.Registered := by
  cases moves with
  | accepts => exact reg.accept fresh
  | hands k requestId data running =>
    refine reg.of_same rfl rfl rfl (fun _ => rfl) (fun _ => rfl) (fun id mem => .inl mem) ?_
    intro r mem
    refine (List.mem_append.mp mem).imp_right fun new => ?_
    rw [List.mem_singleton.mp new]
    exact ⟨reg.lt_accepted (by simp [running]), rfl⟩
  | logicRecv r rest idle requests =>
    exact reg.of_same rfl rfl rfl (fun _ => rfl) (fun _ => rfl) (fun _ => .inl) fun _ => .inl
  | logicSend r handling =>
    exact reg.of_same rfl rfl rfl (fun _ => rfl) (fun _ => rfl) (fun _ => .inl) fun _ => .inl
  | connClosed id rest notices =>
    refine reg.of_same rfl rfl rfl (fun _ => rfl) (fun _ => rfl) ?_ fun _ => .inl
    intro i mem
    rcases List.mem_append.mp mem with noticed | remembered
    · exact .inl (by rw [notices]; exact List.mem_append_left _ (List.mem_cons_of_mem _ noticed))
    · simp only [remember] at remembered
      split at remembered
      · cases remembered
      · rcases List.mem_insert_iff.mp remembered with rfl | old
        · exact .inl (by rw [notices]; exact List.mem_append_left _ List.mem_cons_self)
        · exact .inl (List.mem_append_right _ old)
  | dropsClosed r rest replies closed =>
    exact reg.of_same rfl rfl rfl (fun _ => rfl) (fun _ => rfl) (fun _ => .inl) fun _ => .inl
  | dropsUnknown r rest replies unknown =>
    refine reg.of_same rfl rfl rfl (fun _ => rfl) (fun _ => rfl) ?_ fun _ => .inl
    intro i mem
    rcases List.mem_append.mp mem with noticed | remembered
    · exact .inl (List.mem_append_left _ noticed)
    · rcases List.mem_insert_iff.mp remembered with rfl | old
      · -- its connection was accepted, so what the table lacks is gone
        have handed : r ∈ s.handed := conserved.mem_handed (.inl (by simp [waiting, replies]))
        obtain ⟨below, same⟩ := reg.owned r handed
        refine .inr ⟨r.owner, below, same.symm, ?_⟩
        by_contra registered
        have found := (reg.active r.connId r.owner).mpr
          ⟨below, same.symm, Bool.eq_true_of_not_eq_false registered⟩
        rw [unknown] at found
        cases found
      · exact .inl (List.mem_append_right _ old)
  | dropsFull r rest replies limited =>
    exact reg.of_same rfl rfl rfl (fun _ => rfl) (fun _ => rfl) (fun _ => .inl) fun _ => .inl
  | spawns r rest target replies found room =>
    exact reg.of_same rfl rfl rfl (fun _ => rfl) (fun _ => rfl) (fun _ => .inl) fun _ => .inl
  | puts i target r found running =>
    have kept := reg.of_channel (k := target) (c := { s.conn target with
      queue := (s.conn target).queue ++ [.reply r] }) rfl rfl
    exact kept.of_same rfl rfl rfl (fun _ => rfl) (fun _ => rfl) (fun _ => .inl) fun _ => .inl
  | fails i target r found gone =>
    exact reg.of_same rfl rfl rfl (fun _ => rfl) (fun _ => rfl) (fun _ => .inl) fun _ => .inl
  | timesOut i target r found limited =>
    exact reg.of_same rfl rfl rfl (fun _ => rfl) (fun _ => rfl) (fun _ => .inl) fun _ => .inl
  | channel k c connId phase received => exact reg.of_channel connId phase
  | returns k running =>
    have bound := reg.lt_accepted (k := k) (by simp [running])
    refine reg.of_phase bound s.active (fun id j => ?_)
      (fun gone => by rw [running] at gone; cases gone) fun id => .inl
    rw [reg.active]
    refine and_congr_right fun _ => and_congr_right fun _ => ?_
    split
    · next same =>
      subst same
      rw [running]
      exact iff_of_true rfl rfl
    · exact Iff.rfl
  | unregisters k returned =>
    have bound := reg.lt_accepted (k := k) (by simp [returned])
    refine reg.of_phase bound _ (fun id j => ?_) (fun _ => rfl) fun id => .inl
    rw [Function.update_apply]
    split
    · next same =>
      subst same
      -- nothing else is registered under the id
      simp only [reduceCtorEq, false_iff]
      rintro ⟨below, same, registered⟩
      rw [if_pos (reg.inj below bound same)] at registered
      cases registered
    · next other =>
      rw [reg.active]
      refine and_congr_right fun _ => and_congr_right fun same => ?_
      rw [if_neg fun here => other (by rw [← same, here])]
  | notifies k unregistered =>
    have bound := reg.lt_accepted (k := k) (by simp [unregistered])
    refine reg.of_phase bound s.active (fun id j => ?_) (fun _ => rfl) fun id mem => ?_
    · rw [reg.active]
      refine and_congr_right fun _ => and_congr_right fun _ => ?_
      split
      · next same =>
        subst same
        rw [unregistered]
        exact iff_of_false nofun nofun
      · exact Iff.rfl
    · exact (List.mem_append.mp mem).imp_right fun new => ⟨List.mem_singleton.mp new, rfl⟩

end Registered

/-! ### Deliveries -/

/-- A reply is sent to the connection that has handed it over, and a write channel receives what
is put into it. -/
structure Delivers (s : Router α) : Prop where
  received : ∀ k, (s.conn k).received = (s.delivered.filter (·.1 = k)).map (·.2)
  own : ∀ p ∈ s.sends ++ s.delivered, p.1 = p.2.owner

namespace Delivers

theorem own_send (delivers : s.Delivers) {i target : Nat} {r : ReplyToRoute α}
    (found : s.sends[i]? = some (target, r)) : target = r.owner :=
  delivers.own _ (List.mem_append_left _ (List.mem_of_getElem? found))

/-- A step that puts nothing into a write channel. -/
theorem of_same (delivers : s.Delivers) (received : ∀ k, (s'.conn k).received = (s.conn k).received)
    (delivered : s'.delivered = s.delivered) (sends : ∀ p ∈ s'.sends, p ∈ s.sends) :
    s'.Delivers where
  received k := by rw [received, delivered]; exact delivers.received k
  own p mem := by
    rw [delivered] at mem
    refine delivers.own p ?_
    exact List.mem_append.mpr ((List.mem_append.mp mem).imp_left (sends p))

theorem received_put {k : Nat} {c : ServerConn α} (received : c.received = (s.conn k).received)
    (j : Nat) : ((s.put k c).conn j).received = (s.conn j).received := by
  rw [Registered.put_conn]
  split
  · next same => rw [received, same]
  · rfl

theorem step (delivers : s.Delivers) (reg : s.Registered) (conserved : s.Conserved)
    (moves : Moves config s label s') : s'.Delivers := by
  cases moves with
  | accepts =>
    refine ⟨fun k => ?_, delivers.own⟩
    show (Function.update s.conn s.accepted _ k).received = _
    rw [Function.update_apply]
    split
    · next new =>
      -- nothing was put into the channel of a connection before it was accepted
      subst new
      refine (List.map_eq_nil_iff.mpr (List.filter_eq_nil_iff.mpr fun p mem => ?_)).symm
      have own := delivers.own p (List.mem_append_right _ mem)
      have handed := conserved.mem_handed (.inr (.inr (List.mem_map_of_mem mem)))
      have below := (reg.owned _ handed).1
      rw [decide_eq_true_eq]
      omega
    · exact delivers.received k
  | hands k requestId data running => exact delivers.of_same (fun _ => rfl) rfl fun _ => id
  | logicRecv r rest idle requests => exact delivers.of_same (fun _ => rfl) rfl fun _ => id
  | logicSend r handling => exact delivers.of_same (fun _ => rfl) rfl fun _ => id
  | connClosed id rest notices => exact delivers.of_same (fun _ => rfl) rfl fun _ h => h
  | dropsClosed r rest replies closed => exact delivers.of_same (fun _ => rfl) rfl fun _ => id
  | dropsUnknown r rest replies unknown => exact delivers.of_same (fun _ => rfl) rfl fun _ => id
  | dropsFull r rest replies limited => exact delivers.of_same (fun _ => rfl) rfl fun _ => id
  | spawns r rest target replies found room =>
    refine ⟨delivers.received, fun p mem => ?_⟩
    rcases List.mem_append.mp mem with send | done
    · rcases List.mem_append.mp send with old | new
      · exact delivers.own p (List.mem_append_left _ old)
      · -- the id leads to the connection that has handed the reply over
        rw [List.mem_singleton.mp new]
        obtain ⟨below, same, -⟩ := (reg.active _ _).mp found
        have handed : r ∈ s.handed := conserved.mem_handed (.inl (by simp [waiting, replies]))
        obtain ⟨accepted, own⟩ := reg.owned r handed
        exact reg.inj below accepted (same.trans own)
    · exact delivers.own p (List.mem_append_right _ done)
  | puts i target r found running =>
    refine ⟨fun k => ?_, fun p mem => ?_⟩
    · show ((s.put target _).conn k).received = ((s.delivered ++ [(target, r)]).filter _).map _
      rw [Registered.put_conn, List.filter_append, List.map_append, ← delivers.received]
      split
      · next same =>
        subst same
        simp [ServerConn.received, Outgoing.reply?]
      · next other => simp [Ne.symm other]
    · rcases List.mem_append.mp mem with send | done
      · exact delivers.own p (List.mem_append_left _ (List.mem_of_mem_eraseIdx send))
      · rcases List.mem_append.mp done with old | new
        · exact delivers.own p (List.mem_append_right _ old)
        · rw [List.mem_singleton.mp new]
          exact delivers.own_send found
  | fails i target r found gone =>
    exact delivers.of_same (fun _ => rfl) rfl fun _ => List.mem_of_mem_eraseIdx
  | timesOut i target r found limited =>
    exact delivers.of_same (fun _ => rfl) rfl fun _ => List.mem_of_mem_eraseIdx
  | channel k c connId phase received =>
    exact delivers.of_same (received_put received) rfl fun _ => id
  | returns k running => exact delivers.of_same (received_put rfl) rfl fun _ => id
  | unregisters k returned => exact delivers.of_same (received_put rfl) rfl fun _ => id
  | notifies k unregistered => exact delivers.of_same (received_put rfl) rfl fun _ => id

end Delivers

/-! ### Limits -/

/-- The sends under way keep to their limit. -/
def Limited (config : RouterConfig) (s : Router α) : Prop :=
  0 < config.replySendMaxConcurrent → s.sends.length ≤ config.replySendMaxConcurrent

theorem Limited.step (limited : Limited config s) (moves : Moves config s label s') :
    Limited config s' := by
  intro limit
  have bound := limited limit
  cases moves with
  | spawns r rest target replies found room =>
    rw [List.length_append, List.length_singleton]
    exact room limit
  | puts i target r found running => exact (List.length_eraseIdx_le _ _).trans bound
  | fails i target r found gone => exact (List.length_eraseIdx_le _ _).trans bound
  | timesOut i target r found limited => exact (List.length_eraseIdx_le _ _).trans bound
  | _ => exact bound

/-- Without limits, the router gives up only replies of connections that have ended. -/
def NoneLost (config : RouterConfig) (s : Router α) : Prop :=
  config.replySendMaxConcurrent = 0 → config.replySendTimeoutSecs = 0 →
    ∀ r ∈ s.dropped, (s.conn r.owner).phase ≠ .running

/-- The reply of a connection that cannot be found belongs to one that has ended. -/
theorem Registered.not_running (reg : s.Registered) {r : ReplyToRoute α} (handed : r ∈ s.handed)
    (gone : r.connId ∈ s.closed ∨ s.active r.connId = none) :
    (s.conn r.owner).phase ≠ .running := by
  intro running
  obtain ⟨below, same⟩ := reg.owned r handed
  have registered : (s.conn r.owner).phase.registered = true := by rw [running]; rfl
  rcases gone with closed | unknown
  · rw [same] at closed
    exact reg.not_mem_closed below registered closed
  · have found := (reg.active r.connId r.owner).mpr ⟨below, same.symm, registered⟩
    rw [unknown] at found
    cases found

theorem NoneLost.step (lost : NoneLost config s) (reg : s.Registered) (conserved : s.Conserved)
    (delivers : s.Delivers) (moves : Moves config s label s') : NoneLost config s' := by
  intro unlimited untimed r mem
  -- the replies that were dropped before
  have before : ∀ r ∈ s.dropped, (s.conn r.owner).phase ≠ .running := lost unlimited untimed
  -- one that is dropped now
  have dropped : ∀ {r₀ : ReplyToRoute α}, (s.conn r₀.owner).phase ≠ .running →
      r ∈ s.dropped ++ [r₀] → (s.conn r.owner).phase ≠ .running := by
    intro r₀ gone mem
    rcases List.mem_append.mp mem with old | new
    · exact before r old
    · rw [List.mem_singleton.mp new]
      exact gone
  -- a connection that goes on to another phase
  have phases : ∀ (k : Nat) (phase : ConnPhase), phase ≠ .running → r ∈ s.dropped →
      ((s.put k { s.conn k with phase := phase }).conn r.owner).phase ≠ .running := by
    intro k phase later mem
    rw [Registered.phase_put]
    split
    · exact later
    · exact before r mem
  cases moves with
  | accepts =>
    show (Function.update s.conn s.accepted _ r.owner).phase ≠ _
    have below := (reg.owned r (conserved.mem_handed (.inr (.inl mem)))).1
    rw [Function.update_of_ne (Nat.ne_of_lt below)]
    exact before r mem
  | hands k requestId data running => exact before r mem
  | logicRecv r' rest idle requests => exact before r mem
  | logicSend r' handling => exact before r mem
  | connClosed id rest notices => exact before r mem
  | dropsClosed r' rest replies closed =>
    have handed : r' ∈ s.handed := conserved.mem_handed (.inl (by simp [waiting, replies]))
    exact dropped (reg.not_running handed (.inl closed)) mem
  | dropsUnknown r' rest replies unknown =>
    have handed : r' ∈ s.handed := conserved.mem_handed (.inl (by simp [waiting, replies]))
    exact dropped (reg.not_running handed (.inr unknown)) mem
  | dropsFull r' rest replies limited => omega
  | spawns r' rest target replies found room => exact before r mem
  | puts i target r' found running =>
    show ((s.put target _).conn r.owner).phase ≠ _
    rw [Registered.put_conn]
    split
    · next same =>
      -- the connection that received something is none whose reply was dropped
      rw [← same]
      exact before r mem
    · exact before r mem
  | fails i target r' found gone =>
    rw [delivers.own_send found] at gone
    exact dropped gone mem
  | timesOut i target r' found limited => omega
  | channel k c connId phase received =>
    rw [Registered.put_conn]
    split
    · next same =>
      rw [phase, ← same]
      exact before r mem
    · exact before r mem
  | returns k running => exact phases k _ nofun mem
  | unregisters k returned => exact phases k _ nofun mem
  | notifies k unregistered => exact phases k _ nofun mem

/-! ### Runs -/

/-- The invariant. -/
structure Routed (config : RouterConfig) (s : Router α) : Prop where
  registered : s.Registered
  conserved : s.Conserved
  delivers : s.Delivers
  limited : Limited config s
  noneLost : NoneLost config s

theorem routed_init : Routed config ({} : Router α) where
  registered :=
    { fits := by show (0 : Int) ≤ i32Max; decide
      next := fun _ => rfl
      connId := fun k bound => absurd bound (Nat.not_lt_zero k)
      unborn := fun _ _ => rfl
      active := fun id k => iff_of_false nofun fun h => Nat.not_lt_zero k h.1
      closed := fun id mem => absurd mem List.not_mem_nil
      owned := fun r mem => absurd mem List.not_mem_nil }
  conserved := rfl
  delivers := ⟨fun _ => rfl, fun p mem => absurd mem List.not_mem_nil⟩
  limited := fun _ => Nat.zero_le _
  noneLost := fun _ _ r mem => absurd mem List.not_mem_nil

theorem routed_of_reaches (reaches : (routerTasks α config).Reaches IdsFresh {} s) :
    Routed config s := by
  refine reaches.invariant routed_init fun label a b routed fresh next => ?_
  have moves := moves_of_step next
  exact ⟨routed.registered.step routed.conserved moves fresh, routed.conserved.step moves,
    routed.delivers.step routed.registered routed.conserved moves, routed.limited.step moves,
    routed.noneLost.step routed.registered routed.conserved routed.delivers moves⟩

/-- What the routing is for: a write channel receives only replies that its connection has handed
over, each at most once, and no more sends are under way than the limit allows. -/
structure RoutesReplies (config : RouterConfig) (s : Router α) : Prop where
  own : ∀ k, (s.conn k).received.Subperm (s.handed.filter (·.owner = k))
  bounded : 0 < config.replySendMaxConcurrent → s.sends.length ≤ config.replySendMaxConcurrent

theorem Delivers.received_eq (delivers : s.Delivers) (k : Nat) :
    (s.conn k).received = (s.delivered.map (·.2)).filter (·.owner = k) := by
  rw [delivers.received, List.filter_map]
  congr 1
  refine List.filter_congr fun p mem => ?_
  rw [Function.comp, delivers.own p (List.mem_append_right _ mem)]

/-- While ids are not used twice, the routing keeps to it. -/
theorem routesReplies_of_reaches (reaches : (routerTasks α config).Reaches IdsFresh {} s) :
    RoutesReplies config s := by
  have routed := routed_of_reaches reaches
  refine ⟨fun k => ?_, routed.limited⟩
  rw [routed.delivers.received_eq]
  refine List.Subperm.filter _ ?_
  -- what was put into channels is part of what was handed over
  rw [← Multiset.coe_le, routed.conserved]
  exact Multiset.le_add_left _ _

/-- Two replies of one connection, of which the later one gets into the write channel first: the
sends are tasks of their own. -/
theorem routesReplies_overtaking : ∃ s : Router Nat,
    (routerTasks Nat {}).Reaches IdsFresh {} s ∧
      (s.conn 0).received.map (·.data) = [2, 1] ∧ RoutesReplies {} s := by
  obtain ⟨s, reaches, received⟩ := (routerTasks Nat {}).exists_reaches IdsFresh {}
    [.accept, .hand 0 7 1, .hand 0 8 2, .logicRecv, .logicSend, .logicRecv, .logicSend, .reply,
      .reply, .send 1, .send 0]
    (fun s => decide ((s.conn 0).received.map (·.data) = [2, 1])) (by decide +kernel)
  exact ⟨s, reaches, of_decide_eq_true received, routesReplies_of_reaches reaches⟩

/-- Without limits, what a running connection has handed over was put into its write channel, or
waits on its way there. -/
theorem noneLost_of_reaches (reaches : (routerTasks α config).Reaches IdsFresh {} s)
    (unlimited : config.replySendMaxConcurrent = 0) (untimed : config.replySendTimeoutSecs = 0)
    {k : Nat} (running : (s.conn k).phase = .running) :
    (s.handed.filter (·.owner = k)).Perm
      ((s.conn k).received ++ s.waiting.filter (·.owner = k)) := by
  have routed := routed_of_reaches reaches
  have none : s.dropped.filter (·.owner = k) = [] := by
    refine List.filter_eq_nil_iff.mpr fun r mem => ?_
    rw [decide_eq_true_eq]
    rintro rfl
    exact routed.noneLost unlimited untimed r mem running
  have perm : s.handed.Perm (s.waiting ++ s.dropped ++ s.delivered.map (·.2)) := by
    rw [← Multiset.coe_eq_coe, routed.conserved, ← Multiset.coe_add, ← Multiset.coe_add]
  refine (perm.filter _).trans ?_
  rw [List.filter_append, List.filter_append, none, List.append_nil, routed.delivers.received_eq]
  exact List.perm_append_comm

/-- A connection one of whose two replies has been put into its channel. -/
theorem noneLost_one_waiting : ∃ s : Router Nat,
    (routerTasks Nat {}).Reaches IdsFresh {} s ∧
      (s.conn 0).received.map (·.data) = [1] ∧
      (s.handed.filter (·.owner = 0)).Perm
        ((s.conn 0).received ++ s.waiting.filter (·.owner = 0)) := by
  obtain ⟨s, reaches, test⟩ := (routerTasks Nat {}).exists_reaches IdsFresh {}
    [.accept, .hand 0 7 1, .hand 0 8 2, .logicRecv, .logicSend, .reply, .send 0, .logicRecv]
    (fun s => decide ((s.conn 0).received.map (·.data) = [1] ∧ (s.conn 0).phase = .running))
    (by decide +kernel)
  obtain ⟨received, running⟩ := of_decide_eq_true test
  exact ⟨s, reaches, received, noneLost_of_reaches reaches rfl rfl running⟩

end Router

end TollBackend

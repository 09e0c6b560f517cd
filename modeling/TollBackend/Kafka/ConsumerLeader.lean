import TollBackend.Concurrent.Machine
import Mathlib.Logic.Function.Basic
import Mathlib.Tactic.Push

/-!
# The leader of the consumers

Of the nodes that consume hub ids, one is to be the leader. It holds a key in KeyDB that expires,
which a task of its own writes again and again. A node that does not get the key tries later, and
one that has got it does not look at it any more.

## Main definitions

* `LeaderLock`: the key, and where each node is.
* `LeaderLock.SingleLeader`: what the key is for.
* `LeaderLock.RenewedInTime`: the condition on a step under which it is kept.

## Main results

* `singleLeader_of_reaches`: where the key of a leader does not expire, there is a single leader.
-/

namespace TollBackend

open Concurrent (Machine)

/-- Where a node is in `run_checkin_hub_consumer`: before it has got the lock, before it consumes,
consuming, or with its renewal going on after the client could not be built. -/
inductive LeaderNode
  | waiting
  | acquired
  | consuming
  | ended
  | down
deriving DecidableEq, Repr

/-- The task that renews the lock is running. -/
def LeaderNode.renews : LeaderNode → Bool
  | .acquired | .consuming | .ended => true
  | .waiting | .down => false

/-- The key in KeyDB: the node that has written it, and when it expires. -/
structure LeaderLease where
  node : Nat
  expiresAt : Nat
deriving DecidableEq, Repr

/-- KeyDB, the nodes and the time. -/
structure LeaderLock where
  ttl : Nat
  now : Nat := 0
  lease : Option LeaderLease := none
  nodes : Nat → LeaderNode := fun _ => .waiting

/-- What happens next. A command that fails may have had its effect, and KeyDB may lose the key. -/
inductive LeaderLabel
  | acquire (i : Nat) (effect reply : Bool)
  | consume (i : Nat)
  | clientFails (i : Nat)
  | renew (i : Nat) (effect : Bool)
  | elapse (secs : Nat)
  | loseKey
  | crash (i : Nat)
  | restart (i : Nat)

namespace LeaderLock

variable (s : LeaderLock)

/-- Who has written the key, if it has not expired. -/
def holder : Option Nat :=
  match s.lease with
  | some lease => if s.now < lease.expiresAt then some lease.node else none
  | none => none

/-- `SET key leader_id EX ttl`. -/
def setKey (i : Nat) : LeaderLock :=
  { s with lease := some ⟨i, s.now + s.ttl⟩ }

def setNode (i : Nat) (node : LeaderNode) : LeaderLock :=
  { s with nodes := Function.update s.nodes i node }

/-- A node goes from one place to another. -/
def goTo (i : Nat) (here there : LeaderNode) : Option LeaderLock :=
  if s.nodes i = here then some (s.setNode i there) else none

/-- A step, where it is possible. -/
def step : LeaderLabel → Option LeaderLock
  | .acquire i effect reply =>
    if s.nodes i = .waiting then
      -- `SET .. NX EX`; without a time to live it is refused
      if s.holder.isNone ∧ effect = true ∧ 0 < s.ttl then
        some (if reply then (s.setKey i).setNode i .acquired else s.setKey i)
      else some s
    else none
  | .consume i => s.goTo i .acquired .consuming
  | .clientFails i => s.goTo i .acquired .ended
  | .renew i effect =>
    if (s.nodes i).renews then
      some (if effect = true ∧ 0 < s.ttl then s.setKey i else s)
    else none
  | .elapse secs => some { s with now := s.now + secs }
  | .loseKey => some { s with lease := none }
  | .crash i => some (s.setNode i .down)
  | .restart i => s.goTo i .down .waiting

end LeaderLock

/-- The steps of all nodes. -/
def leaderLock : Machine LeaderLabel LeaderLock where
  step label s := s.step label

namespace LeaderLock

variable {s s' : LeaderLock}

/-- One node at most consumes, no renewal overwrites the key of another node, and a node whose key
was taken by another does not consume. -/
structure SingleLeader (s : LeaderLock) : Prop where
  one : ∀ i j, s.nodes i = .consuming → s.nodes j = .consuming → i = j
  renews_own : ∀ i, (s.nodes i).renews = true → ∀ j, s.holder = some j → j = i
  stops : ∀ i j, s.holder = some j → j ≠ i → s.nodes i ≠ .consuming

/-- As long as the node that has written the key renews it, the key neither expires nor is lost. -/
def RenewedInTime (label : LeaderLabel) (s : LeaderLock) : Prop :=
  match label with
  | .elapse secs => ∀ lease ∈ s.lease, (s.nodes (LeaderLease.node lease)).renews = true →
      s.now + secs < LeaderLease.expiresAt lease
  | .loseKey => ∀ lease ∈ s.lease, (s.nodes (LeaderLease.node lease)).renews = false
  | .acquire _ _ _ | .consume _ | .clientFails _ | .renew _ _ | .crash _ | .restart _ => True

instance (label : LeaderLabel) (s : LeaderLock) : Decidable (RenewedInTime label s) := by
  unfold RenewedInTime
  cases label <;> infer_instance

/-- A node that renews the lock holds it. -/
def Held (s : LeaderLock) : Prop :=
  ∀ i, (s.nodes i).renews = true → s.holder = some i

theorem Held.singleLeader (held : Held s) : SingleLeader s where
  one i j consumes_i consumes_j := by
    have holds_i := held i (by rw [consumes_i]; rfl)
    have holds_j := held j (by rw [consumes_j]; rfl)
    exact Option.some.inj (holds_i.symm.trans holds_j)
  renews_own i renews j holds := Option.some.inj (holds.symm.trans (held i renews))
  stops i j holds ne consumes := by
    have holds_i := held i (by rw [consumes]; rfl)
    exact ne (Option.some.inj (holds.symm.trans holds_i))

theorem nodes_setNode (i j : Nat) (node : LeaderNode) :
    (s.setNode i node).nodes j = if j = i then node else s.nodes j :=
  Function.update_apply s.nodes i node j

/-- A node that does not renew more than before. -/
theorem Held.setNode (held : Held s) {i : Nat} {node : LeaderNode}
    (fewer : node.renews = true → (s.nodes i).renews = true) : Held (s.setNode i node) := by
  intro j renews
  by_cases same : j = i
  · subst same
    rw [nodes_setNode, if_pos rfl] at renews
    exact held j (fewer renews)
  · rw [nodes_setNode, if_neg same] at renews
    exact held j renews

theorem Held.goTo (held : Held s) {i : Nat} {here there : LeaderNode}
    (fewer : there.renews = true → here.renews = true) (moves : s.goTo i here there = some s') :
    Held s' := by
  rw [LeaderLock.goTo] at moves
  split at moves
  · next at_i =>
    cases moves
    exact held.setNode fun renews => by rw [at_i]; exact fewer renews
  · cases moves

/-- The key that a node holds. -/
theorem lease_of_holder {i : Nat} (holds : s.holder = some i) :
    ∃ lease, s.lease = some lease ∧ lease.node = i := by
  rw [holder] at holds
  cases found : s.lease with
  | none =>
    rw [found] at holds
    cases holds
  | some lease =>
    rw [found] at holds
    dsimp only at holds
    split at holds
    · exact ⟨lease, rfl, Option.some.inj holds⟩
    · cases holds

theorem holder_setKey (i : Nat) (lives : 0 < s.ttl) : (s.setKey i).holder = some i :=
  if_pos (Nat.lt_add_of_pos_right lives)

theorem held_step {label : LeaderLabel} (held : Held s) (in_time : RenewedInTime label s)
    (moves : s.step label = some s') : Held s' := by
  cases label with
  | acquire i effect reply =>
    rw [step] at moves
    split at moves
    · split at moves
      · next free =>
        cases moves
        -- nobody holds the lock, so nobody renews it
        have none_renews (j : Nat) : ¬(s.nodes j).renews = true := by
          intro renews
          rw [held j renews] at free
          cases free.1
        cases reply with
        | false => exact fun j renews => absurd renews (none_renews j)
        | true =>
          intro j renews
          by_cases same : j = i
          · subst same
            exact holder_setKey j free.2.2
          · rw [if_pos rfl, nodes_setNode, if_neg same] at renews
            exact absurd renews (none_renews j)
      · cases moves
        exact held
    · cases moves
  | consume i => exact held.goTo (fun _ => rfl) moves
  | clientFails i => exact held.goTo (fun _ => rfl) moves
  | renew i effect =>
    rw [step] at moves
    split at moves
    · next renews_i =>
      cases moves
      split
      · next sets =>
        intro j renews
        have same : some i = some j := (held i renews_i).symm.trans (held j renews)
        cases same
        exact holder_setKey i sets.2
      · exact held
    · cases moves
  | elapse secs =>
    cases moves
    intro i renews
    obtain ⟨lease, found, rfl⟩ := lease_of_holder (held i renews)
    have lives := in_time lease found renews
    rw [holder, found]
    exact if_pos lives
  | loseKey =>
    cases moves
    intro i renews
    obtain ⟨lease, found, rfl⟩ := lease_of_holder (held i renews)
    exact absurd renews (Bool.eq_false_iff.mp (in_time lease found))
  | crash i =>
    cases moves
    exact held.setNode nofun
  | restart i =>
    have none_more : LeaderNode.waiting.renews = true → LeaderNode.down.renews = true := nofun
    exact held.goTo none_more moves

end LeaderLock

open LeaderLock in
/-- In every run of any number of nodes in which a leader renews its key before it expires, there
is a single leader. -/
theorem singleLeader_of_reaches {ttl : Nat} {s : LeaderLock}
    (reaches : leaderLock.Reaches RenewedInTime { ttl := ttl } s) : SingleLeader s := by
  have held : Held s := by
    apply reaches.invariant (I := Held)
    · exact fun _ renews => absurd renews Bool.false_ne_true
    · exact fun _ _ _ held in_time moves => held_step held in_time moves
  exact held.singleLeader

/-- A leader renews its key in time; it crashes, and then another node becomes the leader. -/
theorem singleLeader_after_crash :
    ∃ s : LeaderLock, s.nodes 1 = .consuming ∧ s.SingleLeader := by
  obtain ⟨s, reaches, consumes⟩ := leaderLock.exists_reaches LeaderLock.RenewedInTime
    { ttl := 60 } [.acquire 0 true true, .consume 0, .acquire 1 true true, .elapse 30,
      .renew 0 true, .elapse 30, .crash 0, .elapse 30, .acquire 1 true true, .consume 1]
    (fun s => s.nodes 1 == .consuming) (by decide +kernel)
  exact ⟨s, beq_iff_eq.mp consumes, singleLeader_of_reaches reaches⟩

/-- The renewals of the leader fail until its key has expired, and another node gets it. -/
theorem two_leaders :
    ¬ ∀ (ttl : Nat) (s : LeaderLock),
      leaderLock.Reaches (fun _ _ => True) { ttl := ttl } s → s.SingleLeader := by
  intro claim
  obtain ⟨s, reaches, ends⟩ := leaderLock.exists_reaches (fun _ _ => True)
    { ttl := 60 } [.acquire 0 true true, .consume 0, .renew 0 false, .elapse 60,
      .acquire 1 true true, .consume 1]
    (fun s => s.nodes 0 == .consuming && s.nodes 1 == .consuming) (by decide +kernel)
  rw [Bool.and_eq_true, beq_iff_eq, beq_iff_eq] at ends
  exact Nat.zero_ne_one ((claim 60 s reaches).one 0 1 ends.1 ends.2)

end TollBackend

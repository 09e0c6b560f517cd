import Mathlib.Data.List.Basic

/-!
# Machines

A machine has a state and labelled steps, some of which are not possible in some states. The
label says which part moves and what it learns from outside, so that the runs of a machine are
all interleavings of its parts.

## Main definitions

* `Machine`: the steps.
* `Machine.Reaches`: the states reached by steps that all satisfy a condition.
* `Machine.runUnder`: a run given by its labels.

## Main results

* `Machine.Reaches.invariant`: what holds at the start and is kept by every step.
-/

namespace Concurrent

/-- What a step leads to, if it is possible. -/
structure Machine (L S : Type) where
  step : L → S → Option S

namespace Machine

variable {L S : Type} (M : Machine L S)

/-- The states reached from a state by steps that satisfy the condition. -/
inductive Reaches (cond : L → S → Prop) (s : S) : S → Prop
  | refl : Reaches cond s s
  | step {a b : S} (label : L) (before : Reaches cond s a) (allowed : cond label a)
      (moves : M.step label a = some b) : Reaches cond s b

/-- A run given by its labels; `none` if a step is not possible or not allowed. -/
def runUnder (cond : L → S → Prop) [∀ l s, Decidable (cond l s)] : List L → S → Option S
  | [], s => some s
  | label :: labels, s =>
    if cond label s then
      match M.step label s with
      | some s' => runUnder cond labels s'
      | none => none
    else none

variable {M}
variable {cond : L → S → Prop} {s a b : S}

/-- An invariant holds in every state that is reached. -/
theorem Reaches.invariant {I : S → Prop} (reaches : M.Reaches cond s b) (start : I s)
    (kept : ∀ label a b, I a → cond label a → M.step label a = some b → I b) : I b := by
  induction reaches with
  | refl => exact start
  | step label _ allowed moves ih => exact kept label _ _ ih allowed moves

theorem Reaches.trans (first : M.Reaches cond s a) (second : M.Reaches cond a b) :
    M.Reaches cond s b := by
  induction second with
  | refl => exact first
  | step label _ allowed moves ih => exact .step label ih allowed moves

theorem reaches_of_runUnder [∀ l s, Decidable (cond l s)] {labels : List L}
    (runs : M.runUnder cond labels s = some b) : M.Reaches cond s b := by
  induction labels generalizing s with
  | nil => cases runs; exact .refl
  | cons label labels ih =>
    rw [runUnder] at runs
    split at runs
    · next allowed =>
      split at runs
      · next s' moves => exact (Reaches.step label .refl allowed moves).trans (ih runs)
      · cases runs
    · cases runs

/-- A state with a property is reached, if the run of the labels ends in one. -/
theorem exists_reaches (M : Machine L S) (cond : L → S → Prop) [∀ l s, Decidable (cond l s)]
    (s : S) (labels : List L) (p : S → Bool)
    (ends : (M.runUnder cond labels s).any p = true) :
    ∃ b, M.Reaches cond s b ∧ p b = true := by
  obtain ⟨b, runs, holds⟩ := (Option.any_eq_true _ _).mp ends
  exact ⟨b, reaches_of_runUnder runs, holds⟩

end Machine

end Concurrent

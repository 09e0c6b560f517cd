import Mathlib

/-!
# Programs over atomic operations

A program is a tree of operations: it performs one, and continues with a program that
depends on the result. Operations are interpreted on a shared state, with a choice that
resolves what the program does not control. One program alone is run by a sequence of
choices.

## Main definitions

* `Prog`: programs that perform operations `o : Op` and receive results in `Res o`.
* `Prog.run`, `Prog.past`: the result and the final state of a program that runs alone, and
  what it has performed.
* `Prog.Post`, `Prog.Can`: every outcome, or some outcome, of a program that runs alone
  satisfies a predicate.
* `Prog.Only`: every operation a program can perform satisfies a predicate.

## Main results

* `Prog.post_bind`: the rule of composition.
* `Prog.post_iff_run`: `Post` speaks of all runs.
-/

namespace Concurrent

/-- An operation in the past of a task, with the choice that resolved it and the state it
was performed in. -/
structure Event (Op C S : Type) where
  op : Op
  choice : C
  pre : S

/-- A program that performs operations and returns a value of type `α`. -/
inductive Prog (Op : Type) (Res : Op → Type) (α : Type) : Type
  | pure (a : α)
  | op (o : Op) (next : Res o → Prog Op Res α)

namespace Prog

variable {Op : Type} {Res : Op → Type} {C S α β γ : Type}

/-- Continue with the program that `f` gives for the value. -/
def bind (p : Prog Op Res α) (f : α → Prog Op Res β) : Prog Op Res β :=
  match p with
  | .pure a => f a
  | .op o next => .op o fun r => (next r).bind f

instance : Monad (Prog Op Res) where
  pure := Prog.pure
  bind := Prog.bind

/-- Perform one operation and return its result. -/
def perform (o : Op) : Prog Op Res (Res o) :=
  .op o .pure

@[simp] theorem pure_bind' (a : α) (f : α → Prog Op Res β) : (Pure.pure a >>= f) = f a := rfl

@[simp] theorem perform_bind (o : Op) (f : Res o → Prog Op Res β) :
    (perform o >>= f) = .op o f := rfl

@[simp] theorem op_bind (o : Op) (next : Res o → Prog Op Res α) (f : α → Prog Op Res β) :
    (Prog.op o next >>= f) = .op o fun r => next r >>= f := rfl

theorem bind_assoc' (p : Prog Op Res α) (f : α → Prog Op Res β) (g : β → Prog Op Res γ) :
    (p >>= f) >>= g = p >>= fun a => f a >>= g := by
  induction p with
  | pure a => rfl
  | op o next ih =>
    simp only [op_bind]
    congr 1
    funext r
    exact ih r

/-! ### Running alone -/

variable (exec : (o : Op) → C → S → Res o × S)

/-- Run a program alone: the `n`th operation it performs is resolved by the choice `n`. -/
def run (p : Prog Op Res α) (choices : Nat → C) (s : S) : α × S :=
  match p with
  | .pure a => (a, s)
  | .op o next =>
      ((next (exec o (choices 0) s).1).run (fun n => choices (n + 1)) (exec o (choices 0) s).2)

/-- What a program that runs alone performs. -/
def past (p : Prog Op Res α) (choices : Nat → C) (s : S) : List (Event Op C S) :=
  match p with
  | .pure _ => []
  | .op o next =>
      ⟨o, choices 0, s⟩ :: (next (exec o (choices 0) s).1).past (fun n => choices (n + 1))
        (exec o (choices 0) s).2

/-- Every outcome of the program from `s` satisfies `post`. -/
def Post (p : Prog Op Res α) (s : S) (post : α → S → Prop) : Prop :=
  match p with
  | .pure a => post a s
  | .op o next => ∀ c, (next (exec o c s).1).Post (exec o c s).2 post

variable {exec}

@[simp] theorem post_pure {a : α} {s : S} {post : α → S → Prop} :
    Post exec (Pure.pure a) s post ↔ post a s := Iff.rfl

@[simp] theorem post_op {o : Op} {next : Res o → Prog Op Res α} {s : S} {post : α → S → Prop} :
    Post exec (.op o next) s post ↔
      ∀ c, Post exec (next (exec o c s).1) (exec o c s).2 post := Iff.rfl

/-- The outcomes of a composed program are those of its second part from the outcomes of its
first part. -/
theorem post_bind {p : Prog Op Res α} {f : α → Prog Op Res β} {s : S} {post : β → S → Prop} :
    Post exec (p >>= f) s post ↔ Post exec p s fun a s' => Post exec (f a) s' post := by
  induction p generalizing s with
  | pure a => exact Iff.rfl
  | op o next ih => exact forall_congr' fun c => ih _

theorem Post.mono {p : Prog Op Res α} {s : S} {post post' : α → S → Prop}
    (h : Post exec p s post) (imp : ∀ a s', post a s' → post' a s') : Post exec p s post' := by
  induction p generalizing s with
  | pure a => exact imp _ _ h
  | op o next ih => exact fun c => ih _ (h c)

/-- `Post` speaks of the runs under all sequences of choices. -/
theorem post_iff_run {p : Prog Op Res α} {s : S} {post : α → S → Prop} [Inhabited C] :
    Post exec p s post ↔
      ∀ choices : Nat → C, post (p.run exec choices s).1 (p.run exec choices s).2 := by
  induction p generalizing s with
  | pure a => exact ⟨fun h _ => h, fun h => h fun _ => default⟩
  | op o next ih =>
    constructor
    · intro h choices
      exact (ih _).mp (h (choices 0)) fun n => choices (n + 1)
    · intro h c
      refine (ih _).mpr fun choices => ?_
      exact h fun n => Nat.casesOn n c choices

/-- A program that is run under choices of one form is run by the operations restricted to
that form. -/
theorem run_restrict (exec : (o : Op) → C → S → Res o × S) (f : C → C) (p : Prog Op Res α)
    (choices : Nat → C) (s : S) :
    p.run exec (fun n => f (choices n)) s = p.run (fun o c => exec o (f c)) choices s := by
  induction p generalizing choices s with
  | pure a => rfl
  | op o next ih => exact ih _ (fun n => choices (n + 1)) _

theorem Post.restrict {p : Prog Op Res α} {s : S} {post : α → S → Prop} (f : C → C)
    (h : Post exec p s post) : Post (fun o c => exec o (f c)) p s post := by
  induction p generalizing s with
  | pure a => exact h
  | op o next ih => exact fun c => ih _ (h (f c))

variable (exec) in
/-- Some outcome of the program from `s` satisfies `post`. -/
def Can (p : Prog Op Res α) (s : S) (post : α → S → Prop) : Prop :=
  match p with
  | .pure a => post a s
  | .op o next => ∃ c, (next (exec o c s).1).Can (exec o c s).2 post

theorem can_bind {p : Prog Op Res α} {f : α → Prog Op Res β} {s : S} {post : β → S → Prop} :
    Can exec (p >>= f) s post ↔ Can exec p s fun a s' => Can exec (f a) s' post := by
  induction p generalizing s with
  | pure a => exact Iff.rfl
  | op o next ih => exact exists_congr fun c => ih _

theorem Can.mono {p : Prog Op Res α} {s : S} {post post' : α → S → Prop}
    (h : Can exec p s post) (imp : ∀ a s', post a s' → post' a s') : Can exec p s post' := by
  induction p generalizing s with
  | pure a => exact imp _ _ h
  | op o next ih =>
    obtain ⟨c, rest⟩ := h
    exact ⟨c, ih _ rest⟩

theorem Post.can [Inhabited C] {p : Prog Op Res α} {s : S} {post : α → S → Prop}
    (all : Post exec p s post) : Can exec p s post := by
  induction p generalizing s with
  | pure a => exact all
  | op o next ih => exact ⟨default, ih _ (all default)⟩

/-- What all outcomes satisfy is met by what some outcome satisfies. -/
theorem Post.meets {p : Prog Op Res α} {s : S} {post post' : α → S → Prop}
    (all : Post exec p s post) (some : Can exec p s post') : ∃ a s', post a s' ∧ post' a s' := by
  induction p generalizing s with
  | pure a => exact ⟨a, s, all, some⟩
  | op o next ih =>
    obtain ⟨c, rest⟩ := some
    exact ih _ (all c) rest

/-! ### The operations of a program -/

/-- Every operation the program can perform satisfies `P`, whatever results it receives. -/
def Only (P : Op → Prop) (p : Prog Op Res α) : Prop :=
  match p with
  | .pure _ => True
  | .op o next => P o ∧ ∀ r, (next r).Only P

theorem Only.bind {P : Op → Prop} {p : Prog Op Res α} {f : α → Prog Op Res β}
    (first : p.Only P) (second : ∀ a, (f a).Only P) : (p >>= f).Only P := by
  induction p with
  | pure a => exact second a
  | op o next ih => exact ⟨first.1, fun r => ih r (first.2 r)⟩

theorem Only.of_forall {P : Op → Prop} (all : ∀ o, P o) (p : Prog Op Res α) : p.Only P := by
  induction p with
  | pure a => trivial
  | op o next ih => exact ⟨all o, ih⟩

theorem Only.mono {P Q : Op → Prop} {p : Prog Op Res α} (only : p.Only P)
    (imp : ∀ o, P o → Q o) : p.Only Q := by
  induction p with
  | pure a => trivial
  | op o next ih => exact ⟨imp o only.1, fun r => ih r (only.2 r)⟩

end Prog

end Concurrent

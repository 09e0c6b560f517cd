import TollBackend.Concurrent.Machine
import TollBackend.Concurrent.Pool

/-!
# One program among the tasks of a pool

A program runs while the tasks of a pool change the state between any two of its operations.
What it achieves is bounded by recursion on the program, with a relation that contains all that
the others do in the meantime.

## Main definitions

* `Setting`: what the others do, and what each operation of the program is performed under.
* `Setting.Amid`: in its setting, a program ends with a postcondition, which then stays.
* `among`: a pool and one more program, as a machine.

## Main results

* `Setting.amid_bind`: the rule of composition.
* `Setting.Covers.ends_of_reaches`: in every run, the program is on its way to its postcondition.
* `Setting.exists_ended`: the program can get there.
-/

namespace Concurrent

variable {Op : Type} {Res : Op → Type} {C S R E α β : Type}

/-- The setting of a program: `env` contains what the others do to the state, `may` what the
program's own operations are performed under, and `emit` what they send. -/
structure Setting (sys : System Op Res C S R) (E : Type) where
  emit : Op → List E
  env : S → S → Prop
  may : Op → C → S → Prop
  env_refl : ∀ s, env s s
  env_trans : ∀ {s s' s''}, env s s' → env s' s'' → env s s''

namespace Setting

variable {sys : System Op Res C S R} (K : Setting sys E)

/-- Whatever the others do and however its operations are resolved, where the program ends, and
at any time after, `post` holds of its value, of the state, and of all that is sent by then:
`sent` before the program, and what each operation of it sends. -/
def Amid (p : Prog Op Res α) (sent : List E) (post : α → List E → S → Prop) (s : S) : Prop :=
  match p with
  | .pure a => ∀ s', K.env s s' → post a sent s'
  | .op o next => ∀ s', K.env s s' → ∀ c, K.may o c s' →
      Amid (next (sys.exec o c s').1) (sent ++ K.emit o) post (sys.exec o c s').2

variable {K} {p : Prog Op Res α} {sent : List E} {s s' : S}

/-- What the others do leaves a program on its way. -/
theorem Amid.of_env {post : α → List E → S → Prop} (amid : K.Amid p sent post s)
    (moved : K.env s s') : K.Amid p sent post s' := by
  cases p with
  | pure a => exact fun s'' later => amid s'' (K.env_trans moved later)
  | op o next => exact fun s'' later => amid s'' (K.env_trans moved later)

theorem Amid.mono {post post' : α → List E → S → Prop} (amid : K.Amid p sent post s)
    (imp : ∀ a sent' s', post a sent' s' → post' a sent' s') : K.Amid p sent post' s := by
  induction p generalizing sent s with
  | pure a => exact fun s' moved => imp a sent s' (amid s' moved)
  | op o next ih => exact fun s' moved c may => ih _ (amid s' moved c may)

/-- The rule of composition. -/
theorem amid_bind {f : α → Prog Op Res β} {post : β → List E → S → Prop} :
    K.Amid (p >>= f) sent post s ↔
      K.Amid p sent (fun a sent' s' => K.Amid (f a) sent' post s') s := by
  induction p generalizing sent s with
  | pure a => exact ⟨fun amid s' moved => amid.of_env moved, fun amid => amid s (K.env_refl s)⟩
  | op o next ih => exact forall₄_congr fun s' _ c _ => ih _

/-- An assertion that the others keep. -/
def Stable (K : Setting sys E) (J : S → Prop) : Prop :=
  ∀ {s s'}, K.env s s' → J s → J s'

/-- A program that sends nothing, and whose operations keep an assertion, keeps it. -/
theorem amid_bind_of_only {J : S → Prop} {P : Op → Prop} {f : α → Prog Op Res β}
    {post : β → List E → S → Prop} (stable : K.Stable J) (only : p.Only P)
    (silent : ∀ o, P o → K.emit o = [])
    (keeps : ∀ o c s, P o → K.may o c s → J s → J (sys.exec o c s).2) (holds : J s)
    (rest : ∀ a s', J s' → K.Amid (f a) sent post s') : K.Amid (p >>= f) sent post s := by
  induction p generalizing s with
  | pure a => exact rest a s holds
  | op o next ih =>
    intro s' moved c may
    rw [silent o only.1, List.append_nil]
    exact ih _ (only.2 _) (keeps o c s' only.1 may (stable moved holds))

/-- A program whose operations can all be performed gets to its end. -/
theorem Amid.exists_end (possible : ∀ o s, ∃ c, K.may o c s) {post : α → List E → S → Prop}
    (amid : K.Amid p sent post s) : ∃ a more s', post a (sent ++ more) s' := by
  induction p generalizing sent s with
  | pure a => exact ⟨a, [], s, by rw [List.append_nil]; exact amid s (K.env_refl s)⟩
  | op o next ih =>
    obtain ⟨c, may⟩ := possible o s
    obtain ⟨a, more, s', ends⟩ := ih _ (amid s (K.env_refl s) c may)
    exact ⟨a, K.emit o ++ more, s', by rw [← List.append_assoc]; exact ends⟩

end Setting

/-! ### Runs -/

/-- A pool, and one more program with what it has sent. -/
structure Among (Op : Type) (Res : Op → Type) (C S R E α : Type) where
  pool : Pool Op Res C S R
  sent : List E
  rest : Prog Op Res α

/-- Who takes the next step. -/
inductive Turn (C R : Type) : Type
  | own (choice : C)
  | other (label : Label C R)

namespace Among

/-- The program has come to its end. -/
def ended (a : Among Op Res C S R E α) : Bool :=
  match a.rest with
  | .pure _ => true
  | .op _ _ => false

/-- The program has not begun, and no task has. -/
def init (p : Prog Op Res α) (s : S) : Among Op Res C S R E α :=
  ⟨Pool.init s, [], p⟩

end Among

/-- A step of the program, or of the pool. -/
def among (sys : System Op Res C S R) (emit : Op → List E) :
    Machine (Turn C R) (Among Op Res C S R E α) where
  step
    | .own c, a =>
        match a.rest with
        | .pure _ => none
        | .op o next => some
            { pool := { a.pool with state := (sys.exec o c a.pool.state).2 }
              sent := a.sent ++ emit o
              rest := next (sys.exec o c a.pool.state).1 }
    | .other l, a => (sys.step a.pool l).map fun pool => { a with pool := pool }

namespace Setting

variable {sys : System Op Res C S R} {K : Setting sys E}

/-- What is needed of a condition on steps: the program's own may be assumed, and the others'
are those of the setting. -/
structure Covers (K : Setting sys E) (cond : Turn C R → Among Op Res C S R E α → Prop) :
    Prop where
  own : ∀ c a o next, cond (.own c) a → a.rest = .op o next → K.may o c a.pool.state
  others : ∀ l a pool, cond (.other l) a → sys.step a.pool l = some pool →
    K.env a.pool.state pool.state

/-- A run keeps the program on its way. -/
theorem Covers.amid_of_reaches {cond : Turn C R → Among Op Res C S R E α → Prop}
    (covers : K.Covers cond) {a b : Among Op Res C S R E α} {post : α → List E → S → Prop}
    (start : K.Amid a.rest a.sent post a.pool.state)
    (reaches : (among sys K.emit).Reaches cond a b) :
    K.Amid b.rest b.sent post b.pool.state := by
  refine reaches.invariant (I := fun b => K.Amid b.rest b.sent post b.pool.state) start ?_
  intro turn b b' amid allowed moves
  cases turn with
  | own c =>
    obtain ⟨pool, sent, rest⟩ := b
    cases rest with
    | pure x => cases moves
    | op o next =>
      cases moves
      exact amid _ (K.env_refl _) c (covers.own c _ o next allowed rfl)
  | other l =>
    obtain ⟨pool, next, rfl⟩ := Option.map_eq_some_iff.mp moves
    exact amid.of_env (covers.others l b pool allowed next)

/-- In every state of a run, what the program has sent is a beginning of what it sends up to an
end, and once it has come to its end, the postcondition holds. -/
theorem Covers.ends_of_reaches {cond : Turn C R → Among Op Res C S R E α → Prop}
    (covers : K.Covers cond) (possible : ∀ o s, ∃ c, K.may o c s)
    {a b : Among Op Res C S R E α} {post : α → List E → S → Prop}
    (start : K.Amid a.rest a.sent post a.pool.state)
    (reaches : (among sys K.emit).Reaches cond a b) :
    ∃ x more s', post x (b.sent ++ more) s' ∧ (b.ended = true → more = [] ∧ s' = b.pool.state) := by
  have amid := covers.amid_of_reaches start reaches
  obtain ⟨pool, sent, rest⟩ := b
  cases rest with
  | pure x =>
    refine ⟨x, [], pool.state, ?_, fun _ => ⟨rfl, rfl⟩⟩
    rw [List.append_nil]
    exact amid _ (K.env_refl _)
  | op o next =>
    obtain ⟨x, more, s', ends⟩ := amid.exists_end possible
    exact ⟨x, more, s', ends, fun ended => by cases ended⟩

/-- A program whose operations can all be performed can get to its end by its own steps. -/
theorem exists_ended {cond : Turn C R → Among Op Res C S R E α → Prop}
    (possible : ∀ o s, ∃ c, K.may o c s)
    (own : ∀ c a o next, a.rest = .op o next → K.may o c a.pool.state → cond (.own c) a)
    (a : Among Op Res C S R E α) : ∃ b, (among sys K.emit).Reaches cond a b ∧ b.ended = true := by
  obtain ⟨pool, sent, rest⟩ := a
  -- the pool makes no step meanwhile, so the program goes on from the state it has left
  induction rest generalizing pool sent with
  | pure x => exact ⟨_, .refl, rfl⟩
  | op o next ih =>
    obtain ⟨c, may⟩ := possible o pool.state
    obtain ⟨b, reaches, ended⟩ := ih (sys.exec o c pool.state).1
      { pool with state := (sys.exec o c pool.state).2 } (sent ++ K.emit o)
    exact ⟨b, (Machine.Reaches.step _ .refl (own c _ o next rfl may) rfl).trans reaches, ended⟩

end Setting

end Concurrent

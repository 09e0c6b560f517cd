import Mathlib.Data.List.Forall2

/-!
# Reading a result row by row

A query is answered by a cursor, which gives one row after another until there are no more or a
row cannot be fetched. A loop decodes each row, and ends with an error at the first row that cannot
be decoded. What it does about a row that cannot be fetched is up to the loop.

## Main definitions

* `Cursor`: the rows of a result, and how it ends.
* `Cursor.collect`: the loop.

## Main results

* `Cursor.collect_eq_ok_iff`: what the loop gives.
* `Cursor.fails_collect_iff`: when it ends with an error.
-/

namespace Rows

/-! ### Errors -/

section Fails

variable {E A B : Type} {x : Except E A} {f : A → Except E B} {P Q : Prop}

/-- The computation ends with an error. -/
def Fails (x : Except E A) : Prop :=
  ∃ e, x = .error e

@[simp] theorem fails_error (e : E) : Fails (.error e : Except E A) :=
  ⟨e, rfl⟩

@[simp] theorem not_fails_ok (a : A) : ¬Fails (.ok a : Except E A) :=
  fun ⟨_, eq⟩ => nomatch eq

@[simp] theorem not_fails_pure (a : A) : ¬Fails (pure a : Except E A) :=
  not_fails_ok a

theorem exists_eq_ok_of_not_fails (ok : ¬Fails x) : ∃ a, x = .ok a := by
  cases x with
  | error e => exact absurd (fails_error e) ok
  | ok a => exact ⟨a, rfl⟩

theorem bind_eq_ok_iff {b : B} : (x >>= f) = .ok b ↔ ∃ a, x = .ok a ∧ f a = .ok b := by
  cases x with
  | error e => simp [bind, Except.bind]
  | ok a => simp [bind, Except.bind]

/-- One computation after another, where the value of the first does not decide whether the second
fails. -/
theorem fails_bind_iff (first : Fails x ↔ P) (second : ∀ a, Fails (f a) ↔ Q) :
    Fails (x >>= f) ↔ P ∨ Q := by
  cases x with
  | error e =>
    have holds : P := first.mp (fails_error e)
    exact iff_of_true (fails_error e) (.inl holds)
  | ok a =>
    have not_first : ¬P := fun holds => not_fails_ok a (first.mpr holds)
    exact (second a).trans (or_iff_right not_first).symm

end Fails

/-! ### Cursors -/

/-- The rows of a result, and how it ends. -/
inductive Cursor (Row Fault : Type) : Type
  | done
  | fails (fault : Fault)
  | row (row : Row) (rest : Cursor Row Fault)

namespace Cursor

variable {Row Fault Dto Error : Type}

/-- The rows that are fetched. -/
def rows : Cursor Row Fault → List Row
  | .done => []
  | .fails _ => []
  | .row first rest => first :: rest.rows

/-- Why no more rows are fetched, if there are more. -/
def fault : Cursor Row Fault → Option Fault
  | .done => none
  | .fails fault => some fault
  | .row _ rest => rest.fault

/-- The rows, decoded. At a row that cannot be fetched, `onFault` gives the error to end with; if
there is none, the rows so far are taken for the result. -/
def collect (decode : Row → Except Error Dto) (onFault : Fault → Option Error) :
    Cursor Row Fault → Except Error (List Dto)
  | .done => .ok []
  | .fails fault =>
    match onFault fault with
    | none => .ok []
    | some error => .error error
  | .row first rest => do
    let dto ← decode first
    let dtos ← rest.collect decode onFault
    pure (dto :: dtos)

variable {decode : Row → Except Error Dto} {onFault : Fault → Option Error}

/-- The loop gives the decoded rows, one for each, if nothing ends it with an error. -/
theorem collect_eq_ok_iff (cursor : Cursor Row Fault) (dtos : List Dto) :
    cursor.collect decode onFault = .ok dtos ↔
      List.Forall₂ (fun row dto => decode row = .ok dto) cursor.rows dtos ∧
        ∀ fault ∈ cursor.fault, onFault fault = none := by
  induction cursor generalizing dtos with
  | done => simp [collect, rows, fault, eq_comm]
  | fails f => cases handled : onFault f <;> simp [collect, rows, fault, handled, eq_comm]
  | row first rest ih =>
    rw [collect, bind_eq_ok_iff, rows, List.forall₂_cons_left_iff]
    constructor
    · rintro ⟨dto, decoded, more⟩
      obtain ⟨dtos', collected, eq⟩ := bind_eq_ok_iff.mp more
      obtain ⟨each, handled⟩ := (ih dtos').mp collected
      exact ⟨⟨dto, dtos', decoded, each, (Except.ok.inj eq).symm⟩, handled⟩
    · rintro ⟨⟨dto, dtos', decoded, each, rfl⟩, handled⟩
      have collected := (ih dtos').mpr ⟨each, handled⟩
      exact ⟨dto, decoded, bind_eq_ok_iff.mpr ⟨dtos', collected, rfl⟩⟩

/-- The loop ends with an error when a row cannot be decoded, or not fetched and the loop cares. -/
theorem fails_collect_iff (cursor : Cursor Row Fault) (decode : Row → Except Error Dto)
    (onFault : Fault → Option Error) :
    Fails (cursor.collect decode onFault) ↔
      (∃ row ∈ cursor.rows, Fails (decode row)) ∨
        ∃ fault ∈ cursor.fault, (onFault fault).isSome := by
  induction cursor with
  | done => simp [collect, rows, fault]
  | fails f => cases handled : onFault f <;> simp [collect, rows, fault, handled]
  | row r rest ih =>
    have step : Fails ((Cursor.row r rest).collect decode onFault) ↔
        Fails (decode r) ∨ Fails (rest.collect decode onFault) ∨ False :=
      fails_bind_iff .rfl fun dto => fails_bind_iff .rfl fun dtos => by simp
    rw [step, or_false, ih, ← or_assoc]
    simp [rows, fault]

end Cursor

end Rows

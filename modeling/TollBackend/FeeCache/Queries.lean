import TollBackend.FeeCache.Cursor
import TollBackend.Stage.SqlText
import TollBackend.TollFee.Lists

/-!
# The queries of the fee caches

How the rows of the lists, the subscriptions, the prices and the closed-cycle segments are read. A
loader that writes its loop as `while let Ok(Some(row))` takes a row that cannot be fetched for the
end of the result. A text that cannot be read is taken for a missing one.

## Main definitions

* `CursorRow`, `Column`: a fetched row, and how a column of it is read.
* `TableQuery`: the columns that a loader reads, and what it does about a row that is not fetched.
* `TableQuery.load`: the rows, or an error.
* `TableQuery.ReadFails`, `TableQuery.ReportsFailure`: reading fails, and the loader says so.

## Main results

* `TableQuery.fails_load_iff`: the loader ends with an error exactly when it reports a failure.
* `TableQuery.exists_load_of_not_readFails`: without a failure all rows are read.
-/

namespace TollBackend

open Rows

/-! ### Columns -/

/-- `DbError`, as far as reading gives it. -/
inductive DbError : Type
  | poolError (msg : String)
  | executionError (msg : String)
  | conversionError (msg : String)

/-- A fetched row: the answers of `get_data` and `get_text`, where a text ends at its first NUL. -/
structure CursorRow where
  getData : Nat → Except String (Option Int)
  getText : Nat → Except String (Option String)

/-- `get_nullable_i64`. -/
def getNullableI64 (row : CursorRow) (colIndex : Nat) : Except DbError (Option Int) :=
  match row.getData colIndex with
  | .ok field => .ok field
  | .error e => .error (.conversionError s!"Failed to get i64 at column {colIndex}: {e}")

/-- `get_i64`. -/
def getI64 (row : CursorRow) (colIndex : Nat) : Except DbError Int := do
  match ← getNullableI64 row colIndex with
  | some n => pure n
  | none => .error (.conversionError s!"Column {colIndex} is null but expected i64")

/-- `get_nullable_string`. A text that cannot be read is missing. -/
def getNullableString (row : CursorRow) (colIndex : Nat) : Except DbError (Option String) :=
  match row.getText colIndex with
  | .ok (some text) => .ok (if trim text = "" then none else some (trim text))
  | .ok none => .ok none
  | .error _ => .ok none

/-- `get_nullable_datetime_string`. Slicing inside of a character panics, and the panic ends the
task of the loader with an error. -/
def getNullableDatetimeString (row : CursorRow) (colIndex : Nat) :
    Except DbError (Option String) := do
  match ← getNullableString row colIndex with
  | none => pure none
  | some text =>
    match normalizeDatetimeString text with
    | some normalized => pure (some normalized)
    | none => .error (.executionError "task panicked")

/-- How a column is read. Of an `ignored` one an error is taken for a missing value. -/
inductive Column : Type
  | i64 (colIndex : Nat)
  | nullableI64 (colIndex : Nat)
  | ignoredI64 (colIndex : Nat)
  | string (colIndex : Nat)
  | datetime (colIndex : Nat)

namespace Column

/-- The column ends the loader with an error. -/
def Reported (row : CursorRow) : Column → Prop
  | .i64 i => ∀ n, row.getData i ≠ .ok (some n)
  | .nullableI64 i => Fails (row.getData i)
  | .ignoredI64 _ => False
  | .string _ => False
  | .datetime i => ∃ text, row.getText i = .ok (some text) ∧ trim text ≠ "" ∧
      normalizeDatetimeString (trim text) = none

/-- The column cannot be read. -/
def Unread (row : CursorRow) : Column → Prop
  | .i64 i => ∀ n, row.getData i ≠ .ok (some n)
  | .nullableI64 i => Fails (row.getData i)
  | .ignoredI64 i => Fails (row.getData i)
  | .string i => Fails (row.getText i)
  | .datetime i => Fails (row.getText i) ∨ ∃ text, row.getText i = .ok (some text) ∧
      trim text ≠ "" ∧ normalizeDatetimeString (trim text) = none

theorem Reported.unread {row : CursorRow} {column : Column} (reported : column.Reported row) :
    column.Unread row := by
  cases column with
  | i64 i => exact reported
  | nullableI64 i => exact reported
  | ignoredI64 i => exact reported.elim
  | string i => exact reported.elim
  | datetime i => exact .inr reported

end Column

section Fails

variable (row : CursorRow) (i : Nat)

theorem fails_getNullableI64 :
    Fails (getNullableI64 row i) ↔ (Column.nullableI64 i).Reported row := by
  rw [getNullableI64, Column.Reported]
  cases row.getData i with
  | error e => simp
  | ok field => simp

theorem fails_getI64 : Fails (getI64 row i) ↔ (Column.i64 i).Reported row := by
  rw [getI64, getNullableI64, Column.Reported]
  cases row.getData i with
  | error e => simp [bind, Except.bind]
  | ok field => cases field <;> simp [bind, Except.bind]

theorem fails_getNullableString :
    Fails (getNullableString row i) ↔ (Column.string i).Reported row := by
  rw [getNullableString, Column.Reported]
  cases row.getText i with
  | error e => simp
  | ok text => cases text <;> simp

theorem fails_getNullableDatetimeString :
    Fails (getNullableDatetimeString row i) ↔ (Column.datetime i).Reported row := by
  rw [getNullableDatetimeString, getNullableString, Column.Reported]
  cases row.getText i with
  | error e => simp [bind, Except.bind]
  | ok text =>
    cases text with
    | none => simp [bind, Except.bind]
    | some text =>
      by_cases blank : trim text = ""
      · simp [bind, Except.bind, blank]
      · cases normal : normalizeDatetimeString (trim text) with
        | none => simp [bind, Except.bind, blank, normal]
        | some normalized => simp [bind, Except.bind, blank, normal]

end Fails

/-! ### Queries -/

/-- The answer to a query: an error, no result set, or a cursor. -/
abbrev QueryResult :=
  Except DbError (Option (Cursor CursorRow String))

/-- A loader: the columns that it reads, how it decodes a row, and the error for a row that is not
fetched, if it is not taken for the end. -/
structure TableQuery (Dto : Type) where
  columns : List Column
  decode : CursorRow → Except DbError Dto
  onFault : String → Option DbError
  fails_decode_iff : ∀ row, Fails (decode row) ↔ ∃ column ∈ columns, column.Reported row

namespace TableQuery

variable {Dto : Type} (query : TableQuery Dto)

/-- The rows, or an error. -/
def load (result : QueryResult) : Except DbError (List Dto) := do
  match ← result with
  | none => pure []
  | some cursor => cursor.collect query.decode query.onFault

/-- The result set cannot be read: there is none, a row of it is not fetched, or a column of a row
cannot be read. -/
def ReadFails (result : QueryResult) : Prop :=
  Fails result ∨ ∃ cursor, result = .ok (some cursor) ∧
    ((∃ fault, cursor.fault = some fault) ∨
      ∃ row ∈ cursor.rows, ∃ column ∈ query.columns, column.Unread row)

/-- A failure that ends the loader with an error. -/
def ReportsFailure (result : QueryResult) : Prop :=
  Fails result ∨ ∃ cursor, result = .ok (some cursor) ∧
    ((∃ fault, cursor.fault = some fault ∧ (query.onFault fault).isSome) ∨
      ∃ row ∈ cursor.rows, ∃ column ∈ query.columns, column.Reported row)

/-- The records are those of all rows. -/
def Complete (result : QueryResult) (dtos : List Dto) : Prop :=
  (result = .ok none ∧ dtos = []) ∨ ∃ cursor, result = .ok (some cursor) ∧
    cursor.fault = none ∧ List.Forall₂ (fun row dto => query.decode row = .ok dto) cursor.rows dtos

/-- The result has the rows, in an order that is not said. -/
def Gives (result : QueryResult) (rows : List Dto) : Prop :=
  ∀ read, query.load result = .ok read → read.Perm rows

variable {query} {result : QueryResult}

theorem ReportsFailure.readFails (reports : query.ReportsFailure result) :
    query.ReadFails result := by
  rcases reports with none | ⟨cursor, answer, failure⟩
  · exact .inl none
  · refine .inr ⟨cursor, answer, ?_⟩
    rcases failure with ⟨fault, not_fetched, -⟩ | ⟨row, fetched, column, read, reported⟩
    · exact .inl ⟨fault, not_fetched⟩
    · exact .inr ⟨row, fetched, column, read, reported.unread⟩

/-- The loader ends with an error exactly when it reports a failure. -/
theorem fails_load_iff : Fails (query.load result) ↔ query.ReportsFailure result := by
  unfold load ReportsFailure
  cases result with
  | error e => simp [bind, Except.bind]
  | ok answer =>
    cases answer with
    | none => simp [bind, Except.bind]
    | some cursor =>
      have loop := cursor.fails_collect_iff query.decode query.onFault
      simp only [query.fails_decode_iff] at loop
      simp only [bind, Except.bind, loop, not_fails_ok, false_or, Except.ok.injEq,
        Option.some.injEq, exists_eq_left', Option.mem_def]
      exact or_comm

/-- Without a failure, all rows are read. -/
theorem exists_load_of_not_readFails (readable : ¬query.ReadFails result) :
    ∃ dtos, query.load result = .ok dtos ∧ query.Complete result dtos := by
  have loads : ¬Fails (query.load result) :=
    fun fails => readable (fails_load_iff.mp fails).readFails
  obtain ⟨dtos, loaded⟩ := exists_eq_ok_of_not_fails loads
  refine ⟨dtos, loaded, ?_⟩
  cases result with
  | error e => exact absurd (.inl (fails_error e)) readable
  | ok answer =>
    cases answer with
    | none => exact .inl ⟨rfl, (Except.ok.inj loaded).symm⟩
    | some cursor =>
      have each := ((cursor.collect_eq_ok_iff dtos).mp loaded).1
      refine .inr ⟨cursor, rfl, ?_, each⟩
      by_contra more
      obtain ⟨fault, not_fetched⟩ := Option.ne_none_iff_exists'.mp more
      exact readable (.inr ⟨cursor, rfl, .inl ⟨fault, not_fetched⟩⟩)

end TableQuery

end TollBackend

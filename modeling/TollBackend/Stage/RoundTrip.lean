import TollBackend.Sql.Literals
import TollBackend.Stage.Columns

/-!
# Writing a row and reading it back

`insert` followed by `find_by_id`, and an `update` with what `find_by_id` returned. The statements
do not write all columns that are read, nor read all that are written.

## Main definitions

* `stageInsertInto`, `stageFindById`: the insert and the read of the repository.
* `InsertReturns`, `UpdateKeeps`: an entity comes back, and a row stays as it is.

## Main results

* `insertReturns_iff`, `updateKeeps_iff`: when they do.
-/

namespace TollBackend

section Repository

variable {D : Type}

/-- `SELECT .. WHERE TRANSPORT_TRANS_ID = id`, as stored. -/
def findRow (rows : List (StageEntity D)) (id : Int) : Option (StageEntity D) :=
  rows.find? fun row => row .transportTransId == some id

/-- `find_by_id`. -/
def stageFindById (rows : List (StageEntity D)) (id : Int) : Option (StageEntity D) :=
  (findRow rows id).map StageEntity.found

/-- `find_by_ticket_in_id` finds a row, for a ticket that is given and not zero. -/
def ticketStored (rows : List (StageEntity D)) (e : StageEntity D) : Bool :=
  match e .ticketInId with
  | some ticket => ticket != 0 && rows.any fun row =>
      row .ticketInId == some ticket &&
        (row .checkinStatus == some "1" || row .checkinStatus == some "2")
  | none => false

/-- The entity with another key. -/
def StageEntity.withKey (e : StageEntity D) (id : Int) : StageEntity D :=
  Function.update e .transportTransId (some id)

/-- The key of an inserted row: an id of zero is replaced by the next value of the sequence. -/
def keyFor (id next : Int) : Int :=
  if id = 0 then next else id

/-- `insert` of an entity with this id, where all statements succeed: nothing is written if the
ticket or the key is stored. -/
def stageInsertInto (rows : List (StageEntity D)) (e : StageEntity D) (id next : Int)
    (sysdate : D) : List (StageEntity D) :=
  if ticketStored rows e then rows
  else if (findRow rows (keyFor id next)).isSome then rows
  else rows ++ [(e.withKey (keyFor id next)).inserted sysdate]

/-- The entity comes back in every field that the `SELECT` list reads from the table. -/
def InsertReturns (rows : List (StageEntity D)) (e : StageEntity D) (id next : Int)
    (sysdate : D) : Prop :=
  ∃ read, stageFindById (stageInsertInto rows e id next sysdate) (keyFor id next) = some read ∧
    ∀ c, isSelected c = true → read c = e c

/-- The statement says what it is meant to: no value that is not escaped has a quote. -/
def Unbroken (args : List (SqlArg D)) : Prop :=
  ∀ s, .unescaped s ∈ args → Sql.quote ∉ s.toList

/-- An `UPDATE` of a row with what `find_by_id` returned leaves every column as it is. -/
def UpdateKeeps (row : StageEntity D) (sysdate : D) : Prop :=
  Unbroken row.found.updateValues ∧ ∀ c, StageEntity.updated sysdate row row.found c = row c

/-- A text that is not empty, and has no white space at its ends and no NUL. -/
structure PlainText (s : String) : Prop where
  nonempty : s ≠ ""
  no_nul : '\x00' ∉ s.toList
  trimmed : trim s = s

/-- Every text that is read is plain. -/
def Readable (row : StageEntity D) : Prop :=
  ∀ c, isSelected c = true → ∀ s, textOf c.kind (row c) = some s → PlainText s

/-- When an entity comes back. -/
structure InsertReturnsWhen (rows : List (StageEntity D)) (e : StageEntity D) (id next : Int) :
    Prop where
  newTicket : ticketStored rows e = false
  ownKey : id ≠ 0 ∨ next = 0
  readable : Readable e
  insertDatetime : (e .insertDatetime).isSome
  transitionClose : (e .transitionClose).isSome
  syncStatus : e .syncStatus = none

/-- When a row stays as it is. -/
structure UpdateKeepsWhen (row : StageEntity D) : Prop where
  readable : Readable row
  booEtag : row .booEtag = none
  transitionClose : (row .transitionClose).isSome
  profile : (row .vehicleTypeProfile).isSome
  unquoted : ∀ s, row .vehicleTypeProfile = some s → Sql.quote ∉ s.toList
  checkinShift : ∀ s, row .checkinShift = some s → s.toList.length ≤ 10
  checkoutShift : ∀ s, row .checkoutShift = some s → s.toList.length ≤ 10

/-! ### The columns one by one -/

/-- The columns that `INSERT` does not simply write, among those that are read. -/
theorem insertFormat_cases (c : StageColumn) :
    insertFormat c = some .nullable ∨ c = .insertDatetime ∨ c = .transitionClose ∨
      c = .syncStatus ∨ isSelected c = false := by
  cases c <;> decide

/-- The columns that `UPDATE` does not simply write. -/
theorem updateFormat_cases (c : StageColumn) :
    updateFormat c = some .nullable ∧ isSelected c = true ∨ updateFormat c = none ∨
      c = .booEtag ∨ c = .transitionClose ∨ c = .vehicleTypeProfile ∨ c = .checkinShift ∨
      c = .checkoutShift := by
  cases c <;> decide

/-- A text that is read as it is stored is plain. -/
theorem readString_eq_self_iff (v : Option String) :
    readString v = v ↔ ∀ s, v = some s → PlainText s := by
  constructor
  · rintro read s rfl
    rw [readString, Option.bind_some] at read
    dsimp only at read
    split at read
    · cases read
    · next nonempty =>
      have same : trim (String.ofList (s.toList.takeWhile (· != '\x00'))) = s :=
        Option.some.inj read
      have trimmed : trim s = s := by rw [← same, trim_trim]
      refine ⟨fun empty => nonempty (same.trans empty), fun nul => ?_, trimmed⟩
      -- a NUL does not survive, as all characters are of the part before the first
      have listed : s.toList = (trim (String.ofList
          (s.toList.takeWhile (· != '\x00')))).toList := by rw [same]
      unfold trim at listed
      rw [String.toList_ofList, String.toList_ofList] at listed
      rw [listed] at nul
      have kept := (List.dropWhile_sublist isWhiteSpace).subset
        ((List.rdropWhile_prefix isWhiteSpace _).subset nul)
      have other := List.mem_takeWhile_imp kept
      simp at other
  · intro plain
    cases v with
    | none => rw [readString, Option.bind_none]
    | some s =>
      have text := plain s rfl
      rw [readString_some text.no_nul text.trimmed, if_neg text.nonempty]

/-- A value is read as it is stored, unless it is a text that is not plain. -/
theorem readValue_eq_self_iff (k : ColumnKind) (v : Option (k.Ty D)) :
    readValue k v = v ↔ ∀ s, textOf k v = some s → PlainText s := by
  cases k with
  | text => exact readString_eq_self_iff v
  | int | float | date => exact iff_of_true rfl fun s given => by cases given

theorem Readable.read {row : StageEntity D} (readable : Readable row) {c : StageColumn}
    (selected : isSelected c = true) : readValue c.kind (row c) = row c :=
  (readValue_eq_self_iff c.kind (row c)).mpr (readable c selected)

/-- The letter for a trip that is not closed is read as it is. -/
theorem readString_F : readString (some "F") = some "F" := by
  rw [readString_some (by decide) (by unfold trim; decide)]
  rfl

/-- What is read of a text that was written with the default `F`. -/
theorem readString_close_eq (v : Option String) :
    readString (some ((v.filter (· ≠ "")).getD "F")) = v ↔ readString v = v ∧ v.isSome := by
  cases v with
  | none => simp [readString_F]
  | some s =>
    by_cases empty : s = ""
    · subst empty
      exact iff_of_false (readString_ne_empty (some "F"))
        fun read => readString_ne_empty (some "") read.1
    · have kept : (some s).filter (· ≠ "") = some s := by simp [Option.filter, empty]
      rw [kept, Option.getD_some]
      exact (and_iff_left rfl).symm

/-- When a text that is read, or a default that is read as it is, is the text that is stored. -/
theorem some_readString_getD_eq_iff {default : String}
    (plain : readString (some default) = some default) (v : Option String) :
    some ((readString v).getD default) = v ↔ readString v = v ∧ v.isSome := by
  constructor
  · intro same
    cases read : readString v with
    | none =>
      -- then the default is stored, which is read
      rw [read, Option.getD_none] at same
      rw [← same, plain] at read
      cases read
    | some t =>
      rw [read, Option.getD_some] at same
      exact ⟨same, by rw [← same]; rfl⟩
  · rintro ⟨read, given⟩
    obtain ⟨s, rfl⟩ := Option.isSome_iff_exists.mp given
    rw [read, Option.getD_some]

/-- When the first ten characters of what is read are what is stored. -/
theorem readString_map_firstTen_eq_iff (v : Option String) :
    (readString v).map firstTenChars = v ↔
      readString v = v ∧ ∀ s, v = some s → s.toList.length ≤ 10 := by
  cases v with
  | none => simp [readString]
  | some s =>
    have shift := TransportTransactionStage.shiftText_read_eq_iff (c := some s)
    simp only [Option.isSome_some, forall_const, Option.mem_some_iff, forall_eq'] at shift
    apply shift.trans
    simp

/-! ### When they do -/

variable {rows : List (StageEntity D)} {e row : StageEntity D} {id next : Int} {sysdate : D}

theorem withKey_apply_of_ne {c : StageColumn} (other : c ≠ .transportTransId) :
    e.withKey id c = e c :=
  Function.update_of_ne other _ _

/-- An inserted row has the key. -/
theorem inserted_key : (e.withKey id).inserted sysdate .transportTransId = some id := by
  rw [inserted_apply]
  rfl

/-- What is read of a column of an inserted row. -/
theorem found_inserted_apply {c : StageColumn} (selected : isSelected c = true) :
    (e.inserted sysdate).found c = readValue c.kind (e.inserted sysdate c) := by
  rw [found_apply, if_pos selected]

theorem inserted_nullable {c : StageColumn} (format : insertFormat c = some .nullable) :
    e.inserted sysdate c = e c := by
  rw [inserted_apply, format]
  exact nullable_cell sysdate _ _

/-- A column of an inserted row, as it is read. -/
theorem found_inserted_nullable {c : StageColumn} (selected : isSelected c = true)
    (format : insertFormat c = some .nullable) (other : c ≠ .transportTransId) :
    ((e.withKey id).inserted sysdate).found c = readValue c.kind (e c) := by
  rw [found_inserted_apply selected, inserted_nullable format, withKey_apply_of_ne other]

theorem found_inserted_key :
    ((e.withKey id).inserted sysdate).found .transportTransId = some id := by
  rw [found_inserted_apply rfl, inserted_key]
  rfl

theorem found_inserted_insertDatetime_iff :
    ((e.withKey id).inserted sysdate).found .insertDatetime = e .insertDatetime ↔
      (e .insertDatetime).isSome := by
  rw [found_inserted_apply rfl, inserted_apply, withKey_apply_of_ne (by decide)]
  change (((SqlFormat.orSysdate.arg .date (e .insertDatetime)).cell sysdate).as .date) = _ ↔ _
  cases e .insertDatetime with
  | none => exact iff_of_false (fun h => by cases h) fun h => by cases h
  | some d => exact iff_of_true rfl rfl

theorem found_inserted_transitionClose_iff :
    ((e.withKey id).inserted sysdate).found .transitionClose = e .transitionClose ↔
      readString (e .transitionClose) = e .transitionClose ∧ (e .transitionClose).isSome := by
  rw [found_inserted_apply rfl, inserted_apply, withKey_apply_of_ne (by decide)]
  exact readString_close_eq (e .transitionClose)

theorem found_inserted_syncStatus : ((e.withKey id).inserted sysdate).found .syncStatus = none := by
  rw [found_inserted_apply rfl, inserted_apply]
  rfl

/-- When all that is read of an inserted row is what was written. -/
theorem found_inserted_iff (hasId : e .transportTransId = some id) :
    (∀ c, isSelected c = true → ((e.withKey (keyFor id next)).inserted sysdate).found c = e c) ↔
      (id ≠ 0 ∨ next = 0) ∧ Readable e ∧ (e .insertDatetime).isSome ∧
        (e .transitionClose).isSome ∧ e .syncStatus = none := by
  have ownKey : some (keyFor id next) = some id ↔ id ≠ 0 ∨ next = 0 := by
    rw [Option.some.injEq, keyFor]
    by_cases zero : id = 0 <;> simp [zero]
  constructor
  · intro same
    have key := (found_inserted_key.symm.trans (same .transportTransId rfl)).trans hasId
    have close := found_inserted_transitionClose_iff.mp (same .transitionClose rfl)
    have datetime := found_inserted_insertDatetime_iff.mp (same .insertDatetime rfl)
    have status := found_inserted_syncStatus.symm.trans (same .syncStatus rfl)
    refine ⟨ownKey.mp key, fun c selected => ?_, datetime, close.2, status.symm⟩
    apply (readValue_eq_self_iff c.kind (e c)).mp
    rcases insertFormat_cases c with format | rfl | rfl | rfl | hidden
    · by_cases isKey : c = .transportTransId
      · subst isKey
        rfl
      · exact (found_inserted_nullable selected format isKey).symm.trans (same c selected)
    · rfl
    · exact close.1
    · rfl
    · exact absurd selected (by rw [hidden]; decide)
  · rintro ⟨keeps, readable, datetime, close, status⟩ c selected
    rcases insertFormat_cases c with format | rfl | rfl | rfl | hidden
    · by_cases isKey : c = .transportTransId
      · subst isKey
        rw [found_inserted_key, ownKey.mpr keeps, hasId]
      · exact (found_inserted_nullable selected format isKey).trans (readable.read selected)
    · exact found_inserted_insertDatetime_iff.mpr datetime
    · exact found_inserted_transitionClose_iff.mpr ⟨readable.read (c := .transitionClose) rfl, close⟩
    · rw [found_inserted_syncStatus, status]
    · exact absurd selected (by rw [hidden]; decide)

/-- When an entity that is inserted under an empty key comes back. -/
theorem insertReturns_iff (hasId : e .transportTransId = some id)
    (emptyKey : findRow rows (keyFor id next) = none) :
    InsertReturns rows e id next sysdate ↔ InsertReturnsWhen rows e id next := by
  have empty : (findRow rows (keyFor id next)).isSome = false := by rw [emptyKey]; rfl
  by_cases stored : ticketStored rows e
  · -- nothing is inserted
    apply iff_of_false
    · rintro ⟨read, found, -⟩
      rw [stageInsertInto, if_pos stored, stageFindById, emptyKey] at found
      cases found
    · intro whenever
      exact Bool.noConfusion (stored.symm.trans whenever.newTicket)
  · have inserted : stageFindById (stageInsertInto rows e id next sysdate) (keyFor id next) =
        some ((e.withKey (keyFor id next)).inserted sysdate).found := by
      rw [stageInsertInto, if_neg stored, if_neg (by rw [empty]; decide), stageFindById]
      have absent : rows.find? (fun row => row .transportTransId == some (keyFor id next)) = none :=
        emptyKey
      rw [findRow, List.find?_append, absent, Option.none_or, List.find?_cons_of_pos]
      · rfl
      · rw [inserted_key, beq_self_eq_true]
    have returns : InsertReturns rows e id next sysdate ↔
        ∀ c, isSelected c = true →
          ((e.withKey (keyFor id next)).inserted sysdate).found c = e c := by
      rw [InsertReturns, inserted]
      simp
    rw [returns, found_inserted_iff hasId]
    constructor
    · rintro ⟨ownKey, readable, insertDatetime, transitionClose, syncStatus⟩
      exact ⟨Bool.eq_false_iff.mpr stored, ownKey, readable, insertDatetime, transitionClose,
        syncStatus⟩
    · intro whenever
      exact ⟨whenever.ownKey, whenever.readable, whenever.insertDatetime,
        whenever.transitionClose, whenever.syncStatus⟩

/-- Only one format does not escape a text. -/
theorem arg_eq_unescaped_iff (format : SqlFormat) (k : ColumnKind) (v : Option (k.Ty D))
    (s : String) :
    format.arg k v = .unescaped s ↔ format = .unescapedOrStd ∧ textOf k v = some s := by
  cases format with
  | unescapedOrStd =>
    cases given : textOf k v <;> simp [SqlFormat.arg, given]
  | firstTen =>
    cases given : textOf k v <;> simp [SqlFormat.arg, SqlArg.nullable, given]
  | nonEmptyOrF => simp [SqlFormat.arg]
  | nullable | orSysdate =>
    cases v with
    | none => cases k <;> simp [SqlFormat.arg, SqlArg.nullable]
    | some v => cases k <;> simp [SqlFormat.arg, SqlArg.nullable]

/-- An argument that is not escaped is the profile. -/
theorem unescaped_mem_updateValues_iff (s : String) :
    .unescaped s ∈ e.updateValues ↔ e .vehicleTypeProfile = some s := by
  have onlyProfile : ∀ arg ∈ updateArgs, arg.2 = .unescapedOrStd →
      arg.1 = .vehicleTypeProfile := by decide
  constructor
  · intro mem
    obtain ⟨⟨field, format⟩, listed, written⟩ := List.mem_map.mp mem
    obtain ⟨unescaped, given⟩ := (arg_eq_unescaped_iff format field.kind (e field) s).mp written
    have isProfile : field = .vehicleTypeProfile := onlyProfile _ listed unescaped
    subst isProfile
    exact given
  · intro given
    have listed : (.vehicleTypeProfile, .unescapedOrStd) ∈ updateArgs := by decide
    apply List.mem_map.mpr
    refine ⟨_, listed, ?_⟩
    exact (arg_eq_unescaped_iff _ _ _ s).mpr ⟨rfl, given⟩

/-- A column of an updated row. -/
theorem updated_nullable {c : StageColumn} (format : updateFormat c = some .nullable) :
    StageEntity.updated sysdate row e c = e c := by
  rw [updated_apply, format]
  exact nullable_cell sysdate _ _

/-- A column that is read and written as it is. -/
theorem updated_found_nullable {c : StageColumn} (format : updateFormat c = some .nullable)
    (selected : isSelected c = true) :
    StageEntity.updated sysdate row row.found c = readValue c.kind (row c) := by
  rw [updated_nullable format, found_apply, if_pos selected]

/-- `BOO_ETAG` is written but not read. -/
theorem updated_found_booEtag :
    StageEntity.updated sysdate row row.found .booEtag = none := by
  rw [updated_nullable rfl, found_apply, if_neg (by decide)]

theorem updated_found_transitionClose_iff :
    StageEntity.updated sysdate row row.found .transitionClose = row .transitionClose ↔
      readString (row .transitionClose) = row .transitionClose ∧
        (row .transitionClose).isSome := by
  have nonEmpty : (readString (row .transitionClose)).filter (· ≠ "") =
      readString (row .transitionClose) := by
    cases read : readString (row .transitionClose) with
    | none => rfl
    | some s =>
      have filled : s ≠ "" := fun empty => readString_ne_empty _ (empty ▸ read)
      simp [Option.filter, filled]
  have written : StageEntity.updated sysdate row row.found .transitionClose =
      some ((readString (row .transitionClose)).getD "F") := by
    rw [updated_apply, found_apply]
    change some (((readString (row .transitionClose)).filter (· ≠ "")).getD "F") = _
    rw [nonEmpty]
  rw [written]
  exact some_readString_getD_eq_iff readString_F (row .transitionClose)

theorem updated_found_vehicleTypeProfile_iff :
    StageEntity.updated sysdate row row.found .vehicleTypeProfile = row .vehicleTypeProfile ↔
      readString (row .vehicleTypeProfile) = row .vehicleTypeProfile ∧
        (row .vehicleTypeProfile).isSome := by
  have standard : readString (some "STD") = some "STD" := by
    rw [readString_some (by decide) (by unfold trim; decide)]
    rfl
  have written : StageEntity.updated sysdate row row.found .vehicleTypeProfile =
      some ((readString (row .vehicleTypeProfile)).getD "STD") := by
    rw [updated_apply, found_apply]
    change ((SqlFormat.unescapedOrStd.arg .text
      (readString (row .vehicleTypeProfile))).cell sysdate).as .text = _
    cases readString (row .vehicleTypeProfile) <;> rfl
  rw [written]
  exact some_readString_getD_eq_iff standard (row .vehicleTypeProfile)

/-- A shift is cut. -/
theorem updated_found_checkinShift_iff :
    StageEntity.updated sysdate row row.found .checkinShift = row .checkinShift ↔
      readString (row .checkinShift) = row .checkinShift ∧
        ∀ s, row .checkinShift = some s → s.toList.length ≤ 10 := by
  have written : StageEntity.updated sysdate row row.found .checkinShift =
      (readString (row .checkinShift)).map firstTenChars := by
    rw [updated_apply, found_apply]
    exact nullable_cell sysdate .text _
  rw [written]
  exact readString_map_firstTen_eq_iff (row .checkinShift)

theorem updated_found_checkoutShift_iff :
    StageEntity.updated sysdate row row.found .checkoutShift = row .checkoutShift ↔
      readString (row .checkoutShift) = row .checkoutShift ∧
        ∀ s, row .checkoutShift = some s → s.toList.length ≤ 10 := by
  have written : StageEntity.updated sysdate row row.found .checkoutShift =
      (readString (row .checkoutShift)).map firstTenChars := by
    rw [updated_apply, found_apply]
    exact nullable_cell sysdate .text _
  rw [written]
  exact readString_map_firstTen_eq_iff (row .checkoutShift)

/-- A key and a status are not texts, so they are read as they are. -/
theorem readValue_of_not_updated {c : StageColumn} (unwritten : updateFormat c = none)
    (selected : isSelected c = true) (v : Option (c.kind.Ty D)) : readValue c.kind v = v := by
  cases c <;> first | rfl | exact absurd selected (by decide) | exact absurd unwritten (by decide)

/-- When an `UPDATE` with what was read leaves a row as it is. -/
theorem updateKeeps_iff : UpdateKeeps row sysdate ↔ UpdateKeepsWhen row := by
  have profileRead : row.found .vehicleTypeProfile = readString (row .vehicleTypeProfile) := by
    rw [found_apply]
    rfl
  constructor
  · rintro ⟨unbroken, same⟩
    have close := updated_found_transitionClose_iff.mp (same .transitionClose)
    have profile := updated_found_vehicleTypeProfile_iff.mp (same .vehicleTypeProfile)
    have checkin := updated_found_checkinShift_iff.mp (same .checkinShift)
    have checkout := updated_found_checkoutShift_iff.mp (same .checkoutShift)
    constructor
    case readable =>
      intro c selected
      apply (readValue_eq_self_iff c.kind (row c)).mp
      rcases updateFormat_cases c with ⟨format, -⟩ | unwritten | rfl | rfl | rfl | rfl | rfl
      · exact (updated_found_nullable format selected).symm.trans (same c)
      · exact readValue_of_not_updated unwritten selected (row c)
      · cases selected
      · exact close.1
      · exact profile.1
      · exact checkin.1
      · exact checkout.1
    case booEtag => exact (same .booEtag).symm.trans updated_found_booEtag
    case transitionClose => exact close.2
    case profile => exact profile.2
    case unquoted =>
      intro s given
      apply unbroken s
      rw [unescaped_mem_updateValues_iff, profileRead, profile.1, given]
    case checkinShift => exact checkin.2
    case checkoutShift => exact checkout.2
  · intro whenever
    have profileText : readString (row .vehicleTypeProfile) = row .vehicleTypeProfile :=
      whenever.readable.read (c := .vehicleTypeProfile) rfl
    constructor
    · intro s unescaped
      rw [unescaped_mem_updateValues_iff, profileRead, profileText] at unescaped
      exact whenever.unquoted s unescaped
    · intro c
      rcases updateFormat_cases c with ⟨format, selected⟩ | unwritten | rfl | rfl | rfl | rfl | rfl
      · rw [updated_found_nullable format selected]
        exact whenever.readable.read selected
      · rw [updated_apply, unwritten, Option.elim_none]
      · rw [updated_found_booEtag, whenever.booEtag]
      · exact updated_found_transitionClose_iff.mpr
          ⟨whenever.readable.read (c := .transitionClose) rfl, whenever.transitionClose⟩
      · exact updated_found_vehicleTypeProfile_iff.mpr ⟨profileText, whenever.profile⟩
      · exact updated_found_checkinShift_iff.mpr
          ⟨whenever.readable.read (c := .checkinShift) rfl, whenever.checkinShift⟩
      · exact updated_found_checkoutShift_iff.mpr
          ⟨whenever.readable.read (c := .checkoutShift) rfl, whenever.checkoutShift⟩

/-- An entity that is inserted under an empty key comes back, and an `UPDATE` of a row with what was
read leaves it as it is, exactly when no value meets a default, a cut or a missing column. -/
theorem roundTrip_iff (hasId : e .transportTransId = some id)
    (emptyKey : findRow rows (keyFor id next) = none) :
    InsertReturns rows e id next sysdate ∧ UpdateKeeps row sysdate ↔
      InsertReturnsWhen rows e id next ∧ UpdateKeepsWhen row :=
  and_congr (insertReturns_iff hasId emptyKey) updateKeeps_iff

end Repository

/-- The row of a trip that has been committed, with the values of its check-in and its exit. -/
def filledRow : StageEntity DbDatetime
  | .transportTransId | .ticketInId => some 5
  | .etagNumber => some "BECT01"
  | .checkinTollId => some 1000
  | .checkoutTollId => some 1005
  | .checkinLaneId | .checkoutLaneId | .checkinChannel | .checkoutChannel => some 2
  | .checkinPlate | .checkoutPlate | .plate => some "29A12345"
  | .checkinDatetime | .insertDatetime => some ⟨1768896000⟩
  | .checkinCommitDatetime => some ⟨1768896003⟩
  | .checkoutDatetime | .chargeDatetime => some ⟨1768899600⟩
  | .checkoutCommitDatetime | .lastUpdate => some ⟨1768899607⟩
  | .checkinStatus | .checkoutStatus | .vehicleType => some "1"
  | .chargeStatus => some "COMMIT"
  | .chargeIn => some "E"
  | .totalAmount => some 52000
  | .accountId => some 31
  | .accountTransId => some 9
  | .balance => some ⟨['1', '2', '.', '5'], by decide⟩
  | .checkinShift | .checkoutShift => some "CA1"
  | .vehicleTypeProfile => some "STD"
  | .transitionClose => some "F"
  | .hubId => some 7
  | _ => none

/-- The row is inserted as ticket 5, and updated with what was read. -/
theorem roundTrip_iff_filledRow :
    InsertReturns [] filledRow 5 6 ⟨1768899700⟩ ∧ UpdateKeeps filledRow ⟨1768899700⟩ := by
  have trimmed {s : String} (front : s.toList.dropWhile isWhiteSpace = s.toList)
      (back : s.toList.rdropWhile isWhiteSpace = s.toList) : trim s = s := by
    unfold trim
    rw [front, back, String.ofList_toList]
  have plain : ∀ s ∈ ["BECT01", "29A12345", "1", "COMMIT", "E", "CA1", "STD", "F"], PlainText s := by
    simp only [List.forall_mem_cons, List.not_mem_nil, false_imp_iff, implies_true, and_true]
    refine ⟨?_, ?_, ?_, ?_, ?_, ?_, ?_, ?_⟩ <;>
      exact ⟨by decide, by decide, trimmed (by decide) (by decide)⟩
  have readable : Readable filledRow := by
    intro c _ s given
    refine plain s ?_
    cases c <;> first | cases given; decide | cases given
  apply (roundTrip_iff rfl rfl).mpr
  constructor
  · exact ⟨rfl, .inl (by decide), readable, rfl, rfl, rfl⟩
  · refine ⟨readable, rfl, rfl, rfl, fun s given => ?_, fun s given => ?_, fun s given => ?_⟩
    · cases given
      decide
    · cases given
      decide
    · cases given
      decide

/-- A row with nothing but what may not be null. -/
def plainRow : StageEntity Unit
  | .transportTransId => some 5
  | .insertDatetime => some ()
  | .transitionClose => some "F"
  | .vehicleTypeProfile => some "STD"
  | _ => none

/-- A row of a BOO system, with its tag. -/
def booRow : StageEntity Unit :=
  Function.update plainRow .booEtag (some "E20034120001")

/-- The tag of the BOO system is blanked by an `UPDATE` with what was read. -/
theorem booEtag_blanked :
    ¬ UpdateKeeps booRow () ∧ StageEntity.updated () booRow booRow.found .booEtag = none := by
  constructor
  · intro keeps
    have same := keeps.2 .booEtag
    rw [updated_found_booEtag] at same
    cases same
  · exact updated_found_booEtag

end TollBackend

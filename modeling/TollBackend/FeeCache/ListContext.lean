import TollBackend.AssocList
import TollBackend.Concurrent.Machine
import TollBackend.FeeCache.Loaders

/-!
# The lists that a fee calculation is given

`get_toll_fee_list_context` hands the cached entries of a tag to the fee calculation as they are:
the dates of an entry are read by the loaders, whose queries ask for a window one hour wider than
the time of the load, and by nothing after them.

## Main definitions

* `ListSource`, `EtagLists`: a list with its loader, and what the memory has of it.
* `EtagLists.machine`: reloads, and the steps in which the memory is filled again.
* `getTollFeeListContext`: the lists that the fee calculation is given.
* `HandsInForce`: these are the loaded entries that are in force, and no others.
* `UsedInForce`: when they are.

## Main results

* `EtagLists.Reached.current`: what is found in memory was loaded last.
* `handsInForce_iff`: when the fee calculation is given the entries in force.
-/

namespace TollBackend

open Concurrent Rows

/-! ### Loading -/

/-- A list with its loader, the tag of an entry, and the prefix of its keys in KeyDB. -/
structure ListSource (Dto : Type) where
  query : TableQuery Dto
  etag : Dto → Option String
  cachePrefix : String

/-- `WB_LIST`. -/
def ListSource.wb : ListSource WbListRouteDto := ⟨wbList, (·.etag), "8_wb_route"⟩

/-- `EX_LIST`. -/
def ListSource.ex : ListSource ExListItemDto := ⟨exList, (·.etag), "9_ex_list"⟩

/-- `EX_PRICE_LIST`. -/
def ListSource.exPrice : ListSource ExPriceListItemDto :=
  ⟨exPriceList, (·.etag), "10_ex_price_list"⟩

/-- `str::strip_prefix`. -/
def stripPrefix (start s : String) : Option String :=
  if start.toList.isPrefixOf s.toList
    then some (String.ofList (s.toList.drop start.toList.length)) else none

namespace ListSource

variable {Dto : Type} (source : ListSource Dto)

/-- The tag under which an entry is grouped. -/
def tagOf (dto : Dto) : String :=
  normalizeEtag ((source.etag dto).getD "")

/-- One pass of the loop of `group_by_etag_wb`, `group_by_etag_ex` and `group_by_etag_ex_price`. -/
def groupStep (byEtag : List (String × List Dto)) (dto : Dto) : List (String × List Dto) :=
  let etag := source.tagOf dto
  if etag = "" then byEtag
  else assocSet byEtag etag ((byEtag.lookup etag).getD [] ++ [dto])

/-- `group_by_etag_wb`, `group_by_etag_ex` and `group_by_etag_ex_price`. -/
def groupByEtag (rows : List Dto) : List (String × List Dto) :=
  rows.foldl source.groupStep []

/-- The lists of KeyDB under the keys of the prefix, by their tags. -/
def fromKeydb (keydb : List (String × List Dto)) : List (String × List Dto) :=
  assocSetAll [] (keydb.filterMap fun kv =>
    (stripPrefix (source.cachePrefix ++ ":") kv.1).map fun etag => (etag, kv.2))

/-- What a reload fills the memory with, if it does: the rows of the database, or else what KeyDB
has. Without a pool there is no answer. -/
def reload (answer : Option QueryResult) (loadFromKeydb : Bool)
    (keydb : List (String × List Dto)) : Option (List (String × List Dto)) :=
  let rows := match answer with
    | some result => source.query.load result
    | none => .error (.executionError "DB pool not available")
  match rows with
  | .ok rows => some (source.groupByEtag rows)
  | .error _ =>
    if loadFromKeydb && !keydb.isEmpty then some (source.fromKeydb keydb) else none

theorem nodup_keys_groupByEtag (rows : List Dto) :
    ((source.groupByEtag rows).map fun kv => kv.1).Nodup := by
  have more : ∀ (rows : List Dto) (byEtag : List (String × List Dto)),
      (byEtag.map fun kv => kv.1).Nodup →
        ((rows.foldl source.groupStep byEtag).map fun kv => kv.1).Nodup := by
    intro rows
    induction rows with
    | nil => exact fun _ nodup => nodup
    | cons dto rows ih =>
      intro byEtag nodup
      apply ih
      unfold groupStep
      dsimp only
      split
      · exact nodup
      · exact nodup_keys_assocSet nodup _ _
  exact more rows [] List.nodup_nil

/-- A reload gives one list for each tag. -/
theorem nodup_keys_reload {answer : Option QueryResult} {loadFromKeydb : Bool}
    {keydb byEtag : List (String × List Dto)}
    (loads : source.reload answer loadFromKeydb keydb = some byEtag) :
    (byEtag.map fun kv => kv.1).Nodup := by
  unfold reload at loads
  dsimp only at loads
  split at loads
  · cases loads
    exact source.nodup_keys_groupByEtag _
  · split at loads
    · cases loads
      exact nodup_keys_assocSetAll (l := []) List.nodup_nil _
    · cases loads

/-- The entries of a tag are its rows, in the order of the result. -/
theorem lookup_groupByEtag (rows : List Dto) {tag : String} (nonempty : tag ≠ "") :
    ((source.groupByEtag rows).lookup tag).getD [] =
      rows.filter fun dto => source.tagOf dto = tag := by
  have more : ∀ (rows : List Dto) (byEtag : List (String × List Dto)),
      ((rows.foldl source.groupStep byEtag).lookup tag).getD [] =
        (byEtag.lookup tag).getD [] ++ rows.filter fun dto => source.tagOf dto = tag := by
    intro rows
    induction rows with
    | nil => simp
    | cons dto rows ih =>
      intro byEtag
      rw [List.foldl_cons, ih]
      by_cases own : source.tagOf dto = tag
      · have step : ((source.groupStep byEtag dto).lookup tag).getD [] =
            (byEtag.lookup tag).getD [] ++ [dto] := by
          unfold groupStep
          dsimp only
          rw [own, if_neg nonempty, lookup_assocSet, if_pos rfl, Option.getD_some]
        rw [step, List.filter_cons_of_pos (by simpa using own), List.append_assoc]
        rfl
      · have step : (source.groupStep byEtag dto).lookup tag = byEtag.lookup tag := by
          unfold groupStep
          dsimp only
          split
          · rfl
          · rw [lookup_assocSet, if_neg (Ne.symm own)]
        rw [step, List.filter_cons_of_neg (by simpa using own)]
  exact more rows []

end ListSource

/-! ### The memory -/

/-- A list in memory. A reload clears it and then puts one tag after another; `loaded` is what the
last reload fills it with. -/
structure EtagLists (Dto : Type) where
  memory : List (String × List Dto) := []
  pending : List (String × List Dto) := []
  loaded : List (String × List Dto) := []

/-- A reload, with what the database and KeyDB answer and the order in which the hash map is
visited, or the next insertion of the reload that is under way. -/
inductive ListStep (Dto : Type)
  | reload (answer : Option QueryResult) (loadFromKeydb : Bool) (keydb : List (String × List Dto))
      (seed : String → Nat)
  | insert

namespace EtagLists

variable {Dto : Type} (source : ListSource Dto)

/-- `fill_memory_from_reload` begins: the memory is cleared. -/
def startFill (byEtag : List (String × List Dto)) (seed : String → Nat) : EtagLists Dto where
  memory := []
  pending := byEtag.insertionSort fun a b => seed a.1 ≤ seed b.1
  loaded := byEtag

/-- Reloads follow one another, and each of them fills the memory tag by tag. -/
def machine : Machine (ListStep Dto) (EtagLists Dto) where
  step
    | .reload answer loadFromKeydb keydb seed, s =>
      match s.pending with
      | [] =>
        match source.reload answer loadFromKeydb keydb with
        | some byEtag => some (startFill byEtag seed)
        | none => some s
      | _ :: _ => none
    | .insert, s =>
      match s.pending with
      | [] => none
      | kv :: pending => some { s with memory := assocSet s.memory kv.1 kv.2, pending := pending }

/-- `get_wb_route_by_etag`, `get_ex_list_by_etag` and `get_ex_price_list_by_etag`. -/
def ofEtag (s : EtagLists Dto) (etag : String) : Option (List Dto) :=
  if trim etag = "" then none else s.memory.lookup (trim etag)

/-- The entries of a tag that the last reload has loaded. -/
def loadedOf (s : EtagLists Dto) (tag : String) : List Dto :=
  (s.loaded.lookup tag).getD []

/-- What is in memory, and what a reload is about to put there, was loaded last. -/
structure Current (s : EtagLists Dto) : Prop where
  memory : ∀ tag list, s.memory.lookup tag = some list → s.loaded.lookup tag = some list
  pending : ∀ kv ∈ s.pending, s.loaded.lookup kv.1 = some kv.2

theorem Current.startFill {byEtag : List (String × List Dto)}
    (nodup : (byEtag.map fun kv => kv.1).Nodup) (seed : String → Nat) :
    (startFill byEtag seed).Current where
  memory tag list found := by cases found
  pending kv mem := by
    rw [EtagLists.startFill, List.mem_insertionSort] at mem
    exact (lookup_eq_some_iff_mem nodup kv.1 kv.2).mpr mem

/-- The state is reached by some history of reloads. -/
def Reached (s : EtagLists Dto) : Prop :=
  (machine source).Reaches (fun _ _ => True) {} s

/-- In every history of reloads, what is found in memory was loaded last. -/
theorem Reached.current {s : EtagLists Dto} (reached : Reached source s) : s.Current := by
  apply reached.invariant (I := Current)
  · constructor
    · intro tag list found
      cases found
    · intro kv mem
      cases mem
  intro label a b current _ moves
  cases label with
  | reload answer loadFromKeydb keydb seed =>
    dsimp only [machine] at moves
    split at moves
    · split at moves
      · next loads =>
        cases moves
        exact Current.startFill (source.nodup_keys_reload loads) seed
      · cases moves
        exact current
    · cases moves
  | insert =>
    dsimp only [machine] at moves
    split at moves
    · cases moves
    · next kv pending waiting =>
      cases moves
      constructor
      · intro tag list found
        rw [lookup_assocSet] at found
        by_cases own : tag = kv.1
        · rw [if_pos own] at found
          rw [own, ← Option.some.inj found]
          exact current.pending kv (waiting ▸ List.mem_cons_self)
        · rw [if_neg own] at found
          exact current.memory tag list found
      · intro other mem
        exact current.pending other (waiting ▸ List.mem_cons_of_mem _ mem)

/-- The list of a tag is in memory. -/
def found (s : EtagLists Dto) (tag : String) : Bool :=
  (s.ofEtag tag).isSome

/-- A read gives the entries that were loaded last, or none. -/
theorem Current.ofEtag_normalizeEtag {s : EtagLists Dto} (current : s.Current) (etag : String) :
    (s.ofEtag (normalizeEtag etag)).getD [] =
      if s.found (normalizeEtag etag) then s.loadedOf (normalizeEtag etag) else [] := by
  by_cases present : s.found (normalizeEtag etag) = true
  · rw [if_pos present]
    obtain ⟨list, read⟩ := Option.isSome_iff_exists.mp present
    have inMemory : s.memory.lookup (normalizeEtag etag) = some list := by
      rw [ofEtag, trim_normalizeEtag] at read
      by_cases blank : normalizeEtag etag = ""
      · rw [if_pos blank] at read
        cases read
      · rw [if_neg blank] at read
        exact read
    rw [read, loadedOf, current.memory _ list inMemory]
  · rw [if_neg present]
    have absent : s.ofEtag (normalizeEtag etag) = none := by
      simpa [found] using present
    rw [absent]
    rfl

end EtagLists

/-! ### The context of a fee calculation -/

/-- `str::eq_ignore_ascii_case`. -/
def eqIgnoreAsciiCase (s t : String) : Bool :=
  s.toList.map Char.toLower == t.toList.map Char.toLower

/-- What the fee calculation is given of an entry of the white or black list. -/
def WbListRouteDto.entry (w : WbListRouteDto) : WbEntry :=
  ⟨w.tollId, w.cycleId, w.boo⟩

/-- The entry is of the type. -/
def WbListRouteDto.isType (type : String) (w : WbListRouteDto) : Bool :=
  eqIgnoreAsciiCase w.itemType type

/-- What the fee calculation is given of an exception. -/
def ExListItemDto.entry (e : ExListItemDto) : ExEntry String :=
  ⟨e.stationId, e.boo, e.vehicleType, e.typeStation⟩

/-- What the fee calculation is given of an exception price. -/
def ExPriceListItemDto.entry (e : ExPriceListItemDto) : ExEntry Int :=
  ⟨e.stationId, e.boo, priceTicketTypeFromDbString (trim e.priceTicketType), e.typeStation⟩

/-- The context of some entries. An entry of `WB_LIST` of neither type is in no list. -/
def TollFeeListContext.ofLists (wb : List WbListRouteDto) (ex : List ExListItemDto)
    (exPrice : List ExPriceListItemDto) : TollFeeListContext where
  whiteList := (wb.filter (·.isType "W")).map (·.entry)
  blackList := (wb.filter fun w => !w.isType "W" && w.isType "B").map (·.entry)
  exList := ex.map (·.entry)
  exPriceList := exPrice.map (·.entry)

/-- `get_toll_fee_list_context`. The three lists are read at different times. -/
def getTollFeeListContext (wb : EtagLists WbListRouteDto) (ex : EtagLists ExListItemDto)
    (exPrice : EtagLists ExPriceListItemDto) (etag : String) : Option TollFeeListContext :=
  let etag := normalizeEtag etag
  if etag = "" then none
  else some (.ofLists ((wb.ofEtag etag).getD []) ((ex.ofEtag etag).getD [])
    ((exPrice.ofEtag etag).getD []))

/-- An entry is in force from its effect date to its expire date, if it has one. -/
def FeeEnv.inForce (env : FeeEnv) (effectDate expireDate : Option String) (t : NaiveDateTime) :
    Bool :=
  ((effectDate.bind env.parsePriceDatetime).elim false fun effect => decide (effect ≤ t)) &&
    expireDate.elim true fun s =>
      (env.parsePriceDatetime s).elim false fun till => decide (t ≤ till)

section Context

variable (env : FeeEnv) (t : NaiveDateTime) (wb : EtagLists WbListRouteDto)
variable (ex : EtagLists ExListItemDto) (exPrice : EtagLists ExPriceListItemDto) (etag : String)

/-- The fee calculation for the time `t` is given the entries of the tag that were loaded last
and are in force at `t`, and no others. -/
def HandsInForce : Prop :=
  let tag := normalizeEtag etag
  (getTollFeeListContext wb ex exPrice etag).getD {} =
    .ofLists ((wb.loadedOf tag).filter fun w => env.inForce w.effectDate w.expireDate t)
      ((ex.loadedOf tag).filter fun e => env.inForce e.effectDate e.expireDate t)
      ((exPrice.loadedOf tag).filter fun e => env.inForce e.effectDate e.expireDate t)

/-- The entries of a tag are all in force if the list of the tag is in memory; if a reload has
not put it back yet, none is. -/
def UsedInForce {Dto : Type} (s : EtagLists Dto) (tag : String) (relevant inForce : Dto → Bool) :
    Prop :=
  ∀ dto ∈ s.loadedOf tag, relevant dto = true → (s.found tag = true ↔ inForce dto = true)

/-- All elements of one kind or none of them are taken, which are those that satisfy `p` exactly
if all do, or none. -/
theorem map_filter_eq_iff {A B : Type} (f : A → B) (p q : A → Bool) (taken : Bool) (l : List A) :
    ((if taken then l else []).filter q).map f = ((l.filter p).filter q).map f ↔
      ∀ x ∈ l, q x = true → (taken = true ↔ p x = true) := by
  cases taken with
  | true =>
    have swap : (l.filter p).filter q = (l.filter q).filter p := by
      rw [List.filter_filter, List.filter_filter]
      congr 1
      funext x
      exact Bool.and_comm _ _
    rw [if_pos rfl, swap]
    constructor
    · intro same x mem kind
      have lengths := congrArg List.length same
      rw [List.length_map, List.length_map] at lengths
      have all := List.length_filter_eq_length_iff.mp lengths.symm
      exact ⟨fun _ => all x (List.mem_filter.mpr ⟨mem, kind⟩), fun _ => rfl⟩
    · intro all
      have kept : (l.filter q).filter p = l.filter q := by
        apply List.filter_eq_self.mpr
        intro x mem
        obtain ⟨inList, kind⟩ := List.mem_filter.mp mem
        exact (all x inList kind).mp rfl
      rw [kept]
  | false =>
    have nothing : (if false = true then l else []) = [] := rfl
    rw [nothing, List.filter_nil, List.map_nil, eq_comm, List.map_eq_nil_iff,
      List.filter_eq_nil_iff]
    constructor
    · intro no x mem kind
      constructor
      · intro taken
        cases taken
      · exact fun holds => absurd kind (no x (List.mem_filter.mpr ⟨mem, holds⟩))
    · intro all x mem kind
      obtain ⟨inList, holds⟩ := List.mem_filter.mp mem
      exact absurd ((all x inList kind).mpr holds) Bool.false_ne_true

variable {wb ex exPrice}

/-- The context is made from the lists that are found. -/
theorem getD_getTollFeeListContext (wbCurrent : wb.Current) (exCurrent : ex.Current)
    (exPriceCurrent : exPrice.Current) :
    (getTollFeeListContext wb ex exPrice etag).getD {} =
      .ofLists
        (if wb.found (normalizeEtag etag) then wb.loadedOf (normalizeEtag etag) else [])
        (if ex.found (normalizeEtag etag) then ex.loadedOf (normalizeEtag etag) else [])
        (if exPrice.found (normalizeEtag etag)
          then exPrice.loadedOf (normalizeEtag etag) else []) := by
  rw [← wbCurrent.ofEtag_normalizeEtag, ← exCurrent.ofEtag_normalizeEtag,
    ← exPriceCurrent.ofEtag_normalizeEtag, getTollFeeListContext]
  by_cases blank : normalizeEtag etag = ""
  · -- no list has an entry under the empty tag
    have none_found : ∀ {Dto : Type} (s : EtagLists Dto), s.ofEtag (normalizeEtag etag) = none := by
      intro Dto s
      rw [EtagLists.ofEtag, trim_normalizeEtag, if_pos blank]
    rw [none_found, none_found, none_found, if_pos blank]
    rfl
  · rw [if_neg blank]
    rfl

/-- In every history of the reloads of the three lists, for every tag and every time: the fee
calculation is given exactly the loaded entries in force if and only if, of each list, the entries
of the tag are all in force, or none is and its reload is still under way. -/
theorem handsInForce_iff (wbReached : EtagLists.Reached .wb wb)
    (exReached : EtagLists.Reached .ex ex) (exPriceReached : EtagLists.Reached .exPrice exPrice) :
    HandsInForce env t wb ex exPrice etag ↔
      UsedInForce wb (normalizeEtag etag) (fun w => w.isType "W" || w.isType "B")
          (fun w => env.inForce w.effectDate w.expireDate t) ∧
        UsedInForce ex (normalizeEtag etag) (fun _ => true)
          (fun e => env.inForce e.effectDate e.expireDate t) ∧
        UsedInForce exPrice (normalizeEtag etag) (fun _ => true)
          (fun e => env.inForce e.effectDate e.expireDate t) := by
  have context := getD_getTollFeeListContext etag wbReached.current exReached.current
    exPriceReached.current
  -- each of the four lists is taken from the entries that are found
  have white := map_filter_eq_iff WbListRouteDto.entry
    (fun w => env.inForce w.effectDate w.expireDate t) (fun w => w.isType "W")
    (wb.found (normalizeEtag etag)) (wb.loadedOf (normalizeEtag etag))
  have black := map_filter_eq_iff WbListRouteDto.entry
    (fun w => env.inForce w.effectDate w.expireDate t) (fun w => !w.isType "W" && w.isType "B")
    (wb.found (normalizeEtag etag)) (wb.loadedOf (normalizeEtag etag))
  have exceptions := map_filter_eq_iff ExListItemDto.entry
    (fun e => env.inForce e.effectDate e.expireDate t) (fun _ => true)
    (ex.found (normalizeEtag etag)) (ex.loadedOf (normalizeEtag etag))
  have prices := map_filter_eq_iff ExPriceListItemDto.entry
    (fun e => env.inForce e.effectDate e.expireDate t) (fun _ => true)
    (exPrice.found (normalizeEtag etag)) (exPrice.loadedOf (normalizeEtag etag))
  rw [List.filter_true, List.filter_true] at exceptions prices
  unfold HandsInForce UsedInForce
  dsimp only
  rw [context, TollFeeListContext.ofLists, TollFeeListContext.ofLists,
    TollFeeListContext.mk.injEq, white, black, exceptions, prices, ← and_assoc]
  apply and_congr _ Iff.rfl
  constructor
  · rintro ⟨whites, blacks⟩ w mem kind
    by_cases isWhite : w.isType "W" = true
    · exact whites w mem isWhite
    · exact blacks w mem (by simpa [isWhite] using kind)
  · intro all
    constructor
    · intro w mem kind
      exact all w mem (by simp [kind])
    · intro w mem kind
      rw [Bool.and_eq_true] at kind
      exact all w mem (by simp [kind.2])

end Context

/-! ### An entry loaded ahead of its time -/

/-- A row of `WB_LIST`: tag `T1` is on the white list everywhere from half past twelve. -/
def whiteRow : CursorRow where
  getData column := .ok (if column = 1 then some 0 else none)
  getText column := .ok (match column with
    | 3 => some "W"
    | 4 => some "T1"
    | 7 => some "2024-01-01 12:30:00"
    | _ => none)

/-- The reload that reads this row, and the insertion of its tag. -/
def loadWhiteRow : List (ListStep WbListRouteDto) :=
  [.reload (some (.ok (some (.row whiteRow .done)))) false [] fun _ => 0, .insert]

/-- The parser on the date of the row, in nanoseconds. -/
def halfPastTwelve : FeeEnv where
  parseDatetime text format :=
    if text = "2024-01-01 12:30:00" ∧ format = "%Y-%m-%d %H:%M:%S"
      then some ⟨1704112200000000000⟩ else none

instance {Dto : Type} (s : EtagLists Dto) (tag : String) (relevant inForce : Dto → Bool) :
    Decidable (UsedInForce s tag relevant inForce) :=
  inferInstanceAs (Decidable (∀ dto ∈ s.loadedOf tag, relevant dto = true →
    (s.found tag = true ↔ inForce dto = true)))

/-- At half past twelve the calculation is given the entry, as it should be. -/
theorem handsInForce_iff_halfPastTwelve : ∃ wb,
    HandsInForce halfPastTwelve ⟨1704112200000000000⟩ wb {} {} "T1" ∧
      wb.found "T1" = true := by
  obtain ⟨wb, reached, ends⟩ := (EtagLists.machine .wb).exists_reaches (fun _ _ => True) {}
    loadWhiteRow (fun wb => wb.found "T1" &&
      decide (UsedInForce wb (normalizeEtag "T1") (fun w => w.isType "W" || w.isType "B")
        (fun w => halfPastTwelve.inForce w.effectDate w.expireDate ⟨1704112200000000000⟩)))
    (by decide +kernel)
  rw [Bool.and_eq_true, decide_eq_true_eq] at ends
  refine ⟨wb, (handsInForce_iff _ _ "T1" reached .refl .refl).mpr ⟨ends.2, ?_, ?_⟩, ends.1⟩
  · intro dto mem
    cases mem
  · intro dto mem
    cases mem

/-- At noon it is given the entry as well, half an hour too early. -/
theorem entry_used_before_effect : ¬ ∀ (env : FeeEnv) (t : NaiveDateTime)
    (wb : EtagLists WbListRouteDto) (ex : EtagLists ExListItemDto)
    (exPrice : EtagLists ExPriceListItemDto) (etag : String), EtagLists.Reached .wb wb →
      EtagLists.Reached .ex ex → EtagLists.Reached .exPrice exPrice →
        HandsInForce env t wb ex exPrice etag := by
  intro all
  obtain ⟨wb, reached, ends⟩ := (EtagLists.machine .wb).exists_reaches (fun _ _ => True) {}
    loadWhiteRow (fun wb =>
      ((getTollFeeListContext wb {} {} "T1").getD {}).whiteList.length == 1 &&
        (((wb.loadedOf (normalizeEtag "T1")).filter fun w =>
          halfPastTwelve.inForce w.effectDate w.expireDate ⟨1704110400000000000⟩).filter
            (·.isType "W")).length == 0)
    (by decide +kernel)
  rw [Bool.and_eq_true, beq_iff_eq, beq_iff_eq] at ends
  have hands := all halfPastTwelve ⟨1704110400000000000⟩ wb {} {} "T1" reached .refl .refl
  have lengths := congrArg (fun context => context.whiteList.length) hands
  dsimp only [TollFeeListContext.ofLists] at lengths
  rw [ends.1, List.length_map, ends.2] at lengths
  cases lengths

end TollBackend

import TollBackend.TollFee.Lists

/-!
# The lists of exceptions

An exception list gives a tag another type of vehicle or ticket at some stations. One pass over
the list finds the entry of a station, and remembers a nationwide one for the case that there is
none.

## Main definitions

* `firstOrNationwide`: the pass, for any kind of entries that apply.
* `vehicleTypeFromExListOpen`: the type of vehicle at an open station.
* `stationThenNationwide`: the value that two searches find, one after the other.

## Main results

* `exceptions_spec`: each list gives the value of the two searches, and their order matters only
  between entries that are for the same stations.
-/

namespace TollBackend

variable {α : Type}

/-! ### One pass and two searches -/

/-- The first entry for one of the stations, or else the first nationwide one. -/
def firstOrNationwide (applies : ExEntry α → Bool) (isStation : Int → Bool) :
    List (ExEntry α) → Option α → Option α
  | [], nationwide => nationwide
  | entry :: rest, nationwide =>
      if !applies entry then firstOrNationwide applies isStation rest nationwide
      else if isStation entry.stationId then some entry.value
      else if entry.stationId = 0 then
        firstOrNationwide applies isStation rest (nationwide.or (some entry.value))
      else firstOrNationwide applies isStation rest nationwide

/-- An entry that applies is for one of the stations. -/
def forStation (applies : ExEntry α → Bool) (isStation : Int → Bool) (entry : ExEntry α) : Bool :=
  applies entry && isStation entry.stationId

/-- An entry that applies is for the whole country. -/
def forCountry (applies : ExEntry α → Bool) (entry : ExEntry α) : Bool :=
  applies entry && entry.stationId == 0

/-- The value of the first entry for one of the stations, wherever it stands, or else of the first
nationwide entry. -/
def stationThenNationwide (applies : ExEntry α → Bool) (isStation : Int → Bool)
    (list : List (ExEntry α)) : Option α :=
  ((list.find? (forStation applies isStation)).or (list.find? (forCountry applies))).map (·.value)

section Search

variable (applies : ExEntry α → Bool) (isStation : Int → Bool)

/-- A nationwide entry that is remembered comes before those in the rest of the list. -/
theorem firstOrNationwide_eq (list : List (ExEntry α)) (nationwide : Option α) :
    firstOrNationwide applies isStation list nationwide =
      ((list.find? (forStation applies isStation)).map (·.value)).or
        (nationwide.or ((list.find? (forCountry applies)).map (·.value))) := by
  induction list generalizing nationwide with
  | nil => simp [firstOrNationwide]
  | cons entry rest ih =>
    rw [firstOrNationwide, List.find?_cons, List.find?_cons, forStation, forCountry]
    by_cases applying : applies entry
    · by_cases here : isStation entry.stationId
      · simp [applying, here]
      · rw [Bool.not_eq_true] at here
        by_cases country : entry.stationId = 0
        · rw [country] at here ⊢
          simp [applying, here, ih]
        · have other : (entry.stationId == 0) = false := beq_false_of_ne country
          simp [applying, here, country, other, ih]
    · simp [applying, ih]

/-- The pass finds what the two searches find. -/
theorem firstOrNationwide_none (list : List (ExEntry α)) :
    firstOrNationwide applies isStation list none =
      stationThenNationwide applies isStation list := by
  rw [firstOrNationwide_eq, Option.none_or, stationThenNationwide, Option.map_or]

end Search

/-- With at most one match, it is found wherever it stands. -/
theorem find?_eq_of_perm {β : Type} {p : β → Bool} {l l' : List β} (perm : l.Perm l')
    (one : (l.filter p).length ≤ 1) : l.find? p = l'.find? p := by
  have matching : (l.filter p).Perm (l'.filter p) := perm.filter p
  rw [← List.head?_filter, ← List.head?_filter]
  cases found : l.filter p with
  | nil =>
    rw [found] at matching
    rw [List.nil_perm.mp matching]
  | cons b rest =>
    rw [found, List.length_cons] at one
    have alone : rest = [] := List.length_eq_zero_iff.mp (by omega)
    rw [found, alone] at matching
    rw [alone, ← List.singleton_perm.mp matching]

/-- At most one entry that applies is for the stations, and at most one is nationwide. -/
def OneEach (applies : ExEntry α → Bool) (isStation : Int → Bool) (list : List (ExEntry α)) :
    Prop :=
  (list.filter (forStation applies isStation)).length ≤ 1 ∧
    (list.filter (forCountry applies)).length ≤ 1

theorem stationThenNationwide_perm {applies : ExEntry α → Bool} {isStation : Int → Bool}
    {list list' : List (ExEntry α)} (perm : list.Perm list')
    (one : OneEach applies isStation list) :
    stationThenNationwide applies isStation list =
      stationThenNationwide applies isStation list' := by
  rw [stationThenNationwide, stationThenNationwide, find?_eq_of_perm perm one.1,
    find?_eq_of_perm perm one.2]

/-! ### The lists -/

/-- `type_station_open`: the first byte of the type is `0` or `1`. -/
def typeStationOpen (typeStation : Option String) : Bool :=
  match typeStation.bind fun s => (trim s).toList.head? with
  | none => true
  | some c => if c.toNat < 128 then c == '0' || c == '1' else true

/-- An entry for an open station. -/
def openEntry (entry : ExEntry α) : Bool :=
  typeStationOpen entry.typeStation

/-- An entry for a closed station with this `BOO`. -/
def closedEntry (priceBoo : String) (entry : ExEntry α) : Bool :=
  booMatches entry.boo priceBoo && typeStationClosed entry.typeStation

/-- `vehicle_type_from_ex_list_open`. -/
def vehicleTypeFromExListOpen (exList : List (ExEntry String)) (stationId : Int) :
    Option String :=
  firstOrNationwide openEntry (· == stationId) exList none

/-- One of two stations. -/
def oneOf (tollA tollB station : Int) : Bool :=
  station == tollA || station == tollB

theorem booMatches_trim (entryBoo : Option String) (priceBoo : String) :
    booMatches entryBoo (trim priceBoo) = booMatches entryBoo priceBoo := by
  unfold booMatches
  rw [trim_trim]

/-- The pass for closed stations. -/
theorem effectiveValue_eq (tollA tollB : Int) (priceBoo : String) (list : List (ExEntry α))
    (nationwide : Option α) :
    effectiveValue tollA tollB priceBoo list nationwide =
      firstOrNationwide (closedEntry priceBoo) (oneOf tollA tollB) list nationwide := by
  induction list generalizing nationwide with
  | nil => rfl
  | cons entry rest ih =>
    simp only [effectiveValue, firstOrNationwide, ih, booMatches_trim, closedEntry, oneOf,
      Bool.not_and, Bool.or_eq_true, beq_iff_eq]

/-- The exception lists give the value of the first matching entry for a station of the trip, or
else of the first matching nationwide one, or else the default. With one match of each kind at most
the order of the list does not matter. -/
theorem exceptions_spec :
    (∀ (tollA tollB : Int) (exList : List (ExEntry String)) (priceBoo default : String),
      effectiveVehicleType tollA tollB exList priceBoo default =
          (stationThenNationwide (closedEntry priceBoo) (oneOf tollA tollB) exList).getD default ∧
        (OneEach (closedEntry priceBoo) (oneOf tollA tollB) exList → ∀ exList', exList.Perm exList' →
          effectiveVehicleType tollA tollB exList priceBoo default =
            effectiveVehicleType tollA tollB exList' priceBoo default)) ∧
    (∀ (tollA tollB : Int) (exPriceList : List (ExEntry Int)) (priceBoo default : String),
      effectiveTicketType tollA tollB exPriceList priceBoo default =
          ((stationThenNationwide (closedEntry priceBoo) (oneOf tollA tollB) exPriceList).map
            toString).getD default ∧
        (OneEach (closedEntry priceBoo) (oneOf tollA tollB) exPriceList →
          ∀ exPriceList', exPriceList.Perm exPriceList' →
            effectiveTicketType tollA tollB exPriceList priceBoo default =
              effectiveTicketType tollA tollB exPriceList' priceBoo default)) ∧
    (∀ (exList : List (ExEntry String)) (stationId : Int),
      vehicleTypeFromExListOpen exList stationId =
          stationThenNationwide openEntry (· == stationId) exList ∧
        (OneEach openEntry (· == stationId) exList → ∀ exList', exList.Perm exList' →
          vehicleTypeFromExListOpen exList stationId =
            vehicleTypeFromExListOpen exList' stationId)) := by
  have vehicle (tollA tollB : Int) (exList : List (ExEntry String)) (priceBoo default : String) :
      effectiveVehicleType tollA tollB exList priceBoo default =
        (stationThenNationwide (closedEntry priceBoo) (oneOf tollA tollB) exList).getD default := by
    rw [effectiveVehicleType, effectiveValue_eq, firstOrNationwide_none]
  have ticket (tollA tollB : Int) (list : List (ExEntry Int)) (priceBoo default : String) :
      effectiveTicketType tollA tollB list priceBoo default =
        ((stationThenNationwide (closedEntry priceBoo) (oneOf tollA tollB) list).map
          toString).getD default := by
    rw [effectiveTicketType, effectiveValue_eq, firstOrNationwide_none]
  have atOpen (exList : List (ExEntry String)) (stationId : Int) :
      vehicleTypeFromExListOpen exList stationId =
        stationThenNationwide openEntry (· == stationId) exList :=
    firstOrNationwide_none _ _ _
  and_intros
  · intro tollA tollB exList priceBoo default
    refine ⟨vehicle .., fun one exList' perm => ?_⟩
    rw [vehicle, vehicle, stationThenNationwide_perm perm one]
  · intro tollA tollB exPriceList priceBoo default
    refine ⟨ticket .., fun one exPriceList' perm => ?_⟩
    rw [ticket, ticket, stationThenNationwide_perm perm one]
  · intro exList stationId
    refine ⟨atOpen .., fun one exList' perm => ?_⟩
    rw [atOpen, atOpen, stationThenNationwide_perm perm one]

/-- An entry for a station and one for the whole country, in either order. -/
theorem exceptions_spec_swap :
    OneEach (closedEntry "1") (oneOf 7 9)
        [{ stationId := 0, value := "12" }, { stationId := 9, value := "11" }] ∧
      effectiveVehicleType 7 9
          [{ stationId := 0, value := "12" }, { stationId := 9, value := "11" }] "1" "1" =
        effectiveVehicleType 7 9
          [{ stationId := 9, value := "11" }, { stationId := 0, value := "12" }] "1" "1" := by
  have one : OneEach (closedEntry "1") (oneOf 7 9)
      [{ stationId := 0, value := "12" }, { stationId := 9, value := "11" }] := by
    constructor <;> simp [forStation, forCountry, closedEntry, oneOf, booMatches,
      typeStationClosed]
  exact ⟨one, (exceptions_spec.1 7 9 _ "1" "1").2 one _ (.swap ..)⟩

end TollBackend

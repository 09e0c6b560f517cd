import TollBackend.Network.ServerConfig

/-!
# The deny list of addresses

The configuration names addresses that the server refuses before it reads anything: an IPv4
address, or the first octets of one with a wildcard or nothing behind them. The patterns are
compiled once into four optional octets; the first one that is missing ends a pattern, and a
pattern that does not parse is left out.

## Main definitions

* `CompiledIpDenylist.compile`, `CompiledIpDenylist.matchesIp`: the compiled list and its question.
* `OctetPrefix`: the octets that an address has to start with.
* `Names`: a pattern, as a text, names an address.
* `KeepsToPatterns`: what the list does with its patterns.

## Main results

* `parsePatternToCompiled_eq`: a pattern compiles to the octets that its text has.
* `CompiledIpDenylist.keepsToPatterns`: the list denies the addresses that its patterns name.
-/

namespace TollBackend

/-- `str::parse` at `u8`: a sign `+` is read, a sign `-` is not. -/
def parseU8 (s : String) : Option UInt8 :=
  let value := match s.toList with
    | [] => none
    | '+' :: cs => if cs.isEmpty then none else parseDigits cs 0
    | cs => parseDigits cs 0
  (value.filter fun n => decide (n < 256)).map fun n => UInt8.ofNat n.toNat

/-- `IpAddr`. -/
inductive IpAddr
  | v4 (octets : Vector UInt8 4)
  | v6 (segments : Vector UInt16 8)
deriving DecidableEq

/-- A compiled pattern: from the first octet that is missing on, everything matches. -/
abbrev CompiledPattern :=
  Vector (Option UInt8) 4

/-- The loop of `parse_pattern_to_compiled`, from the part `i` on. -/
def compileParts : List String → Nat → CompiledPattern → Option CompiledPattern
  | [], _, out => some out
  | part :: parts, i, out =>
      if trim part = "*" then some out
      else
        match parseU8 (trim part) with
        | none => none
        | some byte => compileParts parts (i + 1) (out.setIfInBounds i (some byte))

/-- `parse_pattern_to_compiled`. -/
def parsePatternToCompiled (pattern : String) : Option CompiledPattern :=
  let parts := splitAtChar '.' pattern
  if parts.isEmpty ∨ 4 < parts.length then none
  else compileParts parts 0 (Vector.replicate 4 none)

/-- The loop of `match_compiled`, from the octet `i` on. -/
def matchOctets (octets : Vector UInt8 4) : List (Option UInt8) → Nat → Bool
  | [], _ => true
  | some b :: pat, i => if octets[i]?.getD 0 ≠ b then false else matchOctets octets pat (i + 1)
  | none :: _, _ => true

/-- `match_compiled`. -/
def matchCompiled (octets : Vector UInt8 4) (pat : CompiledPattern) : Bool :=
  matchOctets octets pat.toList 0

/-- `CompiledIpDenylist`. -/
structure CompiledIpDenylist where
  patterns : List CompiledPattern

/-- What `compile` adds for a pattern: nothing for one that is blank or does not parse. -/
def compiledPattern (p : String) : Option CompiledPattern :=
  if trim p = "" then none else parsePatternToCompiled (trim p)

namespace CompiledIpDenylist

/-- `CompiledIpDenylist::compile`. -/
def compile (patterns : List String) : CompiledIpDenylist where
  patterns := patterns.filterMap compiledPattern

/-- `CompiledIpDenylist::is_empty`. -/
def isEmpty (list : CompiledIpDenylist) : Bool :=
  list.patterns.isEmpty

/-- `CompiledIpDenylist::matches`. -/
def matchesIp (list : CompiledIpDenylist) : IpAddr → Bool
  | .v4 octets => list.patterns.any fun pat => matchCompiled octets pat
  | .v6 _ => false

end CompiledIpDenylist

/-- The patterns in the variable `IP_DENYLIST`. -/
def ipDenylist (value : Option String) : List String :=
  value.elim [] fun s => ((splitAtChar ',' s).map trim).filter (· != "")

/-- The accept loop refuses the address by its deny list. -/
def refusesByDenylist (value : Option String) (clientIp : IpAddr) : Bool :=
  let list := CompiledIpDenylist.compile (ipDenylist value)
  !list.isEmpty && list.matchesIp clientIp

/-! ### Prefixes of addresses -/

/-- The octets that an address has to start with. -/
structure OctetPrefix where
  bytes : List UInt8
  atMostFour : bytes.length ≤ 4

namespace OctetPrefix

/-- The compiled pattern of the octets. -/
def compiled (start : OctetPrefix) : CompiledPattern :=
  Vector.ofFn fun i => start.bytes[i.val]?

/-- One more octet. -/
def push (start : OctetPrefix) (byte : UInt8) (room : start.bytes.length < 4) : OctetPrefix where
  bytes := start.bytes ++ [byte]
  atMostFour := by
    rw [List.length_append, List.length_singleton]
    omega

@[simp] theorem getElem_compiled (start : OctetPrefix) {i : Nat} (inside : i < 4) :
    start.compiled[i] = start.bytes[i]? := by
  simp [compiled]

theorem compiled_nil : compiled ⟨[], Nat.zero_le 4⟩ = Vector.replicate 4 none := by
  ext i h : 1
  simp

/-- The compiler writes an octet where the octets so far end. -/
theorem compiled_push (start : OctetPrefix) (byte : UInt8) (room : start.bytes.length < 4) :
    start.compiled.setIfInBounds start.bytes.length (some byte) =
      (start.push byte room).compiled := by
  ext i h : 1
  rw [Vector.getElem_setIfInBounds]
  simp only [getElem_compiled, push]
  split
  · rename_i here
    rw [← here, List.getElem?_append_right (Nat.le_refl _), Nat.sub_self]
    rfl
  · rename_i elsewhere
    by_cases before : i < start.bytes.length
    · rw [List.getElem?_append_left before]
    · rw [List.getElem?_eq_none (by omega), List.getElem?_eq_none]
      rw [List.length_append, List.length_singleton]
      omega

/-- The octets in the compiled pattern, as many as there are. -/
theorem takeWhile_compiled (start : OctetPrefix) :
    start.compiled.toList.takeWhile Option.isSome = start.bytes.map some := by
  have split : start.compiled.toList =
      start.bytes.map some ++ List.replicate (4 - start.bytes.length) none := by
    apply List.ext_getElem
    · have := start.atMostFour
      simp
      omega
    · intro i inside inside'
      rw [Vector.getElem_toList, getElem_compiled]
      by_cases before : i < start.bytes.length
      · rw [List.getElem_append_left (by simpa using before), List.getElem_map,
          List.getElem?_eq_getElem before]
      · rw [List.getElem_append_right (by simpa using Nat.le_of_not_lt before),
          List.getElem_replicate, List.getElem?_eq_none (Nat.le_of_not_lt before)]
  rw [split, List.takeWhile_append_of_pos (by simp)]
  -- what is behind the octets starts with a wildcard, or is empty
  cases 4 - start.bytes.length <;> simp [List.replicate_succ]

end OctetPrefix

variable {octets : Vector UInt8 4}

/-- The loop compares the octets before the first wildcard. -/
theorem matchOctets_iff {pat : List (Option UInt8)} {i : Nat} (inside : i + pat.length ≤ 4) :
    matchOctets octets pat i = true ↔
      pat.takeWhile Option.isSome <+: (octets.toList.drop i).map some := by
  induction pat generalizing i with
  | nil => simp [matchOctets]
  | cons p pat ih =>
    cases p with
    | none => simp [matchOctets]
    | some b =>
      rw [List.length_cons] at inside
      have here : i < octets.toList.length := by
        rw [Vector.length_toList]
        omega
      rw [List.drop_eq_getElem_cons here, List.map_cons, List.takeWhile_cons_of_pos rfl,
        List.cons_prefix_cons, ← ih (by omega), matchOctets,
        Vector.getElem?_eq_getElem (by omega), Vector.getElem_toList]
      by_cases same : octets[i] = b
      · simp [same]
      · simp [same, Ne.symm same]

/-- A compiled pattern matches the addresses that start with its octets. -/
theorem matchCompiled_compiled (start : OctetPrefix) :
    matchCompiled octets start.compiled = true ↔ start.bytes <+: octets.toList := by
  rw [matchCompiled, matchOctets_iff (by simp), start.takeWhile_compiled, List.drop_zero,
    List.prefix_map_iff_of_injective (Option.some_injective _)]

/-! ### What the text of a pattern says -/

/-- The parts of a pattern that stand before its first wildcard. -/
def leadingParts (parts : List String) : List String :=
  (parts.map trim).takeWhile (· ≠ "*")

/-- The parts of a pattern of the list. -/
def patternParts (pattern : String) : List String :=
  splitAtChar '.' (trim pattern)

/-- A pattern is valid: it has at most four parts, and an octet in each part before its first
wildcard. -/
structure IsPattern (pattern : String) : Prop where
  atMostFour : (patternParts pattern).length ≤ 4
  bytes : ∀ part ∈ leadingParts (patternParts pattern), ∃ byte, parseU8 part = some byte

/-- A pattern names an address: it has at most four parts, and those before its first wildcard
are the leading octets of the address. -/
structure Names (pattern : String) (octets : Vector UInt8 4) : Prop where
  atMostFour : (patternParts pattern).length ≤ 4
  leading : ∀ (i : Nat) (h : i < (leadingParts (patternParts pattern)).length),
    ∃ byte, parseU8 (leadingParts (patternParts pattern))[i] = some byte ∧
      octets[i]? = some byte

theorem length_leadingParts_le (parts : List String) :
    (leadingParts parts).length ≤ parts.length := by
  refine Nat.le_trans (List.takeWhile_sublist _).length_le ?_
  rw [List.length_map]

theorem leadingParts_cons_of_wildcard {part : String} (parts : List String)
    (wildcard : trim part = "*") : leadingParts (part :: parts) = [] := by
  simp [leadingParts, wildcard]

theorem leadingParts_cons {part : String} (parts : List String) (other : trim part ≠ "*") :
    leadingParts (part :: parts) = trim part :: leadingParts parts := by
  simp [leadingParts, other]

/-- Some octets, at most four, start with those of `start` and go on with those that `parts`
have before a wildcard. -/
structure Continues (start whole : OctetPrefix) (parts : List String) : Prop where
  bytes : ∃ more, whole.bytes = start.bytes ++ more ∧
    (leadingParts parts).map parseU8 = more.map some

theorem continues_self_iff {start whole : OctetPrefix} {parts : List String}
    (ends : leadingParts parts = []) : Continues start whole parts ↔ start = whole := by
  constructor
  · rintro ⟨more, split, none_left⟩
    rw [ends, List.map_nil] at none_left
    rw [List.map_eq_nil_iff.mp none_left.symm, List.append_nil] at split
    cases start
    cases whole
    cases split
    rfl
  · rintro rfl
    exact ⟨[], (List.append_nil _).symm, by rw [ends]; rfl⟩

theorem continues_push_iff {start whole : OctetPrefix} {part : String} {parts : List String}
    {byte : UInt8} (other : trim part ≠ "*") (parsed : parseU8 (trim part) = some byte)
    (room : start.bytes.length < 4) :
    Continues (start.push byte room) whole parts ↔ Continues start whole (part :: parts) := by
  constructor
  · rintro ⟨more, split, same⟩
    refine ⟨byte :: more, ?_, ?_⟩
    · rw [split, OctetPrefix.push, List.append_assoc, List.singleton_append]
    · rw [leadingParts_cons parts other, List.map_cons, List.map_cons, parsed, same]
  · rintro ⟨more, split, same⟩
    rw [leadingParts_cons parts other, List.map_cons, parsed] at same
    obtain ⟨b, rest, rfl, first, others⟩ := List.map_eq_cons_iff.mp same.symm
    cases first
    refine ⟨rest, ?_, others.symm⟩
    rw [split, OctetPrefix.push, List.append_assoc, List.singleton_append]

/-- The compiler adds the octets of the leading parts to those it has. -/
theorem compileParts_eq_some_iff {parts : List String} (start : OctetPrefix)
    {pat : CompiledPattern} (room : start.bytes.length + parts.length ≤ 4) :
    compileParts parts start.bytes.length start.compiled = some pat ↔
      ∃ whole, Continues start whole parts ∧ whole.compiled = pat := by
  induction parts generalizing start with
  | nil =>
    simp only [compileParts, continues_self_iff (show leadingParts [] = [] from rfl),
      exists_eq_left', Option.some_inj]
  | cons part parts ih =>
    rw [List.length_cons] at room
    rw [compileParts]
    by_cases wildcard : trim part = "*"
    · simp only [if_pos wildcard, exists_eq_left', Option.some_inj,
        continues_self_iff (leadingParts_cons_of_wildcard parts wildcard)]
    · rw [if_neg wildcard]
      cases parsed : parseU8 (trim part) with
      | none =>
        refine iff_of_false (Option.some_ne_none pat ∘ Eq.symm) ?_
        rintro ⟨whole, ⟨more, split, same⟩, rfl⟩
        rw [leadingParts_cons parts wildcard, List.map_cons, parsed] at same
        obtain ⟨b, rest, rfl, first, others⟩ := List.map_eq_cons_iff.mp same.symm
        cases first
      | some byte =>
        have space : start.bytes.length < 4 := by omega
        have grown : (start.push byte space).bytes.length = start.bytes.length + 1 :=
          List.length_append
        have next := ih (start.push byte space) (by omega)
        rw [grown, ← start.compiled_push byte space] at next
        simp only [next, continues_push_iff wildcard parsed space]

/-- A pattern compiles to the octets of its leading parts. -/
theorem parsePatternToCompiled_eq_some_iff {pattern : String} {pat : CompiledPattern} :
    parsePatternToCompiled pattern = some pat ↔
      (splitAtChar '.' pattern).length ≤ 4 ∧
        ∃ whole, Continues ⟨[], Nat.zero_le 4⟩ whole (splitAtChar '.' pattern) ∧
          whole.compiled = pat := by
  have parted : (splitAtChar '.' pattern).isEmpty = false := by
    rw [splitAtChar, List.isEmpty_map, List.isEmpty_eq_false_iff]
    exact List.splitOn_ne_nil _ _
  unfold parsePatternToCompiled
  dsimp only
  rw [parted]
  by_cases short : (splitAtChar '.' pattern).length ≤ 4
  · rw [if_neg (by simpa using short), ← OctetPrefix.compiled_nil]
    have room : 0 + (splitAtChar '.' pattern).length ≤ 4 := by omega
    exact (compileParts_eq_some_iff ⟨[], Nat.zero_le 4⟩ room).trans (and_iff_right short).symm
  · rw [if_pos (by simpa using short)]
    exact iff_of_false (Option.some_ne_none pat ∘ Eq.symm) fun h => short h.1

/-- The octets that are read off the leading parts begin the address. -/
theorem names_iff {pattern : String} :
    Names pattern octets ↔ (patternParts pattern).length ≤ 4 ∧ ∃ bytes : List UInt8,
      (leadingParts (patternParts pattern)).map parseU8 = bytes.map some ∧
        bytes <+: octets.toList := by
  constructor
  · rintro ⟨short, leading⟩
    have within := Nat.le_trans (length_leadingParts_le (patternParts pattern)) short
    refine ⟨short, octets.toList.take (leadingParts (patternParts pattern)).length, ?_,
      List.take_prefix _ _⟩
    apply List.ext_getElem
    · simpa using within
    · intro i inside _
      obtain ⟨byte, parsed, octet⟩ := leading i (by simpa using inside)
      rw [List.getElem_map, parsed, List.getElem_map, List.getElem_take, Vector.getElem_toList]
      obtain ⟨_, rfl⟩ := Vector.getElem?_eq_some_iff.mp octet
      rfl
  · rintro ⟨short, bytes, parsed, start⟩
    refine ⟨short, fun i inside => ?_⟩
    have count : (leadingParts (patternParts pattern)).length = bytes.length := by
      simpa using congrArg List.length parsed
    have here : i < bytes.length := count ▸ inside
    have reached : i < octets.toList.length := Nat.lt_of_lt_of_le here start.length_le
    refine ⟨bytes[i], ?_, ?_⟩
    · have read : ((leadingParts (patternParts pattern)).map parseU8)[i]? =
          (bytes.map some)[i]? := by rw [parsed]
      simpa [inside, here] using read
    · rw [start.getElem here, Vector.getElem_toList, Vector.getElem?_eq_getElem]

/-- A blank pattern names nothing. -/
theorem not_names_of_blank {pattern : String} (blank : trim pattern = "") :
    ¬ Names pattern octets := by
  intro names
  have parts : leadingParts (patternParts pattern) = [""] := by
    rw [patternParts, blank]
    decide +kernel
  obtain ⟨byte, parsed, _⟩ := names.leading 0 (by rw [parts]; exact Nat.one_pos)
  simp only [parts, List.getElem_cons_zero] at parsed
  exact Option.some_ne_none byte parsed.symm

/-- A pattern compiles to one that matches exactly the addresses that it names. -/
theorem exists_compiledPattern_iff {pattern : String} :
    (∃ pat, compiledPattern pattern = some pat ∧ matchCompiled octets pat = true) ↔
      Names pattern octets := by
  by_cases blank : trim pattern = ""
  · refine iff_of_false ?_ (not_names_of_blank blank)
    rintro ⟨pat, compiled, _⟩
    rw [compiledPattern, if_pos blank] at compiled
    cases compiled
  · rw [names_iff]
    simp only [compiledPattern, if_neg blank, parsePatternToCompiled_eq_some_iff]
    constructor
    · rintro ⟨_, ⟨short, whole, ⟨more, split, parsed⟩, rfl⟩, matched⟩
      rw [List.nil_append] at split
      rw [matchCompiled_compiled, split] at matched
      exact ⟨short, more, parsed, matched⟩
    · rintro ⟨short, bytes, parsed, start⟩
      have fits : bytes.length ≤ 4 := by
        have := start.length_le
        rwa [Vector.length_toList] at this
      refine ⟨OctetPrefix.compiled ⟨bytes, fits⟩, ⟨short, _, ?_, rfl⟩, ?_⟩
      · exact ⟨bytes, rfl, parsed⟩
      · exact (matchCompiled_compiled _).mpr start

/-- Only a valid pattern is compiled. -/
theorem isPattern_of_compiledPattern {pattern : String} {pat : CompiledPattern}
    (compiled : compiledPattern pattern = some pat) : IsPattern pattern := by
  by_cases blank : trim pattern = ""
  · rw [compiledPattern, if_pos blank] at compiled
    cases compiled
  · rw [compiledPattern, if_neg blank, parsePatternToCompiled_eq_some_iff] at compiled
    obtain ⟨short, whole, ⟨more, _, parsed⟩, _⟩ := compiled
    refine ⟨short, fun part mem => ?_⟩
    have read : parseU8 part ∈ more.map some := parsed ▸ List.mem_map_of_mem mem
    obtain ⟨byte, _, same⟩ := List.mem_map.mp read
    exact ⟨byte, same.symm⟩

/-- Where every part is an octet, all parts lead. -/
theorem leadingParts_of_octets {parts : List String} {bytes : List UInt8}
    (parsed : (parts.map trim).map parseU8 = bytes.map some) :
    leadingParts parts = parts.map trim := by
  rw [leadingParts, List.takeWhile_eq_self_iff]
  intro part mem
  have read : parseU8 part ∈ bytes.map some := parsed ▸ List.mem_map_of_mem mem
  obtain ⟨byte, _, same⟩ := List.mem_map.mp read
  rw [decide_eq_true_iff]
  rintro rfl
  have star : parseU8 "*" = none := by decide +kernel
  rw [star] at same
  cases same

/-! ### The list -/

namespace CompiledIpDenylist

theorem matchesIp_compile {patterns : List String} :
    (compile patterns).matchesIp (.v4 octets) = true ↔ ∃ p ∈ patterns, Names p octets := by
  rw [matchesIp, compile, List.any_eq_true]
  simp only [List.mem_filterMap]
  constructor
  · rintro ⟨pat, ⟨p, mem, compiled⟩, matched⟩
    exact ⟨p, mem, exists_compiledPattern_iff.mp ⟨pat, compiled, matched⟩⟩
  · rintro ⟨p, mem, names⟩
    obtain ⟨pat, compiled, matched⟩ := exists_compiledPattern_iff.mpr names
    exact ⟨pat, ⟨p, mem, compiled⟩, matched⟩

/-- What the compiled list of the patterns does with an address. -/
structure KeepsToPatterns (patterns : List String) (octets : Vector UInt8 4) : Prop where
  /-- it matches what a pattern names -/
  names : (compile patterns).matchesIp (.v4 octets) = true ↔ ∃ p ∈ patterns, Names p octets
  /-- an invalid pattern could as well be missing -/
  skips : ∀ before p after, patterns = before ++ p :: after → ¬ IsPattern p →
    compile patterns = compile (before ++ after)
  /-- a pattern of octets is a prefix -/
  prefixes : ∀ (p : String) (bytes : List UInt8), (patternParts p).length ≤ 4 →
    ((patternParts p).map trim).map parseU8 = bytes.map some →
      ((compile [p]).matchesIp (.v4 octets) = true ↔ bytes <+: octets.toList)
  /-- only which patterns there are matters -/
  members : ∀ others : List String, (∀ p, p ∈ others ↔ p ∈ patterns) →
    (compile others).matchesIp (.v4 octets) = (compile patterns).matchesIp (.v4 octets)

/-- The deny list matches exactly the addresses that one of its patterns names. -/
theorem keepsToPatterns (patterns : List String) (octets : Vector UInt8 4) :
    KeepsToPatterns patterns octets where
  names := matchesIp_compile
  skips before p after split invalid := by
    have left_out : compiledPattern p = none := by
      cases compiled : compiledPattern p with
      | none => rfl
      | some pat => exact absurd (isPattern_of_compiledPattern compiled) invalid
    rw [split, compile, compile, List.filterMap_append, List.filterMap_cons_none left_out,
      ← List.filterMap_append]
  prefixes p bytes short parsed := by
    have alone : (∃ q ∈ [p], Names q octets) ↔ Names p octets := by simp
    rw [matchesIp_compile, alone, names_iff, leadingParts_of_octets parsed]
    constructor
    · rintro ⟨_, others, same, start⟩
      have eq : bytes = others :=
        List.map_injective_iff.mpr (Option.some_injective _) (parsed.symm.trans same)
      exact eq ▸ start
    · intro start
      exact ⟨short, bytes, parsed, start⟩
  members others same := by
    rw [Bool.eq_iff_iff, matchesIp_compile, matchesIp_compile]
    simp only [same]

/-- An octet out of range and a fifth part only cost their own pattern. -/
example : (compile ["10.256.0.0", "10.10.10.10.1", " 10.10 . * .x"]).matchesIp
    (.v4 #v[10, 10, 3, 4]) = true := by
  decide +kernel

/-- The accept loop refuses an address by what `IP_DENYLIST` names. -/
theorem refusesByDenylist_iff (value : Option String) :
    refusesByDenylist value (.v4 octets) = true ↔
      ∃ p ∈ ipDenylist value, Names p octets := by
  rw [← matchesIp_compile, refusesByDenylist, Bool.and_eq_true, and_iff_right_iff_imp]
  intro matched
  -- a list without patterns matches nothing
  obtain ⟨pat, mem, _⟩ := List.any_eq_true.mp matched
  rw [isEmpty, Bool.not_eq_true', List.isEmpty_eq_false_iff]
  exact List.ne_nil_of_mem mem

end CompiledIpDenylist

end TollBackend

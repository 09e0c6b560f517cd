import TollBackend.Fe.Responses

/-!
# The response parser of the test client

`FeResponseParser` reads the ids, the status and some more fields of a response at the same
positions for almost all commands. The responses of the server do not all begin alike: some have
a version before the ids.

## Main definitions

* `parse`: what the parser reads.
* `Recovers`: it reads the fields that the server wrote.

## Main results

* `recovers_iff`: for which responses it does.
-/

namespace TollBackend.Fe

open Wire

/-! ### Reading -/

/-- `new String(bytes, UTF_8)`. -/
def newString (bs : Bytes) : String :=
  String.ofList (decodeUtf8 true bs.length bs)

/-- The characters that `trim` of the client strips. -/
def isControl (c : Char) : Bool :=
  c.toNat ≤ 0x20

/-- `trimNull`. -/
def trimNull (s : String) : String :=
  let visible := s.toList.takeWhile (· != '\x00')
  String.ofList ((visible.dropWhile isControl).rdropWhile isControl)

/-- `ParsedResponse`, without its raw bytes and its summary. -/
structure ParsedResponse where
  commandId : I32 := .wrap 4 0
  requestId : I64 := .wrap 8 0
  sessionId : I64 := .wrap 8 0
  status : I32 := .wrap 4 0
  ticketId : I64 := .wrap 8 0
  ticketInId : I64 := .wrap 8 0
  ticketOutId : I64 := .wrap 8 0
  ticketETagId : I64 := .wrap 8 0
  hubId : I64 := .wrap 8 0
  etag : Option String := none
  station : I32 := .wrap 4 0
  lane : I32 := .wrap 4 0
  plate : Option String := none

/-- The fields that are read from responses of all commands. -/
def parsedHeader (data : Bytes) : ParsedResponse where
  commandId := i32 data 4 8
  requestId := i64 data 8 16
  sessionId := i64 data 16 24
  status := i32 data 20 24

/-- The fields of a `CHECKIN_RESP`. -/
def parsedCheckin (data : Bytes) : ParsedResponse :=
  { parsedHeader data with
    etag := some (trimNull (newString (slice data 28 (28 + min 24 (data.length - 28)))))
    station := i32 data 52 56
    lane := i32 data 56 60
    ticketId := i64 data 60 68
    plate := some (if 90 ≤ data.length then trimNull (newString (slice data 80 90)) else "") }

/-- The tag of a `LOOKUP_VEHICLE_RESP`. -/
def parsedLookup (data : Bytes) : ParsedResponse :=
  { parsedHeader data with
    etag := some (trimNull (newString (slice data 32 (32 + min 24 (data.length - 32))))) }

/-- The ids of the responses to a reserve, a commit and a rollback. -/
def parsedCheckout (data : Bytes) : ParsedResponse :=
  { parsedHeader data with
    ticketInId := i64 data 36 44
    hubId := i64 data 44 52
    ticketETagId := i64 data 52 60
    ticketOutId := i64 data 60 68 }

/-- `parse`; there is no result if an id would be read behind the end. -/
def parse (data : Bytes) : Option ParsedResponse :=
  if data.length < 8 then some {}
  else if data.length < 20 then some { commandId := i32 data 4 8 }
  else if data.length < 24 then none
  else if (i32 data 4 8).val = CHECKIN_RESP then
    some (if 68 ≤ data.length then parsedCheckin data else parsedHeader data)
  else if (i32 data 4 8).val = LOOKUP_VEHICLE_RESP then
    some (if 32 ≤ data.length then parsedLookup data else parsedHeader data)
  else if (i32 data 4 8).val = CHECKOUT_RESERVE_BOO_RESP ∨
      (i32 data 4 8).val = CHECKOUT_COMMIT_BOO_RESP ∨
      (i32 data 4 8).val = CHECKOUT_ROLLBACK_BOO_RESP then
    if data.length < 64 then some (parsedHeader data)
    else if data.length < 68 then none
    else some (parsedCheckout data)
  else some (parsedHeader data)

theorem parsedCheckin_etag {data : Bytes} (long : 52 ≤ data.length) :
    (parsedCheckin data).etag = some (trimNull (newString (slice data 28 52))) := by
  have stop : 28 + min 24 (data.length - 28) = 52 := by omega
  rw [parsedCheckin, stop]

theorem parsedCheckin_ticketId (data : Bytes) :
    (parsedCheckin data).ticketId = i64 data 60 68 := by
  rw [parsedCheckin]

theorem parsedLookup_etag {data : Bytes} (long : 56 ≤ data.length) :
    (parsedLookup data).etag = some (trimNull (newString (slice data 32 56))) := by
  have stop : 32 + min 24 (data.length - 32) = 56 := by omega
  rw [parsedLookup, stop]

theorem parsedCheckout_ticketInId (data : Bytes) :
    (parsedCheckout data).ticketInId = i64 data 36 44 := by
  rw [parsedCheckout]

/-! ### Recovering -/

/-- The fields that the parser should recover, and the response has. -/
structure Wanted where
  command : Int
  requestId : I64
  sessionId : I64
  status : I32
  ticketId : Option I64 := none
  ticketInId : Option I64 := none
  etag : Option String := none

/-- What the server wrote; the NULs that fill up a tag are no part of it. -/
def Response.wanted : Response → Wanted
  | .connect x => ⟨CONNECT_RESP, x.requestId, x.sessionId, x.status, none, none, none⟩
  | .shake x => ⟨SHAKE_RESP, x.requestId, x.sessionId, x.status, none, none, none⟩
  | .terminate x => ⟨TERMINATE_RESP, x.requestId, x.sessionId, x.status, none, none, none⟩
  | .checkin x =>
    ⟨CHECKIN_RESP, x.requestId, x.sessionId, x.status, x.ticketId, none, trimEndNul x.etag⟩
  | .commit x => ⟨COMMIT_RESP, x.requestId, x.sessionId, x.status, none, none, none⟩
  | .rollback x => ⟨ROLLBACK_RESP, x.requestId, x.sessionId, x.status, none, none, none⟩
  | .queryVehicleBoo x =>
    ⟨QUERY_VEHICLE_BOO_RESP, x.requestId, x.sessionId, x.status, none, none, trimEndNul x.etag⟩
  | .lookupVehicle x _ =>
    ⟨LOOKUP_VEHICLE_RESP, x.requestId, x.sessionId, x.status, none, none, trimEndNul x.etag⟩
  | .checkoutReserveBoo x =>
    ⟨CHECKOUT_RESERVE_BOO_RESP, x.requestId, x.sessionId, x.status, none, x.ticketInId, none⟩
  | .checkoutCommitBoo x =>
    ⟨CHECKOUT_COMMIT_BOO_RESP, x.requestId, x.sessionId, x.status, none, x.ticketInId, none⟩
  | .checkoutRollbackBoo x =>
    ⟨CHECKOUT_ROLLBACK_BOO_RESP, x.requestId, x.sessionId, x.status, none, x.ticketInId, none⟩

/-- A parsed response has what is wanted. -/
structure Has (p : ParsedResponse) (x : Wanted) : Prop where
  command : p.commandId.val = x.command
  requestId : p.requestId = x.requestId
  sessionId : p.sessionId = x.sessionId
  status : p.status = x.status
  ticketId : ∀ id, x.ticketId = some id → p.ticketId = id
  ticketInId : ∀ id, x.ticketInId = some id → p.ticketInId = id
  etag : ∀ e, x.etag = some e → p.etag = some e

/-- The parser recovers what the server wrote. -/
def Recovers (r : Response) : Prop :=
  ∃ p, parse (serialize r) = some p ∧ Has p r.wanted

/-! ### Halves of an id -/

/-- The lower half of an id. -/
def low (id : I64) : I32 :=
  .read 4 (slice id.bytes 0 4)

/-- The upper half of an id. -/
def high (id : I64) : I32 :=
  .read 4 (slice id.bytes 4 8)

/-- The id with these halves. -/
def join (l h : I32) : I64 :=
  .read 8 (l.bytes ++ h.bytes)

section Halves

variable {data : Bytes} {a b c d : I32}

theorem join_inj : join a b = join c d ↔ a = c ∧ b = d := by
  have width (i j : I32) : (i.bytes ++ j.bytes).length = 8 := by
    rw [List.length_append, SInt.length_bytes, SInt.length_bytes]
  have halves : a.bytes.length = c.bytes.length := by
    rw [SInt.length_bytes, SInt.length_bytes]
  rw [join, join, SInt.read_inj (width a b) (width c d)]
  constructor
  · intro eq
    obtain ⟨lower, upper⟩ := List.append_inj eq halves
    exact ⟨SInt.bytes_inj.mp lower, SInt.bytes_inj.mp upper⟩
  · rintro ⟨rfl, rfl⟩
    rfl

/-- An id of a message has the two halves that are read one by one. -/
theorem i64_eq_join {p q r : Nat} (middle : q = p + 4) (last : r = p + 8)
    (inside : r ≤ data.length) : i64 data p r = join (i32 data p q) (i32 data q r) := by
  have lower : (slice data p q).length = 4 := by rw [length_slice] <;> omega
  have upper : (slice data q r).length = 4 := by rw [length_slice] <;> omega
  rw [join, i32, i32, SInt.bytes_read lower, SInt.bytes_read upper,
    slice_append_slice (by omega) (by omega), i64]

theorem join_low_high (id : I64) : join (low id) (high id) = id := by
  have width : id.bytes.length = 8 := SInt.length_bytes id
  have lower : (slice id.bytes 0 4).length = 4 := by rw [length_slice] <;> omega
  have upper : (slice id.bytes 4 8).length = 4 := by rw [length_slice] <;> omega
  rw [join, low, high, SInt.bytes_read lower, SInt.bytes_read upper,
    slice_append_slice (by decide) (by decide), slice_whole width, SInt.read_bytes]

/-- An id that is read half a field too early is right if it repeats what is before it. -/
theorem join_low_iff (id : I64) : join a (low id) = id ↔ id = join a a := by
  constructor
  · intro eq
    have halves := eq.trans (join_low_high id).symm
    obtain ⟨lower, upper⟩ := join_inj.mp halves
    rw [← join_low_high id, ← upper, ← lower]
  · intro eq
    have halves := (join_low_high id).trans eq
    obtain ⟨lower, -⟩ := join_inj.mp halves
    rw [lower, ← eq]

end Halves

/-! ### Tags -/

/-- The tag survives its field: it has no NUL but those behind it, the parser does not strip
anything at its ends, and it is not changed by cutting it to 24 bytes. -/
structure TagKept (etag : String) : Prop where
  no_nul : '\x00' ∉ (trimEndNul etag).toList
  first : ∀ c, (trimEndNul etag).toList.head? = some c → isControl c = false
  last : ∀ c, (trimEndNul etag).toList.getLast? = some c → isControl c = false
  short : cutUtf8 24 (trimEndNul etag).toList = (trimEndNul etag).toList

section Tag

variable {cs : List Char} {n : Nat}

/-- What is stripped of a text at its ends. -/
theorem stripped_sublist (cs : List Char) :
    ((cs.dropWhile isControl).rdropWhile isControl).Sublist cs :=
  (List.rdropWhile_prefix _ _).sublist.trans (List.dropWhile_sublist _)

/-- Nothing is stripped exactly if neither end is to be stripped. -/
theorem stripped_eq_iff :
    (cs.dropWhile isControl).rdropWhile isControl = cs ↔
      (∀ c, cs.head? = some c → isControl c = false) ∧
        ∀ c, cs.getLast? = some c → isControl c = false := by
  constructor
  · intro eq
    have before : cs.dropWhile isControl = cs := by
      have shorter := (List.rdropWhile_prefix isControl (cs.dropWhile isControl)).length_le
      rw [eq] at shorter
      exact (List.dropWhile_sublist _).eq_of_length_le shorter
    rw [before] at eq
    constructor
    · intro c head
      have kept := List.dropWhile_eq_self_iff.mp before
      cases cs with
      | nil => cases head
      | cons d ds =>
        cases head
        exact Bool.eq_false_iff.mpr (kept (Nat.succ_pos _))
    · intro c last
      have nonempty : cs ≠ [] := by
        rintro rfl
        cases last
      have kept := List.rdropWhile_eq_self_iff.mp eq nonempty
      rw [List.getLast?_eq_some_getLast nonempty] at last
      cases last
      exact Bool.eq_false_iff.mpr kept
  · rintro ⟨first, last⟩
    have before : cs.dropWhile isControl = cs := by
      cases cs with
      | nil => rfl
      | cons c cs => exact List.dropWhile_cons_of_neg (by simp [first c rfl])
    rw [before, List.rdropWhile_eq_self_iff]
    intro nonempty strips
    cases (last _ (List.getLast?_eq_some_getLast nonempty)).symm.trans strips

/-- NULs behind a text stay NULs when it is cut. -/
theorem cutUtf8_append_nuls (n m : Nat) (cs : List Char) :
    ∃ k, cutUtf8 n (cs ++ List.replicate m '\x00') = cutUtf8 n cs ++ List.replicate k '\x00' := by
  induction cs generalizing n with
  | nil =>
    change ∃ k, cutUtf8 n (List.replicate m '\x00') = List.replicate k '\x00'
    induction m generalizing n with
    | zero => exact ⟨0, rfl⟩
    | succ m ih =>
      rw [List.replicate_succ, cutUtf8]
      by_cases room : (String.utf8EncodeChar '\x00').length ≤ n
      · obtain ⟨k, eq⟩ := ih (n - (String.utf8EncodeChar '\x00').length)
        exact ⟨k + 1, by rw [if_pos room, eq, List.replicate_succ]⟩
      · have nothing : n = 0 := Nat.lt_one_iff.mp (Nat.not_le.mp room)
        exact ⟨0, by rw [if_neg room, if_pos nothing, List.replicate_zero]⟩
  | cons c cs ih =>
    rw [List.cons_append, cutUtf8, cutUtf8]
    by_cases room : (String.utf8EncodeChar c).length ≤ n
    · obtain ⟨k, eq⟩ := ih (n - (String.utf8EncodeChar c).length)
      exact ⟨k, by rw [if_pos room, if_pos room, eq, List.cons_append]⟩
    · exact ⟨0, by rw [if_neg room, if_neg room, List.replicate_zero, List.append_nil]⟩

theorem cutUtf8_no_nul (n : Nat) (no_nul : '\x00' ∉ cs) : '\x00' ∉ cutUtf8 n cs := by
  induction cs generalizing n with
  | nil => exact no_nul
  | cons c cs ih =>
    rw [List.mem_cons, not_or] at no_nul
    rw [cutUtf8]
    split
    · rw [List.mem_cons, not_or]
      exact ⟨no_nul.1, ih _ no_nul.2⟩
    · split
      · exact List.not_mem_nil
      · rw [List.mem_singleton]
        decide

/-- A tag is its text and NULs. -/
theorem toList_eq_trimEndNul (etag : String) :
    ∃ m, etag.toList = (trimEndNul etag).toList ++ List.replicate m '\x00' := by
  have nuls : etag.toList.rtakeWhile (· == '\x00') =
      List.replicate (etag.toList.rtakeWhile (· == '\x00')).length '\x00' := by
    apply List.eq_replicate_of_mem
    intro c mem
    have nul := List.mem_rtakeWhile_imp (p := fun c => c == '\x00') mem
    exact beq_iff_eq.mp nul
  refine ⟨(etag.toList.rtakeWhile (· == '\x00')).length, ?_⟩
  rw [trimEndNul, String.toList_ofList, ← nuls, List.rdropWhile_append_rtakeWhile]

/-- What the parser reads from the field of a tag, up to the first NUL. -/
theorem takeWhile_newString_pad (etag : String) (no_nul : '\x00' ∉ (trimEndNul etag).toList) :
    (newString (pad etag 24)).toList.takeWhile (· != '\x00') =
      cutUtf8 24 (trimEndNul etag).toList := by
  obtain ⟨m, chars⟩ := toList_eq_trimEndNul etag
  obtain ⟨k, cut⟩ := cutUtf8_append_nuls 24 m (trimEndNul etag).toList
  have visible : ∀ c ∈ cutUtf8 24 (trimEndNul etag).toList, (c != '\x00') = true := by
    intro c mem
    rw [bne_iff_ne]
    rintro rfl
    exact cutUtf8_no_nul 24 no_nul mem
  rw [newString, length_pad, String.toList_ofList, decodeUtf8_pad, chars, cut, List.append_assoc,
    ← List.replicate_add, List.takeWhile_append_of_pos visible]
  cases k + (24 - (utf8Bytes etag).length) with
  | zero => rw [List.replicate_zero, List.takeWhile_nil, List.append_nil]
  | succ j =>
    rw [List.replicate_succ, List.takeWhile_cons_of_neg (by decide), List.append_nil]

/-- The parser recovers a tag from its field exactly if the tag survives there. -/
theorem trimNull_pad_iff (etag : String) :
    trimNull (newString (pad etag 24)) = trimEndNul etag ↔ TagKept etag := by
  constructor
  · intro eq
    have text : (trimNull (newString (pad etag 24))).toList = (trimEndNul etag).toList :=
      congrArg String.toList eq
    simp only [trimNull, String.toList_ofList] at text
    have no_nul : '\x00' ∉ (trimEndNul etag).toList := by
      intro mem
      rw [← text] at mem
      have visible := List.mem_takeWhile_imp ((stripped_sublist _).subset mem)
      cases visible
    rw [takeWhile_newString_pad etag no_nul] at text
    -- nothing can have been cut or stripped, because the text has not become shorter
    have short : cutUtf8 24 (trimEndNul etag).toList = (trimEndNul etag).toList := by
      have sublist := stripped_sublist (cutUtf8 24 (trimEndNul etag).toList)
      rw [text] at sublist
      exact (sublist.eq_of_length_le (length_cutUtf8_le 24 _)).symm
    rw [short] at text
    obtain ⟨first, last⟩ := stripped_eq_iff.mp text
    exact ⟨no_nul, first, last, short⟩
  · intro kept
    have stripped := stripped_eq_iff.mpr ⟨kept.first, kept.last⟩
    simp only [trimNull]
    rw [takeWhile_newString_pad etag kept.no_nul, kept.short, stripped, String.ofList_toList]

end Tag

/-! ### The heads of responses -/

/-- Both ids repeat the version, and so does the status. -/
def Repeats (versionId : I32) (requestId sessionId : I64) (status : I32) : Prop :=
  requestId = join versionId versionId ∧ sessionId = join versionId versionId ∧
    status = versionId

section Head

variable {data : Bytes}

theorem low_join (a b : I32) : low (join a b) = a :=
  (join_inj.mp (join_low_high (join a b))).1

theorem high_join (a b : I32) : high (join a b) = b :=
  (join_inj.mp (join_low_high (join a b))).2

/-- Ids and status that are read half a field too early are right if they repeat. -/
theorem shifted_iff (versionId : I32) (requestId sessionId : I64) (status : I32) :
    (join versionId (low requestId) = requestId ∧
        join (high requestId) (low sessionId) = sessionId ∧ low sessionId = status) ↔
      Repeats versionId requestId sessionId status := by
  constructor
  · rintro ⟨request, session, rfl⟩
    have requestId_eq := (join_low_iff requestId).mp request
    rw [requestId_eq, high_join] at session
    have sessionId_eq := (join_low_iff sessionId).mp session
    exact ⟨requestId_eq, sessionId_eq, by rw [sessionId_eq, low_join]⟩
  · rintro ⟨rfl, rfl, rfl⟩
    rw [low_join, high_join]
    exact ⟨rfl, rfl, rfl⟩

/-- What is read at the positions of the ids and the status. -/
structure HeaderReads (data : Bytes) (command : Int) (requestId sessionId : I64) (status : I32) :
    Prop where
  commandId : i32 data 4 8 = .wrap 4 command
  requestId : i64 data 8 16 = requestId
  sessionId : i64 data 16 24 = sessionId
  status : i32 data 20 24 = status

/-- With a version all is read half a field too early. -/
theorem headerReads_versioned (n command : Int) (versionId : I32) (requestId sessionId : I64)
    (rest : Bytes)
    (eq : data = le32 n ++ (le32 command ++ (versionId.bytes ++ (requestId.bytes ++
      (sessionId.bytes ++ rest))))) :
    HeaderReads data command (join versionId (low requestId))
      (join (high requestId) (low sessionId)) (low sessionId) := by
  have long : 24 ≤ data.length := by
    simp [eq]
    omega
  have version : i32 data 8 12 = versionId := by
    simp [eq, i32, slice_append_right, slice_append_left, slice_whole]
  have requestLow : i32 data 12 16 = low requestId := by
    simp [eq, i32, low, slice_append_right, slice_append_left]
  have requestHigh : i32 data 16 20 = high requestId := by
    simp [eq, i32, high, slice_append_right, slice_append_left]
  have sessionLow : i32 data 20 24 = low sessionId := by
    simp [eq, i32, low, slice_append_right, slice_append_left]
  constructor
  · simp [eq, i32, le32, slice_append_right, slice_append_left, slice_whole]
  · rw [i64_eq_join (q := 12) rfl rfl (by omega), version, requestLow]
  · rw [i64_eq_join (q := 20) rfl rfl long, requestHigh, sessionLow]
  · exact sessionLow

/-- Without a version the ids are read as they are, and the upper half of the session for the
status. -/
theorem headerReads_plain (n command : Int) (requestId sessionId : I64) (rest : Bytes)
    (eq : data = le32 n ++ (le32 command ++ (requestId.bytes ++ (sessionId.bytes ++ rest)))) :
    HeaderReads data command requestId sessionId (high sessionId) := by
  constructor
  · simp [eq, i32, le32, slice_append_right, slice_append_left, slice_whole]
  · simp [eq, i64, slice_append_right, slice_append_left, slice_whole]
  · simp [eq, i64, slice_append_right, slice_append_left, slice_whole]
  · simp [eq, i32, high, slice_append_right, slice_append_left]

/-! ### The commands of responses -/

theorem parse_header (long : 24 ≤ data.length)
    (other : (i32 data 4 8).val ∉ [CHECKIN_RESP, LOOKUP_VEHICLE_RESP, CHECKOUT_RESERVE_BOO_RESP,
      CHECKOUT_COMMIT_BOO_RESP, CHECKOUT_ROLLBACK_BOO_RESP]) :
    parse data = some (parsedHeader data) := by
  simp only [List.mem_cons, List.not_mem_nil, or_false, not_or] at other
  obtain ⟨checkin, lookup, checkout⟩ := other
  have no_checkout := not_or.mpr ⟨checkout.1, not_or.mpr checkout.2⟩
  rw [parse, if_neg (by omega), if_neg (by omega), if_neg (by omega), if_neg checkin,
    if_neg lookup, if_neg no_checkout]

theorem parse_checkin (long : 68 ≤ data.length) (command : (i32 data 4 8).val = CHECKIN_RESP) :
    parse data = some (parsedCheckin data) := by
  rw [parse, if_neg (by omega), if_neg (by omega), if_neg (by omega), if_pos command,
    if_pos long]

theorem parse_lookup (long : 32 ≤ data.length)
    (command : (i32 data 4 8).val = LOOKUP_VEHICLE_RESP) :
    parse data = some (parsedLookup data) := by
  have other : ¬ (i32 data 4 8).val = CHECKIN_RESP := by
    rw [command]
    decide
  rw [parse, if_neg (by omega), if_neg (by omega), if_neg (by omega), if_neg other,
    if_pos command, if_pos long]

theorem parse_checkout (long : 68 ≤ data.length)
    (command : (i32 data 4 8).val ∈ [CHECKOUT_RESERVE_BOO_RESP, CHECKOUT_COMMIT_BOO_RESP,
      CHECKOUT_ROLLBACK_BOO_RESP]) :
    parse data = some (parsedCheckout data) := by
  have checkin : ¬ (i32 data 4 8).val = CHECKIN_RESP := by
    intro eq
    rw [eq] at command
    revert command
    decide
  have lookup : ¬ (i32 data 4 8).val = LOOKUP_VEHICLE_RESP := by
    intro eq
    rw [eq] at command
    revert command
    decide
  simp only [List.mem_cons, List.not_mem_nil, or_false] at command
  rw [parse, if_neg (by omega), if_neg (by omega), if_neg (by omega), if_neg checkin,
    if_neg lookup, if_pos command, if_neg (by omega), if_neg (by omega)]

end Head

/-! ### Each response -/

/-- The etag of a `LOOKUP_VEHICLE_RESP` is as well the text of the bytes from the upper half of
the timestamp on. -/
def TagRepeated (x : VehicleResp) : Prop :=
  trimNull (newString ((high x.timestamp).bytes ++
    (x.processTime.bytes ++ (pad x.etag 24).take 16))) = trimEndNul x.etag

/-- When the parser recovers what the server wrote. -/
def RecoversWhen : Response → Prop
  | .connect x | .shake x | .terminate x =>
    Repeats x.versionId x.requestId x.sessionId x.status
  | .checkin x => x.status = high x.sessionId ∧ TagKept x.etag
  | .commit x | .rollback x => x.status = high x.sessionId
  | .queryVehicleBoo _ => False
  | .lookupVehicle x _ =>
    Repeats x.versionId x.requestId x.sessionId x.status ∧ TagRepeated x
  | .checkoutReserveBoo x =>
    Repeats x.versionId x.requestId x.sessionId x.status ∧
      x.ticketInId = join x.processTime x.processTime
  | .checkoutCommitBoo x | .checkoutRollbackBoo x =>
    Repeats x.versionId x.requestId x.sessionId x.status

section Each

theorem recovers_iff_has {r : Response} {p : ParsedResponse}
    (parsed : parse (serialize r) = some p) : Recovers r ↔ Has p r.wanted := by
  constructor
  · rintro ⟨p', parsed', has⟩
    cases parsed.symm.trans parsed'
    exact has
  · intro has
    exact ⟨p, parsed, has⟩

/-- A parsed response has the fields that are read from all responses. -/
structure SameHeader (p : ParsedResponse) (data : Bytes) : Prop where
  commandId : p.commandId = i32 data 4 8
  requestId : p.requestId = i64 data 8 16
  sessionId : p.sessionId = i64 data 16 24
  status : p.status = i32 data 20 24

theorem sameHeader_header (data : Bytes) : SameHeader (parsedHeader data) data := by
  constructor <;> rw [parsedHeader]

theorem sameHeader_checkin (data : Bytes) : SameHeader (parsedCheckin data) data := by
  constructor <;> rw [parsedCheckin, parsedHeader]

theorem sameHeader_lookup (data : Bytes) : SameHeader (parsedLookup data) data := by
  constructor <;> rw [parsedLookup, parsedHeader]

theorem sameHeader_checkout (data : Bytes) : SameHeader (parsedCheckout data) data := by
  constructor <;> rw [parsedCheckout, parsedHeader]

theorem has_iff {data : Bytes} {p : ParsedResponse} {x : Wanted} {requestId sessionId : I64}
    {status : I32} (same : SameHeader p data)
    (reads : HeaderReads data x.command requestId sessionId status)
    (small : (SInt.wrap 4 x.command).val = x.command) :
    Has p x ↔
      (requestId = x.requestId ∧ sessionId = x.sessionId ∧ status = x.status) ∧
        (∀ id, x.ticketId = some id → p.ticketId = id) ∧
        (∀ id, x.ticketInId = some id → p.ticketInId = id) ∧
        ∀ e, x.etag = some e → p.etag = some e := by
  have request := same.requestId.trans reads.requestId
  have session := same.sessionId.trans reads.sessionId
  have stat := same.status.trans reads.status
  constructor
  · intro has
    exact ⟨⟨request.symm.trans has.requestId, session.symm.trans has.sessionId,
      stat.symm.trans has.status⟩, has.ticketId, has.ticketInId, has.etag⟩
  · rintro ⟨⟨requestId, sessionId, status⟩, ticketId, ticketInId, etag⟩
    refine ⟨?_, request.trans requestId, session.trans sessionId, stat.trans status, ticketId,
      ticketInId, etag⟩
    rw [same.commandId, reads.commandId, small]

/-- The commands of which only the header is read. -/
def headerOnly : List Int :=
  [CONNECT_RESP, SHAKE_RESP, TERMINATE_RESP, COMMIT_RESP, ROLLBACK_RESP, QUERY_VEHICLE_BOO_RESP]

theorem headerOnly_other : ∀ command ∈ headerOnly,
    (SInt.wrap 4 command).val ∉ [CHECKIN_RESP, LOOKUP_VEHICLE_RESP, CHECKOUT_RESERVE_BOO_RESP,
      CHECKOUT_COMMIT_BOO_RESP, CHECKOUT_ROLLBACK_BOO_RESP] ∧
    (SInt.wrap 4 command).val = command := by
  decide

/-- Of these responses no tag is read. -/
theorem recovers_headerOnly {r : Response} {requestId sessionId : I64} {status : I32}
    (member : r.wanted.command ∈ headerOnly) (long : 24 ≤ (serialize r).length)
    (reads : HeaderReads (serialize r) r.wanted.command requestId sessionId status)
    (no_ids : r.wanted.ticketId = none ∧ r.wanted.ticketInId = none) :
    Recovers r ↔
      (requestId = r.wanted.requestId ∧ sessionId = r.wanted.sessionId ∧
        status = r.wanted.status) ∧ r.wanted.etag = none := by
  obtain ⟨other, small⟩ := headerOnly_other _ member
  have parsed := parse_header long (by rw [reads.commandId]; exact other)
  rw [recovers_iff_has parsed, has_iff (sameHeader_header _) reads small]
  refine and_congr_right fun _ => ?_
  constructor
  · rintro ⟨-, -, etag⟩
    cases wanted : r.wanted.etag with
    | none => rfl
    | some e => cases etag e wanted
  · intro no_etag
    rw [no_ids.1, no_ids.2, no_etag]
    refine ⟨?_, ?_, ?_⟩
    · rintro id none_eq
      cases none_eq
    · rintro id none_eq
      cases none_eq
    · rintro e none_eq
      cases none_eq

/-- A response of a version, two ids and a status. -/
theorem headerReads_session (command : Int) (x : SessionResp) :
    24 ≤ (serializeSessionResp command x).length ∧
      HeaderReads (serializeSessionResp command x) command (join x.versionId (low x.requestId))
        (join (high x.requestId) (low x.sessionId)) (low x.sessionId) := by
  have layout : serializeSessionResp command x = le32 32 ++ (le32 command ++
      (x.versionId.bytes ++ (x.requestId.bytes ++ (x.sessionId.bytes ++ x.status.bytes)))) := by
    simp [serializeSessionResp, sessionRespBody]
  refine ⟨?_, headerReads_versioned 32 command x.versionId x.requestId x.sessionId _ layout⟩
  simp [layout]

theorem recovers_connect (x : SessionResp) :
    Recovers (.connect x) ↔ Repeats x.versionId x.requestId x.sessionId x.status := by
  obtain ⟨long, reads⟩ := headerReads_session CONNECT_RESP x
  have member : CONNECT_RESP ∈ headerOnly := by decide
  rw [recovers_headerOnly (r := .connect x) member long reads ⟨rfl, rfl⟩, ← shifted_iff]
  exact and_iff_left rfl

theorem recovers_shake (x : SessionResp) :
    Recovers (.shake x) ↔ Repeats x.versionId x.requestId x.sessionId x.status := by
  obtain ⟨long, reads⟩ := headerReads_session SHAKE_RESP x
  have member : SHAKE_RESP ∈ headerOnly := by decide
  rw [recovers_headerOnly (r := .shake x) member long reads ⟨rfl, rfl⟩, ← shifted_iff]
  exact and_iff_left rfl

theorem recovers_terminate (x : SessionResp) :
    Recovers (.terminate x) ↔ Repeats x.versionId x.requestId x.sessionId x.status := by
  obtain ⟨long, reads⟩ := headerReads_session TERMINATE_RESP x
  have member : TERMINATE_RESP ∈ headerOnly := by decide
  rw [recovers_headerOnly (r := .terminate x) member long reads ⟨rfl, rfl⟩, ← shifted_iff]
  exact and_iff_left rfl

theorem headerReads_status (command : Int) (x : StatusResp) :
    24 ≤ (serializeStatusResp command x).length ∧
      HeaderReads (serializeStatusResp command x) command x.requestId x.sessionId
        (high x.sessionId) := by
  have layout : serializeStatusResp command x = le32 28 ++ (le32 command ++
      (x.requestId.bytes ++ (x.sessionId.bytes ++ x.status.bytes))) := by
    simp [serializeStatusResp]
  refine ⟨?_, headerReads_plain 28 command x.requestId x.sessionId _ layout⟩
  simp [layout]

/-- Without a version only the status is read too early. -/
theorem plain_iff (requestId sessionId : I64) (status : I32) :
    (requestId = requestId ∧ sessionId = sessionId ∧ high sessionId = status) ↔
      status = high sessionId :=
  ⟨fun eq => eq.2.2.symm, fun eq => ⟨rfl, rfl, eq.symm⟩⟩

theorem recovers_commit (x : StatusResp) :
    Recovers (.commit x) ↔ x.status = high x.sessionId := by
  obtain ⟨long, reads⟩ := headerReads_status COMMIT_RESP x
  have member : COMMIT_RESP ∈ headerOnly := by decide
  rw [recovers_headerOnly (r := .commit x) member long reads ⟨rfl, rfl⟩,
    ← plain_iff x.requestId x.sessionId x.status]
  exact and_iff_left rfl

theorem recovers_rollback (x : StatusResp) :
    Recovers (.rollback x) ↔ x.status = high x.sessionId := by
  obtain ⟨long, reads⟩ := headerReads_status ROLLBACK_RESP x
  have member : ROLLBACK_RESP ∈ headerOnly := by decide
  rw [recovers_headerOnly (r := .rollback x) member long reads ⟨rfl, rfl⟩,
    ← plain_iff x.requestId x.sessionId x.status]
  exact and_iff_left rfl

theorem recovers_checkin (x : CheckinResp) :
    Recovers (.checkin x) ↔ x.status = high x.sessionId ∧ TagKept x.etag := by
  have layout : serializeCheckinResp x = le32 98 ++ (le32 CHECKIN_RESP ++
      (x.requestId.bytes ++ (x.sessionId.bytes ++ (x.status.bytes ++ (pad x.etag 24 ++
        (x.station.bytes ++ (x.lane.bytes ++ (x.ticketId.bytes ++ (x.ticketType.bytes ++
          (x.price.bytes ++ (x.vehicleType.bytes ++ (pad x.plate 10 ++ (x.plateType.bytes ++
            x.priceTicketType.bytes))))))))))))) := by
    simp [serializeCheckinResp]
  have length : (serializeCheckinResp x).length = 98 := by simp [layout]
  have reads := headerReads_plain 98 CHECKIN_RESP x.requestId x.sessionId _ layout
  have small : (SInt.wrap 4 CHECKIN_RESP).val = CHECKIN_RESP := by decide
  have ticketId : i64 (serializeCheckinResp x) 60 68 = x.ticketId := by
    simp [layout, i64, slice_append_right, slice_append_left, slice_whole]
  have field : slice (serializeCheckinResp x) 28 52 = pad x.etag 24 := by
    simp [layout, slice_append_right, slice_append_left, slice_whole]
  have etag : (parsedCheckin (serializeCheckinResp x)).etag =
      some (trimNull (newString (pad x.etag 24))) := by
    rw [parsedCheckin_etag (by omega), field]
  have parsed : parse (serialize (.checkin x)) = some (parsedCheckin (serializeCheckinResp x)) := by
    rw [serialize]
    exact parse_checkin (by omega) (by rw [reads.commandId, small])
  rw [recovers_iff_has parsed, has_iff (sameHeader_checkin _) reads small, ← trimNull_pad_iff,
    ← plain_iff x.requestId x.sessionId x.status]
  refine and_congr_right fun _ => ?_
  constructor
  · rintro ⟨-, -, tag⟩
    exact Option.some.inj (etag.symm.trans (tag _ rfl))
  · intro tag
    refine ⟨?_, ?_, ?_⟩
    · intro id eq
      rw [parsedCheckin_ticketId, ticketId]
      exact Option.some.inj eq
    · intro id none_eq
      cases none_eq
    · intro e eq
      rw [etag, tag]
      exact eq

section Vehicle

variable (x : VehicleResp)

/-- The first fields of the body of a vehicle. -/
theorem vehicleRespBody_eq :
    ∃ rest, rest.length = 69 ∧ vehicleRespBody x = x.versionId.bytes ++ (x.requestId.bytes ++
      (x.sessionId.bytes ++ (x.timestamp.bytes ++ (x.processTime.bytes ++
        (pad x.etag 24 ++ rest))))) := by
  refine ⟨x.vehicleType.bytes ++ ([ticketTypeByte x.ticketType] ++
    (pad x.registerVehicleType 10 ++ (x.seat.bytes ++ (x.weightGoods.bytes ++ (x.weightAll.bytes ++
      (pad x.plate 10 ++ (x.status.bytes ++ (x.minBalanceStatus.bytes ++
        (x.general1.val ++ x.general2.val))))))))), ?_, ?_⟩
  · simp
  · simp only [vehicleRespBody, List.append_assoc]

/-- No tag is read from a `QUERY_VEHICLE_BOO_RESP`. -/
theorem recovers_queryVehicleBoo : ¬ Recovers (.queryVehicleBoo x) := by
  obtain ⟨rest, rest_length, body⟩ := vehicleRespBody_eq x
  have layout : serialize (.queryVehicleBoo x) = le32 133 ++ (le32 QUERY_VEHICLE_BOO_RESP ++
      (x.versionId.bytes ++ (x.requestId.bytes ++ (x.sessionId.bytes ++ (x.timestamp.bytes ++
        (x.processTime.bytes ++ (pad x.etag 24 ++ rest))))))) := by
    rw [serialize, serializeQueryVehicleBooResp, resize_of_length, body]
    · simp only [List.append_assoc]
    · simp [body, rest_length]
  have reads := headerReads_versioned 133 QUERY_VEHICLE_BOO_RESP x.versionId x.requestId
    x.sessionId _ layout
  have long : 24 ≤ (serialize (.queryVehicleBoo x)).length := by
    simp [layout]
    omega
  have member : QUERY_VEHICLE_BOO_RESP ∈ headerOnly := by decide
  rw [recovers_headerOnly (r := .queryVehicleBoo x) member long reads ⟨rfl, rfl⟩]
  rintro ⟨-, no_etag⟩
  cases no_etag

/-- The tag of a `LOOKUP_VEHICLE_RESP` is read eight bytes too early. -/
theorem recovers_lookupVehicle (extra : Raw 64) :
    Recovers (.lookupVehicle x extra) ↔
      Repeats x.versionId x.requestId x.sessionId x.status ∧ TagRepeated x := by
  obtain ⟨rest, rest_length, body⟩ := vehicleRespBody_eq x
  have layout : serialize (.lookupVehicle x extra) = le32 197 ++ (le32 LOOKUP_VEHICLE_RESP ++
      (x.versionId.bytes ++ (x.requestId.bytes ++ (x.sessionId.bytes ++ (x.timestamp.bytes ++
        (x.processTime.bytes ++ (pad x.etag 24 ++ (rest ++ extra.val)))))))) := by
    rw [serialize, serializeLookupVehicleResp, resize_of_length, body]
    · simp only [List.append_assoc]
    · simp [body, rest_length]
  have reads := headerReads_versioned 197 LOOKUP_VEHICLE_RESP x.versionId x.requestId
    x.sessionId _ layout
  have long : (serialize (.lookupVehicle x extra)).length = 197 := by
    simp [layout, rest_length]
  have small : (SInt.wrap 4 LOOKUP_VEHICLE_RESP).val = LOOKUP_VEHICLE_RESP := by decide
  have upper : slice (serialize (.lookupVehicle x extra)) 32 36 = (high x.timestamp).bytes := by
    have width : (slice x.timestamp.bytes 4 8).length = 4 := by
      rw [length_slice] <;> simp
    rw [high, SInt.bytes_read width]
    simp [layout, slice_append_right, slice_append_left]
  have process : slice (serialize (.lookupVehicle x extra)) 36 40 = x.processTime.bytes := by
    simp [layout, slice_append_right, slice_append_left, slice_whole]
  have first : slice (serialize (.lookupVehicle x extra)) 40 56 = (pad x.etag 24).take 16 := by
    simp [layout, slice_append_right, slice_append_left]
    rfl
  have field : slice (serialize (.lookupVehicle x extra)) 32 56 =
      (high x.timestamp).bytes ++ (x.processTime.bytes ++ (pad x.etag 24).take 16) := by
    rw [← upper, ← process, ← first, slice_append_slice (by decide) (by decide),
      slice_append_slice (by decide) (by decide)]
  have etag : (parsedLookup (serialize (.lookupVehicle x extra))).etag =
      some (trimNull (newString (slice (serialize (.lookupVehicle x extra)) 32 56))) :=
    parsedLookup_etag (by omega)
  rw [field] at etag
  have parsed : parse (serialize (.lookupVehicle x extra)) =
      some (parsedLookup (serialize (.lookupVehicle x extra))) :=
    parse_lookup (by omega) (by rw [reads.commandId, small])
  rw [recovers_iff_has parsed, has_iff (sameHeader_lookup _) reads small, ← shifted_iff,
    TagRepeated]
  refine and_congr_right fun _ => ?_
  constructor
  · rintro ⟨-, -, tag⟩
    exact Option.some.inj (etag.symm.trans (tag _ rfl))
  · intro tag
    refine ⟨?_, ?_, ?_⟩
    · intro id none_eq
      cases none_eq
    · intro id none_eq
      cases none_eq
    · intro e eq
      rw [etag, tag]
      exact eq

/-! ### The tags that are repeated -/

/-- The upper half of a time whose last byte is zero. -/
theorem bytes_high_of_lt {time : I64} (positive : 0 ≤ time.val) (small : time.val < 2 ^ 56) :
    (high time).bytes = (high time).bytes.take 3 ++ [0] := by
  have width : (slice time.bytes 4 8).length = 4 := by
    rw [length_slice] <;> simp
  have residue : (time.val % (256 ^ 8 : Nat)).toNat / 256 / 256 / 256 / 256 / 256 / 256 / 256 = 0 := by
    omega
  have zero : UInt8.ofNat ((time.val % (256 ^ 8 : Nat)).toNat / 256 / 256 / 256 / 256 / 256 / 256 /
      256) = 0 := by
    rw [residue]
    rfl
  rw [high, SInt.bytes_read width]
  simp only [SInt.bytes, leBytes, slice, List.take_succ_cons, List.take_zero, List.drop_succ_cons,
    List.drop_zero, List.cons_append, List.nil_append, zero]

/-- For a time from zero below `2 ^ 56` the parser sees no more of the field than the upper half
of the time: neither the process time nor the tag itself matters. -/
theorem tagRepeated_iff_of_timestamp (positive : 0 ≤ x.timestamp.val)
    (small : x.timestamp.val < 2 ^ 56) :
    TagRepeated x ↔
      trimNull (newString ((high x.timestamp).bytes.take 3)) = trimEndNul x.etag := by
  have upper := bytes_high_of_lt positive small
  unfold TagRepeated trimNull
  generalize (high x.timestamp).bytes.take 3 = seen at upper ⊢
  have visible : ∀ rest, (newString ((high x.timestamp).bytes ++ rest)).toList.takeWhile
      (· != '\x00') = (newString seen).toList.takeWhile (· != '\x00') := by
    intro rest
    rw [upper, List.append_assoc, List.singleton_append, newString, newString,
      String.toList_ofList, String.toList_ofList]
    refine takeWhile_decodeUtf8_nul ?_ (Nat.le_refl _)
    rw [List.length_append, List.length_cons]
    omega
  rw [visible]

/-- A tag of more than three characters is not recovered then. -/
theorem length_le_of_tagRepeated (positive : 0 ≤ x.timestamp.val)
    (small : x.timestamp.val < 2 ^ 56) (repeated : TagRepeated x) :
    (trimEndNul x.etag).toList.length ≤ 3 := by
  rw [← (tagRepeated_iff_of_timestamp x positive small).mp repeated, trimNull, String.toList_ofList]
  refine (stripped_sublist _).length_le.trans ?_
  refine (List.takeWhile_sublist _).length_le.trans ?_
  rw [newString, String.toList_ofList]
  refine (length_decodeUtf8_le _ _).trans ?_
  rw [List.length_take]
  exact Nat.min_le_left _ _

end Vehicle

/-- The id of the entry is read half a field too early, behind the process time. -/
theorem recovers_checkoutReserveBoo (x : CheckoutReserveBooResp) :
    Recovers (.checkoutReserveBoo x) ↔
      Repeats x.versionId x.requestId x.sessionId x.status ∧
        x.ticketInId = join x.processTime x.processTime := by
  obtain ⟨rest, rest_length, layout⟩ : ∃ rest, rest.length = 52 ∧
      serialize (.checkoutReserveBoo x) = le32 100 ++ (le32 CHECKOUT_RESERVE_BOO_RESP ++
        (x.versionId.bytes ++ (x.requestId.bytes ++ (x.sessionId.bytes ++ (x.timestamp.bytes ++
          (x.processTime.bytes ++ (x.ticketInId.bytes ++ rest))))))) := by
    refine ⟨(x.hubId.getD (.wrap 8 0)).bytes ++ (x.ticketETagId.bytes ++ (x.ticketOutId.bytes ++
      (x.status.bytes ++ (x.general1.val ++ x.general2.val)))), by simp, ?_⟩
    rw [serialize, buildCheckoutReserveBooResp, resize_of_length]
    · simp only [List.append_assoc]
    · simp
  have reads := headerReads_versioned 100 CHECKOUT_RESERVE_BOO_RESP x.versionId x.requestId
    x.sessionId _ layout
  have long : (serialize (.checkoutReserveBoo x)).length = 100 := by
    simp [layout, rest_length]
  have small : (SInt.wrap 4 CHECKOUT_RESERVE_BOO_RESP).val = CHECKOUT_RESERVE_BOO_RESP := by
    decide
  have process : i32 (serialize (.checkoutReserveBoo x)) 36 40 = x.processTime := by
    simp [layout, i32, slice_append_right, slice_append_left, slice_whole]
  have lower : i32 (serialize (.checkoutReserveBoo x)) 40 44 = low x.ticketInId := by
    simp [layout, i32, low, slice_append_right, slice_append_left]
  have ticketInId : (parsedCheckout (serialize (.checkoutReserveBoo x))).ticketInId =
      join x.processTime (low x.ticketInId) := by
    rw [parsedCheckout_ticketInId, i64_eq_join (q := 40) rfl rfl (by omega), process, lower]
  have parsed : parse (serialize (.checkoutReserveBoo x)) =
      some (parsedCheckout (serialize (.checkoutReserveBoo x))) :=
    parse_checkout (by omega) (by rw [reads.commandId, small]; decide)
  rw [recovers_iff_has parsed, has_iff (sameHeader_checkout _) reads small, ← shifted_iff,
    ← join_low_iff]
  refine and_congr_right fun _ => ?_
  constructor
  · rintro ⟨-, entry, -⟩
    exact ticketInId.symm.trans (entry _ rfl)
  · intro entry
    refine ⟨?_, ?_, ?_⟩
    · intro id none_eq
      cases none_eq
    · intro id eq
      rw [ticketInId, entry]
      exact Option.some.inj eq
    · intro e none_eq
      cases none_eq

theorem checkout_known : ∀ command ∈ [CHECKOUT_COMMIT_BOO_RESP, CHECKOUT_ROLLBACK_BOO_RESP],
    (SInt.wrap 4 command).val = command ∧ command ∈ [CHECKOUT_RESERVE_BOO_RESP,
      CHECKOUT_COMMIT_BOO_RESP, CHECKOUT_ROLLBACK_BOO_RESP] := by
  decide

/-- The responses to a commit and a rollback, of which the id of the entry is read right. -/
theorem recovers_checkout {r : Response} (command : Int) (x : CheckoutBooResp)
    (member : command ∈ [CHECKOUT_COMMIT_BOO_RESP, CHECKOUT_ROLLBACK_BOO_RESP])
    (serialized : serialize r = buildCheckoutBooResp command x)
    (wanted : r.wanted =
      ⟨command, x.requestId, x.sessionId, x.status, none, x.ticketInId, none⟩) :
    Recovers r ↔ Repeats x.versionId x.requestId x.sessionId x.status := by
  obtain ⟨rest, rest_length, layout⟩ : ∃ rest, rest.length = 52 ∧
      buildCheckoutBooResp command x = le32 96 ++ (le32 command ++
        (x.versionId.bytes ++ (x.requestId.bytes ++ (x.sessionId.bytes ++ (x.timestamp.bytes ++
          (x.ticketInId.bytes ++ rest)))))) := by
    refine ⟨x.hubId.bytes ++ (x.ticketETagId.bytes ++ (x.ticketOutId.bytes ++
      (x.status.bytes ++ (x.general1.val ++ x.general2.val)))), by simp, ?_⟩
    rw [buildCheckoutBooResp, resize_of_length]
    · simp only [List.append_assoc]
    · simp
  have reads := headerReads_versioned 96 command x.versionId x.requestId x.sessionId _ layout
  have long : (buildCheckoutBooResp command x).length = 96 := by
    simp [layout, rest_length]
  have known := checkout_known command member
  have ticketInId : (parsedCheckout (buildCheckoutBooResp command x)).ticketInId =
      x.ticketInId := by
    rw [parsedCheckout_ticketInId]
    simp [layout, i64, slice_append_right, slice_append_left, slice_whole]
  have parsed : parse (buildCheckoutBooResp command x) =
      some (parsedCheckout (buildCheckoutBooResp command x)) :=
    parse_checkout (by omega) (by rw [reads.commandId, known.1]; exact known.2)
  rw [← serialized] at parsed
  rw [recovers_iff_has parsed, wanted, serialized,
    has_iff (sameHeader_checkout _) reads known.1, ← shifted_iff]
  refine and_iff_left ⟨?_, ?_, ?_⟩
  · intro id none_eq
    cases none_eq
  · intro id eq
    rw [ticketInId]
    exact Option.some.inj eq
  · intro e none_eq
    cases none_eq

theorem recovers_checkoutCommitBoo (x : CheckoutBooResp) :
    Recovers (.checkoutCommitBoo x) ↔
      Repeats x.versionId x.requestId x.sessionId x.status :=
  recovers_checkout CHECKOUT_COMMIT_BOO_RESP x (by decide) rfl rfl

theorem recovers_checkoutRollbackBoo (x : CheckoutBooResp) :
    Recovers (.checkoutRollbackBoo x) ↔
      Repeats x.versionId x.requestId x.sessionId x.status :=
  recovers_checkout CHECKOUT_ROLLBACK_BOO_RESP x (by decide) rfl rfl

end Each

/-- The parser recovers what the server wrote exactly if `RecoversWhen` says so. -/
theorem recovers_iff (r : Response) : Recovers r ↔ RecoversWhen r := by
  cases r with
  | connect x => exact recovers_connect x
  | shake x => exact recovers_shake x
  | terminate x => exact recovers_terminate x
  | checkin x => exact recovers_checkin x
  | commit x => exact recovers_commit x
  | rollback x => exact recovers_rollback x
  | queryVehicleBoo x => exact iff_of_false (recovers_queryVehicleBoo x) id
  | lookupVehicle x extra => exact recovers_lookupVehicle x extra
  | checkoutReserveBoo x => exact recovers_checkoutReserveBoo x
  | checkoutCommitBoo x => exact recovers_checkoutCommitBoo x
  | checkoutRollbackBoo x => exact recovers_checkoutRollbackBoo x

/-- The response to a commit of request 7 in session 9 that failed with status 301. -/
def failedCommitResp : StatusResp :=
  ⟨.wrap 8 7, .wrap 8 9, .wrap 4 301⟩

/-- The failure is read as status 0. -/
theorem failed_commit_read_apart :
    (parse (serialize (.commit failedCommitResp))).map (·.status.val) = some 0 ∧
      ¬ Recovers (.commit failedCommitResp) := by
  refine ⟨by decide, ?_⟩
  rw [recovers_commit]
  decide

end TollBackend.Fe

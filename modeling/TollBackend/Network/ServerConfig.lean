import TollBackend.Basic

/-!
# The configuration of a peer

`TCOC_CONNECTION_SERVER` has any number of records for an IP address. All their encryption keys
are candidates for a connection from there, in the order of the records; the list of stations
that the connection may speak for is that of the first record.

## Main definitions

* `TcocConnectionServer`: what a record says about a connection.
* `loadServerConfig`: the list of stations and the candidate keys.
* `recordOfKey`: the record that a key belongs to.
-/

namespace TollBackend

/-- The columns of a record that a connection reads. -/
structure TcocConnectionServer where
  encryptionKey : Option String
  tollId : Option String
deriving DecidableEq, Repr

/-- `str::split` at one character. -/
def splitAtChar (separator : Char) (s : String) : List String :=
  (s.toList.splitOn separator).map String.ofList

/-- `collect_encryption_keys`: the keys of a comma-separated list, without blank ones. -/
def collectEncryptionKeys (s : String) : List String :=
  ((splitAtChar ',' s).map trim).filter (· != "")

/-- The keys of a record. -/
def TcocConnectionServer.keys (record : TcocConnectionServer) : List String :=
  record.encryptionKey.elim [] collectEncryptionKeys

/-- `load_server_config`, where the records of the address could be read. -/
def loadServerConfig (records : List TcocConnectionServer) : Option String × List String :=
  (records.head?.bind TcocConnectionServer.tollId, records.flatMap TcocConnectionServer.keys)

/-- The record that a key belongs to: the first one that has it, whose key is tried first. -/
def recordOfKey (records : List TcocConnectionServer) (key : String) :
    Option TcocConnectionServer :=
  records.find? fun record => record.keys.contains key

/-- Every candidate belongs to a record. -/
theorem exists_recordOfKey {records : List TcocConnectionServer} {key : String}
    (candidate : key ∈ (loadServerConfig records).2) :
    ∃ record, recordOfKey records key = some record ∧ record ∈ records ∧ key ∈ record.keys := by
  obtain ⟨record, mem, has⟩ := List.mem_flatMap.mp candidate
  have found : (recordOfKey records key).isSome :=
    List.find?_isSome.mpr ⟨record, mem, List.contains_iff_mem.mpr has⟩
  obtain ⟨first, found⟩ := Option.isSome_iff_exists.mp found
  have holds : first.keys.contains key = true :=
    List.find?_some (p := fun record : TcocConnectionServer => record.keys.contains key)
      found
  exact ⟨first, found, List.mem_of_find?_eq_some found, List.contains_iff_mem.mp holds⟩

end TollBackend

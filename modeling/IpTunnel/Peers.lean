import IpTunnel.Address.Text
import IpTunnel.SystemError

namespace IpTunnel

inductive RecordProblem where
  | fieldCount
  | privateAddress
  | publicEndpoint
deriving DecidableEq

def RecordProblem.text : RecordProblem → String
  | .fieldCount => "Expected two fields"
  | .privateAddress => "Invalid private IP address"
  | .publicEndpoint => "Invalid public socket address"

instance : ToString RecordProblem := ⟨RecordProblem.text⟩

inductive PeerError where
  | malformed (line : Nat) (problem : RecordProblem)
  | duplicate (address : IpAddress)
  | familyMismatch (address : IpAddress) (endpoint : Endpoint)
  | unreadable (cause : IoError)
deriving DecidableEq

def PeerError.message : PeerError → String
  | .malformed line problem => s!"Line {line}: {problem}"
  | .duplicate address => s!"Duplicate peer for private address {address}"
  | .familyMismatch address endpoint =>
    s!"Private address {address} and public address {endpoint} have different families"
  | .unreadable cause => s!"IO error: {cause}"

instance : ToString PeerError := ⟨PeerError.message⟩

-- The public endpoint behind every private address, which is of the same family.
structure PeerTable where
  entries : List (IpAddress × Endpoint)
  distinct : (entries.map (·.1)).Nodup := by decide
  matched : ∀ entry ∈ entries, entry.1.family = entry.2.family := by decide
deriving DecidableEq

namespace PeerTable

def empty : PeerTable where
  entries := []

def lookup (table : PeerTable) (address : IpAddress) : Option Endpoint :=
  (table.entries.find? (·.1 = address)).map (·.2)

def size (table : PeerTable) : Nat := table.entries.length

def isEmpty (table : PeerTable) : Bool := table.size = 0

def contains (table : PeerTable) (address : IpAddress) : Bool := (table.lookup address).isSome

theorem contains_iff {table : PeerTable} {address : IpAddress} :
    table.contains address = true ↔ address ∈ table.entries.map (·.1) := by
  simp [contains, lookup]

-- There is only one entry that a lookup can find.
theorem lookup_eq_some {table : PeerTable} {address : IpAddress} {endpoint : Endpoint} :
    table.lookup address = some endpoint ↔ (address, endpoint) ∈ table.entries := by
  have distinct := table.distinct
  unfold lookup
  generalize table.entries = entries at distinct
  induction entries with
  | nil => simp
  | cons first rest ih =>
    obtain ⟨fresh, others⟩ := List.nodup_cons.mp distinct
    by_cases same : first.1 = address
    · have absent : (address, endpoint) ∉ rest := fun member => fresh (List.mem_map.mpr ⟨_, member, same.symm⟩)
      simp [same, absent, Prod.ext_iff, eq_comm]
    · have other : (address, endpoint) ≠ first := fun equal => same (equal ▸ rfl)
      simp only [same, decide_false, Bool.false_eq_true, not_false_eq_true, List.find?_cons_of_neg, List.mem_cons,
        other, false_or]
      exact ih others

def entriesWith (table : PeerTable) (address : IpAddress) (endpoint : Endpoint) : List (IpAddress × Endpoint) :=
  if table.contains address then
    table.entries.map fun entry => if entry.1 = address then (address, endpoint) else entry
  else (address, endpoint) :: table.entries

theorem mem_entriesWith {table : PeerTable} {address : IpAddress} {endpoint : Endpoint} {entry : IpAddress × Endpoint} :
    entry ∈ table.entriesWith address endpoint ↔
      entry = (address, endpoint) ∨ entry.1 ≠ address ∧ entry ∈ table.entries := by
  unfold entriesWith
  split
  · rename_i known
    constructor
    · intro member
      obtain ⟨former, among, same⟩ := List.mem_map.mp member
      split at same
      · exact .inl same.symm
      · rename_i other
        exact .inr (same ▸ ⟨other, among⟩)
    · rintro (rfl | ⟨other, among⟩)
      · obtain ⟨former, among, same⟩ := List.mem_map.mp (contains_iff.mp known)
        exact List.mem_map.mpr ⟨former, among, if_pos same⟩
      · exact List.mem_map.mpr ⟨entry, among, if_neg other⟩
  · rename_i unknown
    rw [List.mem_cons]
    constructor
    · rintro (new | among)
      · exact .inl new
      · exact .inr ⟨fun same => unknown (contains_iff.mpr (same ▸ List.mem_map_of_mem among)), among⟩
    · rintro (new | ⟨_, among⟩)
      · exact .inl new
      · exact .inr among

theorem distinct_entriesWith (table : PeerTable) (address : IpAddress) (endpoint : Endpoint) :
    ((table.entriesWith address endpoint).map (·.1)).Nodup := by
  unfold entriesWith
  split
  · have addresses : (fun entry : IpAddress × Endpoint => entry.1) ∘
        (fun entry => if entry.1 = address then (address, endpoint) else entry) = (·.1) := by
      funext entry
      by_cases same : entry.1 = address <;> simp [same]
    rw [List.map_map, addresses]
    exact table.distinct
  · rename_i unknown
    exact List.nodup_cons.mpr ⟨fun among => unknown (contains_iff.mpr among), table.distinct⟩

theorem matched_entriesWith (table : PeerTable) {address : IpAddress} {endpoint : Endpoint}
    (same : address.family = endpoint.family) :
    ∀ entry ∈ table.entriesWith address endpoint, entry.1.family = entry.2.family := by
  intro entry member
  rcases mem_entriesWith.mp member with rfl | ⟨_, former⟩
  · exact same
  · exact table.matched entry former

def put (table : PeerTable) (address : IpAddress) (endpoint : Endpoint) (same : address.family = endpoint.family) :
    PeerTable where
  entries := table.entriesWith address endpoint
  distinct := table.distinct_entriesWith address endpoint
  matched := table.matched_entriesWith same

theorem lookup_put (table : PeerTable) {address : IpAddress} {endpoint : Endpoint}
    (same : address.family = endpoint.family) (key : IpAddress) :
    (table.put address endpoint same).lookup key = if key = address then some endpoint else table.lookup key := by
  apply Option.ext
  intro value
  rw [lookup_eq_some, put, mem_entriesWith]
  by_cases itself : key = address
  · simp [itself, eq_comm]
  · rw [if_neg itself, lookup_eq_some]
    simp [itself]

structure Inserted where
  table : PeerTable
  outcome : Except PeerError Unit

-- A second endpoint for an address is reported, and it is the one the table holds afterwards.
def insert (table : PeerTable) (address : IpAddress) (endpoint : Endpoint) : Inserted :=
  if same : address.family = endpoint.family then
    ⟨table.put address endpoint same, if table.contains address then .error (.duplicate address) else .ok ()⟩
  else ⟨table, .error (.familyMismatch address endpoint)⟩

end PeerTable

end IpTunnel

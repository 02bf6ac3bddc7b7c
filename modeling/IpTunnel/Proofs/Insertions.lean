import IpTunnel.Proofs.Families

namespace IpTunnel.PeerTable

-- What a refused insertion leaves. The families are compared before anything is put into the table, the
-- address is looked for while the endpoint is put there.
structure Refused (table : PeerTable) (address : IpAddress) (endpoint : Endpoint) (cause : PeerError)
    (after : PeerTable) : Prop where
  size : after.size = table.size
  isEmpty : after.isEmpty = table.isEmpty
  others : ∀ key, key ≠ address → after.lookup key = table.lookup key
  reason : (cause = .familyMismatch address endpoint ∧ address.family ≠ endpoint.family ∧ after = table) ∨
    (cause = .duplicate address ∧ address.family = endpoint.family ∧ (table.lookup address).isSome ∧
      after.lookup address = some endpoint)
  kept : (∀ key, after.lookup key = table.lookup key) ↔
    address.family ≠ endpoint.family ∨ table.lookup address = some endpoint

theorem size_put (table : PeerTable) {address : IpAddress} {endpoint : Endpoint}
    (same : address.family = endpoint.family) :
    (table.put address endpoint same).size =
      if (table.lookup address).isSome then table.size else table.size + 1 := by
  unfold put entriesWith contains size
  split
  · exact List.length_map ..
  · rfl

theorem insert_mixed {table : PeerTable} {address : IpAddress} {endpoint : Endpoint}
    (mixed : address.family ≠ endpoint.family) :
    table.insert address endpoint = ⟨table, .error (.familyMismatch address endpoint)⟩ := dif_neg mixed

theorem insert_fresh {table : PeerTable} {address : IpAddress} {endpoint : Endpoint}
    (same : address.family = endpoint.family) (fresh : table.lookup address = none) :
    table.insert address endpoint = ⟨table.put address endpoint same, .ok ()⟩ := by
  rw [insert, dif_pos same, contains, fresh]
  rfl

theorem insert_known {table : PeerTable} {address : IpAddress} {endpoint : Endpoint}
    (same : address.family = endpoint.family) (known : (table.lookup address).isSome) :
    table.insert address endpoint = ⟨table.put address endpoint same, .error (.duplicate address)⟩ := by
  rw [insert, dif_pos same, contains, known]
  rfl

theorem refused_mixed {table : PeerTable} {address : IpAddress} {endpoint : Endpoint}
    (mixed : address.family ≠ endpoint.family) :
    Refused table address endpoint (.familyMismatch address endpoint) table where
  size := rfl
  isEmpty := rfl
  others _ _ := rfl
  reason := .inl ⟨rfl, mixed, rfl⟩
  kept := ⟨fun _ => .inl mixed, fun _ _ => rfl⟩

theorem refused_known {table : PeerTable} {address : IpAddress} {endpoint : Endpoint}
    (same : address.family = endpoint.family) (known : (table.lookup address).isSome) :
    Refused table address endpoint (.duplicate address) (table.put address endpoint same) := by
  have size : (table.put address endpoint same).size = table.size := by
    rw [size_put, if_pos known]
  have others (key : IpAddress) (other : key ≠ address) :
      (table.put address endpoint same).lookup key = table.lookup key := by
    rw [lookup_put, if_neg other]
  have own : (table.put address endpoint same).lookup address = some endpoint := by
    rw [lookup_put, if_pos rfl]
  refine ⟨size, ?_, others, .inr ⟨rfl, same, known, own⟩, ?_, ?_⟩
  · rw [isEmpty, isEmpty, size]
  · intro unchanged
    exact .inr ((unchanged address).symm.trans own)
  · intro condition key
    rcases condition with mixed | former
    · exact absurd same mixed
    · by_cases itself : key = address
      · rw [itself, own, former]
      · exact others key itself

-- Any table at all, and in particular one that insertions have led to.
theorem insert_refused {table : PeerTable} {address : IpAddress} {endpoint : Endpoint} {cause : PeerError}
    (refused : (table.insert address endpoint).outcome = .error cause) :
    Refused table address endpoint cause (table.insert address endpoint).table := by
  by_cases same : address.family = endpoint.family
  · cases former : table.lookup address with
    | none =>
      rw [insert_fresh same former] at refused
      cases refused
    | some value =>
      have known : (table.lookup address).isSome := by
        rw [former]
        rfl
      rw [insert_known same known] at refused ⊢
      cases refused
      exact refused_known same known
  · rw [insert_mixed same] at refused ⊢
    cases refused
    exact refused_mixed same

def peer : IpAddress := .v4 (.ofOctets 10 0 0 2)

def formerEndpoint : Endpoint := .v4 (.ofOctets 192 0 2 10) 5000

def latterEndpoint : Endpoint := .v4 (.ofOctets 192 0 2 11) 5000

def lonePeer : PeerTable := (empty.insert peer formerEndpoint).table

theorem insert_refused_second :
    (lonePeer.insert peer latterEndpoint).outcome = .error (.duplicate peer) ∧
      Refused lonePeer peer latterEndpoint (.duplicate peer) (lonePeer.insert peer latterEndpoint).table := by
  have refused : (lonePeer.insert peer latterEndpoint).outcome = .error (.duplicate peer) := rfl
  exact ⟨refused, insert_refused refused⟩

-- Not every refused insertion leaves the answers of a table as they were.
theorem refusal_replaces :
    ¬ ∀ table : PeerTable, table.Reached → ∀ address endpoint cause,
      (table.insert address endpoint).outcome = .error cause →
        ∀ key, (table.insert address endpoint).table.lookup key = table.lookup key := by
  intro kept
  have reached : lonePeer.Reached := .insert .empty peer formerEndpoint
  have unchanged := kept lonePeer reached peer latterEndpoint (.duplicate peer) rfl peer
  have replaced : (lonePeer.insert peer latterEndpoint).table.lookup peer = some latterEndpoint := rfl
  have former : lonePeer.lookup peer = some formerEndpoint := rfl
  rw [replaced, former] at unchanged
  cases unchanged

end IpTunnel.PeerTable

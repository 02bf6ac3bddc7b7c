import IpTunnel.Peers.Records
import IpTunnel.Proofs.Outbound

namespace IpTunnel

namespace PeerTable

-- A rejected insertion counts as well: that of a second endpoint for an address changes the table.
inductive Reached : PeerTable → Prop where
  | empty : Reached .empty
  | insert (before : Reached table) (address : IpAddress) (endpoint : Endpoint) :
      Reached (table.insert address endpoint).table

def Paired (table : PeerTable) : Prop :=
  ∀ address endpoint, table.lookup address = some endpoint → endpoint.family = address.family

theorem paired (table : PeerTable) : table.Paired := by
  intro address endpoint found
  exact (table.matched _ (lookup_eq_some.mp found)).symm

end PeerTable

-- The version is read once by the header and once on its own; both go by the same octet.
theorem family_read {packet : Bytes} {header : Header} (decoded : Header.read packet = .ok header) :
    familyOf? packet = some header.target.family := by
  cases named : familyOf? packet with
  | none =>
    obtain ⟨cause, unread⟩ := read_unnamed named
    rw [unread] at decoded
    cases decoded
  | some family =>
    have read := read_named named
    cases complete : destination? packet family with
    | none =>
      rw [complete] at read
      obtain ⟨cause, unread⟩ := read
      rw [unread] at decoded
      cases decoded
    | some target =>
      rw [complete] at read
      obtain ⟨other, same, known⟩ := read
      rw [same] at decoded
      cases decoded
      rw [known, family_destination? complete]

theorem route_forward {packet : Bytes} {peers : PeerTable} {family : Family} {peer : Endpoint}
    (routed : (route packet peers).outcome = .ok (.forward family peer)) :
    ∃ target, familyOf? packet = some family ∧ target.family = family ∧ peers.lookup target = some peer := by
  cases decoded : Header.read packet with
  | error cause =>
    obtain ⟨notice, dropped⟩ := route_unread peers decoded
    rw [dropped] at routed
    cases routed
  | ok header =>
    simp only [route, decoded] at routed
    cases found : peers.lookup header.target with
    | none =>
      rw [found] at routed
      cases routed
    | some other =>
      rw [found] at routed
      cases routed
      exact ⟨header.target, family_read decoded, rfl, found⟩

theorem verdict_paired {setup : Setup} {frame packet : Bytes} {family : Family} {peer : Endpoint}
    (decided : verdict setup frame = .forwarded family packet peer) :
    familyOf? packet = some family ∧ peer.family = family := by
  simp only [verdict] at decided
  split at decided
  · cases decided
  · split at decided
    · cases decided
    · rename_i named
      split at decided
      · split at decided
        · cases decided
        · rename_i complete
          split at decided
          · rename_i found
            cases decided
            exact ⟨named, (setup.peers.paired _ _ found).trans (family_destination? complete)⟩
          · cases decided
      · cases decided

-- Whatever a run sends is for the socket it is sent on, and for a peer of that socket's family.
theorem Forwarded.paired {setup : Setup} {taken : List (Scheduled Bytes)} {entries : List Entry} {ending : Ending}
    (forwarded : Forwarded setup taken entries ending) {family : Family} {packet : Bytes} {peer : Endpoint}
    (member : (family, packet, peer) ∈ IpTunnel.sends entries) :
    familyOf? packet = some family ∧ peer.family = family := by
  rw [forwarded.sends] at member
  obtain ⟨frame, _, datagram⟩ := List.mem_filterMap.mp member
  cases decided : verdict setup frame with
  | forwarded sort content target =>
    rw [decided] at datagram
    cases datagram
    exact verdict_paired decided
  | unknown target =>
    rw [decided] at datagram
    cases datagram
  | dropped =>
    rw [decided] at datagram
    cases datagram

-- A packet that is not foreign, and for which there is a peer, has a socket.
theorem socket_routed {setup : Setup} {packet : Bytes} {peers : PeerTable} {family : Family} {peer : Endpoint}
    (native : Plan.isForeign setup packet = false)
    (routed : (route packet peers).outcome = .ok (.forward family peer)) : setup.hasSocket family = true := by
  obtain ⟨target, named, _, _⟩ := route_forward routed
  rw [isForeign_named setup named] at native
  simpa using native

theorem noSocket_notices (packet : Bytes) (peers : PeerTable) (family : Family) (peer : Endpoint) :
    Notice.noSocket family peer ∉ (route packet peers).notices := by
  unfold route
  split
  · simp
  · simp
  · split <;> simp

theorem noSocket_ofPacket (setup : Setup) (packet : Bytes) (family : Family) (peer : Endpoint) :
    Deed.say (.noSocket family peer) ∉ Plan.ofPacket setup packet := by
  unfold Plan.ofPacket
  by_cases foreign : Plan.isForeign setup packet = true
  · simp [foreign]
  · have native := Bool.eq_false_iff.mpr foreign
    have silent := noSocket_notices packet setup.peers family peer
    rw [if_neg foreign]
    intro member
    rcases List.mem_append.mp member with said | done
    · obtain ⟨notice, among, same⟩ := List.mem_map.mp said
      cases same
      exact silent among
    · cases outcome : (route packet setup.peers).outcome with
      | error cause => simp [outcome] at done
      | ok decision =>
        cases decision with
        | drop => simp [outcome] at done
        | forward other target => simp [outcome, socket_routed native outcome] at done

theorem noSocket_ofFrame (setup : Setup) (frame : Bytes) (family : Family) (peer : Endpoint) :
    Deed.say (.noSocket family peer) ∉ Plan.ofFrame setup frame := by
  unfold Plan.ofFrame
  cases stripFraming? setup.framingLength frame with
  | none => simp
  | some packet => simpa using noSocket_ofPacket setup packet family peer

-- What a table promises for the way out, to any endpoint set up with it. Only the branch for a missing
-- socket behind the lookup gives the notice that is excluded here.
structure KeepsApart (peers : PeerTable) : Prop where
  lookup : peers.Paired
  route : ∀ packet family peer, (route packet peers).outcome = .ok (.forward family peer) →
    Version.ofPacket? packet = some (.known family) ∧ peer.family = family
  unreached : ∀ setup : Setup, setup.peers = peers → ∀ frame family peer,
    Deed.say (.noSocket family peer) ∉ Plan.ofFrame setup frame
  run : ∀ setup : Setup, setup.peers = peers → ∀ script : Script, ∃ entries,
    (Forwarder.run setup script).1.host.trace = script.trace ++ entries ∧
      ∀ family packet peer, (family, packet, peer) ∈ sends entries →
        familyOf? packet = some family ∧ peer.family = family

theorem PeerTable.keepsApart (peers : PeerTable) : KeepsApart peers where
  lookup := peers.paired
  route packet family peer routed := by
    obtain ⟨target, named, same, found⟩ := route_forward routed
    exact ⟨familyOf?_eq_some.mpr named, (peers.paired target peer found).trans same⟩
  unreached setup _ frame family peer := noSocket_ofFrame setup frame family peer
  run setup same script := by
    subst same
    obtain ⟨iterations, finished, chronicle, outcome⟩ := Forwarder.run_chronicle setup script
    obtain ⟨_, _, _, trace⟩ := chronicle.told
    refine ⟨iterations.flatMap Iteration.entries, ?_, ?_⟩
    · rw [outcome]
      exact trace
    · intro family packet peer member
      exact chronicle.forwarded.paired member

-- Tables come from insertions or from a text, and all of these keep the families apart.
theorem families_apart :
    (∀ peers : PeerTable, peers.Reached → KeepsApart peers) ∧
      ∀ text peers, PeerTable.read text = .ok peers → KeepsApart peers := by
  exact ⟨fun peers _ => peers.keepsApart, fun _ peers _ => peers.keepsApart⟩

-- One peer of each family; the later record stands first.
def twoPeers : PeerTable where
  entries := [
    (.v6 ⟨[0xFD, 0, 0, 0, 0, 0, 0, 0, 0, 0, 0, 0, 0, 0, 0, 2], rfl⟩,
      .v6 ⟨[0x20, 0x01, 0x0D, 0xB8, 0, 0, 0, 0, 0, 0, 0, 0, 0, 0, 0, 1], rfl⟩ 5000 0),
    (.v4 ⟨[10, 9, 0, 2], rfl⟩, .v4 ⟨[192, 0, 2, 1], rfl⟩ 5000)]

theorem families_apart_twoPeers :
    PeerTable.read "10.9.0.2 192.0.2.1:5000\nfd00::2 [2001:db8::1]:5000".toList = .ok twoPeers ∧
      KeepsApart twoPeers := by
  have accepted : PeerTable.read "10.9.0.2 192.0.2.1:5000\nfd00::2 [2001:db8::1]:5000".toList = .ok twoPeers := rfl
  exact ⟨accepted, families_apart.2 _ _ accepted⟩

end IpTunnel

import IpTunnel.Proofs.Opening
import IpTunnel.Proofs.Preserved
import IpTunnel.Proofs.Waits
import Mathlib.Data.List.Nodup

namespace IpTunnel

def IpAddress.ofFamily (family : Family) (addresses : List IpAddress) : List IpAddress :=
  addresses.filter (·.family = family)

def IpAddress.Single (addresses : List IpAddress) : Prop := (addresses.map IpAddress.family).Nodup

namespace IpAddress

instance (addresses : List IpAddress) : Decidable (Single addresses) :=
  inferInstanceAs (Decidable (addresses.map IpAddress.family).Nodup)

theorem mem_ofFamily {family : Family} {addresses : List IpAddress} {address : IpAddress} :
    address ∈ ofFamily family addresses ↔ address ∈ addresses ∧ address.family = family := by
  simp [ofFamily]

theorem ofFamily_same (address : IpAddress) (rest : List IpAddress) :
    ofFamily address.family (address :: rest) = address :: ofFamily address.family rest := by
  simp [ofFamily]

theorem ofFamily_other {family : Family} {address : IpAddress} (different : family ≠ address.family)
    (rest : List IpAddress) : ofFamily family (address :: rest) = ofFamily family rest := by
  simp [ofFamily, Ne.symm different]

theorem single_iff {addresses : List IpAddress} :
    Single addresses ↔ ∀ family, (ofFamily family addresses).length ≤ 1 := by
  have counted (family : Family) :
      (addresses.map IpAddress.family).count family = (ofFamily family addresses).length := by
    rw [List.count, List.countP_map, List.countP_eq_length_filter]
    rfl
  simp only [Single, List.nodup_iff_count_le_one, counted]

theorem single_perm {addresses others : List IpAddress} (same : addresses.Perm others) :
    Single addresses ↔ Single others :=
  (same.map IpAddress.family).nodup_iff

end IpAddress

namespace AddressPair

open IpAddress

theorem ext_get? {pair other : AddressPair} (same : ∀ family, pair.get? family = other.get? family) :
    pair = other := by
  obtain ⟨v4, v6⟩ := pair
  obtain ⟨other4, other6⟩ := other
  have same4 := same .v4
  have same6 := same .v6
  cases v4 <;> cases v6 <;> cases other4 <;> cases other6 <;> simp_all [get?]

theorem get?_empty (family : Family) : empty.get? family = none := by
  cases family <;> rfl

theorem family_of_get? {pair : AddressPair} {family : Family} {address : IpAddress}
    (found : pair.get? family = some address) : address.family = family := by
  cases family <;> obtain ⟨octets, _, rfl⟩ := Option.map_eq_some_iff.mp found <;> rfl

theorem add?_free {pair : AddressPair} {address : IpAddress} (free : pair.get? address.family = none) :
    ∃ next, pair.add? address = some next ∧ next.get? address.family = some address ∧
      ∀ other, other ≠ address.family → next.get? other = pair.get? other := by
  cases address with
  | v4 octets =>
    have none : pair.v4 = none := Option.map_eq_none_iff.mp free
    refine ⟨{ pair with v4 := some octets }, ?_, rfl, ?_⟩
    · simp [add?, none]
    · intro other different
      cases other with
      | v4 => exact absurd rfl different
      | v6 => rfl
  | v6 octets =>
    have none : pair.v6 = none := Option.map_eq_none_iff.mp free
    refine ⟨{ pair with v6 := some octets }, ?_, rfl, ?_⟩
    · simp [add?, none]
    · intro other different
      cases other with
      | v4 => rfl
      | v6 => exact absurd rfl different

theorem add?_taken {pair : AddressPair} {address holder : IpAddress}
    (taken : pair.get? address.family = some holder) : pair.add? address = none := by
  cases address with
  | v4 octets =>
    obtain ⟨held, present, _⟩ := Option.map_eq_some_iff.mp taken
    simp [add?, present]
  | v6 octets =>
    obtain ⟨held, present, _⟩ := Option.map_eq_some_iff.mp taken
    simp [add?, present]

-- What a pair comes to hold of a family: what it had of it and all that is given of it, which must not be two.
theorem foldlM_add? (addresses : List IpAddress) (start : AddressPair) :
    (addresses.foldlM add? start = none ∧
        ∃ family, 1 < ((start.get? family).toList ++ ofFamily family addresses).length) ∨
      ∃ pair, addresses.foldlM add? start = some pair ∧
        ∀ family, (pair.get? family).toList = (start.get? family).toList ++ ofFamily family addresses := by
  induction addresses generalizing start with
  | nil => exact .inr ⟨start, rfl, fun family => (List.append_nil _).symm⟩
  | cons address rest ih =>
    cases held : start.get? address.family with
    | some holder =>
      left
      constructor
      · rw [List.foldlM_cons, add?_taken held]
        rfl
      · refine ⟨address.family, ?_⟩
        simp [held, ofFamily_same]
    | none =>
      obtain ⟨next, added, placed, kept⟩ := add?_free held
      -- After one step the same addresses make up each family's place and what is still to be added to it.
      have onward (family : Family) : (next.get? family).toList ++ ofFamily family rest =
          (start.get? family).toList ++ ofFamily family (address :: rest) := by
        by_cases same : family = address.family
        · subst same
          simp [placed, held, ofFamily_same]
        · rw [kept family same, ofFamily_other same]
      have step : (address :: rest).foldlM add? start = rest.foldlM add? next := by
        rw [List.foldlM_cons, added]
        rfl
      simp only [← onward, step]
      exact ih next

theorem collect?_some {addresses : List IpAddress} {pair : AddressPair} (collected : collect? addresses = some pair)
    (family : Family) : (pair.get? family).toList = ofFamily family addresses := by
  obtain ⟨failed, _⟩ | ⟨result, done, held⟩ := foldlM_add? addresses empty
  · cases failed.symm.trans collected
  · cases done.symm.trans collected
    simpa [get?_empty] using held family

theorem collect?_isSome (addresses : List IpAddress) : (collect? addresses).isSome ↔ Single addresses := by
  rw [single_iff]
  obtain ⟨failed, family, many⟩ | ⟨pair, done, _⟩ := foldlM_add? addresses empty
  · simp only [collect?, failed, Option.isSome_none, Bool.false_eq_true, false_iff]
    intro few
    simp only [get?_empty, Option.toList_none, List.nil_append] at many
    exact absurd (few family) (Nat.not_le_of_lt many)
  · simp only [collect?, done, Option.isSome_some, true_iff]
    intro family
    rw [← collect?_some done family]
    cases pair.get? family <;> simp

theorem get?_of_collect? {addresses : List IpAddress} {pair : AddressPair} (collected : collect? addresses = some pair)
    {family : Family} {address : IpAddress} :
    pair.get? family = some address ↔ address ∈ addresses ∧ address.family = family := by
  rw [← mem_ofFamily, ← collect?_some collected family, Option.mem_toList]

theorem collect?_perm {addresses others : List IpAddress} (same : addresses.Perm others) :
    collect? addresses = collect? others := by
  have both := single_perm same
  rw [← collect?_isSome, ← collect?_isSome] at both
  cases first : collect? addresses with
  | none =>
    cases second : collect? others with
    | none => rfl
    | some pair => simp [first, second] at both
  | some pair =>
    cases second : collect? others with
    | none => simp [first, second] at both
    | some other =>
      congr 1
      apply ext_get?
      intro family
      apply Option.ext
      intro address
      rw [get?_of_collect? first, get?_of_collect? second, same.mem_iff]

end AddressPair

namespace UdpSocket

theorem family_of (address : IpAddress) (port : UInt16) : (Endpoint.of address port).family = address.family := by
  cases address <;> rfl

theorem listen_socket (address : IpAddress) (port : UInt16) (node : UdpNode) :
    Call.socket address.family ∈ (listen address port node).calls := by
  have asked : Call.socket address.family ∈ (attemptAll (attempts (Endpoint.of address port) node)).calls := by
    rw [attempts, family_of, List.cons_append, attemptAll]
    split <;> simp
  unfold listen
  simp only
  split <;> exact asked

end UdpSocket

namespace Tunnel

-- Everything that is opened before the socket of this family is there.
def Reaches (setup : Setup) (machine : Machine) : Family → Prop
  | .v4 => ∃ device, (TunDevice.create setup.tunName setup.framing machine.tunnel).outcome = .ok device
  | .v6 => (∃ device, (TunDevice.create setup.tunName setup.framing machine.tunnel).outcome = .ok device) ∧
      ∃ found, (openSocket setup .v4 machine.socket4).outcome = .ok found

variable {setup : Setup} {machine : Machine} {directory : Directory} {family : Family}

theorem openSocket_present {node : UdpNode} (present : setup.hasSocket family = true) :
    Call.socket family ∈ (openSocket setup family node).calls := by
  obtain ⟨address, found⟩ := Option.isSome_iff_exists.mp present
  obtain rfl := AddressPair.family_of_get? found
  unfold openSocket
  rw [found]
  exact UdpSocket.listen_socket address setup.port node

theorem openSocket_absent {node : UdpNode} (absent : setup.hasSocket family = false) :
    openSocket setup family node = ⟨[], [], .ok none⟩ := by
  have unheard : setup.listenAddress (.known family) = none := by simpa [Setup.hasSocket] using absent
  simp [openSocket, unheard]

theorem openSocket_isSome {node : UdpNode} {found : Option UdpSocket}
    (opened : (openSocket setup family node).outcome = .ok found) : found.isSome = setup.hasSocket family := by
  have descriptor := congrArg Option.isSome (openSocket_descriptor opened)
  rw [Option.isSome_map] at descriptor
  rw [descriptor]
  cases setup.hasSocket family <;> rfl

theorem initialSleep_isSome (kernel : Kernel) (family : Family) :
    ((initialSleep setup kernel).socket family).isSome = (kernel.socket family).isSome := by
  unfold initialSleep
  split
  · rfl
  · unfold Kernel.rest
    simp only
    split <;> cases family <;> exact Option.isSome_map

theorem forward_calls (name : String) (start : Kernel) (file : Option String) (opened : Finished) :
    (forward setup name start file opened).calls (.socket family) = opened.calls (.socket family) ++
      callsOf ((Forwarder.run setup
        ((initialSleep setup start).say [.forwarding name setup.peers.size setup.mode])).1.host.socket family) := by
  cases family <;> rfl

theorem forward_absent {start : Kernel} (lacks : start.Lacks family) (name : String) (file : Option String)
    (opened : Finished) :
    (forward setup name start file opened).calls (.socket family) = opened.calls (.socket family) := by
  have slept : (initialSleep setup start).Lacks family := by
    rw [Kernel.lacks_iff, initialSleep_isSome]
    exact Kernel.lacks_iff.mp lacks
  have said := slept.say [.forwarding name setup.peers.size setup.mode]
  have ended : Kernel.Lacks family (Forwarder.run setup _).1.host :=
    Forwarder.run_preserves (Kernel.lacks_preserved family) said
  rw [forward_calls, ended]
  exact List.append_nil _

theorem forward_socket {start : Kernel} (held : (start.socket family).isSome = setup.hasSocket family) (name : String)
    (file : Option String) {opened : Finished}
    (asked : Call.socket family ∈ opened.calls (.socket family) ↔ setup.hasSocket family = true) :
    Call.socket family ∈ (forward setup name start file opened).calls (.socket family) ↔
      setup.hasSocket family = true := by
  cases has : setup.hasSocket family with
  | true =>
    rw [forward_calls, List.mem_append, asked]
    simp [has]
  | false =>
    rw [has] at held
    rw [forward_absent (Kernel.lacks_iff.mpr held), asked, has]

theorem openSocket_asked {node : UdpNode} :
    Call.socket family ∈ (openSocket setup family node).calls ↔ setup.hasSocket family = true := by
  cases has : setup.hasSocket family with
  | true => simp [openSocket_present has]
  | false => simp [openSocket_absent has]

-- A run opens a socket exactly for each listen address, if it gets that far.
theorem run_socket (setup : Setup) (machine : Machine) (directory : Directory) (family : Family) :
    Call.socket family ∈ (run setup machine directory).calls (.socket family) ↔
      Reaches setup machine family ∧ setup.hasSocket family = true := by
  unfold run
  simp only
  split
  · rename_i cause failed
    cases family <;> simp [Finished.calls, Reaches, failed]
  · rename_i tunnel created
    split
    · rename_i cause failed
      cases family with
      | v4 => simp [Finished.calls, Reaches, created, openSocket_asked]
      | v6 => simp [Finished.calls, Reaches, failed]
    · rename_i found4 opened4
      -- Both sockets are reached from here on, and how far the run gets otherwise plays no part.
      have reached : Reaches setup machine family := by
        cases family with
        | v4 => exact ⟨tunnel, created⟩
        | v6 => exact ⟨⟨tunnel, created⟩, found4, opened4⟩
      simp only [reached, true_and]
      split
      · cases family <;> exact openSocket_asked
      · rename_i found6 opened6
        split
        · cases family <;> exact openSocket_asked
        · apply forward_socket
          · cases family with
            | v4 => exact openSocket_isSome opened4
            | v6 => exact openSocket_isSome opened6
          · cases family <;> exact openSocket_asked

theorem ready?_socket {ready : Kernel} (opened : ready? setup machine directory = some ready) (family : Family) :
    (ready.socket family).isSome = setup.hasSocket family := by
  unfold ready? at opened
  simp only at opened
  split at opened
  · rename_i tunnel found4 found6 file created opened4 opened6 captured
    cases opened
    rw [Kernel.socket_say, initialSleep_isSome]
    cases family with
    | v4 => exact openSocket_isSome opened4
    | v6 => exact openSocket_isSome opened6
  · cases opened

end Tunnel

open IpAddress

namespace Settings

def Listens (settings : Settings) (version : Version) : Prop :=
  ∃ address ∈ settings.listenAddresses, version = .known address.family

-- Of each family at most one private and one listen address, and something to listen on.
structure Consistent (settings : Settings) : Prop where
  privates : Single settings.privateAddresses
  listens : Single settings.listenAddresses
  listening : settings.listenAddresses ≠ []

theorem listens_known {settings : Settings} {family : Family} :
    settings.Listens (.known family) ↔ ∃ address ∈ settings.listenAddresses, address.family = family := by
  simp only [Listens, Version.known.injEq, eq_comm]

theorem not_listens_unknown (settings : Settings) (nibble : UInt8) : ¬ settings.Listens (.unknown nibble) := by
  rintro ⟨address, _, same⟩
  cases same

end Settings

namespace Setup

-- What settings come to: the first rule that they break, or a setup that is made of them.
inductive Decided (settings : Settings) : Except SetupProblem Setup → Prop where
  | repeatedPrivate (many : ¬ Single settings.privateAddresses) : Decided settings (.error .repeatedPrivateAddress)
  | repeatedListen (privates : Single settings.privateAddresses) (many : ¬ Single settings.listenAddresses) :
      Decided settings (.error .repeatedListenAddress)
  | silent (privates : Single settings.privateAddresses) (none : settings.listenAddresses = []) :
      Decided settings (.error .noListenAddress)
  | built {setup : Setup} (consistent : settings.Consistent)
      (privates : AddressPair.collect? settings.privateAddresses = some setup.privates)
      (listens : AddressPair.collect? settings.listenAddresses = some setup.listens)
      (mode : mode? setup.listens = some setup.mode) : Decided settings (.ok setup)

theorem eq_empty_of_mode? {listens : AddressPair} (silent : mode? listens = none) : listens = .empty := by
  obtain ⟨v4, v6⟩ := listens
  cases v4 <;> cases v6 <;> first | rfl | cases silent

theorem eq_nil_of_collect? {addresses : List IpAddress} (collected : AddressPair.collect? addresses = some .empty) :
    addresses = [] := by
  apply List.eq_nil_iff_forall_not_mem.mpr
  intro address among
  have held := (AddressPair.get?_of_collect? collected).mpr ⟨among, rfl⟩
  rw [AddressPair.get?_empty] at held
  cases held

theorem ofSettings_decided (settings : Settings) : Decided settings (ofSettings settings) := by
  unfold ofSettings
  have fromPrivates := AddressPair.collect?_isSome settings.privateAddresses
  have fromListens := AddressPair.collect?_isSome settings.listenAddresses
  split
  · rename_i failed
    exact .repeatedPrivate (by simpa [failed] using fromPrivates)
  · rename_i privates collected
    have single : Single settings.privateAddresses := by simpa [collected] using fromPrivates
    split
    · rename_i failed
      exact .repeatedListen single (by simpa [failed] using fromListens)
    · rename_i listens heard
      have lone : Single settings.listenAddresses := by simpa [heard] using fromListens
      split
      · rename_i unknown
        rw [eq_empty_of_mode? unknown] at heard
        exact .silent single (eq_nil_of_collect? heard)
      · rename_i mode implied
        have listening : settings.listenAddresses ≠ [] := by
          intro none
          rw [none] at heard
          cases heard
          cases implied
        exact .built ⟨single, lone, listening⟩ collected heard implied

-- A setup is what its settings say: its mode, the sockets of a run, and the addresses of each version.
structure Reflects (settings : Settings) (setup : Setup) : Prop where
  mode : ∀ version, setup.mode.supports version = true ↔ settings.Listens version
  opened : ∀ machine directory family,
    Call.socket family ∈ (Tunnel.run setup machine directory).calls (.socket family) ↔
      Tunnel.Reaches setup machine family ∧ settings.Listens (.known family)
  forwarding : ∀ machine directory ready, Tunnel.ready? setup machine directory = some ready →
    ∀ family, (ready.socket family).isSome = true ↔ settings.Listens (.known family)
  privates : ∀ version address, setup.privateAddress version = some address ↔
    address ∈ settings.privateAddresses ∧ version = .known address.family
  listens : ∀ version address, setup.listenAddress version = some address ↔
    address ∈ settings.listenAddresses ∧ version = .known address.family

theorem supports_unknown (mode : Mode) (nibble : UInt8) : mode.supports (.unknown nibble) = false := by
  cases mode <;> rfl

theorem reflects_built {settings : Settings} {setup : Setup}
    (privates : AddressPair.collect? settings.privateAddresses = some setup.privates)
    (listens : AddressPair.collect? settings.listenAddresses = some setup.listens)
    (mode : mode? setup.listens = some setup.mode) : Reflects settings setup := by
  have present (family : Family) : setup.hasSocket family = true ↔ settings.Listens (.known family) := by
    rw [Settings.listens_known, hasSocket, Option.isSome_iff_exists]
    exact exists_congr fun address => AddressPair.get?_of_collect? listens
  refine ⟨?_, ?_, ?_, ?_, ?_⟩
  · intro version
    cases version with
    | known family => exact mode?_supports mode family ▸ present family
    | unknown nibble => simp [supports_unknown, Settings.not_listens_unknown]
  · intro machine directory family
    rw [Tunnel.run_socket, present]
  · intro machine directory ready opened family
    rw [Tunnel.ready?_socket opened, present]
  · intro version address
    cases version with
    | known family => simpa [privateAddress, eq_comm] using AddressPair.get?_of_collect? privates
    | unknown nibble => simp [privateAddress]
  · intro version address
    cases version with
    | known family => simpa [listenAddress, eq_comm] using AddressPair.get?_of_collect? listens
    | unknown nibble => simp [listenAddress]

namespace Decided

variable {settings : Settings} {result : Except SetupProblem Setup}

theorem consistent_iff (decided : Decided settings result) :
    (∃ setup, result = .ok setup) ↔ settings.Consistent := by
  cases decided with
  | repeatedPrivate many => exact iff_of_false (by simp) fun consistent => many consistent.privates
  | repeatedListen _ many => exact iff_of_false (by simp) fun consistent => many consistent.listens
  | silent _ none => exact iff_of_false (by simp) fun consistent => consistent.listening none
  | built consistent => exact iff_of_true ⟨_, rfl⟩ consistent

theorem repeated_iff (decided : Decided settings result) :
    result = .error .repeatedPrivateAddress ↔ ¬ Single settings.privateAddresses := by
  cases decided with
  | repeatedPrivate many => exact iff_of_true rfl many
  | repeatedListen privates => exact iff_of_false (by simp) (not_not_intro privates)
  | silent privates => exact iff_of_false (by simp) (not_not_intro privates)
  | built consistent => exact iff_of_false (by simp) (not_not_intro consistent.privates)

theorem reflects {setup : Setup} (decided : Decided settings (.ok setup)) : Reflects settings setup := by
  cases decided with
  | built _ privates listens mode => exact reflects_built privates listens mode

end Decided

theorem ofSettings_perm {settings : Settings} {privates listens : List IpAddress}
    (samePrivates : privates.Perm settings.privateAddresses) (sameListens : listens.Perm settings.listenAddresses) :
    ofSettings { settings with privateAddresses := privates, listenAddresses := listens } = ofSettings settings := by
  simp only [ofSettings, AddressPair.collect?_perm samePrivates, AddressPair.collect?_perm sameListens]

-- Consistent addresses make a setup and no others do, and their order plays no part in what comes of them.
theorem ofSettings_consistent (settings : Settings) :
    ((∃ setup, ofSettings settings = .ok setup) ↔ settings.Consistent) ∧
      (∀ setup, ofSettings settings = .ok setup → Reflects settings setup) ∧
      (∀ privates listens, privates.Perm settings.privateAddresses → listens.Perm settings.listenAddresses →
        ofSettings { settings with privateAddresses := privates, listenAddresses := listens } =
          ofSettings settings) ∧
      (ofSettings settings = .error .repeatedPrivateAddress ↔ ¬ Single settings.privateAddresses) := by
  have decided := ofSettings_decided settings
  refine ⟨decided.consistent_iff, ?_, ?_, decided.repeated_iff⟩
  · intro setup built
    rw [built] at decided
    exact decided.reflects
  · intro privates listens samePrivates sameListens
    exact ofSettings_perm samePrivates sameListens

-- An endpoint of both families, with the addresses of each list the other way round.
def crossed : Settings where
  tunName := "tun0"
  privateAddresses := [.v4 (.ofOctets 10 0 0 1), .v6 ⟨0xFD :: List.replicate 15 1, rfl⟩]
  listenAddresses := [.v6 ⟨0x20 :: List.replicate 15 1, rfl⟩, .v4 (.ofOctets 127 0 0 1)]
  port := 5000
  peers := .empty
  idleTimeout := none
  closeTimeout := 0
  initialSleep := 0
  framing := false
  planetlab := false
  capturePath := none

def crossedSetup : Setup where
  mode := .dual
  privates := ⟨some (.ofOctets 10 0 0 1), some ⟨0xFD :: List.replicate 15 1, rfl⟩⟩
  listens := ⟨some (.ofOctets 127 0 0 1), some ⟨0x20 :: List.replicate 15 1, rfl⟩⟩
  tunName := "tun0"
  port := 5000
  peers := .empty
  idleTimeout := none
  closeTimeout := 0
  initialSleep := 0
  framing := false
  capturePath := none

theorem ofSettings_consistent_crossed :
    crossed.Consistent ∧ Reflects crossed crossedSetup ∧
      ofSettings { crossed with
        privateAddresses := crossed.privateAddresses.reverse
        listenAddresses := crossed.listenAddresses.reverse } = .ok crossedSetup ∧
      ofSettings { crossed with
        privateAddresses := crossed.privateAddresses ++ crossed.privateAddresses
        listenAddresses := [] } = .error .repeatedPrivateAddress := by
  have built : ofSettings crossed = .ok crossedSetup := rfl
  obtain ⟨accepted, reflects, reordered, _⟩ := ofSettings_consistent crossed
  refine ⟨accepted.mp ⟨crossedSetup, built⟩, reflects crossedSetup built, ?_, ?_⟩
  · rw [reordered _ _ (List.reverse_perm _) (List.reverse_perm _), built]
  · rw [(ofSettings_consistent _).2.2.2]
    decide

end Setup

end IpTunnel

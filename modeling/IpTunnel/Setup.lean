import IpTunnel.Ip.Version
import IpTunnel.Peers
import IpTunnel.TunnelError

namespace IpTunnel

inductive Mode where
  | v4
  | v6
  | dual
deriving DecidableEq

def Mode.text : Mode → String
  | .v4 => "IPv4"
  | .v6 => "IPv6"
  | .dual => "dual-stack"

instance : ToString Mode := ⟨Mode.text⟩

def Mode.supports : Mode → Version → Bool
  | .v4, .known .v4 => true
  | .v6, .known .v6 => true
  | .dual, .known _ => true
  | _, _ => false

-- Times are in milliseconds. Addresses are in the order in which they were given.
structure Settings where
  tunName : String
  privateAddresses : List IpAddress
  listenAddresses : List IpAddress
  port : UInt16
  peers : PeerTable
  idleTimeout : Option Nat
  closeTimeout : Nat
  initialSleep : Nat
  framing : Bool
  planetlab : Bool
  capturePath : Option String

structure AddressPair where
  v4 : Option Ipv4
  v6 : Option Ipv6
deriving DecidableEq

namespace AddressPair

def empty : AddressPair := ⟨none, none⟩

def add? (pair : AddressPair) : IpAddress → Option AddressPair
  | .v4 address => if pair.v4.isNone then some { pair with v4 := some address } else none
  | .v6 address => if pair.v6.isNone then some { pair with v6 := some address } else none

def collect? (addresses : List IpAddress) : Option AddressPair := addresses.foldlM add? empty

def get? (pair : AddressPair) : Family → Option IpAddress
  | .v4 => pair.v4.map .v4
  | .v6 => pair.v6.map .v6

end AddressPair

structure Setup where
  mode : Mode
  privates : AddressPair
  listens : AddressPair
  tunName : String
  port : UInt16
  peers : PeerTable
  idleTimeout : Option Nat
  closeTimeout : Nat
  initialSleep : Nat
  framing : Bool
  capturePath : Option String

namespace Setup

def mode? (listens : AddressPair) : Option Mode :=
  match listens.v4, listens.v6 with
  | some _, some _ => some .dual
  | some _, none => some .v4
  | none, some _ => some .v6
  | none, none => none

-- PlanetLab's tunnel devices always frame their packets.
def ofSettings (settings : Settings) : Except SetupProblem Setup :=
  match AddressPair.collect? settings.privateAddresses with
  | none => .error .repeatedPrivateAddress
  | some privates =>
    match AddressPair.collect? settings.listenAddresses with
    | none => .error .repeatedListenAddress
    | some listens =>
      match mode? listens with
      | none => .error .noListenAddress
      | some mode =>
        .ok {
          mode := mode
          privates := privates
          listens := listens
          tunName := settings.tunName
          port := settings.port
          peers := settings.peers
          idleTimeout := settings.idleTimeout
          closeTimeout := settings.closeTimeout
          initialSleep := settings.initialSleep
          framing := settings.framing || settings.planetlab
          capturePath := settings.capturePath }

def framingLength (setup : Setup) : Nat := if setup.framing then IpTunnel.framingLength else 0

def privateAddress (setup : Setup) : Version → Option IpAddress
  | .known family => setup.privates.get? family
  | .unknown _ => none

def listenAddress (setup : Setup) : Version → Option IpAddress
  | .known family => setup.listens.get? family
  | .unknown _ => none

-- Whether there is a socket of this family: one is opened for each listen address.
def hasSocket (setup : Setup) (family : Family) : Bool := (setup.listenAddress (.known family)).isSome

end Setup

end IpTunnel

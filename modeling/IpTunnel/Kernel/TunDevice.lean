import IpTunnel.Forwarder.Host
import IpTunnel.Kernel.Descriptor
import IpTunnel.Text.Utf8

namespace IpTunnel

structure Opening (α : Type) where
  calls : List Call
  notices : List Notice
  outcome : Except IoError α

-- How the system will answer: failures by number, the name it assigns, and the device's traffic.
structure TunNode where
  openFailure : Option Int
  configureFailure : Option Int
  assignedName : Option Bytes
  incoming : List Incoming
  outgoing : List Outgoing

structure TunDevice where
  name : String
  descriptor : Descriptor

namespace TunDevice

-- Octets of an interface name, with the NUL that ends it.
def nameLength : Nat := 16

def requestName (name : Bytes) : Except IoError Bytes :=
  if name.contains 0 then .error .nameHasNul
  else if nameLength ≤ name.length then .error .nameTooLong
  else .ok (name ++ List.replicate (nameLength - name.length) 0)

-- A tunnel of packets; without framing the system leaves its packet information away.
def flags (framing : Bool) : Nat := if framing then 1 else 0x1001

def grantedName (node : TunNode) (requested : Bytes) : String :=
  let granted := match node.assignedName with
    | some assigned => assigned.take (nameLength - 1)
    | none => if requested = [] then Text.Utf8.encode "tun0".toList else requested
  String.ofList (Text.Utf8.decodeLossy (granted.takeWhile (· ≠ 0)))

def opened (name : String) (framing : Bool) : List Notice :=
  .opened name :: if framing then [.framed name] else []

-- Opens a device under this name; under the empty one the system chooses.
def create (name : String) (framing : Bool) (node : TunNode) : Opening TunDevice :=
  match node.openFailure with
  | some errno => ⟨[.openTun], [.openFailed (.system errno)], .error (.system errno)⟩
  | none =>
    let octets := Text.Utf8.encode name.toList
    match requestName octets with
    | .error cause => ⟨[.openTun], [], .error cause⟩
    | .ok requested =>
      let calls := [.openTun, .configure requested (flags framing)]
      match node.configureFailure with
      | some errno => ⟨calls, [.configureFailed name (.system errno)], .error (.system errno)⟩
      | none =>
        let granted := grantedName node octets
        ⟨calls, opened granted framing, .ok ⟨granted, .opened node.incoming node.outgoing []⟩⟩

def read (buffer : Bytes) (device : TunDevice) : Polled TunDevice Nat :=
  if device.descriptor.readable then
    let (descriptor, taken) := device.descriptor.take
    let device := { device with descriptor := descriptor }
    match taken with
    | .blocked => ⟨device, buffer, none⟩
    | .failed errno => ⟨device, buffer, some (.error (.system errno))⟩
    | .data data => ⟨device, buffer.fill 0 data, some (.ok (min data.length buffer.length))⟩
  else ⟨device, buffer, none⟩

def write (frame : Bytes) (device : TunDevice) : TunDevice × Option (Except IoError Unit) :=
  if device.descriptor.writable then
    let (descriptor, given) := device.descriptor.give (.write frame)
    let device := { device with descriptor := descriptor }
    match given with
    | .blocked => (device, none)
    | .failed errno => (device, some (.error (.system errno)))
    | .done => (device, some (.ok ()))
  else (device, none)

end TunDevice

end IpTunnel

import IpTunnel.Address
import IpTunnel.Ip.Error

namespace IpTunnel

structure Written where
  buffer : Bytes
  outcome : Except IpError Nat

inductive Version where
  | known (family : Family)
  | unknown (nibble : UInt8)
deriving DecidableEq

namespace Version

def ofNibble (nibble : UInt8) : Version :=
  if nibble = 4 then .known .v4 else if nibble = 6 then .known .v6 else .unknown nibble

def ofPacket? : Bytes → Option Version
  | [] => none
  | first :: _ => some (ofNibble (first >>> 4))

def text : Version → String
  | .known family => family.text
  | .unknown nibble => s!"Unknown IP version {nibble.toNat}"

instance : ToString Version := ⟨text⟩

def etherType : Version → UInt16
  | .known .v4 => 0x0800
  | .known .v6 => 0x86DD
  | .unknown _ => 0

end Version

-- Octets of framing in front of a packet: no flags, then the EtherType.
def framingLength : Nat := 4

def Version.framing (version : Version) : Bytes := 0 :: 0 :: Bytes.be16 version.etherType

theorem Version.length_framing (version : Version) : version.framing.length = framingLength := rfl

def Version.writeFraming (version : Version) (buffer : Bytes) : Written :=
  if buffer.length < framingLength then ⟨buffer, .error .noSpaceForFraming⟩
  else ⟨buffer.overwrite 0 version.framing, .ok framingLength⟩

def stripFraming? (length : Nat) (frame : Bytes) : Option Bytes :=
  if length ≤ frame.length then some (frame.drop length) else none

end IpTunnel

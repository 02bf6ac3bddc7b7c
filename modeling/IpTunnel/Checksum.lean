import IpTunnel.Address
import IpTunnel.Ip.Protocol

namespace IpTunnel

structure Checksum where
  sum : UInt32
deriving DecidableEq

namespace Checksum

def empty : Checksum := ⟨0⟩

def carry (sum : UInt32) : UInt32 := (sum >>> 16) + (sum &&& 0xFFFF)

-- Two sixteen-bit words give at most 0x1FFFE, and a second carry finds at most 0xFFFF.
def fold (checksum : Checksum) : Checksum := ⟨carry (carry checksum.sum)⟩

def word (high low : UInt8) : UInt32 := (high.toUInt32 <<< 8) ||| low.toUInt32

def sumWords (sum : UInt32) : Bytes → UInt32
  | high :: low :: rest => sumWords (carry (sum + word high low)) rest
  | [high] => sum + (high.toUInt32 <<< 8)
  | [] => sum

def add (checksum : Checksum) (data : Bytes) : Checksum := fold ⟨checksum.sum + sumWords 0 data⟩

def value (checksum : Checksum) : UInt16 := ~~~ checksum.sum.toUInt16

-- The sum of the header that an upper layer of IPv6 has its checksum taken over.
def pseudoHeader (source target : Ipv6) (next : Protocol) (length : Nat) : Checksum :=
  (((empty.add source.octets).add target.octets).add (Bytes.be32 (UInt32.ofNat length))).add [0, 0, 0, next.number]

end Checksum

def checksum (data : Bytes) : UInt16 := ((Checksum.empty.add data).fold).value

end IpTunnel

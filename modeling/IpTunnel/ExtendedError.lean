import IpTunnel.Icmp.Message
import IpTunnel.Ip.Error
import IpTunnel.SystemError

namespace IpTunnel

inductive Origin where
  | unspecified
  | host
  | icmp
  | icmp6
  | other (number : UInt8)
deriving DecidableEq

def Origin.ofNumber (number : UInt8) : Origin :=
  match number.toNat with
  | 0 => .unspecified
  | 1 => .host
  | 2 => .icmp
  | 3 => .icmp6
  | _ => .other number

def Origin.text : Origin → String
  | .unspecified => "none"
  | .host => "local"
  | .icmp => "ICMP"
  | .icmp6 => "ICMPv6"
  | .other number => s!"unknown origin {number.toNat}"

instance : ToString Origin := ⟨Origin.text⟩

structure ExtendedError where
  errno : UInt32
  origin : Origin
  kind : UInt8
  code : UInt8
  info : UInt32
  offender : Option IpAddress
deriving DecidableEq

namespace ExtendedError

def readOffender (data : Bytes) : Option IpAddress :=
  match data with
  | low :: high :: _ =>
    if h : Bytes.ofLe16 low high = 2 ∧ 8 ≤ data.length then some (.v4 (Ipv4.ofSlice data 4 h.2))
    else if h : Bytes.ofLe16 low high = 10 ∧ 24 ≤ data.length then some (.v6 (Ipv6.ofSlice data 8 h.2))
    else none
  | _ => none

-- Octet 7 is padding, and the four octets before the offender are of no use here.
def read : Bytes → Except IpError ExtendedError
  | e0 :: e1 :: e2 :: e3 :: origin :: kind :: code :: _ :: i0 :: i1 :: i2 :: i3 :: _ :: _ :: _ :: _ :: offender =>
    .ok {
      errno := Bytes.ofLe32 e0 e1 e2 e3
      origin := Origin.ofNumber origin
      kind := kind
      code := code
      info := Bytes.ofLe32 i0 i1 i2 i3
      offender := readOffender offender }
  | _ => .error .shortExtendedError

def icmp? (error : ExtendedError) : Option Icmp.Message :=
  match error.origin with
  | .icmp | .icmp6 => error.offender.map fun offender => ⟨error.kind, error.code, error.info, offender⟩
  | _ => none

def signedErrno (error : ExtendedError) : Int :=
  if error.errno < 0x80000000 then error.errno.toNat else error.errno.toNat - 0x100000000

def text (error : ExtendedError) : String :=
  let origin := s!"{error.origin} error (type {error.kind.toNat} code {error.code.toNat})"
  let reason := IoError.message (.system error.signedErrno)
  match error.offender with
  | some offender => s!"{origin}: {reason} from {offender}"
  | none => s!"{origin}: {reason}"

instance : ToString ExtendedError := ⟨text⟩

end ExtendedError

end IpTunnel

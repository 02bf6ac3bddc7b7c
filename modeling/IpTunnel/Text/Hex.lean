import IpTunnel.Bytes

namespace IpTunnel.Text.Hex

def digits (octet : UInt8) : List Char :=
  [Nat.digitChar (octet.toNat / 16), Nat.digitChar (octet.toNat % 16)]

-- What stands before the octet at `index`: nothing at the start, else a blank or a new row.
def separator (index : Nat) : List Char :=
  if index = 0 then [] else if index % 16 = 0 then ['\n'] else [' ']

def dumpFrom (index : Nat) : Bytes → List Char
  | [] => []
  | octet :: rest => separator index ++ (digits octet ++ dumpFrom (index + 1) rest)

def dump (data : Bytes) : String := String.ofList (dumpFrom 0 data)

end IpTunnel.Text.Hex

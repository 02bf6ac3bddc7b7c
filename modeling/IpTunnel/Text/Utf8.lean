import IpTunnel.Bytes

namespace IpTunnel.Text.Utf8

-- Either between two characters, or inside one: the bits read so far, how many octets are still to
-- come, and the range the next one has to lie in.
inductive State where
  | ready
  | inside (bits : Nat) (left : Nat) (low high : UInt8)

def State.start (octet : UInt8) : List (Option Char) × State :=
  let value := octet.toNat
  if octet < 0x80 then ([some (Char.ofNat value)], .ready)
  else if octet < 0xC2 then ([none], .ready)
  else if octet < 0xE0 then ([], .inside (value - 0xC0) 1 0x80 0xBF)
  else if octet = 0xE0 then ([], .inside 0 2 0xA0 0xBF)
  else if octet = 0xED then ([], .inside 0xD 2 0x80 0x9F)
  else if octet < 0xF0 then ([], .inside (value - 0xE0) 2 0x80 0xBF)
  else if octet = 0xF0 then ([], .inside 0 3 0x90 0xBF)
  else if octet < 0xF4 then ([], .inside (value - 0xF0) 3 0x80 0xBF)
  else if octet = 0xF4 then ([], .inside 4 3 0x80 0x8F)
  else ([none], .ready)

def State.next (state : State) (octet : UInt8) : List (Option Char) × State :=
  match state with
  | .ready => State.start octet
  | .inside bits left low high =>
    if low ≤ octet ∧ octet ≤ high then
      let bits := bits * 64 + (octet.toNat - 0x80)
      if left ≤ 1 then ([some (Char.ofNat bits)], .ready) else ([], .inside bits (left - 1) 0x80 0xBF)
    else
      let begun := State.start octet
      (none :: begun.1, begun.2)

def piecesFrom (state : State) : Bytes → List (Option Char)
  | [] =>
    match state with
    | .ready => []
    | .inside .. => [none]
  | octet :: rest => (state.next octet).1 ++ piecesFrom (state.next octet).2 rest

-- The characters in order, `none` for each ill-formed piece.
def pieces (data : Bytes) : List (Option Char) := piecesFrom .ready data

def decode? (data : Bytes) : Option (List Char) := (pieces data).mapM id

def decodeLossy (data : Bytes) : List Char := (pieces data).map (·.getD '\uFFFD')

def encode (text : List Char) : Bytes := text.flatMap String.utf8EncodeChar

end IpTunnel.Text.Utf8

import IpTunnel.Address

namespace IpTunnel

namespace Reader

def digit? (radix : Nat) (char : Char) : Option Nat :=
  let value :=
    if char.isDigit then char.toNat - '0'.toNat
    else if 'a' ≤ char ∧ char ≤ 'f' then char.toNat - 'a'.toNat + 10
    else if 'A' ≤ char ∧ char ≤ 'F' then char.toNat - 'A'.toNat + 10
    else radix
  if value < radix then some value else none

def spanDigits (radix : Nat) : List Char → List Nat × List Char
  | [] => ([], [])
  | char :: rest =>
    match digit? radix char with
    | some digit =>
      let span := spanDigits radix rest
      (digit :: span.1, span.2)
    | none => ([], char :: rest)

def ofDigits (radix : Nat) (digits : List Nat) : Nat := digits.foldl (fun value digit => value * radix + digit) 0

-- The value of the digits, unless it exceeds `limit`. A value never shrinks as digits are added to
-- it, so the first digit that is too much decides.
def ofDigitsUpTo? (radix limit : Nat) (digits : List Nat) : Option Nat :=
  digits.foldlM (fun value digit => if value * radix + digit ≤ limit then some (value * radix + digit) else none) 0

def char? (wanted : Char) : List Char → Option (List Char)
  | char :: rest => if char = wanted then some rest else none
  | [] => none

def octet? (text : List Char) : Option (UInt8 × List Char) :=
  match spanDigits 10 text with
  | ([], _) => none
  | (digits, rest) =>
    if 3 < digits.length ∨ (digits.head? = some 0 ∧ 1 < digits.length) then none
    else (ofDigitsUpTo? 10 255 digits).map fun value => (value.toUInt8, rest)

def group? (text : List Char) : Option (Bytes × List Char) :=
  match spanDigits 16 text with
  | ([], _) => none
  | (digits, rest) =>
    if 4 < digits.length then none else some (Bytes.be16 (ofDigits 16 digits).toUInt16, rest)

def number? (limit : Nat) (text : List Char) : Option (Nat × List Char) :=
  match spanDigits 10 text with
  | ([], _) => none
  | (digits, rest) => (ofDigitsUpTo? 10 limit digits).map fun value => (value, rest)

def ipv4? (text : List Char) : Option (Ipv4 × List Char) := do
  let (first, text) ← octet? text
  let (second, text) ← octet? (← char? '.' text)
  let (third, text) ← octet? (← char? '.' text)
  let (fourth, text) ← octet? (← char? '.' text)
  return (⟨[first, second, third, fourth], rfl⟩, text)

-- Groups of an IPv6 address, at most `room` of them. An IPv4 address may take the place of the
-- last two; nothing is read after it.
structure Groups where
  octets : Bytes
  dotted : Bool
  rest : List Char

def afterColon (first : Bool) (text : List Char) : Option (List Char) :=
  if first then some text else char? ':' text

def groups (first : Bool) (text : List Char) : Nat → Groups
  | 0 => ⟨[], false, text⟩
  | room + 1 =>
    match (if 0 < room then (afterColon first text).bind ipv4? else none) with
    | some (address, rest) => ⟨address.octets, true, rest⟩
    | none =>
      match (afterColon first text).bind group? with
      | some (group, rest) =>
        let more := groups false rest room
        ⟨group ++ more.octets, more.dotted, more.rest⟩
      | none => ⟨[], false, text⟩

def ofHeadAndTail (head tail : Bytes) : Option Ipv6 :=
  let octets := head ++ (List.replicate (16 - head.length - tail.length) 0 ++ tail)
  if size : octets.length = 16 then some ⟨octets, size⟩ else none

-- Eight groups, or `::` for one or more of them; no IPv4 address can stand before `::`.
def ipv6? (text : List Char) : Option (Ipv6 × List Char) :=
  let head := groups true text 8
  if size : head.octets.length = 16 then some (⟨head.octets, size⟩, head.rest)
  else if head.dotted then none
  else do
    let text ← char? ':' (← char? ':' head.rest)
    let tail := groups true text (7 - head.octets.length / 2)
    let address ← ofHeadAndTail head.octets tail.octets
    return (address, tail.rest)

def ip? (text : List Char) : Option (IpAddress × List Char) :=
  match ipv4? text with
  | some (address, rest) => some (.v4 address, rest)
  | none => (ipv6? text).map fun found => (.v6 found.1, found.2)

def port? (text : List Char) : Option (UInt16 × List Char) := do
  let (port, text) ← number? 0xFFFF (← char? ':' text)
  return (port.toUInt16, text)

def scope (text : List Char) : UInt32 × List Char :=
  match (char? '%' text).bind (number? 0xFFFFFFFF) with
  | some (scope, rest) => (scope.toUInt32, rest)
  | none => (0, text)

def endpoint4? (text : List Char) : Option (Endpoint × List Char) := do
  let (address, text) ← ipv4? text
  let (port, text) ← port? text
  return (.v4 address port, text)

def endpoint6? (text : List Char) : Option (Endpoint × List Char) := do
  let (address, text) ← ipv6? (← char? '[' text)
  let (scope, text) := scope text
  let (port, text) ← port? (← char? ']' text)
  return (.v6 address port scope, text)

def endpoint? (text : List Char) : Option (Endpoint × List Char) := endpoint4? text <|> endpoint6? text

def whole (reader : List Char → Option (α × List Char)) (text : List Char) : Option α :=
  match reader text with
  | some (value, []) => some value
  | _ => none

end Reader

def IpAddress.read? (text : List Char) : Option IpAddress := Reader.whole Reader.ip? text

def Endpoint.read? (text : List Char) : Option Endpoint := Reader.whole Reader.endpoint? text

end IpTunnel

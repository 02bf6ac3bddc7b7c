namespace IpTunnel.Text

-- The twenty-five characters that have the property White_Space.
def isBlank (char : Char) : Bool :=
  let code := char.toNat
  (9 ≤ code && code ≤ 13) || code == 0x20 || code == 0x85 || code == 0xA0 || code == 0x1680 ||
    (0x2000 ≤ code && code ≤ 0x200A) || code == 0x2028 || code == 0x2029 || code == 0x202F ||
    code == 0x205F || code == 0x3000

-- The field that is being read is kept in reverse; it is listed once a blank or the end closes it.
def fieldsFrom (held : List Char) : List Char → List (List Char)
  | [] => if held.isEmpty then [] else [held.reverse]
  | char :: rest =>
    if isBlank char then
      if held.isEmpty then fieldsFrom [] rest else held.reverse :: fieldsFrom [] rest
    else fieldsFrom (char :: held) rest

def fields (text : List Char) : List (List Char) := fieldsFrom [] text

end IpTunnel.Text

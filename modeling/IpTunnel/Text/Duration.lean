namespace IpTunnel.Text

def decimals (thousandths : Nat) : List Char :=
  let digits := [thousandths / 100 % 10, thousandths / 10 % 10, thousandths % 10].map Nat.digitChar
  (digits.reverse.dropWhile (· = '0')).reverse

def duration (milliseconds : Nat) : String :=
  let seconds := milliseconds / 1000
  let rest := milliseconds % 1000
  if seconds = 0 then (if rest = 0 then "0ns" else s!"{rest}ms")
  else if rest = 0 then s!"{seconds}s"
  else toString seconds ++ "." ++ String.ofList (decimals rest) ++ "s"

end IpTunnel.Text

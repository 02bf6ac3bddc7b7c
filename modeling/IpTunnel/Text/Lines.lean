namespace IpTunnel.Text

-- A line as it stands before its line feed: one carriage return there belongs to the ending.
def closeLine (line : List Char) : List Char :=
  match line.reverse with
  | '\r' :: rest => rest.reverse
  | _ => line

-- The line that is being read is kept in reverse. A text that ends in a line feed has no further,
-- empty line, and the carriage return of an unfinished line stays with it.
def linesFrom (read : List Char) : List Char → List (List Char)
  | [] => if read.isEmpty then [] else [read.reverse]
  | char :: rest =>
    if char = '\n' then closeLine read.reverse :: linesFrom [] rest else linesFrom (char :: read) rest

def lines (text : List Char) : List (List Char) := linesFrom [] text

def splitAtFirst? (mark : Char) : List Char → Option (List Char × List Char)
  | [] => none
  | char :: rest =>
    if char = mark then some ([], rest)
    else (splitAtFirst? mark rest).map fun parts => (char :: parts.1, parts.2)

def before (mark : Char) (text : List Char) : List Char := text.takeWhile (· ≠ mark)

end IpTunnel.Text

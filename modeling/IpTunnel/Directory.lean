import IpTunnel.SystemError
import IpTunnel.Bytes

namespace IpTunnel

-- A file outside the directory is listed under the shortest path that leads to it.
structure Directory where
  files : List (String × Bytes)

namespace Directory

-- Where the following of a path has come to: so many levels above the directory, or at the root.
inductive Folder where
  | up (levels : Nat)
  | root

namespace Folder

def parent : Folder → Folder
  | .up levels => .up (levels + 1)
  | .root => .root

def listing (name : List Char) : Folder → String
  | .up levels => String.join (List.replicate levels "../") ++ String.ofList name
  | .root => "/" ++ String.ofList name

end Folder

inductive Part where
  | stay
  | leave
  | name (name : List Char)

def Part.ofText (text : List Char) : Part :=
  if text = ['.'] then .stay else if text = ['.', '.'] then .leave else .name text

-- A path is closed if it ends with a slash: it may then lead to nothing but a folder.
structure Path where
  start : Folder
  folders : List Part
  last : Part
  closed : Bool

def split (held : List Char) : List Char → List (List Char)
  | [] => [held.reverse]
  | char :: rest => if char = '/' then held.reverse :: split [] rest else split (char :: held) rest

def utf8Length (text : List Char) : Nat := (String.ofList text).utf8ByteSize

-- The path that a text denotes. Several slashes count as one, and slashes alone are the root.
def Path.ofText (text : List Char) : Except IoError Path :=
  if text.contains '\x00' then .error .pathHasNul
  else if text = [] then .error .noEntry
  else if 4095 < utf8Length text then .error .nameTooLongForFile
  else
    let parts := ((split [] text).filter (· ≠ [])).map Part.ofText
    .ok {
      start := if text.head? = some '/' then .root else .up 0
      folders := parts.dropLast
      last := parts.getLast?.getD .stay
      closed := text.getLast? = some '/' }

def find? (directory : Directory) (name : String) : Option Bytes :=
  (directory.files.find? (·.1 = name)).map (·.2)

def isTooLong (name : List Char) : Bool := 255 < utf8Length name

def walk (directory : Directory) (folder : Folder) : List Part → Except IoError Folder
  | [] => .ok folder
  | .stay :: rest => walk directory folder rest
  | .leave :: rest => walk directory folder.parent rest
  | .name name :: _ =>
    if isTooLong name then .error .nameTooLongForFile
    else .error (if (directory.find? (folder.listing name)).isSome then .notDirectory else .noEntry)

def locate (directory : Directory) (text : String) : Except IoError (Folder × Path) := do
  let path ← Path.ofText text.toList
  let folder ← directory.walk path.start path.folders
  return (folder, path)

def readAt (directory : Directory) (folder : Folder) (path : Path) : Except IoError Bytes :=
  match path.last with
  | .name name =>
    if isTooLong name then .error .nameTooLongForFile
    else
      match directory.find? (folder.listing name) with
      | some content => if path.closed then .error .notDirectory else .ok content
      | none => .error .noEntry
  | _ => .error .isDirectory

-- Reads a file; one that is listed under the whole path needs no following of it.
def read (directory : Directory) (path : String) : Except IoError Bytes :=
  match directory.find? path with
  | some content => .ok content
  | none => do
    let (folder, path) ← directory.locate path
    directory.readAt folder path

-- How the file that `path` creates or empties is listed. A slash at the end is refused before
-- anybody looks at the name in front of it.
def create (directory : Directory) (path : String) : Except IoError String := do
  let (folder, path) ← directory.locate path
  match path.last with
  | .name name =>
    if path.closed then .error .isDirectory
    else if isTooLong name then .error .nameTooLongForFile
    else .ok (folder.listing name)
  | _ => .error .isDirectory

def write (directory : Directory) (name : String) (content : Bytes) : Directory :=
  ⟨(name, content) :: directory.files.filter (·.1 ≠ name)⟩

end Directory

end IpTunnel

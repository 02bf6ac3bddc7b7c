import IpTunnel.Address.Reader
import IpTunnel.Peers
import IpTunnel.Text.Blank
import IpTunnel.Text.Lines
import IpTunnel.Text.Utf8

namespace IpTunnel.PeerTable

def readRecord (number : Nat) (line : List Char) : Except PeerError (Option (IpAddress × Endpoint)) :=
  match Text.fields (Text.before '#' line) with
  | [] => .ok none
  | [address, endpoint] =>
    match IpAddress.read? address with
    | none => .error (.malformed number .privateAddress)
    | some address =>
      match Endpoint.read? endpoint with
      | none => .error (.malformed number .publicEndpoint)
      | some endpoint => .ok (some (address, endpoint))
  | _ => .error (.malformed number .fieldCount)

def readFrom (table : PeerTable) (number : Nat) : List (List Char) → Except PeerError PeerTable
  | [] => .ok table
  | line :: rest =>
    match readRecord number line with
    | .error problem => .error problem
    | .ok none => readFrom table (number + 1) rest
    | .ok (some (address, endpoint)) =>
      match table.insert address endpoint with
      | ⟨_, .error problem⟩ => .error problem
      | ⟨table, .ok ()⟩ => readFrom table (number + 1) rest

def read (text : List Char) : Except PeerError PeerTable := readFrom empty 1 (Text.lines text)

def load (content : Except IoError Bytes) : Except PeerError PeerTable :=
  match content with
  | .error cause => .error (.unreadable cause)
  | .ok data =>
    match Text.Utf8.decode? data with
    | some text => read text
    | none => .error (.unreadable .notUtf8)

end IpTunnel.PeerTable

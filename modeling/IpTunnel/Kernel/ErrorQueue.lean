import IpTunnel.ExtendedError

namespace IpTunnel

structure ControlMessage where
  level : Int
  kind : Int
  data : Bytes

-- Received errors of the IPv4 layer, level 0, or of the IPv6 layer, level 41.
def ControlMessage.isExtendedError (message : ControlMessage) : Bool :=
  (message.level = 0 && message.kind = 11) || (message.level = 41 && message.kind = 25)

inductive Report where
  | message (fragment : Bytes) (control : List ControlMessage)
  | failure (errno : Int)

namespace ErrorQueue

structure Reading where
  reports : List Report
  buffer : Bytes
  outcome : Except IoError (ExtendedError × Nat)

def extendedError (control : List ControlMessage) : Except IoError ExtendedError :=
  match control.find? (·.isExtendedError) with
  | none => .error .noExtendedError
  | some message =>
    match ExtendedError.read message.data with
    | .ok error => .ok error
    | .error _ => .error .shortExtendedError

-- Takes one entry off the queue. The datagram is in the buffer even if its error cannot be read.
def read (buffer : Bytes) : List Report → Reading
  | [] => ⟨[], buffer, .error .tryAgain⟩
  | .failure errno :: rest => ⟨rest, buffer, .error (.system errno)⟩
  | .message fragment control :: rest =>
    ⟨rest, buffer.fill 0 fragment,
      (extendedError control).map fun error => (error, min fragment.length buffer.length)⟩

end ErrorQueue

end IpTunnel

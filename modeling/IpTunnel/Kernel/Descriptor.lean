import IpTunnel.Kernel.ErrorQueue

namespace IpTunnel

inductive Incoming where
  | data (data : Bytes)
  | failure (errno : Int)
  -- Nothing now, but an edge follows.
  | again

inductive Outgoing where
  | done
  | failure (errno : Int)
  | again

-- The calls that an observer of the system sees; a write that failed carries its error number.
inductive Call where
  | openTun
  | configure (name : Bytes) (flags : Nat)
  | write (frame : Bytes) (errno : Option Int)
  | socket (family : Family)
  | setOption (level name value : Nat)
  | bind (endpoint : Endpoint)
  | sendTo (packet : Bytes) (peer : Endpoint) (errno : Option Int)

structure Descriptor where
  incoming : List Incoming
  outgoing : List Outgoing
  reports : List Report
  readable : Bool
  writable : Bool
  failing : Bool
  -- Writes do not wait any more; this mark stays.
  writeClosed : Bool
  edge : Bool
  drained : Bool
  calls : List Call

namespace Descriptor

-- The system's number for a call that would have to wait.
def wouldBlock : Int := 11

def opened (incoming : List Incoming) (outgoing : List Outgoing) (reports : List Report) : Descriptor where
  incoming := incoming
  outgoing := outgoing
  reports := reports
  readable := false
  writable := false
  failing := false
  writeClosed := false
  edge := true
  drained := false
  calls := []

def wake (descriptor : Descriptor) : Descriptor :=
  if descriptor.edge then
    { descriptor with
      edge := false
      readable := true
      writable := true
      failing := descriptor.failing || !descriptor.reports.isEmpty
      writeClosed := descriptor.writeClosed || !descriptor.reports.isEmpty }
  else descriptor

def mayWrite (descriptor : Descriptor) : Bool := descriptor.writable || descriptor.writeClosed

inductive Taken where
  | data (data : Bytes)
  | failed (errno : Int)
  | blocked

def take (descriptor : Descriptor) : Descriptor × Taken :=
  match descriptor.incoming with
  | [] => ({ descriptor with readable := false, drained := true }, .blocked)
  | .again :: rest => ({ descriptor with incoming := rest, readable := false, edge := true }, .blocked)
  | .data data :: rest => ({ descriptor with incoming := rest }, .data data)
  | .failure errno :: rest =>
    if errno = wouldBlock then ({ descriptor with incoming := rest, readable := false }, .blocked)
    else ({ descriptor with incoming := rest }, .failed errno)

inductive Given where
  | done
  | failed (errno : Int)
  | blocked

def give (call : Option Int → Call) (descriptor : Descriptor) : Descriptor × Given :=
  let seen (errno : Option Int) := descriptor.calls ++ [call errno]
  match descriptor.outgoing with
  | [] => ({ descriptor with calls := seen none }, .done)
  | .done :: rest => ({ descriptor with outgoing := rest, calls := seen none }, .done)
  | .again :: rest =>
    ({ descriptor with outgoing := rest, calls := seen (some wouldBlock), writable := false, edge := true }, .blocked)
  | .failure errno :: rest =>
    if errno = wouldBlock then
      ({ descriptor with outgoing := rest, calls := seen (some errno), writable := false }, .blocked)
    else ({ descriptor with outgoing := rest, calls := seen (some errno) }, .failed errno)

def work (descriptor : Descriptor) : Nat :=
  descriptor.incoming.length + descriptor.outgoing.length + descriptor.reports.length

end Descriptor

end IpTunnel

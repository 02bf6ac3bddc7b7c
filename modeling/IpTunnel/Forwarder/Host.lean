import IpTunnel.Notice

namespace IpTunnel

-- The two things that can become known of a shutdown: that it is wanted, or that nobody is left to
-- ask for it.
inductive News where
  | requested
  | lost
deriving DecidableEq

-- What a socket delivers, in octets of the buffer it was given.
inductive Received where
  | datagram (length : Nat)
  | report (error : ExtendedError) (length : Nat)
deriving DecidableEq

structure Polled (σ α : Type) where
  host : σ
  buffer : Bytes
  outcome : Option (Except IoError α)

inductive Waking where
  | woken
  | timedOut
  | never
deriving DecidableEq

class Host (σ : Type) where
  -- Milliseconds since the start.
  now : σ → Nat
  hear : σ → Option News × σ
  readTunnel : Bytes → σ → Polled σ Nat
  receive : Family → Bytes → σ → Polled σ Received
  await : Option Nat → σ → Waking × σ
  -- A sleep that is meant to last for so many milliseconds, during which nothing is read.
  rest : Nat → σ → σ
  say : Notice → σ → σ
  capture : Bytes → σ → σ
  -- Nothing comes back from a write that waits for ever.
  send : Family → Bytes → Endpoint → σ → Option (Except IoError Unit) × σ
  write : Bytes → σ → Option (Except IoError Unit) × σ
  -- No less than the number of events and wake-ups that are still to come.
  pending : σ → Nat

end IpTunnel

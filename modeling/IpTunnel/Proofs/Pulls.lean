import IpTunnel.Proofs.Slices
import IpTunnel.Script

namespace IpTunnel

def roomLength : Nat := 2044

namespace Delivery

def data : Delivery → Bytes
  | .datagram data => data
  | .report _ fragment => fragment

def received : Delivery → Received
  | .datagram data => .datagram data.length
  | .report error fragment => .report error fragment.length

def cut (length : Nat) : Delivery → Delivery
  | .datagram data => .datagram (data.take length)
  | .report error fragment => .report error (fragment.take length)

end Delivery

-- A read tells of what was pulled and has its octets at the front of the buffer; behind them the
-- buffer may hold anything.
structure Reads (tell : α → β) (octets : α → Bytes) (buffer : Bytes) (polled : Polled σ β)
    (pulled : σ × Option (Except IoError α)) : Prop where
  host : polled.host = pulled.1
  size : polled.buffer.length = buffer.length
  outcome : polled.outcome = pulled.2.map (·.map tell)
  front : ∀ item, pulled.2 = some (.ok item) → polled.buffer.take (octets item).length = octets item

-- A host whose reads can be told without a buffer.
class Pulls (σ : Type) [Host σ] where
  pullTunnel : σ → σ × Option (Except IoError Bytes)
  pullSocket : Family → σ → σ × Option (Except IoError Delivery)
  readTunnel : ∀ {buffer : Bytes} (host : σ), buffer.length = bufferLength →
    Reads List.length id buffer (Host.readTunnel buffer host) (pullTunnel host)
  receive : ∀ {buffer : Bytes} (family : Family) (host : σ), buffer.length = roomLength →
    Reads Delivery.received Delivery.data buffer (Host.receive family buffer host) (pullSocket family host)

namespace Script

def due? (now : Nat) : List (Scheduled α) → Option (Scheduled α)
  | [] => none
  | event :: _ => if event.due ≤ now then some event else none

def later (now : Nat) : List (Scheduled α) → List (Scheduled α)
  | [] => []
  | event :: rest => if event.due ≤ now then rest else event :: rest

theorem due?_later (now : Nat) (events : List (Scheduled α)) :
    (due? now events).toList ++ later now events = events := by
  cases events with
  | nil => rfl
  | cons event rest =>
    simp only [due?, later]
    split <;> rfl

def frameOf (event : Scheduled Bytes) : Except IoError Bytes := event.outcome.map (·.take bufferLength)

def deliveryOf (event : Scheduled Delivery) : Except IoError Delivery := event.outcome.map (·.cut roomLength)

def readOf (device : Device) (outcome : Except IoError Bytes) : Entry := .read device (outcome.map List.length)

def pullTunnel (script : Script) : Script × Option (Except IoError Bytes) :=
  match due? script.now script.tunnel with
  | none => (script, none)
  | some event =>
    ({ script with tunnel := later script.now script.tunnel }.record (readOf .tunnel (frameOf event)),
      some (frameOf event))

def pullSocket (family : Family) (script : Script) : Script × Option (Except IoError Delivery) :=
  match due? script.now (script.socket family) with
  | none => (script, none)
  | some event =>
    ((script.withSocket family (later script.now (script.socket family))).record
        (readOf (.socket family) ((deliveryOf event).map Delivery.data)),
      some (deliveryOf event))

theorem readTunnel_pulls {buffer : Bytes} (script : Script) (sized : buffer.length = bufferLength) :
    Reads List.length id buffer (script.readTunnel buffer) script.pullTunnel := by
  unfold readTunnel pullTunnel
  cases scheduled : script.tunnel with
  | nil => exact ⟨rfl, rfl, rfl, by simp [due?]⟩
  | cons event rest =>
    by_cases early : script.now < event.due
    · have waiting : ¬ event.due ≤ script.now := Nat.not_le.mpr early
      simp only [early, due?, waiting, if_true, if_false]
      exact ⟨rfl, rfl, rfl, by simp⟩
    · have ready : event.due ≤ script.now := Nat.not_lt.mp early
      simp only [early, due?, later, ready, if_true, if_false]
      cases found : event.outcome with
      | error cause =>
        simp only [frameOf, found, readOf, Except.map]
        exact ⟨rfl, rfl, rfl, by simp⟩
      | ok data =>
        have size : (data.take bufferLength).length = min data.length buffer.length := by
          rw [List.length_take, sized, Nat.min_comm]
        refine ⟨?_, Bytes.length_fill data (Nat.zero_le _), ?_, ?_⟩
        · simp [frameOf, found, readOf, Except.map, size]
        · simp [frameOf, found, Except.map, size]
        · intro item pulled
          simp only [frameOf, found, Except.map, Option.some.injEq, Except.ok.injEq] at pulled
          rw [← pulled, id, size, ← sized]
          exact Bytes.take_fill

theorem receive_pulls {buffer : Bytes} (family : Family) (script : Script) (sized : buffer.length = roomLength) :
    Reads Delivery.received Delivery.data buffer (script.receive family buffer) (script.pullSocket family) := by
  unfold receive pullSocket
  cases scheduled : script.socket family with
  | nil => exact ⟨rfl, rfl, rfl, by simp [due?]⟩
  | cons event rest =>
    by_cases early : script.now < event.due
    · have waiting : ¬ event.due ≤ script.now := Nat.not_le.mpr early
      simp only [early, due?, waiting, if_true, if_false]
      exact ⟨rfl, rfl, rfl, by simp⟩
    · have ready : event.due ≤ script.now := Nat.not_lt.mp early
      simp only [early, due?, later, ready, if_true, if_false]
      cases found : event.outcome with
      | error cause =>
        simp only [deliveryOf, found, readOf, Except.map]
        exact ⟨rfl, rfl, rfl, by simp⟩
      | ok delivery =>
        have size (data : Bytes) : (data.take roomLength).length = min data.length buffer.length := by
          rw [List.length_take, sized, Nat.min_comm]
        cases delivery <;>
        · simp only [deliveryOf, found, Delivery.cut, deliver, readOf, Except.map]
          refine ⟨?_, Bytes.length_fill _ (Nat.zero_le _), ?_, ?_⟩
          · simp only [Delivery.data, size]
          · simp only [Delivery.received, size, Option.map, Except.map]
          · intro item pulled
            simp only [Option.some.injEq, Except.ok.injEq] at pulled
            rw [← pulled, Delivery.data, size, ← sized]
            exact Bytes.take_fill

instance : Pulls Script where
  pullTunnel := pullTunnel
  pullSocket := pullSocket
  readTunnel := readTunnel_pulls
  receive := receive_pulls

end Script

end IpTunnel

import IpTunnel.Proofs.Performed

namespace IpTunnel

-- The events that one iteration takes, each with all of its octets.
structure Takings where
  tunnel : Option (Scheduled Bytes)
  socket4 : Option (Scheduled Delivery)
  socket6 : Option (Scheduled Delivery)

namespace Takings

def readSocket (family : Family) (event : Scheduled Delivery) : Entry :=
  Script.readOf (.socket family) ((Script.deliveryOf event).map Delivery.data)

def readTunnel (event : Scheduled Bytes) : Entry := Script.readOf .tunnel (Script.frameOf event)

def reads (takings : Takings) : List Entry :=
  (takings.tunnel.map readTunnel).toList ++
    ((takings.socket4.map (readSocket .v4)).toList ++ (takings.socket6.map (readSocket .v6)).toList)

def ofSocket (event : Option (Scheduled Delivery)) : Family → Takings
  | .v4 => ⟨none, event, none⟩
  | .v6 => ⟨none, none, event⟩

-- What a forwarder gets to see of the events: as much of each as its buffers have room for.
def intake (news : Option News) (takings : Takings) : Intake :=
  ⟨news, takings.tunnel.map Script.frameOf, takings.socket4.map Script.deliveryOf,
    takings.socket6.map Script.deliveryOf⟩

end Takings

namespace Script

def ready (setup : Setup) (family : Family) (script : Script) : Option (Scheduled Delivery) :=
  if setup.hasSocket family then due? script.now (script.socket family) else none

def takings (setup : Setup) (script : Script) : Takings :=
  ⟨due? script.now script.tunnel, script.ready setup .v4, script.ready setup .v6⟩

def news? (listening : Bool) (script : Script) : Option News :=
  if listening then
    match script.shutdown with
    | some (due, news) => if due ≤ script.now then some news else none
    | none => none
  else none

def unheard (listening : Bool) (script : Script) : Option (Nat × News) :=
  if (script.news? listening).isSome then none else script.shutdown

-- The events taken stand in front of those that are left, on every device.
structure Took (before : Script) (takings : Takings) (after : Script) : Prop where
  tunnel : before.tunnel = takings.tunnel.toList ++ after.tunnel
  socket4 : before.socket4 = takings.socket4.toList ++ after.socket4
  socket6 : before.socket6 = takings.socket6.toList ++ after.socket6
  trace : after.trace = before.trace ++ takings.reads
  now : after.now = before.now
  shutdown : after.shutdown = before.shutdown

theorem later_of_waiting {moment : Nat} {events : List (Scheduled α)} (waiting : due? moment events = none) :
    later moment events = events := by
  have parts := due?_later moment events
  rwa [waiting] at parts

theorem unheard_news? (listening : Bool) (script : Script) :
    (script.news? listening).toList.length + (script.unheard listening).toList.length =
      script.shutdown.toList.length := by
  unfold unheard news?
  split
  · cases planned : script.shutdown with
    | none => rfl
    | some plan =>
      obtain ⟨due, news⟩ := plan
      by_cases ready : due ≤ script.now <;> simp [ready]
  · simp

theorem pullTunnel_eq (script : Script) :
    script.pullTunnel =
      ({ script with
          tunnel := later script.now script.tunnel
          trace := script.trace ++ ((due? script.now script.tunnel).map Takings.readTunnel).toList },
        (due? script.now script.tunnel).map frameOf) := by
  unfold pullTunnel
  cases found : due? script.now script.tunnel with
  | none => simp [later_of_waiting found]
  | some event => rfl

theorem pullSocket_eq (family : Family) (script : Script) :
    script.pullSocket family =
      ({ script.withSocket family (later script.now (script.socket family)) with
          trace := script.trace ++
            ((due? script.now (script.socket family)).map (Takings.readSocket family)).toList },
        (due? script.now (script.socket family)).map deliveryOf) := by
  unfold pullSocket
  cases found : due? script.now (script.socket family) with
  | none =>
    have kept := later_of_waiting found
    cases family <;> simp_all [withSocket, socket]
  | some event => cases family <;> rfl

theorem ready_congr {before after : Script} (setup : Setup) (family : Family) (now : after.now = before.now)
    (events : after.socket family = before.socket family) : after.ready setup family = before.ready setup family := by
  rw [ready, ready, now, events]

theorem hear_eq (station : Station Script) :
    Unbuffered.hear station =
      ({ station with host := { station.host with shutdown := station.host.unheard station.listening } },
        station.host.news? station.listening) := by
  obtain ⟨script, phase, listening, closing⟩ := station
  cases listening with
  | false => rfl
  | true =>
    change ((⟨script.hear.2, phase, true, closing⟩ : Station Script), script.hear.1) = _
    unfold hear unheard news?
    cases planned : script.shutdown with
    | none => simp [← planned]
    | some plan =>
      obtain ⟨due, news⟩ := plan
      by_cases ready : due ≤ script.now
      · simp [ready]
      · simp [ready, ← planned]

theorem pullTunnel_took (script : Script) :
    Took script ⟨due? script.now script.tunnel, none, none⟩ script.pullTunnel.1 ∧
      script.pullTunnel.2 = (due? script.now script.tunnel).map frameOf := by
  rw [pullTunnel_eq]
  exact ⟨⟨(due?_later _ _).symm, rfl, rfl, by simp [Takings.reads], rfl, rfl⟩, rfl⟩

theorem pullSocket_took (setup : Setup) (family : Family) (station : Station Script) :
    Took station.host (.ofSocket (station.host.ready setup family) family)
        (Unbuffered.pullSocket setup family station).1.host ∧
      (Unbuffered.pullSocket setup family station).2 = (station.host.ready setup family).map deliveryOf := by
  unfold Unbuffered.pullSocket ready
  by_cases present : setup.hasSocket family = true
  · rw [if_pos present, if_pos present]
    change Took _ _ (station.host.pullSocket family).1 ∧ (station.host.pullSocket family).2 = _
    rw [pullSocket_eq]
    refine ⟨?_, rfl⟩
    cases family with
    | v4 => exact ⟨rfl, (due?_later _ _).symm, rfl, by simp [Takings.ofSocket, Takings.reads], rfl, rfl⟩
    | v6 => exact ⟨rfl, rfl, (due?_later _ _).symm, by simp [Takings.ofSocket, Takings.reads], rfl, rfl⟩
  · rw [if_neg present, if_neg present]
    cases family <;> exact ⟨⟨rfl, rfl, rfl, (List.append_nil _).symm, rfl, rfl⟩, rfl⟩

theorem pullAll_took (setup : Setup) (news : Option News) (station : Station Script) :
    Took station.host (station.host.takings setup) (Unbuffered.pullAll setup news station).1.host ∧
      (Unbuffered.pullAll setup news station).2 = (station.host.takings setup).intake news := by
  obtain ⟨readT, tunnel⟩ := pullTunnel_took station.host
  obtain ⟨read4, socket4⟩ := pullSocket_took setup .v4 (Unbuffered.pullTunnel station).1
  obtain ⟨read6, socket6⟩ := pullSocket_took setup .v6
    (Unbuffered.pullSocket setup .v4 (Unbuffered.pullTunnel station).1).1
  have ready4 := ready_congr setup .v4 readT.now readT.socket4.symm
  have ready6 := ready_congr setup .v6 (read4.now.trans readT.now) (readT.socket6.trans read4.socket6).symm
  have host : (Unbuffered.pullTunnel station).1.host = station.host.pullTunnel.1 := rfl
  rw [host, ready4] at read4 socket4
  rw [ready6] at read6 socket6
  refine ⟨⟨?_, ?_, ?_, ?_, ?_, ?_⟩, ?_⟩
  · exact readT.tunnel.trans (congrArg _ (read4.tunnel.trans read6.tunnel))
  · exact readT.socket4.trans (read4.socket4.trans (congrArg _ read6.socket4))
  · exact readT.socket6.trans (read4.socket6.trans read6.socket6)
  · have trace := read6.trace
    rw [read4.trace, readT.trace] at trace
    simpa [Takings.ofSocket, Takings.reads, takings, Unbuffered.pullAll] using trace
  · exact read6.now.trans (read4.now.trans readT.now)
  · exact read6.shutdown.trans (read4.shutdown.trans readT.shutdown)
  · have read : (Unbuffered.pullTunnel station).2 = (due? station.host.now station.host.tunnel).map frameOf := tunnel
    simp only [Unbuffered.pullAll, read, socket4, socket6]
    rfl

theorem look_took (setup : Setup) (station : Station Script) :
    Took { station.host with shutdown := station.host.unheard station.listening } (station.host.takings setup)
        (Unbuffered.look setup station).1.host ∧
      (Unbuffered.look setup station).2 =
        (station.host.takings setup).intake (station.host.news? station.listening) := by
  simp only [Unbuffered.look, hear_eq]
  exact pullAll_took setup _ { station with host := { station.host with shutdown := _ } }

theorem look_waiting {setup : Setup} {station : Station Script}
    (waiting : (Unbuffered.look setup station).2.events.isReady = false) :
    (Unbuffered.look setup station).1 = station := by
  have tunnel (script : Script) (nothing : script.pullTunnel.2 = none) : script.pullTunnel.1 = script := by
    unfold pullTunnel at nothing ⊢
    split at nothing
    · rfl
    · cases nothing
  have socket (family : Family) (station : Station Script)
      (nothing : (Unbuffered.pullSocket setup family station).2 = none) :
      (Unbuffered.pullSocket setup family station).1 = station := by
    unfold Unbuffered.pullSocket at nothing ⊢
    by_cases present : setup.hasSocket family = true
    · rw [if_pos present] at nothing ⊢
      change (station.host.pullSocket family).2 = none at nothing
      change ({ station with host := (station.host.pullSocket family).1 } : Station Script) = station
      unfold pullSocket at nothing ⊢
      split at nothing
      · rfl
      · cases nothing
    · rw [if_neg present]
  have heard (nothing : (Unbuffered.hear station).2 = none) : (Unbuffered.hear station).1 = station := by
    rw [hear_eq] at nothing ⊢
    simp only at nothing
    simp [unheard, nothing]
  simp only [Unbuffered.look, Unbuffered.pullAll, Events.isReady, Intake.events, Option.isSome_map,
    Bool.or_eq_false_iff, Option.isSome_eq_false_iff, Option.isNone_iff_eq_none] at waiting
  obtain ⟨⟨⟨news, frame⟩, delivery4⟩, delivery6⟩ := waiting
  have first := heard news
  rw [first] at frame delivery4 delivery6
  have second : (Unbuffered.pullTunnel station).1 = station :=
    congrArg (fun script => ({ station with host := script } : Station Script)) (tunnel station.host frame)
  rw [second] at delivery4 delivery6
  have third := socket .v4 station delivery4
  rw [third] at delivery6
  simp only [Unbuffered.look, Unbuffered.pullAll, first, second, third]
  exact socket .v6 station delivery6

theorem await_frame (deadline : Option Nat) (script : Script) :
    ∃ moment, (Host.await deadline script).2 = { script with now := moment } ∧
      ((Host.await deadline script).1 = .woken → script.now ≤ moment) := by
  change ∃ moment, (script.await deadline).2 = _ ∧ ((script.await deadline).1 = .woken → _)
  unfold await
  cases script.upcoming.min? with
  | none => cases deadline <;> exact ⟨_, rfl, by simp⟩
  | some due =>
    cases deadline with
    | none => exact ⟨_, rfl, fun _ => Nat.le_max_left _ _⟩
    | some limit =>
      dsimp only
      split
      · exact ⟨_, rfl, fun _ => Nat.le_max_left _ _⟩
      · exact ⟨_, rfl, by simp⟩

end Script

namespace Station

def advance (moment : Nat) (station : Station Script) : Station Script :=
  { station with host := { station.host with now := moment } }

end Station

end IpTunnel

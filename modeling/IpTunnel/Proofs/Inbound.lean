import IpTunnel.Proofs.Outbound

namespace IpTunnel

def Scheduled.inbound? (setup : Setup) (family : Family) (event : Scheduled Delivery) : Option Bytes :=
  match event.outcome with
  | .ok delivery => inbound setup family (delivery.cut 2044)
  | .error _ => none

def Scheduled.readFails (event : Scheduled α) : Bool :=
  match event.outcome with
  | .ok _ => false
  | .error _ => true

-- A frame that is read but has no peer fails as well, without a trace.
def Scheduled.hasNoPeer (setup : Setup) (event : Scheduled Bytes) : Bool :=
  match event.frame? with
  | some frame =>
    match verdict setup frame with
    | .unknown _ => true
    | _ => false
  | none => false

namespace Iteration

def tunnelFails (setup : Setup) (iteration : Iteration) : Bool :=
  iteration.tunnel.any (fun event => event.readFails || event.hasNoPeer setup) ||
    iteration.forTunnel.any Entry.hasFailed

def socket4Fails (iteration : Iteration) : Bool :=
  iteration.socket4.any Scheduled.readFails || iteration.for4.any Entry.hasFailed

-- The frames of an iteration; a step that fails leaves the later ones undone.
def frames (setup : Setup) (iteration : Iteration) : List Bytes :=
  if iteration.tunnelFails setup then []
  else
    (iteration.socket4.bind (Scheduled.inbound? setup .v4)).toList ++
      if iteration.socket4Fails then [] else (iteration.socket6.bind (Scheduled.inbound? setup .v6)).toList

end Iteration

theorem fails_ofTunnel {setup : Setup} {event : Option (Scheduled Bytes)}
    (performed : Performed (Deed.ofTunnel setup (event.map Script.frameOf)) entries progress) :
    writes entries = [] ∧
      progress.isSome =
        (event.any (fun event => event.readFails || event.hasNoPeer setup) || entries.any Entry.hasFailed) := by
  cases event with
  | none =>
    cases performed
    exact ⟨rfl, rfl⟩
  | some event =>
    have loud := performed.loud
    rw [Option.map_some, loud_ofTunnel, outboundDeeds] at loud
    simp only [Option.any_some, Scheduled.readFails, Scheduled.hasNoPeer, Scheduled.frame?]
    cases outcome : event.outcome with
    | error cause =>
      rw [outcome] at loud
      cases loud
      exact ⟨rfl, rfl⟩
    | ok data =>
      rw [outcome] at loud
      simp only at loud ⊢
      cases decided : verdict setup (data.take 2048) with
      | forwarded family packet peer =>
        rw [decided] at loud
        cases loud with
        | sent rest =>
          cases rest
          exact ⟨rfl, rfl⟩
        | unsent => exact ⟨rfl, rfl⟩
      | unknown target =>
        rw [decided] at loud
        cases loud
        exact ⟨rfl, rfl⟩
      | dropped =>
        rw [decided] at loud
        cases loud
        exact ⟨rfl, rfl⟩

theorem fails_ofSocket {setup : Setup} {family : Family} {event : Option (Scheduled Delivery)}
    (performed : Performed (Deed.ofSocket setup family (event.map Script.deliveryOf)) entries progress) :
    writes entries = (event.bind (Scheduled.inbound? setup family)).toList ∧
      progress.isSome = (event.any Scheduled.readFails || entries.any Entry.hasFailed) := by
  have loud := performed.loud
  rw [loud_ofSocket] at loud
  cases event with
  | none =>
    cases loud
    exact ⟨rfl, rfl⟩
  | some event =>
    simp only [Option.map_some, Script.deliveryOf, Option.bind_some, Option.any_some, Scheduled.inbound?,
      Scheduled.readFails] at loud ⊢
    cases outcome : event.outcome with
    | error cause =>
      rw [outcome] at loud
      cases loud
      exact ⟨rfl, rfl⟩
    | ok delivery =>
      rw [outcome] at loud
      simp only [Except.map, inboundDeeds, roomLength] at loud ⊢
      cases called : inbound setup family (delivery.cut 2044) with
      | none =>
        rw [called] at loud
        cases loud
        exact ⟨rfl, rfl⟩
      | some frame =>
        rw [called] at loud
        cases loud with
        | written rest =>
          cases rest
          exact ⟨rfl, rfl⟩
        | unwritten => exact ⟨rfl, rfl⟩

theorem writes_reads (takings : Takings) : writes takings.reads = [] := by
  obtain ⟨tunnel, socket4, socket6⟩ := takings
  cases tunnel <;> cases socket4 <;> cases socket6 <;> rfl

theorem Iterated.writes {setup : Setup} {before after : Station Script} {iteration : Iteration}
    {ending : Option Ending} (iterated : Iterated setup before iteration after ending) :
    IpTunnel.writes iteration.entries = iteration.frames setup := by
  rw [Iteration.entries, writes_append, writes_append, writes_append, writes_reads, List.nil_append, Iteration.frames]
  obtain ⟨progress, performed, others⟩ := iterated.staged.first
  obtain ⟨nothing, failing⟩ := fails_ofTunnel performed
  change progress.isSome = iteration.tunnelFails setup at failing
  rw [nothing, List.nil_append, ← failing]
  cases progress with
  | some failure =>
    obtain ⟨_, rest⟩ := others
    simp only [List.map_cons, List.map_nil, List.cons.injEq, and_true] at rest
    rw [rest.1, rest.2]
    rfl
  | none =>
    obtain ⟨progress, performed, others⟩ := Staged.first others
    obtain ⟨frames4, failing⟩ := fails_ofSocket performed
    change progress.isSome = iteration.socket4Fails at failing
    rw [frames4, ← failing]
    cases progress with
    | some failure =>
      obtain ⟨_, rest⟩ := others
      simp only [List.map_cons, List.map_nil, List.cons.injEq, and_true] at rest
      rw [rest]
      rfl
    | none =>
      obtain ⟨progress, performed, others⟩ := Staged.first others
      rw [(fails_ofSocket performed).1]
      rfl

-- Everything written is a frame of an event received, and only a failure in the same iteration
-- keeps such a frame from being written.
theorem run_delivers (setup : Setup) (script : Script) :
    ∃ iterations finished,
      Chronicle setup (Forwarder.started setup script) iterations finished (Forwarder.run setup script).2 ∧
      (Forwarder.run setup script).1.host = finished.host ∧
      script.socket4 = iterations.filterMap (·.socket4) ++ finished.host.socket4 ∧
      script.socket6 = iterations.filterMap (·.socket6) ++ finished.host.socket6 ∧
      finished.host.trace = script.trace ++ iterations.flatMap Iteration.entries ∧
      writes (iterations.flatMap Iteration.entries) = iterations.flatMap (Iteration.frames setup) := by
  obtain ⟨iterations, finished, chronicle, outcome⟩ := Forwarder.run_chronicle setup script
  obtain ⟨_, socket4, socket6, trace⟩ := chronicle.told
  refine ⟨iterations, finished, chronicle, by rw [outcome], socket4, socket6, trace, ?_⟩
  rw [writes, List.filterMap_flatMap, List.flatMap_def, List.flatMap_def]
  refine congrArg List.flatten (List.map_congr_left fun iteration member => ?_)
  obtain ⟨_, _, _, iterated⟩ := chronicle.member member
  exact iterated.writes

end IpTunnel

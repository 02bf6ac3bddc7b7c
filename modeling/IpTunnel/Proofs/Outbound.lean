import IpTunnel.Proofs.Chronicle
import IpTunnel.Proofs.Verdict

namespace IpTunnel

def Scheduled.frame? (event : Scheduled Bytes) : Option Bytes :=
  match event.outcome with
  | .ok data => some (data.take 2048)
  | .error _ => none

def Entry.isTunnelRead : Entry → Bool
  | .read .tunnel _ => true
  | _ => false

-- What a tunnel's event calls for: at most one send, or the end of the run.
def outboundDeeds (setup : Setup) (event : Scheduled Bytes) : List Deed :=
  match event.outcome with
  | .error cause => [.fail (.tunnelRead cause)]
  | .ok data => (verdict setup (data.take 2048)).deeds

theorem loud_ofTunnel (setup : Setup) (event : Scheduled Bytes) :
    loud (Deed.ofTunnel setup (some (Script.frameOf event))) = outboundDeeds setup event := by
  unfold Script.frameOf outboundDeeds
  cases event.outcome with
  | error cause => rfl
  | ok data => exact loud_ofFrame setup (data.take bufferLength)

theorem sends_ofVerdict {decided : Verdict} (performed : Performed decided.deeds entries ending) :
    sends entries = decided.datagram?.toList := by
  cases decided with
  | forwarded family packet peer =>
    cases performed with
    | sent rest =>
      cases rest
      rfl
    | unsent => rfl
  | unknown target =>
    cases performed
    rfl
  | dropped =>
    cases performed
    rfl

theorem ending_ofUnknown {target : IpAddress} (performed : Performed (Verdict.unknown target).deeds entries ending) :
    ending = some (.failed (.peerNotFound target)) := by
  cases performed
  rfl

theorem sends_ofTunnel {setup : Setup} {event : Option (Scheduled Bytes)}
    (performed : Performed (Deed.ofTunnel setup (event.map Script.frameOf)) entries ending) :
    sends entries = ((event.bind Scheduled.frame?).bind fun frame => (verdict setup frame).datagram?).toList := by
  cases event with
  | none =>
    cases performed
    rfl
  | some event =>
    have loud := performed.loud
    rw [Option.map_some, loud_ofTunnel] at loud
    unfold outboundDeeds at loud
    simp only [Scheduled.frame?, Option.bind_some]
    cases outcome : event.outcome with
    | error cause =>
      rw [outcome] at loud
      cases loud
      rfl
    | ok data =>
      rw [outcome] at loud
      exact sends_ofVerdict loud

theorem sends_ofSocket {setup : Setup} {family : Family} {event : Option (Except IoError Delivery)}
    (performed : Performed (Deed.ofSocket setup family event) entries ending) : sends entries = [] := by
  have loud := performed.loud
  rw [loud_ofSocket] at loud
  cases event with
  | none =>
    cases loud
    rfl
  | some outcome =>
    cases outcome with
    | error cause =>
      cases loud
      rfl
    | ok delivery =>
      simp only [inboundDeeds] at loud
      cases called : inbound setup family delivery with
      | none =>
        rw [called] at loud
        cases loud
        rfl
      | some frame =>
        rw [called] at loud
        cases loud with
        | written rest =>
          cases rest
          rfl
        | unwritten => rfl

theorem sends_reads (takings : Takings) : sends takings.reads = [] := by
  obtain ⟨tunnel, socket4, socket6⟩ := takings
  cases tunnel <;> cases socket4 <;> cases socket6 <;> rfl

theorem tunnelReads_reads (takings : Takings) :
    takings.reads.filter Entry.isTunnelRead = (takings.tunnel.map Takings.readTunnel).toList := by
  obtain ⟨tunnel, socket4, socket6⟩ := takings
  cases tunnel <;> cases socket4 <;> cases socket6 <;> rfl

theorem tunnelReads_performed (performed : Performed deeds entries ending) :
    entries.filter Entry.isTunnelRead = [] := by
  induction performed with
  | nil => rfl
  | say rest ih => exact ih
  | capture rest ih => exact ih
  | sent rest ih => exact ih
  | unsent => rfl
  | written rest ih => exact ih
  | unwritten => rfl
  | fail => rfl
  | overrun => rfl

namespace Iterated

variable {setup : Setup} {before after : Station Script} {iteration : Iteration} {ending : Option Ending}

theorem sends (iterated : Iterated setup before iteration after ending) :
    IpTunnel.sends iteration.entries =
      ((iteration.tunnel.bind Scheduled.frame?).bind fun frame => (verdict setup frame).datagram?).toList := by
  obtain ⟨progress, performed, _⟩ := iterated.staged.first
  have others : ∀ part ∈ [iteration.for4, iteration.for6], IpTunnel.sends part = [] := by
    refine iterated.staged.behind rfl ?_
    intro deeds member entries progress performed
    simp only [List.mem_cons, List.not_mem_nil, or_false] at member
    rcases member with rfl | rfl <;> exact sends_ofSocket performed
  rw [Iteration.entries, sends_append, sends_append, sends_append, sends_reads, others iteration.for4 (by simp),
    others iteration.for6 (by simp), List.nil_append, List.append_nil, List.append_nil]
  exact sends_ofTunnel performed

theorem tunnelReads (iterated : Iterated setup before iteration after ending) :
    iteration.entries.filter Entry.isTunnelRead = (iteration.tunnel.map Takings.readTunnel).toList := by
  have effects : ∀ part ∈ [iteration.forTunnel, iteration.for4, iteration.for6],
      part.filter Entry.isTunnelRead = [] :=
    iterated.staged.each rfl fun _ _ _ _ performed => tunnelReads_performed performed
  rw [Iteration.entries, List.filter_append, List.filter_append, List.filter_append, tunnelReads_reads,
    effects iteration.forTunnel (by simp), effects iteration.for4 (by simp), effects iteration.for6 (by simp)]
  simp

theorem unknown (iterated : Iterated setup before iteration after ending) {event : Scheduled Bytes} {frame : Bytes}
    {target : IpAddress} (taken : iteration.tunnel = some event) (delivered : event.frame? = some frame)
    (missed : verdict setup frame = .unknown target) : ending = some (.failed (.peerNotFound target)) := by
  obtain ⟨progress, performed, finished⟩ := iterated.staged.first
  have loud := performed.loud
  have pulled : iteration.intake.tunnel = some (Script.frameOf event) := by
    rw [Iteration.intake, Takings.intake, taken]
    rfl
  rw [pulled, loud_ofTunnel, outboundDeeds] at loud
  unfold Scheduled.frame? at delivered
  cases outcome : event.outcome with
  | error cause =>
    rw [outcome] at delivered
    cases delivered
  | ok data =>
    rw [outcome] at delivered loud
    cases delivered
    simp only [missed] at loud
    rw [ending_ofUnknown loud] at finished
    exact finished.1

end Iterated

structure Forwarded (setup : Setup) (taken : List (Scheduled Bytes)) (entries : List Entry) (ending : Ending) :
    Prop where
  reads : entries.filter Entry.isTunnelRead = taken.map Takings.readTunnel
  sends : sends entries = (taken.filterMap Scheduled.frame?).filterMap fun frame => (verdict setup frame).datagram?
  unknown : ∀ earlier event later frame target, taken = earlier ++ event :: later → event.frame? = some frame →
    verdict setup frame = .unknown target → later = [] ∧ ending = .failed (.peerNotFound target)

theorem Chronicle.forwarded {setup : Setup} {before after : Run Script} {iterations : List Iteration}
    {ending : Ending} (chronicle : Chronicle setup before iterations after ending) :
    Forwarded setup (iterations.filterMap (·.tunnel)) (iterations.flatMap Iteration.entries) ending := by
  refine ⟨?_, ?_, ?_⟩
  · rw [List.filter_flatMap, List.map_filterMap]
    refine flatMap_eq_filterMap fun iteration member => ?_
    obtain ⟨_, _, _, iterated⟩ := chronicle.member member
    exact iterated.tunnelReads
  · rw [IpTunnel.sends, List.filterMap_flatMap, List.filterMap_filterMap, List.filterMap_filterMap]
    refine flatMap_eq_filterMap fun iteration member => ?_
    obtain ⟨_, _, _, iterated⟩ := chronicle.member member
    rw [← Option.bind_assoc]
    exact iterated.sends
  · intro earlier event later frame target place delivered missed
    obtain ⟨front, back, rfl, rfl, split⟩ := List.filterMap_eq_append_iff.mp place
    obtain ⟨skipped, iteration, rest, rfl, _, taken, rfl⟩ := List.filterMap_eq_cons_iff.mp split
    have place : front ++ (skipped ++ iteration :: rest) = (front ++ skipped) ++ iteration :: rest :=
      (List.append_assoc _ _ _).symm
    obtain ⟨start, stop, progress, iterated, final⟩ := chronicle.iterated place
    obtain ⟨last, finished⟩ := final _ (iterated.unknown taken delivered missed)
    rw [last]
    exact ⟨rfl, finished⟩

-- Everything sent is a datagram of a frame read, in the order of the frames, and nothing else is;
-- a frame without a peer is the last one.
theorem run_forwards (setup : Setup) (script : Script) :
    ∃ iterations finished,
      Chronicle setup (Forwarder.started setup script) iterations finished (Forwarder.run setup script).2 ∧
      (Forwarder.run setup script).1.host = finished.host ∧
      script.tunnel = iterations.filterMap (·.tunnel) ++ finished.host.tunnel ∧
      finished.host.trace = script.trace ++ iterations.flatMap Iteration.entries ∧
      Forwarded setup (iterations.filterMap (·.tunnel)) (iterations.flatMap Iteration.entries)
        (Forwarder.run setup script).2 := by
  obtain ⟨iterations, finished, chronicle, outcome⟩ := Forwarder.run_chronicle setup script
  obtain ⟨tunnel, _, _, trace⟩ := chronicle.told
  exact ⟨iterations, finished, chronicle, by rw [outcome], tunnel, trace, chronicle.forwarded⟩

end IpTunnel

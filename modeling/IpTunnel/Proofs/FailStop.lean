import IpTunnel.Proofs.Standing

namespace IpTunnel

-- Every error comes from outside: from a device, or from a destination that no peer has. Neither the
-- octets of a datagram nor those of a report can bring one about.
inductive Blamed (setup : Setup) (script : Script) (entries : List Entry) : TunnelError → Prop where
  | tunnelRead (planned : event ∈ script.tunnel) (failed : event.outcome = .error cause) :
      Blamed setup script entries (.tunnelRead cause)
  | peerNotFound (planned : event ∈ script.tunnel) (delivered : event.frame? = some frame)
      (missed : verdict setup frame = .unknown target) : Blamed setup script entries (.peerNotFound target)
  | socketRead (planned : event ∈ script.socket family) (failed : event.outcome = .error cause) :
      Blamed setup script entries (.socketRead cause)
  | socketWrite (failed : .send family packet peer (.error cause) ∈ entries) :
      Blamed setup script entries (.socketWrite cause)
  | tunnelWrite (failed : .write frame (.error cause) ∈ entries) : Blamed setup script entries (.tunnelWrite cause)

theorem blamed_entry {setup : Setup} {script : Script} {entries effects : List Entry}
    (kept : ∀ entry ∈ effects, entry ∈ entries) (failed : effects.findSome? Entry.fault? = some cause) :
    Blamed setup script entries cause := by
  obtain ⟨entry, member, fault⟩ := List.exists_of_findSome?_eq_some failed
  have among := kept entry member
  cases entry with
  | read device outcome => cases fault
  | send family packet peer outcome =>
    cases outcome with
    | ok => cases fault
    | error cause =>
      cases fault
      exact .socketWrite among
  | write frame outcome =>
    cases outcome with
    | ok => cases fault
    | error cause =>
      cases fault
      exact .tunnelWrite among

namespace Step

def Planned (script : Script) : Step → Prop
  | .tunnel event _ => event ∈ script.tunnel
  | .socket family event _ => event ∈ script.socket family

theorem blamed {setup : Setup} {script : Script} {entries : List Entry} {step : Step} {cause : TunnelError}
    (planned : step.Planned script) (kept : ∀ entry ∈ step.effects, entry ∈ entries)
    (failed : step.fault? setup = some cause) : Blamed setup script entries cause := by
  cases step with
  | tunnel event effects =>
    simp only [fault?] at failed
    cases outcome : event.outcome with
    | error problem =>
      rw [outcome] at failed
      cases failed
      exact .tunnelRead planned outcome
    | ok data =>
      rw [outcome] at failed
      simp only at failed
      cases decided : verdict setup (data.take 2048) with
      | unknown target =>
        rw [decided] at failed
        cases failed
        have delivered : event.frame? = some (data.take 2048) := by rw [Scheduled.frame?, outcome]
        exact .peerNotFound planned delivered decided
      | forwarded family packet peer =>
        rw [decided] at failed
        exact blamed_entry kept failed
      | dropped =>
        rw [decided] at failed
        exact blamed_entry kept failed
  | socket family event effects =>
    simp only [fault?] at failed
    cases outcome : event.outcome with
    | error problem =>
      rw [outcome] at failed
      cases failed
      exact .socketRead planned outcome
    | ok delivery =>
      rw [outcome] at failed
      exact blamed_entry kept failed

end Step

theorem Chronicle.planned {setup : Setup} {before after : Run Script} {iterations : List Iteration}
    {ending : Ending} (chronicle : Chronicle setup before iterations after ending) :
    ∀ step ∈ iterations.flatMap Iteration.steps, step.Planned before.host := by
  obtain ⟨tunnel, _, _, _⟩ := chronicle.told
  intro step member
  obtain ⟨iteration, among, place⟩ := List.mem_flatMap.mp member
  cases step with
  | tunnel event effects =>
    have taken := Iteration.mem_tunnel place
    rw [Step.Planned, tunnel]
    exact List.mem_append_left _ (List.mem_filterMap.mpr ⟨iteration, among, taken⟩)
  | socket family event effects =>
    have taken := Iteration.mem_socket place
    rw [Step.Planned, chronicle.told_socket family]
    exact List.mem_append_left _ (List.mem_filterMap.mpr ⟨iteration, among, taken⟩)

structure FailStop (setup : Setup) (script : Script) (iterations : List Iteration) (ending : Ending) : Prop where
  decided : ∀ cause, ending = .failed cause ↔
    (iterations.flatMap Iteration.steps).findSome? (Step.fault? setup) = some cause
  -- The trace ends with what the failing step left; steps of the same iteration behind it are not begun.
  stopped : ∀ cause, ending = .failed cause → ∃ previous last passed step missed,
    iterations = previous ++ [last] ∧ last.steps = passed ++ step :: missed ∧
      (∀ other ∈ previous.flatMap Iteration.steps ++ passed, Went setup other none) ∧
      Went setup step (some cause) ∧
      iterations.flatMap Iteration.entries = previous.flatMap Iteration.entries ++
        (last.steps.map Step.read ++ (passed ++ [step]).flatMap Step.effects)
  sound : (∀ cause, ending ≠ .failed cause) → ∀ step ∈ iterations.flatMap Iteration.steps, Went setup step none
  blamed : ∀ cause, ending = .failed cause → Blamed setup script (iterations.flatMap Iteration.entries) cause
  -- The buffers have room for everything, and the loop is not left waiting for nothing.
  whole : ending ≠ .overran
  unstuck : script.Fits setup → (setup.idleTimeout.isSome ∨ ∃ due, script.shutdown = some (due, .requested)) →
    ending ≠ .stuck

theorem Chronicle.failStop {setup : Setup} {script : Script} {finished : Run Script} {iterations : List Iteration}
    {ending : Ending} (chronicle : Chronicle setup (Forwarder.started setup script) iterations finished ending) :
    FailStop setup script iterations ending := by
  obtain ⟨fault, dealt, decides⟩ := chronicle.dealt
  refine ⟨?_, ?_, ?_, ?_, chronicle.whole, chronicle.unstuck⟩
  · intro cause
    rw [dealt.fault_eq]
    exact decides cause
  · intro cause failed
    obtain ⟨previous, last, rfl, done, broken⟩ := chronicle.failed failed
    obtain ⟨_, _, _, iterated⟩ := chronicle.member (List.mem_append_right previous (List.mem_singleton_self last))
    obtain ⟨passed, step, missed, place, before, wrong, idle⟩ := broken.broken
    refine ⟨previous, last, passed, step, missed, rfl, place, ?_, wrong, ?_⟩
    · intro other member
      rcases List.mem_append.mp member with member | member
      · exact done.each other member
      · exact before other member
    · have effects : last.steps.flatMap Step.effects = (passed ++ [step]).flatMap Step.effects := by
        simp only [place, List.flatMap_append, List.flatMap_cons, List.flatMap_nil, flatMap_idle idle, List.append_nil]
      rw [List.flatMap_append, List.flatMap_cons, List.flatMap_nil, List.append_nil, iterated.entries_eq, effects]
  · intro calm
    cases fault with
    | none => exact dealt.each
    | some cause => exact absurd ((decides cause).mpr rfl) (calm cause)
  · intro cause failed
    have broken := (decides cause).mp failed
    subst broken
    obtain ⟨passed, step, missed, place, _, wrong, _⟩ := dealt.broken
    have member : step ∈ iterations.flatMap Iteration.steps := by
      rw [place]
      exact List.mem_append_right _ (List.mem_cons_self ..)
    refine Step.blamed (chronicle.planned step member) ?_ wrong.fault_eq
    intro entry left
    obtain ⟨iteration, among, taken⟩ := List.mem_flatMap.mp member
    obtain ⟨_, _, _, iterated⟩ := chronicle.member among
    refine List.mem_flatMap.mpr ⟨iteration, among, ?_⟩
    rw [iterated.entries_eq]
    exact List.mem_append_right _ (List.mem_flatMap.mpr ⟨step, taken, left⟩)

-- The first step that fails decides how the run ends, it is the last one that is begun, and the session
-- is stopped however the run ended.
theorem run_failStop (setup : Setup) (script : Script) :
    ∃ iterations finished,
      Chronicle setup (Forwarder.started setup script) iterations finished (Forwarder.run setup script).2 ∧
      (Forwarder.run setup script).1.host = finished.host ∧
      (Forwarder.run setup script).1.session.phase = .stopped ∧
      finished.host.trace = script.trace ++ iterations.flatMap Iteration.entries ∧
      FailStop setup script iterations (Forwarder.run setup script).2 := by
  obtain ⟨iterations, finished, chronicle, outcome⟩ := Forwarder.run_chronicle setup script
  obtain ⟨_, _, _, trace⟩ := chronicle.told
  refine ⟨iterations, finished, chronicle, ?_, ?_, trace, chronicle.failStop⟩
  · rw [outcome]
  · rw [outcome]

end IpTunnel

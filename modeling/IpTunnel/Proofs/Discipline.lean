import IpTunnel.Proofs.Steps

namespace IpTunnel

def Entry.isRead : Entry → Bool
  | .read .. => true
  | _ => false

structure Unread where
  tunnel : List (Scheduled Bytes)
  socket : Family → List (Scheduled Delivery)

def Script.unread (script : Script) (iterations : List Iteration) : Unread where
  tunnel := script.tunnel.drop (iterations.filterMap (·.tunnel)).length
  socket family := (script.socket family).drop (iterations.filterMap (·.socket family)).length

-- What an iteration reads and does, given the events that were unread before it.
structure Disciplined (setup : Setup) (unread : Unread) (iteration : Iteration) : Prop where
  tunnel : iteration.tunnel = Script.due? iteration.moment unread.tunnel
  socket : ∀ family, iteration.socket family =
    if setup.hasSocket family then Script.due? iteration.moment (unread.socket family) else none
  entries : iteration.entries = iteration.steps.map Step.read ++ iteration.steps.flatMap Step.effects
  single : ∀ step ∈ iteration.steps, step.effects.length ≤ 1 ∧ ∀ entry ∈ step.effects, entry.isRead = false
  processed : ∀ passed step behind, iteration.steps = passed ++ step :: behind →
    if passed.findSome? (Step.fault? setup) = none then ∃ outcome, step.effects = step.called setup outcome
    else step.effects = []

namespace Step

theorem length_called (setup : Setup) (outcome : Except IoError Unit) (step : Step) :
    (step.called setup outcome).length ≤ 1 := by
  cases step with
  | tunnel event effects => exact Option.length_toList_le
  | socket family event effects => exact Option.length_toList_le

theorem called_unread (setup : Setup) (outcome : Except IoError Unit) (step : Step) :
    ∀ entry ∈ step.called setup outcome, entry.isRead = false := by
  intro entry member
  cases step with
  | tunnel event effects =>
    obtain ⟨sent, _, rfl⟩ := Option.map_eq_some_iff.mp (Option.mem_toList.mp member)
    rfl
  | socket family event effects =>
    obtain ⟨frame, _, rfl⟩ := Option.map_eq_some_iff.mp (Option.mem_toList.mp member)
    rfl

end Step

namespace Dealt

variable {setup : Setup} {steps : List Step} {fault : Option TunnelError}

theorem processed (dealt : Dealt setup steps fault) (place : steps = passed ++ step :: behind) :
    if passed.findSome? (Step.fault? setup) = none then ∃ outcome, step.effects = step.called setup outcome
    else step.effects = [] := by
  have turn := dealt.turn place
  by_cases sound : passed.findSome? (Step.fault? setup) = none
  · rw [if_pos sound] at turn ⊢
    obtain ⟨progress, went⟩ := turn
    exact went.called
  · rw [if_neg sound] at turn ⊢
    exact turn

theorem single (dealt : Dealt setup steps fault) :
    ∀ step ∈ steps, step.effects.length ≤ 1 ∧ ∀ entry ∈ step.effects, entry.isRead = false := by
  intro step member
  obtain ⟨passed, behind, place⟩ := List.append_of_mem member
  have turn := dealt.processed place
  by_cases sound : passed.findSome? (Step.fault? setup) = none
  · rw [if_pos sound] at turn
    obtain ⟨outcome, effects⟩ := turn
    rw [effects]
    exact ⟨step.length_called setup outcome, step.called_unread setup outcome⟩
  · rw [if_neg sound] at turn
    rw [turn]
    exact ⟨Nat.zero_le _, nofun⟩

end Dealt

namespace Chronicle

variable {setup : Setup} {before after : Run Script} {iterations : List Iteration} {ending : Ending}

-- The iterations before one have taken what stands in front of the events that it finds.
theorem reaches (chronicle : Chronicle setup before iterations after ending)
    (place : iterations = earlier ++ iteration :: later) :
    ∃ start stop progress, Iterated setup start iteration stop progress ∧
      before.host.tunnel = earlier.filterMap (·.tunnel) ++ start.host.tunnel ∧
      ∀ family, before.host.socket family = earlier.filterMap (·.socket family) ++ start.host.socket family := by
  induction chronicle generalizing earlier with
  | halt step halted => simp at place
  | last step iterated =>
    cases earlier with
    | nil =>
      cases place
      exact ⟨_, _, _, iterated, rfl, fun _ => rfl⟩
    | cons head tail => simp at place
  | next step iterated rest ih =>
    cases earlier with
    | nil =>
      cases place
      exact ⟨_, _, _, iterated, rfl, fun _ => rfl⟩
    | cons head tail =>
      rw [List.cons_append, List.cons.injEq] at place
      obtain ⟨rfl, place⟩ := place
      obtain ⟨start, stop, progress, reached, tunnel, socket⟩ := ih place
      refine ⟨start, stop, progress, reached, ?_, ?_⟩
      · rw [filterMap_cons_toList, List.append_assoc, ← tunnel]
        exact iterated.tunnel
      · intro family
        rw [filterMap_cons_toList, List.append_assoc, ← socket family]
        exact iterated.socket family

theorem moments (chronicle : Chronicle setup before iterations after ending) :
    (before.host.now :: iterations.map (·.moment)).Pairwise (· ≤ ·) := by
  induction chronicle with
  | halt step halted => exact List.pairwise_singleton ..
  | last step iterated =>
    refine List.pairwise_cons.mpr ⟨?_, List.pairwise_singleton ..⟩
    intro moment member
    rw [List.mem_singleton.mp member]
    exact iterated.onward
  | next step iterated rest ih =>
    have onward := iterated.onward
    have reached : _ = _ := iterated.now
    refine List.pairwise_cons.mpr ⟨?_, ?_⟩
    · intro moment member
      rcases List.mem_cons.mp member with rfl | member
      · exact onward
      · apply Nat.le_trans onward
        rw [← reached]
        exact (List.pairwise_cons.mp ih).1 moment member
    · rw [List.map_cons, ← reached]
      exact ih

theorem disciplined (chronicle : Chronicle setup before iterations after ending)
    (place : iterations = earlier ++ iteration :: later) :
    Disciplined setup (before.host.unread earlier) iteration := by
  obtain ⟨start, stop, progress, iterated, tunnel, socket⟩ := chronicle.reaches place
  obtain ⟨fault, _, dealt, _⟩ := iterated.settled
  have taken := iterated.taken
  refine ⟨?_, ?_, iterated.entries_eq, dealt.single, fun _ _ _ place => dealt.processed place⟩
  · simp only [Script.unread, tunnel, List.drop_left]
    exact congrArg Takings.tunnel taken
  · intro family
    simp only [Script.unread, socket family, List.drop_left]
    cases family with
    | v4 => exact congrArg Takings.socket4 taken
    | v6 => exact congrArg Takings.socket6 taken

theorem absent (chronicle : Chronicle setup before iterations after ending) {family : Family}
    (missing : setup.hasSocket family = false) : ∀ iteration ∈ iterations, iteration.socket family = none := by
  intro iteration member
  obtain ⟨earlier, later, place⟩ := List.append_of_mem member
  rw [(chronicle.disciplined place).socket family, missing]
  rfl

theorem unread_absent (chronicle : Chronicle setup before iterations after ending) {family : Family}
    (missing : setup.hasSocket family = false) (outcome : Except IoError Nat) :
    Entry.read (.socket family) outcome ∉ iterations.flatMap Iteration.entries := by
  intro member
  obtain ⟨iteration, among, entry⟩ := List.mem_flatMap.mp member
  obtain ⟨earlier, later, place⟩ := List.append_of_mem among
  have disciplined := chronicle.disciplined place
  have nothing := chronicle.absent missing iteration among
  rw [disciplined.entries] at entry
  rcases List.mem_append.mp entry with read | effect
  · obtain ⟨step, taken, same⟩ := List.mem_map.mp read
    cases step with
    | tunnel event effects => cases same
    | socket other event effects =>
      obtain rfl : other = family := by
        simp only [Step.read, Takings.readSocket, Script.readOf, Entry.read.injEq, Device.socket.injEq] at same
        exact same.1
      rw [Iteration.mem_socket taken] at nothing
      cases nothing
  · obtain ⟨step, taken, left⟩ := List.mem_flatMap.mp effect
    have effects := (disciplined.single step taken).2 _ left
    cases effects

end Chronicle

-- What a run reads of each device is a prefix of what was planned, each event once, in order, and in the
-- iteration that also deals with it.
structure Orderly (setup : Setup) (script : Script) (iterations : List Iteration) (finished : Script) : Prop where
  tunnel : script.tunnel = iterations.filterMap (·.tunnel) ++ finished.tunnel
  socket : ∀ family, script.socket family = iterations.filterMap (·.socket family) ++ finished.socket family
  trace : finished.trace = script.trace ++ iterations.flatMap Iteration.entries
  moments : (script.now :: iterations.map (·.moment)).Pairwise (· ≤ ·)
  each : ∀ earlier iteration later, iterations = earlier ++ iteration :: later →
    Disciplined setup (script.unread earlier) iteration
  absent : ∀ family, setup.hasSocket family = false → finished.socket family = script.socket family ∧
    ∀ outcome, .read (.socket family) outcome ∉ iterations.flatMap Iteration.entries

theorem Chronicle.orderly {setup : Setup} {script : Script} {iterations : List Iteration} {finished : Run Script}
    {ending : Ending} (chronicle : Chronicle setup (Forwarder.started setup script) iterations finished ending) :
    Orderly setup script iterations finished.host := by
  obtain ⟨tunnel, _, _, trace⟩ := chronicle.told
  refine ⟨tunnel, ?_, trace, chronicle.moments, ?_, ?_⟩
  · intro family
    cases family with
    | v4 => exact chronicle.told_socket .v4
    | v6 => exact chronicle.told_socket .v6
  · intro earlier iteration later place
    exact chronicle.disciplined place
  · intro family missing
    refine ⟨?_, chronicle.unread_absent missing⟩
    have nothing : iterations.filterMap (·.socket family) = [] :=
      List.filterMap_eq_nil_iff.mpr (chronicle.absent missing)
    have told := chronicle.told_socket family
    rw [nothing, List.nil_append] at told
    cases family with
    | v4 => exact told.symm
    | v6 => exact told.symm

theorem run_disciplined (setup : Setup) (script : Script) :
    ∃ iterations finished,
      Chronicle setup (Forwarder.started setup script) iterations finished (Forwarder.run setup script).2 ∧
      (Forwarder.run setup script).1.host = finished.host ∧
      Orderly setup script iterations finished.host := by
  obtain ⟨iterations, finished, chronicle, outcome⟩ := Forwarder.run_chronicle setup script
  exact ⟨iterations, finished, chronicle, by rw [outcome], chronicle.orderly⟩

end IpTunnel

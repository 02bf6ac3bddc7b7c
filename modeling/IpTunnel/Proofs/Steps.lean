import IpTunnel.Proofs.Inbound

namespace IpTunnel

def Entry.fault? : Entry → Option TunnelError
  | .send _ _ _ (.error cause) => some (.socketWrite cause)
  | .write _ (.error cause) => some (.tunnelWrite cause)
  | _ => none

-- An event, with what it left in the trace behind the reads.
inductive Step where
  | tunnel (event : Scheduled Bytes) (effects : List Entry)
  | socket (family : Family) (event : Scheduled Delivery) (effects : List Entry)

namespace Step

def effects : Step → List Entry
  | .tunnel _ effects => effects
  | .socket _ _ effects => effects

def read : Step → Entry
  | .tunnel event _ => Takings.readTunnel event
  | .socket family event _ => Takings.readSocket family event

-- What the event calls for: one send or write, which comes to this outcome, or nothing at all.
def called (setup : Setup) (outcome : Except IoError Unit) : Step → List Entry
  | .tunnel event _ =>
    ((event.frame?.bind fun frame => (verdict setup frame).datagram?).map fun (family, packet, peer) =>
      Entry.send family packet peer outcome).toList
  | .socket family event _ => ((event.inbound? setup family).map (Entry.write · outcome)).toList

-- A step fails by its read, for want of a peer, or by what it sends or writes; what was read does not
-- matter otherwise.
def fault? (setup : Setup) : Step → Option TunnelError
  | .tunnel event effects =>
    match event.outcome with
    | .error cause => some (.tunnelRead cause)
    | .ok data =>
      match verdict setup (data.take 2048) with
      | .unknown target => some (.peerNotFound target)
      | _ => effects.findSome? Entry.fault?
  | .socket _ event effects =>
    match event.outcome with
    | .error cause => some (.socketRead cause)
    | .ok _ => effects.findSome? Entry.fault?

end Step

inductive Went (setup : Setup) (step : Step) : Option TunnelError → Prop where
  | well (fault : step.fault? setup = none) (effects : step.effects = step.called setup (.ok ())) :
      Went setup step none
  | wrong (fault : step.fault? setup = some cause) (effects : ∃ outcome, step.effects = step.called setup outcome) :
      Went setup step (some cause)

theorem Went.fault_eq (went : Went setup step fault) : step.fault? setup = fault := by
  cases went with
  | well fault _ => exact fault
  | wrong fault _ => exact fault

theorem Went.called (went : Went setup step fault) : ∃ outcome, step.effects = step.called setup outcome := by
  cases went with
  | well _ effects => exact ⟨_, effects⟩
  | wrong _ effects => exact effects

theorem tunnel_went {setup : Setup} {event : Scheduled Bytes}
    (performed : Performed (Deed.ofTunnel setup (some (Script.frameOf event))) entries progress) :
    ∃ fault, progress = fault.map Ending.failed ∧ Went setup (.tunnel event entries) fault := by
  have loud := performed.loud
  rw [loud_ofTunnel, outboundDeeds] at loud
  cases outcome : event.outcome with
  | error cause =>
    rw [outcome] at loud
    cases loud
    refine ⟨some (.tunnelRead cause), rfl, .wrong ?_ ⟨.ok (), ?_⟩⟩
    · simp [Step.fault?, outcome]
    · simp [Step.effects, Step.called, Scheduled.frame?, outcome]
  | ok data =>
    rw [outcome] at loud
    simp only at loud
    cases decided : verdict setup (data.take 2048) with
    | forwarded family packet peer =>
      rw [decided] at loud
      cases loud with
      | sent rest =>
        cases rest
        refine ⟨none, rfl, .well ?_ ?_⟩
        · simp [Step.fault?, outcome, decided, Entry.fault?]
        · simp [Step.effects, Step.called, Scheduled.frame?, outcome, decided, Verdict.datagram?]
      | unsent =>
        rename_i cause
        refine ⟨some (.socketWrite cause), rfl, .wrong ?_ ⟨.error cause, ?_⟩⟩
        · simp [Step.fault?, outcome, decided, Entry.fault?]
        · simp [Step.effects, Step.called, Scheduled.frame?, outcome, decided, Verdict.datagram?]
    | unknown target =>
      rw [decided] at loud
      cases loud
      refine ⟨some (.peerNotFound target), rfl, .wrong ?_ ⟨.ok (), ?_⟩⟩
      · simp [Step.fault?, outcome, decided]
      · simp [Step.effects, Step.called, Scheduled.frame?, outcome, decided, Verdict.datagram?]
    | dropped =>
      rw [decided] at loud
      cases loud
      refine ⟨none, rfl, .well ?_ ?_⟩
      · simp [Step.fault?, outcome, decided]
      · simp [Step.effects, Step.called, Scheduled.frame?, outcome, decided, Verdict.datagram?]

theorem socket_went {setup : Setup} {family : Family} {event : Scheduled Delivery}
    (performed : Performed (Deed.ofSocket setup family (some (Script.deliveryOf event))) entries progress) :
    ∃ fault, progress = fault.map Ending.failed ∧ Went setup (.socket family event entries) fault := by
  have loud := performed.loud
  rw [loud_ofSocket] at loud
  unfold Script.deliveryOf at loud
  cases outcome : event.outcome with
  | error cause =>
    rw [outcome] at loud
    cases loud
    refine ⟨some (.socketRead cause), rfl, .wrong ?_ ⟨.ok (), ?_⟩⟩
    · simp [Step.fault?, outcome]
    · simp [Step.effects, Step.called, Scheduled.inbound?, outcome]
  | ok delivery =>
    rw [outcome] at loud
    simp only [Except.map, inboundDeeds, roomLength] at loud
    cases called : inbound setup family (delivery.cut 2044) with
    | none =>
      rw [called] at loud
      cases loud
      refine ⟨none, rfl, .well ?_ ?_⟩
      · simp [Step.fault?, outcome]
      · simp [Step.effects, Step.called, Scheduled.inbound?, outcome, called]
    | some frame =>
      rw [called] at loud
      cases loud with
      | written rest =>
        cases rest
        refine ⟨none, rfl, .well ?_ ?_⟩
        · simp [Step.fault?, outcome, Entry.fault?]
        · simp [Step.effects, Step.called, Scheduled.inbound?, outcome, called]
      | unwritten =>
        rename_i cause
        refine ⟨some (.tunnelWrite cause), rfl, .wrong ?_ ⟨.error cause, ?_⟩⟩
        · simp [Step.fault?, outcome, Entry.fault?]
        · simp [Step.effects, Step.called, Scheduled.inbound?, outcome, called]

-- Steps in their order. The first one that fails is the last one that is begun.
inductive Dealt (setup : Setup) : List Step → Option TunnelError → Prop where
  | nil : Dealt setup [] none
  | next (went : Went setup step none) (rest : Dealt setup steps fault) : Dealt setup (step :: steps) fault
  | last (went : Went setup step (some cause)) (idle : ∀ other ∈ steps, other.effects = []) :
      Dealt setup (step :: steps) (some cause)

namespace Dealt

variable {setup : Setup} {steps later : List Step} {fault : Option TunnelError} {cause : TunnelError}

theorem one (went : Went setup step fault) : Dealt setup [step] fault := by
  cases fault with
  | none => exact .next went .nil
  | some cause => exact .last went nofun

theorem append (first : Dealt setup steps none) (second : Dealt setup later fault) :
    Dealt setup (steps ++ later) fault := by
  induction steps with
  | nil => exact second
  | cons step rest ih =>
    cases first with
    | next went others => exact .next went (ih others)

theorem abandon (broken : Dealt setup steps (some cause)) (idle : ∀ step ∈ later, step.effects = []) :
    Dealt setup (steps ++ later) (some cause) := by
  induction steps with
  | nil => cases broken
  | cons step rest ih =>
    cases broken with
    | next went others => exact .next went (ih others)
    | last went unbegun =>
      refine .last went ?_
      intro other member
      rcases List.mem_append.mp member with member | member
      · exact unbegun other member
      · exact idle other member

-- The first fault decides, whatever else may have failed.
theorem fault_eq (dealt : Dealt setup steps fault) : steps.findSome? (Step.fault? setup) = fault := by
  induction dealt with
  | nil => rfl
  | next went rest ih => rw [List.findSome?_cons, went.fault_eq, ih]
  | last went idle => rw [List.findSome?_cons, went.fault_eq]

theorem each (dealt : Dealt setup steps none) : ∀ step ∈ steps, Went setup step none := by
  induction steps with
  | nil => exact nofun
  | cons step rest ih =>
    cases dealt with
    | next went others =>
      intro other member
      rcases List.mem_cons.mp member with rfl | member
      · exact went
      · exact ih others other member

theorem broken (dealt : Dealt setup steps (some cause)) :
    ∃ passed step missed, steps = passed ++ step :: missed ∧ (∀ other ∈ passed, Went setup other none) ∧
      Went setup step (some cause) ∧ ∀ other ∈ missed, other.effects = [] := by
  induction steps with
  | nil => cases dealt
  | cons step rest ih =>
    cases dealt with
    | next went others =>
      obtain ⟨passed, failed, missed, rfl, done, wrong, idle⟩ := ih others
      refine ⟨step :: passed, failed, missed, rfl, ?_, wrong, idle⟩
      intro other member
      rcases List.mem_cons.mp member with rfl | member
      · exact went
      · exact done other member
    | last went idle => exact ⟨[], step, rest, rfl, nofun, went, idle⟩

theorem turn (dealt : Dealt setup steps fault) (place : steps = passed ++ step :: behind) :
    if passed.findSome? (Step.fault? setup) = none then ∃ progress, Went setup step progress
    else step.effects = [] := by
  induction passed generalizing steps with
  | nil =>
    simp only [List.findSome?_nil, if_true]
    subst place
    cases dealt with
    | next went rest => exact ⟨_, went⟩
    | last went idle => exact ⟨_, went⟩
  | cons head tail ih =>
    subst place
    cases dealt with
    | next went rest =>
      rw [List.findSome?_cons, went.fault_eq]
      exact ih rest rfl
    | last went idle =>
      rw [List.findSome?_cons, went.fault_eq, if_neg (Option.some_ne_none _)]
      exact idle step (List.mem_append_right _ (List.mem_cons_self ..))

end Dealt

-- The steps of some devices, one after the other, and what all of them left.
def Settled (setup : Setup) (steps : List Step) (parts : List (List Entry)) (ending : Option Ending) : Prop :=
  ∃ fault, ending = fault.map Ending.failed ∧ Dealt setup steps fault ∧ parts.flatten = steps.flatMap Step.effects

theorem settled_nil (setup : Setup) : Settled setup [] [] none := ⟨none, rfl, .nil, rfl⟩

theorem flatMap_idle {steps : List Step} (idle : ∀ step ∈ steps, step.effects = []) :
    steps.flatMap Step.effects = [] := List.flatMap_eq_nil_iff.mpr idle

theorem Staged.settled {setup : Setup} {steps later : List Step}
    (staged : Staged (deeds :: others) (entries :: parts) ending)
    (turn : ∀ {progress}, Performed deeds entries progress → Settled setup steps [entries] progress)
    (rest : Staged others parts ending → Settled setup later parts ending)
    (idle : (∀ part ∈ parts, part = []) → ∀ step ∈ later, step.effects = []) :
    Settled setup (steps ++ later) (entries :: parts) ending := by
  obtain ⟨progress, performed, remaining⟩ := staged.first
  obtain ⟨fault, came, dealt, left⟩ := turn performed
  rw [List.flatten_cons, List.flatten_nil, List.append_nil] at left
  cases fault with
  | none =>
    obtain rfl : progress = none := came
    obtain ⟨fault, ended, others, behind⟩ := rest remaining
    refine ⟨fault, ended, dealt.append others, ?_⟩
    rw [List.flatten_cons, List.flatMap_append, left, behind]
  | some cause =>
    obtain rfl : progress = some (.failed cause) := came
    obtain ⟨ended, nothing⟩ := remaining
    have empty : ∀ part ∈ parts, part = [] := by
      intro part member
      rw [nothing] at member
      obtain ⟨_, _, same⟩ := List.mem_map.mp member
      exact same.symm
    refine ⟨some cause, ended, dealt.abandon (idle empty), ?_⟩
    rw [List.flatten_cons, List.flatMap_append, left, flatMap_idle (idle empty), List.flatten_eq_nil_iff.mpr empty]

namespace Step

def ofTunnel (event : Option (Scheduled Bytes)) (effects : List Entry) : List Step :=
  (event.map (Step.tunnel · effects)).toList

def ofSocket (family : Family) (event : Option (Scheduled Delivery)) (effects : List Entry) : List Step :=
  (event.map (Step.socket family · effects)).toList

theorem mem_ofTunnel {event : Option (Scheduled Bytes)} {step : Step} (member : step ∈ ofTunnel event entries) :
    ∃ taken, event = some taken ∧ step = .tunnel taken entries := by
  cases event with
  | none => cases member
  | some taken => exact ⟨taken, rfl, List.mem_singleton.mp member⟩

theorem mem_ofSocket {event : Option (Scheduled Delivery)} {step : Step}
    (member : step ∈ ofSocket family event entries) :
    ∃ taken, event = some taken ∧ step = .socket family taken entries := by
  cases event with
  | none => cases member
  | some taken => exact ⟨taken, rfl, List.mem_singleton.mp member⟩

theorem ofTunnel_settled {setup : Setup} {event : Option (Scheduled Bytes)}
    (performed : Performed (Deed.ofTunnel setup (event.map Script.frameOf)) entries progress) :
    Settled setup (ofTunnel event entries) [entries] progress := by
  cases event with
  | none =>
    cases performed
    exact settled_nil setup
  | some event =>
    obtain ⟨fault, came, went⟩ := tunnel_went performed
    exact ⟨fault, came, .one went, rfl⟩

theorem ofSocket_settled {setup : Setup} {family : Family} {event : Option (Scheduled Delivery)}
    (performed : Performed (Deed.ofSocket setup family (event.map Script.deliveryOf)) entries progress) :
    Settled setup (ofSocket family event entries) [entries] progress := by
  cases event with
  | none =>
    cases performed
    exact settled_nil setup
  | some event =>
    obtain ⟨fault, came, went⟩ := socket_went performed
    exact ⟨fault, came, .one went, rfl⟩

theorem ofSocket_idle (family : Family) (event : Option (Scheduled Delivery)) (empty : entries = []) :
    ∀ step ∈ ofSocket family event entries, step.effects = [] := by
  intro step member
  obtain ⟨taken, _, rfl⟩ := mem_ofSocket member
  exact empty

end Step

def Iteration.steps (iteration : Iteration) : List Step :=
  Step.ofTunnel iteration.tunnel iteration.forTunnel ++
    (Step.ofSocket .v4 iteration.socket4 iteration.for4 ++ Step.ofSocket .v6 iteration.socket6 iteration.for6)

theorem Iteration.reads_eq (iteration : Iteration) : iteration.reads = iteration.steps.map Step.read := by
  obtain ⟨⟨tunnel, socket4, socket6⟩, moment, news, forTunnel, for4, for6⟩ := iteration
  cases tunnel <;> cases socket4 <;> cases socket6 <;> rfl

theorem Iteration.mem_tunnel {iteration : Iteration} (member : Step.tunnel event effects ∈ iteration.steps) :
    iteration.tunnel = some event := by
  rcases List.mem_append.mp member with member | member
  · obtain ⟨taken, found, same⟩ := Step.mem_ofTunnel member
    cases same
    exact found
  · rcases List.mem_append.mp member with member | member
    · obtain ⟨_, _, other⟩ := Step.mem_ofSocket member
      cases other
    · obtain ⟨_, _, other⟩ := Step.mem_ofSocket member
      cases other

def Takings.socket (takings : Takings) : Family → Option (Scheduled Delivery)
  | .v4 => takings.socket4
  | .v6 => takings.socket6

theorem Iteration.mem_socket {iteration : Iteration} (member : Step.socket family event effects ∈ iteration.steps) :
    iteration.socket family = some event := by
  rcases List.mem_append.mp member with member | member
  · obtain ⟨_, _, other⟩ := Step.mem_ofTunnel member
    cases other
  · rcases List.mem_append.mp member with member | member
    · obtain ⟨taken, found, same⟩ := Step.mem_ofSocket member
      cases same
      exact found
    · obtain ⟨taken, found, same⟩ := Step.mem_ofSocket member
      cases same
      exact found

theorem Iterated.settled {setup : Setup} {before after : Station Script} {iteration : Iteration}
    {ending : Option Ending} (iterated : Iterated setup before iteration after ending) :
    Settled setup iteration.steps [iteration.forTunnel, iteration.for4, iteration.for6] ending := by
  apply iterated.staged.settled Step.ofTunnel_settled
  · intro staged
    apply staged.settled Step.ofSocket_settled
    · intro staged
      rw [← List.append_nil (Step.ofSocket .v6 iteration.socket6 iteration.for6)]
      apply staged.settled Step.ofSocket_settled
      · intro finished
        cases finished
        exact settled_nil setup
      · exact fun _ => nofun
    · intro empty
      exact Step.ofSocket_idle .v6 iteration.socket6 (empty _ (List.mem_singleton_self _))
  · intro empty step member
    rcases List.mem_append.mp member with member | member
    · exact Step.ofSocket_idle .v4 iteration.socket4 (empty _ (List.mem_cons_self ..)) step member
    · exact Step.ofSocket_idle .v6 iteration.socket6 (empty _ (List.mem_cons_of_mem _ (List.mem_singleton_self _)))
        step member

theorem Iterated.socket {setup : Setup} {before after : Station Script} {iteration : Iteration}
    {ending : Option Ending} (iterated : Iterated setup before iteration after ending) (family : Family) :
    before.host.socket family = (iteration.socket family).toList ++ after.host.socket family := by
  cases family with
  | v4 => exact iterated.socket4
  | v6 => exact iterated.socket6

-- All reads come first, then the effects of one step after the other.
theorem Iterated.entries_eq {setup : Setup} {before after : Station Script} {iteration : Iteration}
    {ending : Option Ending} (iterated : Iterated setup before iteration after ending) :
    iteration.entries = iteration.steps.map Step.read ++ iteration.steps.flatMap Step.effects := by
  obtain ⟨fault, ended, dealt, left⟩ := iterated.settled
  rw [← left, ← iteration.reads_eq]
  simp only [Iteration.entries, List.flatten_cons, List.flatten_nil, List.append_nil]

namespace Chronicle

variable {setup : Setup} {before after : Run Script} {iterations : List Iteration} {ending : Ending}

theorem told_socket (chronicle : Chronicle setup before iterations after ending) (family : Family) :
    before.host.socket family = iterations.filterMap (·.socket family) ++ after.host.socket family := by
  obtain ⟨_, socket4, socket6, _⟩ := chronicle.told
  cases family with
  | v4 => exact socket4
  | v6 => exact socket6

theorem dealt (chronicle : Chronicle setup before iterations after ending) :
    ∃ fault, Dealt setup (iterations.flatMap Iteration.steps) fault ∧
      ∀ cause, ending = .failed cause ↔ fault = some cause := by
  induction chronicle with
  | halt step halted =>
    refine ⟨none, .nil, ?_⟩
    intro cause
    exact ⟨fun failed => absurd failed (halted.calm cause), nofun⟩
  | last step iterated =>
    obtain ⟨fault, ended, dealt, _⟩ := iterated.settled
    refine ⟨fault, ?_, ?_⟩
    · rwa [List.flatMap_cons, List.flatMap_nil, List.append_nil]
    · intro cause
      cases fault with
      | none => cases ended
      | some other =>
        cases ended
        simp
  | next step iterated rest ih =>
    obtain ⟨fault, later, decides⟩ := ih
    obtain ⟨sound, ended, dealt, _⟩ := iterated.settled
    cases sound with
    | some cause => cases ended
    | none =>
      refine ⟨fault, ?_, decides⟩
      rw [List.flatMap_cons]
      exact dealt.append later

theorem failed (chronicle : Chronicle setup before iterations after ending) {cause : TunnelError}
    (fails : ending = .failed cause) :
    ∃ previous last, iterations = previous ++ [last] ∧ Dealt setup (previous.flatMap Iteration.steps) none ∧
      Dealt setup last.steps (some cause) := by
  induction chronicle with
  | halt step halted => exact absurd fails (halted.calm cause)
  | last step iterated =>
    obtain ⟨fault, ended, dealt, _⟩ := iterated.settled
    cases fault with
    | none => cases ended
    | some other =>
      cases ended
      cases fails
      exact ⟨[], _, rfl, .nil, dealt⟩
  | next step iterated rest ih =>
    obtain ⟨previous, last, rfl, done, broken⟩ := ih fails
    obtain ⟨sound, ended, dealt, _⟩ := iterated.settled
    cases sound with
    | some cause => cases ended
    | none =>
      refine ⟨_ :: previous, last, rfl, ?_, broken⟩
      rw [List.flatMap_cons]
      exact dealt.append done

end Chronicle

end IpTunnel

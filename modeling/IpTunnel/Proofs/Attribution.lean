import IpTunnel.Proofs.Draining

namespace IpTunnel

-- The states of the host in an iteration, each with the event of one more device dealt with.
structure Stages (σ : Type) where
  tunnel : σ
  socket4 : σ
  socket6 : σ

namespace Stages

def before (stages : Stages σ) : Family → σ
  | .v4 => stages.tunnel
  | .v6 => stages.socket4

def after (stages : Stages σ) : Family → σ
  | .v4 => stages.socket4
  | .v6 => stages.socket6

def frames (stages : Stages Kernel) (family : Family) : List Bytes :=
  (stages.after family).written.drop (stages.before family).written.length

end Stages

namespace Forwarder

variable {σ : Type} [Host σ]

def stages (setup : Setup) (events : Events) (run : Run σ) : Stages σ :=
  let tunnel := handleTunnel setup events.tunnel (handleNews events.news run)
  let socket4 := Progress.andThen tunnel (handleSocket setup .v4 events.socket4)
  let socket6 := Progress.andThen socket4 (handleSocket setup .v6 events.socket6)
  ⟨tunnel.run.host, socket4.run.host, socket6.run.host⟩

def history (setup : Setup) : Nat → Run σ → List (Stages σ)
  | 0, _ => []
  | fuel + 1, run =>
    if run.session.closing then []
    else
      match wait setup run with
      | .ready run events =>
        stages setup events run ::
          match handle setup events run with
          | ⟨run, none⟩ => history setup fuel run
          | ⟨_, some _⟩ => []
      | _ => []

def iterations (setup : Setup) (host : σ) : List (Stages σ) :=
  history setup (Host.pending host + 3) (started setup host)

end Forwarder

def owed (setup : Setup) (arrivals : Device → List Arrival) : Device → Nat :=
  spend (called setup arrivals .tunnel) <| spend (called setup arrivals (.socket .v4)) <|
    spend (called setup arrivals (.socket .v6)) fun _ => 0

theorem owed_append (setup : Setup) (first second : Device → List Arrival) :
    owed setup (fun device => first device ++ second device) =
      spend (called setup first .tunnel) (spend (called setup first (.socket .v4))
        (spend (called setup first (.socket .v6)) (owed setup second))) := by
  funext device
  simp only [owed, spend, called_append, callsOn_append, List.length_append]
  omega

def brought (setup : Setup) (arrivals : Device → List Arrival) (family : Family) : List Bytes :=
  (callsOn (called setup arrivals (.socket family)) .tunnel).filterMap Call.written?

theorem brought_append (setup : Setup) (first second : Device → List Arrival) (family : Family) :
    brought setup (fun device => first device ++ second device) family =
      brought setup first family ++ brought setup second family := by
  rw [brought, called_append, callsOn_append, List.filterMap_append]
  rfl

theorem Descriptor.filterMap_done (descriptor : Descriptor) {tell : Call → Option α}
    (silent : ∀ call, call.isDone = false → tell call = none) :
    descriptor.done.filterMap tell = descriptor.calls.filterMap tell := by
  rw [done, List.filterMap_filter]
  congr
  funext call
  cases through : call.isDone with
  | true => rfl
  | false => exact (silent call through).symm

namespace Kernel

theorem written_eq (kernel : Kernel) : kernel.written = (kernel.done .tunnel).filterMap Call.written? := by
  unfold written done descriptor?
  cases kernel.tunnel with
  | none => rfl
  | some device =>
    refine (Descriptor.filterMap_done device.descriptor ?_).symm
    rintro (_ | _ | ⟨frame, _ | errno⟩ | _ | _ | _ | _) lost <;> first | rfl | cases lost

theorem Advances.written {before after : Kernel} {budget : Device → Nat} {taken : Device → List Arrival}
    {made : Device → List Call} (advances : before.Advances budget after taken made) :
    after.written = before.written ++ (made .tunnel).filterMap Call.written? := by
  rw [written_eq, written_eq, advances.done, List.filterMap_append]

variable {setup : Setup} {budget : Device → Nat}

-- Only the deeds that leave a trace have to be paid for and to be possible.
theorem act_called {kernel : Kernel} {deeds wanted : List Deed} (same : loud deeds = wanted)
    (doable : ∀ deed ∈ wanted, deed.Doable setup) (steady : kernel.Steady setup (spend wanted budget)) :
    ∃ after, Unbuffered.act deeds kernel = (after, none) ∧ kernel.Advances budget after nothing (callsOn wanted) := by
  subst same
  have calls : callsOn (loud deeds) = callsOn deeds := funext (callsOn_loud deeds)
  have possible (deed : Deed) (member : deed ∈ deeds) : deed.Doable setup := by
    by_cases shows : deed.isLoud = true
    · exact doable deed (List.mem_filter.mpr ⟨member, shows⟩)
    · cases deed <;> trivial
  unfold spend at steady
  rw [calls] at steady ⊢
  exact act_advances possible steady

end Kernel

-- What an iteration does with the arrivals that its events tell of.
structure Served (setup : Setup) (budget : Device → Nat) (before after : Kernel) (stages : Stages Kernel)
    (taken : Device → List Arrival) : Prop where
  advances : before.Advances budget after nothing fun device =>
    callsOn (called setup taken .tunnel) device ++
      (callsOn (called setup taken (.socket .v4)) device ++ callsOn (called setup taken (.socket .v6)) device)
  frames : ∀ family, stages.frames family = brought setup taken family
  written : after.written = before.written ++ (stages.frames .v4 ++ stages.frames .v6)

theorem mem_called_tunnel {setup : Setup} {taken : Device → List Arrival} {deed : Deed}
    (member : deed ∈ called setup taken .tunnel) :
    ∃ octets, Arrival.data octets ∈ taken .tunnel ∧ deed ∈ (verdict setup (octets.take bufferLength)).deeds := by
  obtain ⟨arrival, arrived, among⟩ := List.mem_flatMap.mp member
  cases arrival with
  | report entry => cases among
  | data octets => exact ⟨octets, arrived, among⟩

theorem verdict_configured {setup : Setup} {frame packet : Bytes} {family : Family} {peer : Endpoint}
    (decided : verdict setup frame = .forwarded family packet peer) : setup.hasSocket family = true := by
  simp only [verdict] at decided
  split at decided
  · cases decided
  · split at decided
    · cases decided
    · split at decided
      · rename_i configured
        split at decided
        · cases decided
        · split at decided
          · cases decided
            exact configured
          · cases decided
      · cases decided

def Resolved (setup : Setup) (arrivals : List Arrival) : Prop :=
  ∀ octets, Arrival.data octets ∈ arrivals → ∀ target, verdict setup (octets.take bufferLength) ≠ .unknown target

theorem called_doable {setup : Setup} {taken : Device → List Arrival} (resolved : Resolved setup (taken .tunnel))
    (device : Device) : ∀ deed ∈ called setup taken device, deed.Doable setup := by
  intro deed member
  cases device with
  | socket family =>
    obtain ⟨arrival, _, among⟩ := List.mem_flatMap.mp member
    obtain ⟨frame, _, rfl⟩ := Option.map_eq_some_iff.mp (Option.mem_toList.mp among)
    trivial
  | tunnel =>
    obtain ⟨octets, arrived, among⟩ := mem_called_tunnel member
    cases decided : verdict setup (octets.take bufferLength) with
    | dropped =>
      rw [decided] at among
      cases among
    | unknown target => exact absurd decided (resolved octets arrived target)
    | forwarded family packet peer =>
      rw [decided] at among
      obtain rfl := List.mem_singleton.mp among
      exact verdict_configured decided

theorem callsOn_called_tunnel (setup : Setup) (taken : Device → List Arrival) :
    callsOn (called setup taken .tunnel) .tunnel = [] := by
  apply List.filterMap_eq_nil_iff.mpr
  intro deed member
  obtain ⟨octets, _, among⟩ := mem_called_tunnel member
  cases decided : verdict setup (octets.take bufferLength) with
  | dropped =>
    rw [decided] at among
    cases among
  | unknown target =>
    rw [decided] at among
    obtain rfl := List.mem_singleton.mp among
    rfl
  | forwarded family packet peer =>
    rw [decided] at among
    obtain rfl := List.mem_singleton.mp among
    rfl

theorem callsOn_called_socket (setup : Setup) (taken : Device → List Arrival) (family other : Family) :
    callsOn (called setup taken (.socket family)) (.socket other) = [] := by
  apply List.filterMap_eq_nil_iff.mpr
  intro deed member
  obtain ⟨arrival, _, among⟩ := List.mem_flatMap.mp member
  obtain ⟨frame, _, rfl⟩ := Option.map_eq_some_iff.mp (Option.mem_toList.mp among)
  rfl

-- What a loop has done by its end with all that there was: the datagrams sent on each socket, and the frames written,
-- on behalf of each socket and in all.
structure Ended (setup : Setup) (before after : Kernel) (stages : List (Stages Kernel)) : Prop where
  sent : ∀ family, after.done (.socket family) =
    before.done (.socket family) ++ callsOn (called setup before.arrivals .tunnel) (.socket family)
  frames : ∀ family, stages.flatMap (·.frames family) = brought setup before.arrivals family
  written : after.written = before.written ++ stages.flatMap fun stages => stages.frames .v4 ++ stages.frames .v6

namespace Ended

variable {setup : Setup} {budget : Device → Nat} {before middle after : Kernel} {stages : List (Stages Kernel)}
  {taken : Device → List Arrival}

theorem idle (advances : before.Advances budget after taken nothing) (silent : ∀ device, called setup taken device = [])
    (empty : ∀ device, after.arrivals device = []) : Ended setup before after [] := by
  have all : before.arrivals = taken := by
    funext device
    rw [advances.arrivals, empty, List.append_nil]
  refine ⟨?_, ?_, ?_⟩
  · intro family
    rw [all, silent, advances.done]
    rfl
  · intro family
    rw [all, brought, silent]
    rfl
  · rw [advances.written]
    rfl

theorem next {host : Kernel} {first : Stages Kernel} (waits : before.Advances budget middle taken nothing)
    (served : Served setup rest middle host first taken) (ended : Ended setup host after stages) :
    Ended setup before after (first :: stages) := by
  have left : host.arrivals = middle.arrivals := by
    funext device
    exact (served.advances.arrivals device).symm
  have all : before.arrivals = fun device => taken device ++ host.arrivals device := by
    funext device
    rw [waits.arrivals, left]
  refine ⟨?_, ?_, ?_⟩
  · intro family
    rw [all, called_append, callsOn_append, ended.sent, served.advances.done, waits.done, callsOn_called_socket,
      callsOn_called_socket]
    simp [nothing]
  · intro family
    rw [List.flatMap_cons, served.frames, ended.frames, all, brought_append]
  · rw [List.flatMap_cons, ended.written, served.written, waits.written]
    simp [nothing]

theorem onward (first : before.Advances budget middle nothing nothing) (ended : Ended setup middle after stages) :
    Ended setup before after stages := by
  have all : before.arrivals = middle.arrivals := by
    funext device
    exact first.arrivals device
  refine ⟨?_, ?_, ?_⟩
  · intro family
    rw [all, ended.sent, first.done]
    simp [nothing]
  · rw [all]
    exact ended.frames
  · rw [ended.written, first.written]
    simp [nothing]

end Ended

namespace Forwarder

open Unbuffered (Holds act)

theorem handleTunnel_acted {run : Run Kernel} {setup : Setup} {event : Option (Except IoError Bytes)}
    (held : ∀ frame, event = some (.ok frame) → run.session.buffers.tunnel.slice? 0 frame.length = some frame)
    (acted : act (Deed.ofTunnel setup event) run.host = (after, none)) :
    handleTunnel setup (event.map (·.map List.length)) run = ⟨⟨run.session, after⟩, none⟩ := by
  rw [Unbuffered.handleTunnel_eq held, Unbuffered.perform_eq, acted]

theorem handleSocket_acted {run : Run Kernel} {setup : Setup} {family : Family}
    {event : Option (Except IoError Delivery)} (sized : run.session.buffers.Sized)
    (held : ∀ delivery, event = some (.ok delivery) →
      (run.session.buffers.datagram family).slice? framingLength (framingLength + delivery.data.length) =
        some delivery.data)
    (acted : act (Deed.ofSocket setup family event) run.host = (after, none)) :
    ∃ buffers : Buffers, buffers.Sized ∧
      (∀ other, other ≠ family → buffers.datagram other = run.session.buffers.datagram other) ∧
      handleSocket setup family (event.map (·.map Delivery.received)) run =
        ⟨⟨{ run.session with buffers := buffers }, after⟩, none⟩ := by
  obtain ⟨buffers, grown, others, done⟩ := Unbuffered.handleSocket_eq run setup family sized held
  rw [Unbuffered.perform_eq, acted] at done
  exact ⟨buffers, grown, others, done⟩

theorem handle_served {setup : Setup} {budget : Device → Nat} {run : Run Kernel} {intake : Intake}
    {taken : Device → List Arrival} (sized : run.session.buffers.Sized) (holds : Holds run.session.buffers intake)
    (news : intake.news = none) (deeds : ∀ device, loud (intake.deedsFor setup device) = called setup taken device)
    (doable : ∀ device, ∀ deed ∈ called setup taken device, deed.Doable setup)
    (steady : run.host.Steady setup (spend (called setup taken .tunnel) <|
      spend (called setup taken (.socket .v4)) <| spend (called setup taken (.socket .v6)) budget)) :
    ∃ session after, handle setup intake.events run = ⟨⟨session, after⟩, none⟩ ∧ session.buffers.Sized ∧
      session.closing = run.session.closing ∧
      Served setup budget run.host after (stages setup intake.events run) taken := by
  obtain ⟨first, acted, advances⟩ := Kernel.act_called (deeds .tunnel) (doable .tunnel) steady
  have steady1 := advances.steady steady
  obtain ⟨second, acted4, advances4⟩ := Kernel.act_called (deeds (.socket .v4)) (doable (.socket .v4)) steady1
  have steady2 := advances4.steady steady1
  obtain ⟨third, acted6, advances6⟩ := Kernel.act_called (deeds (.socket .v6)) (doable (.socket .v6)) steady2
  have begun : handleNews intake.news run = run := by
    rw [news]
    rfl
  have tunnel := handleTunnel_acted holds.tunnel acted
  obtain ⟨buffers4, sized4, others4, socket4⟩ :=
    @handleSocket_acted second ⟨run.session, first⟩ setup .v4 _ sized (holds.socket .v4) acted4
  have held6 (delivery : Delivery) (arrived : intake.socket .v6 = some (.ok delivery)) :
      (buffers4.datagram .v6).slice? framingLength (framingLength + delivery.data.length) = some delivery.data := by
    rw [others4 .v6 (by decide)]
    exact holds.socket .v6 delivery arrived
  obtain ⟨buffers6, sized6, _, socket6⟩ :=
    @handleSocket_acted third ⟨{ run.session with buffers := buffers4 }, second⟩ setup .v6 _ sized4 held6 acted6
  simp only [Intake.socket] at socket4 socket6
  have staged : stages setup intake.events run = ⟨first, second, third⟩ := by
    simp only [stages, begun, Intake.events, tunnel, Progress.andThen, socket4, socket6]
  refine ⟨{ run.session with buffers := buffers6 }, third, ?_, sized6, rfl, ?_⟩
  · simp only [handle, begun, Intake.events, tunnel, Progress.andThen, socket4, socket6]
  · have frames4 : (stages setup intake.events run).frames .v4 = brought setup taken .v4 := by
      rw [staged]
      change second.written.drop first.written.length = _
      rw [advances4.written, List.drop_left]
      rfl
    have frames6 : (stages setup intake.events run).frames .v6 = brought setup taken .v6 := by
      rw [staged]
      change third.written.drop second.written.length = _
      rw [advances6.written, List.drop_left]
      rfl
    refine ⟨advances.trans (advances4.trans advances6), ?_, ?_⟩
    · intro family
      cases family with
      | v4 => exact frames4
      | v6 => exact frames6
    · have unwritten : first.written = run.host.written := by
        rw [advances.written, callsOn_called_tunnel]
        exact List.append_nil _
      rw [frames4, frames6, advances6.written, advances4.written, unwritten, List.append_assoc]
      rfl

-- How a wait ends, with the buffers that go with it.
inductive Pauses (setup : Setup) (budget : Device → Nat) (before : Run Kernel) : Wait Kernel → Prop where
  | ready {paused : Run Kernel} {taken : Device → List Arrival} {intake : Intake}
      (advances : before.host.Advances budget paused.host taken nothing) (busy : ∃ device, taken device ≠ [])
      (news : intake.news = none)
      (deeds : ∀ device, loud (intake.deedsFor setup device) = called setup taken device)
      (running : paused.session.closing = before.session.closing) (sized : paused.session.buffers.Sized)
      (holds : Holds paused.session.buffers intake) : Pauses setup budget before (.ready paused intake.events)
  | idle {paused : Run Kernel} {taken : Device → List Arrival}
      (advances : before.host.Advances budget paused.host taken nothing)
      (silent : ∀ device, called setup taken device = []) (empty : ∀ device, paused.host.arrivals device = []) :
      Pauses setup budget before (.idle paused)

theorem wait_pauses {setup : Setup} {timeout : Nat} {budget : Device → Nat} {run : Run Kernel}
    (limited : setup.idleTimeout = some timeout) (sized : run.session.buffers.Sized)
    (steady : run.host.Steady setup budget) : Pauses setup budget run (wait setup run) := by
  have waited : Unbuffered.Waited (wait setup run) (Unbuffered.wait setup run.erase) :=
    Unbuffered.waitUntil_erase setup _ _ sized
  have drains : Kernel.Drains setup budget run.erase (Unbuffered.wait setup run.erase) := by
    rw [Unbuffered.wait, limited]
    exact Kernel.waitUntil_drains _ _ steady (Nat.lt_succ_of_lt (Kernel.load_lt_pending run.host))
  generalize wait setup run = paused at waited
  generalize Unbuffered.wait setup run.erase = pause at waited drains
  cases drains with
  | @ready after taken intake advances busy news deeds =>
    cases waited with
    | @ready paused _ _ _ looked =>
      obtain rfl : paused.host = after := congrArg Station.host looked.erase
      rw [looked.events]
      exact .ready advances busy news deeds (congrArg Station.closing looked.erase) looked.sized looked.holds
  | @idle after taken advances silent empty =>
    cases waited with
    | @idle _ paused erase _ =>
      obtain rfl : paused.host = after := congrArg Station.host erase
      exact .idle advances silent empty

-- Every iteration but the last takes something, so that the fuel is never used up.
theorem loop_ended {setup : Setup} {timeout : Nat} {run : Run Kernel} (fuel : Nat)
    (limited : setup.idleTimeout = some timeout) (running : run.session.closing = false)
    (sized : run.session.buffers.Sized) (resolved : Resolved setup (run.host.arrivals .tunnel))
    (steady : run.host.Steady setup (owed setup run.host.arrivals)) (enough : run.host.load < fuel) :
    (loop setup fuel run).2 = .stopped .idle ∧
      Ended setup run.host (loop setup fuel run).1.host (history setup fuel run) := by
  induction fuel generalizing run with
  | zero => exact absurd enough (Nat.not_lt_zero _)
  | succ fuel ih =>
    have pauses := wait_pauses limited sized steady
    simp only [loop, history, iterate, running]
    generalize wait setup run = pause at pauses
    cases pauses with
    | @idle paused taken advances silent empty =>
      have noted := Kernel.say_advances [.noActivity] (advances.steady steady)
      refine ⟨rfl, .idle (advances.still noted) silent ?_⟩
      intro device
      exact (noted.arrivals device).symm.trans (empty device)
    | @ready paused taken intake advances busy news deeds kept sized holds =>
      have all : run.host.arrivals = fun device => taken device ++ paused.host.arrivals device := by
        funext device
        exact advances.arrivals device
      have paid := advances.steady steady
      rw [all] at resolved paid
      rw [owed_append] at paid
      have doable := called_doable fun octets member => resolved octets (List.mem_append_left _ member)
      obtain ⟨session, after, handled, sized, same, served⟩ := handle_served sized holds news deeds doable paid
      have left : after.arrivals = paused.host.arrivals := by
        funext device
        exact (served.advances.arrivals device).symm
      obtain ⟨_, something⟩ := busy
      have lighter := advances.load_lt something
      have further := served.advances.load
      have onward := @ih ⟨session, after⟩ (same.trans (kept.trans running)) sized
        (left ▸ fun octets member => resolved octets (List.mem_append_right _ member))
        (left ▸ served.advances.steady paid) (by simp only; omega)
      simp only [handled]
      exact ⟨onward.1, .next advances served onward.2⟩

theorem run_ended {setup : Setup} {timeout : Nat} {kernel : Kernel} (limited : setup.idleTimeout = some timeout)
    (resolved : Resolved setup (kernel.arrivals .tunnel)) (steady : kernel.Steady setup (owed setup kernel.arrivals)) :
    (run setup kernel).2 = .stopped .idle ∧
      Ended setup kernel (run setup kernel).1.host (iterations setup kernel) := by
  have announces := Kernel.say_advances [.running setup.mode] steady
  have same : kernel.arrivals = (started setup kernel).host.arrivals := by
    funext device
    exact announces.arrivals device
  have stands := announces.steady steady
  rw [same] at resolved stands
  have enough : (started setup kernel).host.load < Host.pending kernel + 3 :=
    Nat.lt_of_le_of_lt announces.load (Nat.lt_add_right 3 (Kernel.load_lt_pending kernel))
  obtain ⟨ending, ended⟩ := loop_ended _ limited rfl Buffers.sized_initial resolved stands enough
  exact ⟨ending, ended.onward announces⟩

end Forwarder

end IpTunnel

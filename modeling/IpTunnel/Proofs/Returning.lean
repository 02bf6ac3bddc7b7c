import IpTunnel.Proofs.Closing
import IpTunnel.Proofs.Idling

namespace IpTunnel

namespace Forwarder

variable {σ : Type}

-- How often the loop waits on its way to the end: at the head of each pass, unless it is about to close.
def waits [Host σ] (setup : Setup) : Nat → Run σ → Nat
  | 0, _ => 0
  | fuel + 1, run =>
    (if run.session.closing then 0 else 1) +
      match iterate setup run with
      | ⟨_, some _⟩ => 0
      | ⟨run, none⟩ => waits setup fuel run

-- The same host, but for what one is told who asks for news of a shutdown.
@[reducible]
def answering [host : Host σ] (answer : σ → Option News × σ) : Host σ := { host with hear := answer }

section

variable [Host σ] (answer : σ → Option News × σ) {setup : Setup} {run : Run σ}

theorem look_answering (deaf : run.session.listening = false) :
    @look σ (answering answer) setup run = look setup run := by
  unfold look hear
  simp only [deaf]
  rfl

theorem look_listening : (look setup run).1.session.listening = run.session.listening := by
  have heard : (hear run).1.session.listening = run.session.listening := by
    unfold hear
    split <;> rfl
  have socket (family : Family) (run : Run σ) :
      (receive setup family run).1.session.listening = run.session.listening := by
    unfold receive
    split <;> rfl
  exact (socket .v6 _).trans ((socket .v4 _).trans heard)

theorem waitUntil_answering (deadline : Option Nat) (fuel : Nat) (deaf : run.session.listening = false) :
    @waitUntil σ (answering answer) setup deadline fuel run = waitUntil setup deadline fuel run := by
  induction fuel generalizing run with
  | zero => rfl
  | succ fuel ih =>
    have listening : (look setup run).1.session.listening = false := look_listening.trans deaf
    unfold waitUntil
    rw [look_answering answer deaf]
    generalize look setup run = looked at listening
    obtain ⟨looked, events⟩ := looked
    dsimp only
    split
    · rfl
    · generalize Host.await deadline looked.host = answered
      obtain ⟨waking, host⟩ := answered
      cases waking with
      | woken => exact ih listening
      | timedOut => rfl
      | never => rfl

theorem perform_answering (deeds : List Deed) :
    @perform σ (answering answer) run deeds = perform run deeds := by
  induction deeds generalizing run with
  | nil => rfl
  | cons deed rest ih =>
    cases deed with
    | say notice => exact ih
    | capture packet => exact ih
    | send family packet peer =>
      simp only [perform, ih]
      rfl
    | write frame =>
      simp only [perform, ih]
      rfl
    | fail cause => rfl
    | overrun => rfl

theorem handleSocket_answering (family : Family) (event : Option (Except IoError Received)) :
    @handleSocket σ (answering answer) setup family event = handleSocket setup family event := by
  funext run
  simp only [handleSocket, handleDatagram, handleReport, perform_answering]

theorem handle_answering (events : Events) :
    @handle σ (answering answer) setup events run = handle setup events run := by
  simp only [handle, handleTunnel, handleSocket_answering, perform_answering]
  rfl

-- A forwarder that does not listen, or is about to close, has no use for news.
theorem iterate_answering (deaf : run.session.listening = false ∨ run.session.closing = true) :
    @iterate σ (answering answer) setup run = iterate setup run := by
  by_cases closing : run.session.closing = true
  · simp only [iterate, if_pos closing]
    rfl
  · have waited : @wait σ (answering answer) setup run = wait setup run :=
      waitUntil_answering answer _ _ (deaf.resolve_right closing)
    simp only [iterate, if_neg closing, waited, handle_answering]
    rfl

theorem loop_answering_succ (deaf : run.session.listening = false ∨ run.session.closing = true) (fuel : Nat) :
    @loop σ (answering answer) setup (fuel + 1) run =
      match iterate setup run with
      | ⟨run, some ending⟩ => (run, ending)
      | ⟨run, none⟩ => @loop σ (answering answer) setup fuel run := by
  rw [← iterate_answering answer deaf]
  rfl

end

end Forwarder

structure Returning (setup : Setup) (script : Script) (iterations : List Iteration) (finished : Run Script)
    (ending : Ending) : Prop where
  returns : (∃ reason, ending = .stopped reason) ∨ ∃ cause, ending = .failed cause
  -- However long the loop may go on, it ends there.
  settled : ∀ fuel, Host.pending script < fuel →
    Forwarder.loop setup fuel (Forwarder.started setup script) = (finished, ending)
  counted : ∀ fuel, Host.pending script < fuel →
    Forwarder.waits setup fuel (Forwarder.started setup script) =
      iterations.length + if ending = .stopped .idle then 1 else 0
  bounded : ∀ fuel, Host.pending script < fuel →
    Forwarder.waits setup fuel (Forwarder.started setup script) ≤
      script.tunnel.length + script.socket4.length + script.socket6.length + 2
  -- A wait that something was ready in takes an event off a device, or the news, which comes only once.
  consumes : ∀ earlier iteration later, iterations = earlier ++ iteration :: later →
    iteration.tunnel.isSome ∨ (∃ family, (iteration.socket family).isSome) ∨
      (iteration.news.isSome ∧ heard earlier = none)
  -- From then on it does not matter what one would be told of a shutdown: nobody asks.
  deaf : ∀ past, Begins setup iterations past → (heard past).isSome →
    ∃ middle later, iterations = past ++ later ∧ Chronicle setup middle later finished ending ∧
      middle.host.shutdown = none ∧
      ∀ answer fuel, @Forwarder.loop Script (Forwarder.answering answer) setup fuel middle =
        Forwarder.loop setup fuel middle

namespace Standing

variable {setup : Setup} {script : Script} {past : List Iteration} {run : Run Script}

theorem deaf (standing : Standing setup script past run) (told : (heard past).isSome) :
    run.session.listening = false ∨ run.session.closing = true := by
  rw [standing.listening, standing.closing]
  obtain ⟨news, same⟩ := Option.isSome_iff_exists.mp told
  cases news <;> simp [same]

end Standing

namespace Chronicle

variable {setup : Setup} {script : Script} {before finished : Run Script} {past iterations : List Iteration}
  {ending : Ending}

theorem length_le (chronicle : Chronicle setup before iterations finished ending) :
    iterations.length ≤ Host.pending before.host := by
  induction chronicle with
  | halt step halted => exact Nat.zero_le _
  | last step iterated => exact Nat.lt_of_le_of_lt (Nat.zero_le _) iterated.progress
  | next step iterated rest ih => exact Nat.lt_of_le_of_lt ih iterated.progress

theorem loop_eq (chronicle : Chronicle setup before iterations finished ending) {fuel : Nat}
    (enough : iterations.length < fuel) : Forwarder.loop setup fuel before = (finished, ending) := by
  induction chronicle generalizing fuel with
  | halt step halted =>
    obtain ⟨fuel, rfl⟩ := Nat.exists_eq_add_one.mpr enough
    rw [Forwarder.loop, step]
  | last step iterated =>
    obtain ⟨fuel, rfl⟩ := Nat.exists_eq_add_one.mpr (Nat.lt_of_le_of_lt (Nat.zero_le _) enough)
    rw [Forwarder.loop, step]
  | next step iterated rest ih =>
    obtain ⟨fuel, rfl⟩ := Nat.exists_eq_add_one.mpr (Nat.lt_of_le_of_lt (Nat.zero_le _) enough)
    rw [Forwarder.loop, step]
    exact ih (Nat.lt_of_succ_lt_succ enough)

-- There is a wait for each iteration, and one more if it is a wait that ends the run.
theorem waits_eq (chronicle : Chronicle setup before iterations finished ending) (fitting : script.Fits setup)
    (standing : Standing setup script past before) {fuel : Nat} (enough : iterations.length < fuel) :
    Forwarder.waits setup fuel before =
      iterations.length + if ending = .stopped .idle ∨ ending = .stuck then 1 else 0 := by
  induction chronicle generalizing past fuel with
  | halt step halted =>
    obtain ⟨fuel, rfl⟩ := Nat.exists_eq_add_one.mpr enough
    rw [Forwarder.waits, step, standing.closing]
    cases (standing.finale fitting step halted).1 with
    | shutdown asked => simp [asked]
    | idle unasked => simp [unasked]
    | stuck unasked => simp [unasked]
  | last step iterated =>
    obtain ⟨fuel, rfl⟩ := Nat.exists_eq_add_one.mpr (Nat.lt_of_le_of_lt (Nat.zero_le _) enough)
    have unasked := standing.opened_iff.mp (standing.stepped fitting step iterated).1.opened
    obtain ⟨cause, rfl⟩ := iterated.calm
    rw [Forwarder.waits, step, standing.closing]
    simp [unasked]
  | next step iterated rest ih =>
    obtain ⟨fuel, rfl⟩ := Nat.exists_eq_add_one.mpr (Nat.lt_of_le_of_lt (Nat.zero_le _) enough)
    obtain ⟨advanced, onward⟩ := standing.stepped fitting step iterated
    have unasked := standing.opened_iff.mp advanced.opened
    rw [Forwarder.waits, step, standing.closing, decide_eq_false unasked, List.length_cons]
    simp only [Bool.false_eq_true, if_false, ih onward (Nat.lt_of_succ_lt_succ enough)]
    omega

theorem loop_answering (chronicle : Chronicle setup before iterations finished ending) (fitting : script.Fits setup)
    (standing : Standing setup script past before) (told : (heard past).isSome)
    (answer : Script → Option News × Script) (fuel : Nat) :
    @Forwarder.loop Script (Forwarder.answering answer) setup fuel before = Forwarder.loop setup fuel before := by
  induction chronicle generalizing past fuel with
  | halt step halted =>
    cases fuel with
    | zero => rfl
    | succ fuel => rw [Forwarder.loop_answering_succ answer (standing.deaf told), Forwarder.loop, step]
  | last step iterated =>
    cases fuel with
    | zero => rfl
    | succ fuel => rw [Forwarder.loop_answering_succ answer (standing.deaf told), Forwarder.loop, step]
  | next step iterated rest ih =>
    cases fuel with
    | zero => rfl
    | succ fuel =>
      obtain ⟨_, onward⟩ := standing.stepped fitting step iterated
      rw [Forwarder.loop_answering_succ answer (standing.deaf told), Forwarder.loop, step]
      exact ih onward (by rw [heard_snoc, Option.isSome_or, told, Bool.true_or]) fuel

theorem news_once (chronicle : Chronicle setup (Forwarder.started setup script) iterations finished ending)
    (fitting : script.Fits setup) (place : iterations = earlier ++ iteration :: later)
    (told : iteration.news.isSome) : heard earlier = none := by
  obtain ⟨middle, standing, rest⟩ := chronicle.stand fitting place (chronicle.sound place)
  obtain ⟨_, _, iterated, _⟩ := rest.turn fitting standing
  rw [standing.news iterated] at told
  by_contra known
  rw [if_pos (Option.isSome_iff_ne_none.mpr known)] at told
  cases told

theorem returns (chronicle : Chronicle setup (Forwarder.started setup script) iterations finished ending)
    (fitting : script.Fits setup)
    (bounded : setup.idleTimeout.isSome ∨ ∃ due, script.shutdown = some (due, .requested)) :
    (∃ reason, ending = .stopped reason) ∨ ∃ cause, ending = .failed cause := by
  cases ending with
  | stopped reason => exact .inl ⟨reason, rfl⟩
  | failed cause => exact .inr ⟨cause, rfl⟩
  | stuck => exact absurd rfl (chronicle.unstuck fitting bounded)
  | overran => exact absurd rfl chronicle.whole

theorem returning (chronicle : Chronicle setup (Forwarder.started setup script) iterations finished ending)
    (fitting : script.Fits setup)
    (bounded : setup.idleTimeout.isSome ∨ ∃ due, script.shutdown = some (due, .requested)) :
    Returning setup script iterations finished ending := by
  have returns := chronicle.returns fitting bounded
  have short : iterations.length ≤ Host.pending script := chronicle.length_le
  have counted {fuel : Nat} (enough : Host.pending script < fuel) :
      Forwarder.waits setup fuel (Forwarder.started setup script) =
        iterations.length + if ending = .stopped .idle then 1 else 0 := by
    rw [chronicle.waits_eq fitting (standing_started setup script) (Nat.lt_of_le_of_lt short enough)]
    simp only [chronicle.unstuck fitting bounded, or_false]
  refine ⟨returns, ?_, fun _ => counted, ?_, ?_, ?_⟩
  · intro fuel enough
    exact chronicle.loop_eq (Nat.lt_of_le_of_lt short enough)
  · intro fuel enough
    -- The news counts for one, and a wait that ends the run for another.
    have news : script.shutdown.toList.length ≤ 1 := by cases script.shutdown <;> simp
    have pending : Host.pending script =
        script.tunnel.length + script.socket4.length + script.socket6.length + script.shutdown.toList.length := rfl
    rw [counted enough]
    split <;> omega
  · intro earlier iteration later place
    obtain ⟨_, _, _, iterated⟩ := chronicle.member (place ▸ List.mem_append_right earlier (List.mem_cons_self ..))
    have ready := iterated.ready
    simp only [Events.isReady, Iteration.intake, Takings.intake, Intake.events, Option.isSome_map,
      Bool.or_eq_true] at ready
    rcases ready with ((told | tunnel) | socket4) | socket6
    · exact .inr (.inr ⟨told, chronicle.news_once fitting place told⟩)
    · exact .inl tunnel
    · exact .inr (.inl ⟨.v4, socket4⟩)
    · exact .inr (.inl ⟨.v6, socket6⟩)
  · rintro past ⟨⟨later, place⟩, sound⟩ told
    obtain ⟨middle, standing, rest⟩ := chronicle.stand fitting place sound
    refine ⟨middle, later, place, rest, ?_, rest.loop_answering fitting standing told⟩
    rw [standing.shutdown, if_pos told]

end Chronicle

-- With a limit on idling, or a shutdown that is asked for sooner or later, every run comes to its end.
theorem run_returns {settings : Settings} {setup : Setup} {script : Script}
    (built : Setup.ofSettings settings = .ok setup) (fitting : script.mode = setup.mode)
    (bounded : setup.idleTimeout.isSome ∨ ∃ due, script.shutdown = some (due, .requested)) :
    ∃ iterations finished,
      Chronicle setup (Forwarder.started setup script) iterations finished (Forwarder.run setup script).2 ∧
      (Forwarder.run setup script).1.host = finished.host ∧
      Orderly setup script iterations finished.host ∧
      Returning setup script iterations finished (Forwarder.run setup script).2 := by
  obtain ⟨iterations, finished, chronicle, outcome⟩ := Forwarder.run_chronicle setup script
  have fits := Script.fits_ofSettings built fitting
  exact ⟨iterations, finished, chronicle, by rw [outcome], chronicle.orderly, chronicle.returning fits bounded⟩

-- Four waits that something was ready in, and the last one; the event of the missing socket is still there.
theorem run_returns_trickle :
    Setup.ofSettings patient = .ok patientSetup ∧ trickle.mode = patientSetup.mode ∧
      patientSetup.idleTimeout.isSome ∧
      Forwarder.waits patientSetup 8 (Forwarder.started patientSetup trickle) = 5 ∧
      ∃ iterations finished,
        Chronicle patientSetup (Forwarder.started patientSetup trickle) iterations finished
          (Forwarder.run patientSetup trickle).2 ∧
        (Forwarder.run patientSetup trickle).1.host = finished.host ∧
        Orderly patientSetup trickle iterations finished.host ∧
        Returning patientSetup trickle iterations finished (Forwarder.run patientSetup trickle).2 :=
  have built : Setup.ofSettings patient = .ok patientSetup := rfl
  ⟨built, rfl, rfl, by decide +kernel, run_returns built rfl (.inl rfl)⟩

end IpTunnel

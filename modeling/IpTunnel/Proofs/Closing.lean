import IpTunnel.Proofs.Standing

namespace IpTunnel

-- A sleep of this length lasts exactly as long as it is meant to.
def Script.Punctual (script : Script) (length : Nat) : Prop := script.sleep length = length

-- The end of a run whose last iteration has heard a request: a failure of that iteration, or the rest.
def Closed (setup : Setup) (observing : Iteration) (finished : Run Script) (ending : Ending) : Prop :=
  match observing.steps.findSome? (Step.fault? setup) with
  | some cause => ending = .failed cause ∧ finished.host.now = observing.moment ∧
      finished.session.phase = .running
  | none => ending = .stopped .shutdown ∧
      finished.host.now = observing.moment + setup.closeTimeout ∧
      finished.session.phase = .shuttingDown

structure Closing (setup : Setup) (script : Script) (iterations : List Iteration) (finished : Run Script)
    (ending : Ending) : Prop where
  -- News that comes while the run goes on is heard in the first iteration that begins or wakes after it.
  observed : ∀ due news, script.shutdown = some (due, news) → due ≤ finished.host.now →
    ∃ earlier observing later, iterations = earlier ++ observing :: later ∧ observing.news = some news ∧
      (∀ other ∈ earlier, other.moment < due) ∧ observing.moment = max (script.reached earlier) due
  -- That iteration takes and does what any other one would, and no other one follows.
  served : ∀ earlier observing later, iterations = earlier ++ observing :: later →
    observing.news = some .requested → later = [] ∧ Disciplined setup (script.unread earlier) observing ∧
      Closed setup observing finished ending
  asked : ending = .stopped .shutdown →
    ∃ due, script.shutdown = some (due, .requested) ∧ due + setup.closeTimeout ≤ finished.host.now
  -- After a loss the run goes on from where the iteration has left it.
  continues : ∀ earlier losing later, iterations = earlier ++ losing :: later → losing.news = some .lost →
    losing.steps.findSome? (Step.fault? setup) = none →
    ∃ middle, Chronicle setup middle later finished ending ∧ middle.host.now = losing.moment ∧
      middle.session.phase = .running ∧ middle.session.closing = false
  reported : finished.host.losses = script.losses + if heard iterations = some .lost then 1 else 0
  running : ∀ past, Begins setup iterations past → ∃ middle later, iterations = past ++ later ∧
    Chronicle setup middle later finished ending ∧ middle.session.phase = .running ∧
      middle.session.closing = decide (heard past = some .requested)
  phase : finished.session.phase = if ending = .stopped .shutdown then .shuttingDown else .running

theorem heard_none {iterations : List Iteration} :
    heard iterations = none ↔ ∀ iteration ∈ iterations, iteration.news = none := by
  simp [heard, List.findSome?_eq_none_iff]

theorem heard_some {iterations : List Iteration} {news : News} (found : heard iterations = some news) :
    ∃ earlier observing later, iterations = earlier ++ observing :: later ∧ observing.news = some news ∧
      heard earlier = none := by
  obtain ⟨earlier, observing, later, place, same, silent⟩ := List.findSome?_eq_some_iff.mp found
  exact ⟨earlier, observing, later, place, same, heard_none.mpr silent⟩

namespace Chronicle

variable {setup : Setup} {script : Script} {iterations earlier later : List Iteration} {iteration : Iteration}
  {finished : Run Script} {ending : Ending}

theorem unheard (chronicle : Chronicle setup (Forwarder.started setup script) iterations finished ending)
    (fitting : script.Fits setup) (silent : heard iterations = none) (planned : script.shutdown = some (due, news)) :
    finished.host.now < due := by
  have awaited : due ∈ script.awaited setup iterations := news_awaited planned (.inr silent)
  cases chronicle.outcome fitting with
  | failed taken standing =>
    obtain ⟨last, member, reached⟩ := reached_last script taken
    rw [standing.now, reached]
    exact standing.untold silent due news planned last member
  | ended standing finale _ =>
    cases finale with
    | shutdown asked =>
      rw [silent] at asked
      cases asked
    | idle unasked limited quiet now =>
      rw [now]
      exact quiet due awaited
    | stuck unasked unlimited nothing =>
      rw [nothing] at awaited
      cases awaited

theorem observed (chronicle : Chronicle setup (Forwarder.started setup script) iterations finished ending)
    (fitting : script.Fits setup) (planned : script.shutdown = some (due, news)) (come : due ≤ finished.host.now) :
    ∃ earlier observing later, iterations = earlier ++ observing :: later ∧ observing.news = some news ∧
      (∀ other ∈ earlier, other.moment < due) ∧ observing.moment = max (script.reached earlier) due := by
  cases known : heard iterations with
  | none =>
    have late := chronicle.unheard fitting known planned
    omega
  | some other =>
    obtain ⟨earlier, observing, later, place, same, silent⟩ := heard_some known
    obtain ⟨middle, standing, rest⟩ := chronicle.stand fitting place (chronicle.sound place)
    obtain ⟨_, _, iterated, advanced, _, _⟩ := rest.turn fitting standing
    obtain ⟨_, least, first, moment, _⟩ := standing.foremost fitting advanced
    have early := (List.min?_eq_some_iff.mp first).2 due (news_awaited planned (.inr silent))
    have told := standing.news iterated
    rw [silent, same] at told
    obtain ⟨_, plan, ready⟩ := Script.news?_eq_some.mp told.symm
    rw [planned] at plan
    cases plan
    refine ⟨earlier, observing, later, place, same, standing.untold silent due _ planned, ?_⟩
    change due ≤ observing.moment at ready
    omega

theorem served (chronicle : Chronicle setup (Forwarder.started setup script) iterations finished ending)
    (fitting : script.Fits setup) (punctual : script.Punctual setup.closeTimeout)
    (place : iterations = earlier ++ iteration :: later) (asked : iteration.news = some .requested) :
    later = [] ∧ Closed setup iteration finished ending := by
  obtain ⟨middle, standing, rest⟩ := chronicle.stand fitting place (chronicle.sound place)
  obtain ⟨after, _, iterated, _, onward, went⟩ := rest.turn fitting standing
  have told := standing.heard_of_news iterated asked
  have reached := reached_snoc script earlier iteration
  unfold Closed
  obtain ⟨well, rest⟩ | ⟨cause, fault, rfl, rfl, failed⟩ := went
  · rw [well]
    cases later with
    | cons next others =>
      obtain ⟨_, _, _, advanced, _, _⟩ := rest.turn fitting onward
      exact absurd told (onward.opened_iff.mp advanced.opened)
    | nil =>
      obtain ⟨finale, _⟩ := rest.finale fitting onward
      cases finale with
      | shutdown _ _ _ now phase =>
        rw [reached, punctual] at now
        exact ⟨rfl, rfl, now, phase⟩
      | idle unasked => exact absurd told unasked
      | stuck unasked => exact absurd told unasked
  · rw [fault]
    refine ⟨rfl, failed, ?_, onward.phase⟩
    rw [onward.now, reached]

theorem continues (chronicle : Chronicle setup (Forwarder.started setup script) iterations finished ending)
    (fitting : script.Fits setup) (place : iterations = earlier ++ iteration :: later)
    (lost : iteration.news = some .lost) (well : iteration.steps.findSome? (Step.fault? setup) = none) :
    ∃ middle, Chronicle setup middle later finished ending ∧ middle.host.now = iteration.moment ∧
      middle.session.phase = .running ∧ middle.session.closing = false := by
  obtain ⟨middle, standing, rest⟩ := chronicle.stand fitting place (chronicle.sound place)
  obtain ⟨after, _, iterated, _, onward, went⟩ := rest.turn fitting standing
  have told := standing.heard_of_news iterated lost
  obtain ⟨_, rest⟩ | ⟨cause, fault, _⟩ := went
  · refine ⟨after, rest, ?_, onward.phase, ?_⟩
    · rw [onward.now, reached_snoc]
    · rw [onward.closing, told]
      rfl
  · rw [well] at fault
    cases fault

theorem closing (chronicle : Chronicle setup (Forwarder.started setup script) iterations finished ending)
    (fitting : script.Fits setup) (punctual : script.Punctual setup.closeTimeout) :
    Closing setup script iterations finished ending where
  observed due news planned come := chronicle.observed fitting planned come
  served earlier observing later place asked := by
    obtain ⟨alone, closed⟩ := chronicle.served fitting punctual place asked
    exact ⟨alone, chronicle.disciplined place, closed⟩
  asked stopped := by
    subst stopped
    cases chronicle.outcome fitting with
    | ended standing finale losses =>
      cases finale with
      | shutdown asked planned come now phase =>
        refine ⟨_, planned, ?_⟩
        rw [now, punctual]
        exact Nat.add_le_add_right come _
  continues earlier losing later place lost well := chronicle.continues fitting place lost well
  reported := by
    cases chronicle.outcome fitting with
    | failed taken standing => exact standing.losses
    | ended standing finale losses => exact losses.trans standing.losses
  running past begins := by
    obtain ⟨⟨later, place⟩, sound⟩ := begins
    obtain ⟨middle, standing, rest⟩ := chronicle.stand fitting place sound
    exact ⟨middle, later, place, rest, standing.phase, standing.closing⟩
  phase := by
    cases chronicle.outcome fitting with
    | failed taken standing => exact standing.phase
    | ended standing finale losses =>
      cases finale with
      | shutdown asked planned come now phase => exact phase
      | idle unasked limited quiet now phase => exact phase
      | stuck unasked unlimited nothing now phase => exact phase

end Chronicle

-- News of a shutdown is heard as soon as it can be. A request ends the run once the iteration that has heard
-- it is done, and nothing else ends it in that way.
theorem run_closes {settings : Settings} {setup : Setup} {script : Script}
    (built : Setup.ofSettings settings = .ok setup) (fitting : script.mode = setup.mode)
    (punctual : script.Punctual setup.closeTimeout) :
    ∃ iterations finished,
      Chronicle setup (Forwarder.started setup script) iterations finished (Forwarder.run setup script).2 ∧
      (Forwarder.run setup script).1.host = finished.host ∧
      (Forwarder.run setup script).1.session.phase = .stopped ∧
      Orderly setup script iterations finished.host ∧
      Closing setup script iterations finished (Forwarder.run setup script).2 := by
  obtain ⟨iterations, finished, chronicle, outcome⟩ := Forwarder.run_chronicle setup script
  have fits := Script.fits_ofSettings built fitting
  exact ⟨iterations, finished, chronicle, by rw [outcome], rfl, chronicle.orderly, chronicle.closing fits punctual⟩

def uniqueLocal (host : UInt8) : Ipv6 := ⟨[0xFD, 0, 0, 0, 0, 0, 0, 0, 0, 0, 0, 0, 0, 0, 0, host], rfl⟩

def resting (closeTimeout : Nat) : Settings where
  tunName := ""
  privateAddresses := [.v4 (.ofOctets 10 0 0 1), .v6 (uniqueLocal 1)]
  listenAddresses := [.v4 .unspecified, .v6 ⟨List.replicate 16 0, rfl⟩]
  port := 5000
  peers.entries := [
    (.v6 (uniqueLocal 2),
      .v6 ⟨[0x20, 0x01, 0x0D, 0xB8, 0, 0, 0, 0, 0, 0, 0, 0, 0, 0, 0, 0x10], rfl⟩ 5000 0),
    (.v4 (.ofOctets 10 0 0 3), .v4 (.ofOctets 192 0 2 11) 5001),
    (.v4 (.ofOctets 10 0 0 2), .v4 (.ofOctets 192 0 2 10) 5000)]
  idleTimeout := none
  closeTimeout := closeTimeout
  initialSleep := 0
  framing := false
  planetlab := false
  capturePath := none

def restingSetup (closeTimeout : Nat) : Setup where
  mode := .dual
  privates := ⟨some (.ofOctets 10 0 0 1), some (uniqueLocal 1)⟩
  listens := ⟨some .unspecified, some ⟨List.replicate 16 0, rfl⟩⟩
  tunName := ""
  port := 5000
  peers := (resting closeTimeout).peers
  idleTimeout := none
  closeTimeout := closeTimeout
  initialSleep := 0
  framing := false
  capturePath := none

def summoned (tunnel : List (Scheduled Bytes)) (due : Nat) : Script where
  mode := .dual
  now := 0
  sleep := id
  tunnel := tunnel
  socket4 := []
  socket6 := []
  tunnelResults := []
  results4 := []
  results6 := []
  shutdown := some (due, .requested)
  recording := none
  trace := []
  log := []

-- The iteration that hears the request still takes the frame that is ready then, but not the next one.
theorem run_closes_betweenFrames :
    Setup.ofSettings (resting 5000) = .ok (restingSetup 5000) ∧
      (summoned [⟨30, .ok []⟩, ⟨30, .ok []⟩] 30).mode = (restingSetup 5000).mode ∧
      (summoned [⟨30, .ok []⟩, ⟨30, .ok []⟩] 30).Punctual (restingSetup 5000).closeTimeout ∧
      (Forwarder.run (restingSetup 5000) (summoned [⟨30, .ok []⟩, ⟨30, .ok []⟩] 30)).2 = .stopped .shutdown ∧
      (Forwarder.run (restingSetup 5000) (summoned [⟨30, .ok []⟩, ⟨30, .ok []⟩] 30)).1.host.now = 5030 ∧
      (Forwarder.run (restingSetup 5000) (summoned [⟨30, .ok []⟩, ⟨30, .ok []⟩] 30)).1.host.tunnel.length = 1 ∧
      ∃ iterations finished,
        Chronicle (restingSetup 5000)
          (Forwarder.started (restingSetup 5000) (summoned [⟨30, .ok []⟩, ⟨30, .ok []⟩] 30)) iterations finished
          (Forwarder.run (restingSetup 5000) (summoned [⟨30, .ok []⟩, ⟨30, .ok []⟩] 30)).2 ∧
        Closing (restingSetup 5000) (summoned [⟨30, .ok []⟩, ⟨30, .ok []⟩] 30) iterations finished
          (Forwarder.run (restingSetup 5000) (summoned [⟨30, .ok []⟩, ⟨30, .ok []⟩] 30)).2 := by
  refine ⟨rfl, rfl, rfl, by decide +kernel, by decide +kernel, by decide +kernel, ?_⟩
  have built : Setup.ofSettings (resting 5000) = .ok (restingSetup 5000) := rfl
  have fitting : (summoned [⟨30, .ok []⟩, ⟨30, .ok []⟩] 30).mode = (restingSetup 5000).mode := rfl
  have punctual : (summoned [⟨30, .ok []⟩, ⟨30, .ok []⟩] 30).Punctual (restingSetup 5000).closeTimeout := rfl
  obtain ⟨iterations, finished, chronicle, _, _, _, closing⟩ := run_closes built fitting punctual
  exact ⟨iterations, finished, chronicle, closing⟩

end IpTunnel

import IpTunnel.Proofs.Discipline
import IpTunnel.Proofs.Losses
import IpTunnel.Proofs.Waits

namespace IpTunnel

def heard (iterations : List Iteration) : Option News := iterations.findSome? (·.news)

theorem heard_snoc (past : List Iteration) (iteration : Iteration) :
    heard (past ++ [iteration]) = (heard past).or iteration.news := by
  simp [heard, List.findSome?_append]

-- When the last of these iterations took place, which is also when it was over.
def Script.reached (script : Script) (past : List Iteration) : Nat := (past.getLast?.map (·.moment)).getD script.now

theorem reached_snoc (script : Script) (past : List Iteration) (iteration : Iteration) :
    script.reached (past ++ [iteration]) = iteration.moment := by
  simp [Script.reached]

theorem reached_last (script : Script) {past : List Iteration} (taken : past ≠ []) :
    ∃ last ∈ past, script.reached past = last.moment :=
  ⟨past.getLast taken, List.getLast_mem taken, by simp [Script.reached, List.getLast?_eq_some_getLast taken]⟩

-- When the news of a shutdown is due that still makes a difference. A request always does; the loss of
-- all who could make one does only until it has been heard.
def Script.summons (script : Script) (past : Option News) : Option Nat :=
  match script.shutdown with
  | some (due, .requested) => some due
  | some (due, .lost) => if past.isNone then some due else none
  | none => none

-- When whatever an iteration can begin with is due, on the devices that exist.
def Script.awaited (setup : Setup) (script : Script) (past : List Iteration) : List Nat :=
  let socket (family : Family) : List Nat :=
    if setup.hasSocket family then (nextDue ((script.unread past).socket family)).toList else []
  (nextDue (script.unread past).tunnel).toList ++ socket .v4 ++ socket .v6 ++ (script.summons (heard past)).toList

theorem news_awaited {setup : Setup} {script : Script} {past : List Iteration}
    (planned : script.shutdown = some (due, news)) (useful : news = .requested ∨ heard past = none) :
    due ∈ script.awaited setup past := by
  apply List.mem_append_right
  cases news with
  | requested => simp [Script.summons, planned]
  | lost =>
    rcases useful with other | silent
    · cases other
    · simp [Script.summons, planned, silent]

def Sound (setup : Setup) (iterations : List Iteration) : Prop :=
  (iterations.flatMap Iteration.steps).findSome? (Step.fault? setup) = none

-- The loop gets to the start of a pass once it is through with these iterations of the run.
structure Begins (setup : Setup) (iterations past : List Iteration) : Prop where
  front : ∃ later, iterations = past ++ later
  sound : Sound setup past

theorem sound_cons {setup : Setup} {iteration : Iteration} {rest : List Iteration} :
    Sound setup (iteration :: rest) ↔ iteration.steps.findSome? (Step.fault? setup) = none ∧ Sound setup rest := by
  simp [Sound, List.findSome?_append]

-- What a station remembers of its own; only the news of a shutdown changes it.
structure Posture where
  phase : Phase
  listening : Bool
  closing : Bool

def Station.posture (station : Station σ) : Posture := ⟨station.phase, station.listening, station.closing⟩

def Posture.heed (news : Option News) (posture : Posture) : Posture :=
  ⟨posture.phase, posture.listening && decide (news ≠ some .lost), posture.closing || decide (news = some .requested)⟩

structure Ledger where
  mode : Mode
  sleep : Nat → Nat
  recording : Option Capture.Recording
  log : List Notice

def Script.ledger (script : Script) : Ledger := ⟨script.mode, script.sleep, script.recording, script.log⟩

namespace Unbuffered

theorem look_posture {σ : Type} [Host σ] [Pulls σ] (setup : Setup) (station : Station σ) :
    (look setup station).1.posture = station.posture := by
  have heard : (hear station).1.posture = station.posture := by
    unfold hear
    split <;> rfl
  have tunnel (station : Station σ) : (pullTunnel station).1.posture = station.posture := rfl
  have socket (family : Family) (station : Station σ) :
      (pullSocket setup family station).1.posture = station.posture := by
    unfold pullSocket
    split <;> rfl
  exact (socket .v6 _).trans ((socket .v4 _).trans ((tunnel _).trans heard))

theorem look_ledger (setup : Setup) (station : Station Script) :
    (look setup station).1.host.ledger = station.host.ledger := by
  have heard : (hear station).1.host.ledger = station.host.ledger := by
    rw [Script.hear_eq]
    rfl
  have tunnel (station : Station Script) : (pullTunnel station).1.host.ledger = station.host.ledger := by
    change station.host.pullTunnel.1.ledger = _
    rw [Script.pullTunnel_eq]
    rfl
  have socket (family : Family) (station : Station Script) :
      (pullSocket setup family station).1.host.ledger = station.host.ledger := by
    unfold pullSocket
    split
    · change (station.host.pullSocket family).1.ledger = _
      rw [Script.pullSocket_eq]
      cases family <;> rfl
    · rfl
  exact (socket .v6 _).trans ((socket .v4 _).trans ((tunnel _).trans heard))

theorem handle_posture {σ : Type} [Host σ] (setup : Setup) (intake : Intake) (station : Station σ) :
    (handle setup intake station).1.posture = station.posture.heed intake.news := by
  unfold handle heed
  cases intake.news with
  | none => simp [Station.posture, Posture.heed]
  | some news => cases news <;> simp [Station.posture, Posture.heed]

theorem handle_inputs (setup : Setup) (intake : Intake) (station : Station Script) :
    (handle setup intake station).1.host.inputs = station.host.inputs := by
  obtain ⟨_, _, _, inputs⟩ := Script.act_performed (intake.deeds setup) (heed intake.news station).host
  exact inputs.trans (heed_host intake.news station).1

end Unbuffered

structure Advanced (setup : Setup) (before : Station Script) (iteration : Iteration) (after : Station Script) :
    Prop where
  opened : before.closing = false
  due : ∃ due, before.host.upcoming.min? = some due ∧ iteration.moment = max before.host.now due ∧
    ∀ limit, setup.idleTimeout = some limit → due ≤ before.host.now + limit
  posture : after.posture = before.posture.heed iteration.news
  mode : after.host.mode = before.host.mode
  sleep : after.host.sleep = before.host.sleep
  losses : after.host.losses = before.host.losses + if iteration.news = some .lost then 1 else 0

-- An iteration that takes something ends a run only by a fault of one of its steps.
theorem Iterated.ending_eq {setup : Setup} {before after : Station Script} {iteration : Iteration}
    {progress : Option Ending} (iterated : Iterated setup before iteration after progress) :
    progress = (iteration.steps.findSome? (Step.fault? setup)).map .failed := by
  obtain ⟨fault, ended, dealt, _⟩ := iterated.settled
  rw [dealt.fault_eq, ended]

theorem Iterated.calm {setup : Setup} {before after : Station Script} {iteration : Iteration} {ending : Ending}
    (iterated : Iterated setup before iteration after (some ending)) : ∃ cause, ending = .failed cause := by
  obtain ⟨cause, _, same⟩ := Option.map_eq_some_iff.mp iterated.ending_eq.symm
  exact ⟨cause, same.symm⟩

-- A pass that deals with something goes on or fails.
theorem Halted.untaken {setup : Setup} {before after : Station Script} {ending : Ending} {moment : Nat}
    (halted : Halted setup before after ending) (onward : before.host.now ≤ moment)
    (ready : (Unbuffered.look setup (before.advance moment)).2.events.isReady = true) :
    Unbuffered.handle setup (Unbuffered.look setup (before.advance moment)).2
      (Unbuffered.look setup (before.advance moment)).1 ≠ (after, some ending) := by
  intro handled
  obtain ⟨iteration, iterated⟩ := Unbuffered.handle_ready onward ready
  rw [handled] at iterated
  obtain ⟨cause, failed⟩ := iterated.calm
  exact halted.calm cause failed

theorem Unbuffered.iterate_erased {setup : Setup} {run after : Run Script} {progress : Option Ending}
    (sized : run.session.buffers.Sized) (step : Forwarder.iterate setup run = ⟨after, progress⟩) :
    iterate setup run.erase = (after.erase, progress) ∧ after.session.buffers.Sized := by
  obtain ⟨erased, kept⟩ := iterate_erase setup sized
  rw [step] at erased kept
  exact ⟨erased.symm, kept⟩

theorem Unbuffered.iterate_cases {setup : Setup} {before after : Station Script} {progress : Option Ending}
    (turned : iterate setup before = (after, progress)) :
    (∃ moment, before.host.now ≤ moment ∧ (look setup (before.advance moment)).2.events.isReady = true ∧
      handle setup (look setup (before.advance moment)).2 (look setup (before.advance moment)).1 = (after, progress)) ∨
    ∃ ending, progress = some ending ∧ (∀ cause, ending ≠ .failed cause) ∧
      after.host.recording = before.host.recording := by
  unfold iterate at turned
  by_cases closing : before.closing = true
  · rw [if_pos closing] at turned
    cases turned
    exact .inr ⟨_, rfl, nofun, rfl⟩
  · rw [if_neg closing] at turned
    have paused := wait_paused setup before
    generalize wait setup before = pause at turned paused
    cases paused with
    | ready onward ready => exact .inl ⟨_, onward, ready, turned⟩
    | idle vain =>
      cases turned
      exact .inr ⟨_, rfl, nofun, rfl⟩
    | stuck vain =>
      cases turned
      exact .inr ⟨_, rfl, nofun, rfl⟩

-- Once something was ready, an iteration is a look and what it calls for.
theorem Iterated.handled {setup : Setup} {before after : Station Script} {iteration : Iteration}
    {progress : Option Ending} (iterated : Iterated setup before iteration after progress)
    (turned : Unbuffered.iterate setup before = (after, progress)) :
    ∃ looked : Station Script, looked.posture = before.posture ∧ looked.host.ledger = before.host.ledger ∧
      looked.host.trace = before.host.trace ++ iteration.reads ∧
      after = (Unbuffered.handle setup iteration.intake looked).1 := by
  obtain ⟨moment, _, _, handled⟩ | ⟨ending, rfl, calm, _⟩ := Unbuffered.iterate_cases turned
  · obtain ⟨took, intake⟩ := Script.look_took setup (before.advance moment)
    have ledger := Unbuffered.look_ledger setup (before.advance moment)
    have posture := Unbuffered.look_posture setup (before.advance moment)
    generalize Unbuffered.look setup (before.advance moment) = looked at *
    obtain ⟨looked, taken⟩ := looked
    have left : after = (Unbuffered.handle setup taken looked).1 := (congrArg Prod.fst handled).symm
    have inputs := Unbuffered.handle_inputs setup taken looked
    rw [← left] at inputs
    have same : iteration.moment = moment :=
      iterated.now.symm.trans ((congrArg Inputs.now inputs).trans took.now)
    have takings : iteration.toTakings = (before.advance moment).host.takings setup := same ▸ iterated.taken
    have seen : taken = iteration.intake := by
      rw [Iteration.intake, takings, iterated.heard, same]
      exact intake
    refine ⟨looked, posture, ledger, ?_, seen ▸ left⟩
    rw [takings]
    exact took.trace
  · obtain ⟨cause, failed⟩ := iterated.calm
    exact absurd failed (calm cause)

theorem Iterated.advanced {setup : Setup} {before after : Station Script} {iteration : Iteration}
    {progress : Option Ending} (iterated : Iterated setup before iteration after progress)
    (fits : before.host.Fits setup) (attentive : before.Attentive)
    (turned : Unbuffered.iterate setup before = (after, progress)) : Advanced setup before iteration after := by
  obtain ⟨looked, posture, ledger, _, left⟩ := iterated.handled turned
  have inputs := Unbuffered.handle_inputs setup iteration.intake looked
  have handled := Unbuffered.handle_posture setup iteration.intake looked
  have losses := Unbuffered.handle_losses setup iteration.intake looked
  rw [← left] at inputs handled losses
  have turn := Unbuffered.iterate_turn fits attentive
  rw [turned] at turn
  generalize outcome : (after, progress) = came at turn
  cases turn with
  | close closing =>
    cases outcome
    obtain ⟨_, failed⟩ := iterated.calm
    cases failed
  | idle opened limited quiet moment reached =>
    cases outcome
    obtain ⟨_, failed⟩ := iterated.calm
    cases failed
  | stuck opened unlimited nothing =>
    cases outcome
    obtain ⟨_, failed⟩ := iterated.calm
    cases failed
  | taken opened first timely moment reached =>
    rename_i due
    have passed : after.host.now = moment :=
      (congrArg (fun came => came.1.host.now) outcome).trans
        ((congrArg Inputs.now (Unbuffered.handle_inputs ..)).trans (Script.look_took ..).1.now)
    refine ⟨opened, ⟨due, first, iterated.now.symm.trans (passed.trans reached), timely⟩, ?_, ?_, ?_, ?_⟩
    · exact handled.trans (congrArg _ posture)
    · exact (congrArg Inputs.mode inputs).trans (congrArg Ledger.mode ledger)
    · exact (congrArg Inputs.sleep inputs).trans (congrArg Ledger.sleep ledger)
    · exact losses.trans (congrArg (· + _) (congrArg (·.log.countP Notice.isLoss) ledger))

theorem filterMap_snoc_toList (select : α → Option β) (items : List α) (item : α) :
    (items ++ [item]).filterMap select = items.filterMap select ++ (select item).toList := by
  rw [List.filterMap_append, Chronicle.filterMap_cons_toList, List.filterMap_nil, List.append_nil]

-- A run between two of its iterations, told from the script and from the iterations that are past.
structure Standing (setup : Setup) (script : Script) (past : List Iteration) (run : Run Script) : Prop where
  sized : run.session.buffers.Sized
  phase : run.session.phase = .running
  listening : run.session.listening = decide (heard past ≠ some .lost)
  closing : run.session.closing = decide (heard past = some .requested)
  mode : run.host.mode = script.mode
  sleep : run.host.sleep = script.sleep
  now : run.host.now = script.reached past
  tunnel : script.tunnel = past.filterMap (·.tunnel) ++ run.host.tunnel
  socket : ∀ family, script.socket family = past.filterMap (·.socket family) ++ run.host.socket family
  shutdown : run.host.shutdown = if (heard past).isSome then none else script.shutdown
  told : ∀ news, heard past = some news → ∃ due, script.shutdown = some (due, news) ∧ due ≤ script.reached past
  untold : heard past = none → ∀ due news, script.shutdown = some (due, news) →
    ∀ iteration ∈ past, iteration.moment < due
  losses : run.host.losses = script.losses + if heard past = some .lost then 1 else 0

theorem standing_started (setup : Setup) (script : Script) :
    Standing setup script [] (Forwarder.started setup script) where
  sized := Buffers.sized_initial
  phase := rfl
  listening := rfl
  closing := rfl
  mode := rfl
  sleep := rfl
  now := rfl
  tunnel := rfl
  socket _ := rfl
  shutdown := rfl
  told := nofun
  untold _ _ _ _ := List.forall_mem_nil _
  losses := script.say_losses (.running setup.mode)

namespace Standing

variable {setup : Setup} {script : Script} {past : List Iteration} {run : Run Script}

theorem fits (standing : Standing setup script past run) (fitting : script.Fits setup) :
    run.erase.host.Fits setup := by
  intro family
  change run.host.mode.supports _ = _
  rw [standing.mode]
  exact fitting family

theorem attentive (standing : Standing setup script past run) : run.erase.Attentive := by
  by_cases lost : heard past = some .lost
  · right
    change run.host.shutdown = none
    rw [standing.shutdown, lost]
    rfl
  · left
    change run.session.listening = true
    rw [standing.listening]
    exact decide_eq_true lost

theorem news (standing : Standing setup script past run)
    (iterated : Iterated setup run.erase iteration after progress) :
    iteration.news = if (heard past).isSome then none else { script with now := iteration.moment }.news? true := by
  rw [iterated.heard]
  change ({ run.host with now := iteration.moment } : Script).news? run.session.listening = _
  unfold Script.news?
  rw [standing.listening, standing.shutdown]
  cases before : heard past with
  | none => rfl
  | some news => cases news <;> rfl

-- News is heard once, and an iteration hears it if it has come by then.
theorem heard_cases (standing : Standing setup script past run)
    (iterated : Iterated setup run.erase iteration after progress) :
    (heard past = none ∧ heard (past ++ [iteration]) = iteration.news ∧
      iteration.news = { script with now := iteration.moment }.news? true) ∨
    ∃ news, heard past = some news ∧ heard (past ++ [iteration]) = some news ∧ iteration.news = none := by
  have news := standing.news iterated
  rw [heard_snoc]
  cases before : heard past with
  | none =>
    rw [before] at news
    exact .inl ⟨rfl, rfl, news⟩
  | some earlier =>
    rw [before] at news
    exact .inr ⟨earlier, rfl, rfl, news⟩

theorem heard_of_news {news : News} (standing : Standing setup script past run)
    (iterated : Iterated setup run.erase iteration after progress) (told : iteration.news = some news) :
    heard (past ++ [iteration]) = some news := by
  obtain ⟨_, same, _⟩ | ⟨_, _, _, nothing⟩ := standing.heard_cases iterated
  · exact same.trans told
  · rw [nothing] at told
    cases told

theorem opened_iff (standing : Standing setup script past run) :
    run.erase.closing = false ↔ heard past ≠ some .requested := by
  change run.session.closing = false ↔ _
  rw [standing.closing, decide_eq_false_iff_not]

-- What the station holds of its news is what has been heard of them, the iteration's own among them.
theorem tallied {after : Run Script} (standing : Standing setup script past run)
    (iterated : Iterated setup run.erase iteration after.erase progress)
    (advanced : Advanced setup run.erase iteration after.erase) :
    after.session.listening = decide (heard (past ++ [iteration]) ≠ some .lost) ∧
      after.session.closing = decide (heard (past ++ [iteration]) = some .requested) ∧
      after.host.shutdown = (if (heard (past ++ [iteration])).isSome then none else script.shutdown) ∧
      after.host.losses = script.losses + if heard (past ++ [iteration]) = some .lost then 1 else 0 := by
  have shutdown : after.host.shutdown = if iteration.news.isSome then none else run.host.shutdown := by
    rw [iterated.heard]
    exact iterated.shutdown
  have listening : after.session.listening = (run.session.listening && decide (iteration.news ≠ some .lost)) :=
    congrArg Posture.listening advanced.posture
  have closing : after.session.closing = (run.session.closing || decide (iteration.news = some .requested)) :=
    congrArg Posture.closing advanced.posture
  have losses : after.host.losses = run.host.losses + if iteration.news = some .lost then 1 else 0 := advanced.losses
  rw [standing.listening] at listening
  rw [standing.closing] at closing
  rw [standing.shutdown] at shutdown
  rw [standing.losses] at losses
  obtain ⟨before, later, _⟩ | ⟨news, before, later, nothing⟩ := standing.heard_cases iterated
  · rw [listening, closing, shutdown, losses, later, before]
    exact ⟨rfl, rfl, rfl, rfl⟩
  · rw [listening, closing, shutdown, losses, later, before, nothing]
    exact ⟨Bool.and_true _, Bool.or_false _, rfl, rfl⟩

theorem told_snoc {news : News} (standing : Standing setup script past run)
    (iterated : Iterated setup run.erase iteration after progress)
    (known : heard (past ++ [iteration]) = some news) :
    ∃ due, script.shutdown = some (due, news) ∧ due ≤ iteration.moment := by
  obtain ⟨_, same, found⟩ | ⟨earlier, before, same, _⟩ := standing.heard_cases iterated
  · rw [same, found] at known
    exact Script.news?_eq_some.mp known
  · rw [same] at known
    cases known
    obtain ⟨due, planned, ready⟩ := standing.told news before
    refine ⟨due, planned, Nat.le_trans ready ?_⟩
    rw [← standing.now]
    exact iterated.onward

theorem untold_snoc {due : Nat} {news : News} (standing : Standing setup script past run)
    (iterated : Iterated setup run.erase iteration after progress) (silent : heard (past ++ [iteration]) = none)
    (planned : script.shutdown = some (due, news)) : ∀ other ∈ past ++ [iteration], other.moment < due := by
  intro other member
  obtain ⟨before, later, found⟩ | ⟨earlier, _, later, _⟩ := standing.heard_cases iterated
  · rcases List.mem_append.mp member with among | among
    · exact standing.untold before due news planned other among
    · rw [List.mem_singleton.mp among]
      apply Nat.lt_of_not_le
      intro ready
      have come : ({ script with now := iteration.moment } : Script).news? true = some news :=
        Script.news?_eq_some.mpr ⟨due, planned, ready⟩
      rw [later, found, come] at silent
      cases silent
  · rw [later] at silent
    cases silent

theorem advance {after : Run Script} (standing : Standing setup script past run)
    (iterated : Iterated setup run.erase iteration after.erase progress)
    (advanced : Advanced setup run.erase iteration after.erase) (sized : after.session.buffers.Sized) :
    Standing setup script (past ++ [iteration]) after := by
  obtain ⟨listening, closing, shutdown, losses⟩ := standing.tallied iterated advanced
  refine {
    sized := sized
    phase := (congrArg Posture.phase advanced.posture).trans standing.phase
    listening := listening
    closing := closing
    mode := advanced.mode.trans standing.mode
    sleep := advanced.sleep.trans standing.sleep
    now := iterated.now.trans (reached_snoc script past iteration).symm
    tunnel := ?_
    socket := ?_
    shutdown := shutdown
    told := ?_
    untold := fun silent _ _ planned => standing.untold_snoc iterated silent planned
    losses := losses }
  · rw [standing.tunnel, filterMap_snoc_toList, List.append_assoc]
    exact congrArg _ iterated.tunnel
  · intro family
    rw [standing.socket family, filterMap_snoc_toList, List.append_assoc]
    exact congrArg _ (iterated.socket family)
  · intro news known
    rw [reached_snoc]
    exact standing.told_snoc iterated known

theorem upcoming_eq (standing : Standing setup script past run) (fitting : script.Fits setup)
    (unrequested : heard past ≠ some .requested) : run.host.upcoming = script.awaited setup past := by
  have socket (family : Family) : (script.unread past).socket family = run.host.socket family := by
    change (script.socket family).drop _ = _
    rw [standing.socket family, List.drop_left]
  have tunnel : (script.unread past).tunnel = run.host.tunnel := by
    change script.tunnel.drop _ = _
    rw [standing.tunnel, List.drop_left]
  have fits (family : Family) : run.host.mode.supports (.known family) = setup.hasSocket family :=
    standing.fits fitting family
  have news : run.host.shutdown.map (·.1) = script.summons (heard past) := by
    rw [standing.shutdown]
    unfold Script.summons
    cases before : heard past with
    | none =>
      cases script.shutdown with
      | none => rfl
      | some plan =>
        obtain ⟨due, news⟩ := plan
        cases news with
        | requested => rfl
        | lost => rfl
    | some news =>
      obtain ⟨due, planned, _⟩ := standing.told news before
      rw [planned]
      cases news with
      | requested => exact absurd before unrequested
      | lost => rfl
  simp only [Script.upcoming, Script.awaited, Script.nextDue, socket, tunnel, fits, news]

-- An iteration takes place when the first thing that is awaited is due.
theorem foremost {after : Station Script} (standing : Standing setup script past run) (fitting : script.Fits setup)
    (advanced : Advanced setup run.erase iteration after) :
    heard past ≠ some .requested ∧ ∃ due, (script.awaited setup past).min? = some due ∧
      iteration.moment = max (script.reached past) due ∧
      ∀ limit, setup.idleTimeout = some limit → due ≤ script.reached past + limit := by
  obtain ⟨due, first, moment, timely⟩ := advanced.due
  have unasked := standing.opened_iff.mp advanced.opened
  have now : run.erase.host.now = script.reached past := standing.now
  have upcoming : run.erase.host.upcoming = script.awaited setup past := standing.upcoming_eq fitting unasked
  rw [upcoming] at first
  rw [now] at moment timely
  exact ⟨unasked, due, first, moment, timely⟩

theorem stepped {after : Run Script} (standing : Standing setup script past run) (fitting : script.Fits setup)
    (step : Forwarder.iterate setup run = ⟨after, progress⟩)
    (iterated : Iterated setup run.erase iteration after.erase progress) :
    Advanced setup run.erase iteration after.erase ∧ Standing setup script (past ++ [iteration]) after := by
  obtain ⟨turned, kept⟩ := Unbuffered.iterate_erased standing.sized step
  have advanced := iterated.advanced (standing.fits fitting) standing.attentive turned
  exact ⟨advanced, standing.advance iterated advanced kept⟩

end Standing

inductive Finale (setup : Setup) (script : Script) (past : List Iteration) (finished : Run Script) : Ending → Prop where
  | shutdown (asked : heard past = some .requested) (planned : script.shutdown = some (due, .requested))
      (come : due ≤ script.reached past)
      (now : finished.host.now = script.reached past + script.sleep setup.closeTimeout)
      (phase : finished.session.phase = .shuttingDown) : Finale setup script past finished (.stopped .shutdown)
  | idle (unasked : heard past ≠ some .requested) (limited : setup.idleTimeout = some limit)
      (quiet : ∀ due ∈ script.awaited setup past, script.reached past + limit < due)
      (now : finished.host.now = script.reached past + limit)
      (phase : finished.session.phase = .running) : Finale setup script past finished (.stopped .idle)
  | stuck (unasked : heard past ≠ some .requested) (unlimited : setup.idleTimeout = none)
      (nothing : script.awaited setup past = []) (now : finished.host.now = script.reached past)
      (phase : finished.session.phase = .running) : Finale setup script past finished .stuck

theorem Standing.finale {setup : Setup} {script : Script} {past : List Iteration} {run finished : Run Script}
    {ending : Ending} (standing : Standing setup script past run) (fitting : script.Fits setup)
    (step : Forwarder.iterate setup run = ⟨finished, some ending⟩)
    (halted : Halted setup run.erase finished.erase ending) :
    Finale setup script past finished ending ∧ finished.host.losses = run.host.losses := by
  obtain ⟨turned, _⟩ := Unbuffered.iterate_erased standing.sized step
  have turn := Unbuffered.iterate_turn (standing.fits fitting) standing.attentive
  rw [turned] at turn
  generalize outcome : (finished.erase, some ending) = came at turn
  cases turn with
  | close closing =>
    obtain ⟨left, ended⟩ := Prod.mk.inj outcome
    cases ended
    have host := congrArg Station.host left
    have asked : heard past = some .requested := by
      change run.session.closing = true at closing
      rw [standing.closing] at closing
      exact of_decide_eq_true closing
    obtain ⟨due, planned, come⟩ := standing.told .requested asked
    refine ⟨.shutdown asked planned come ?_ (congrArg Station.phase left), ?_⟩
    · rw [← standing.now, ← standing.sleep]
      exact congrArg Script.now host
    · exact (congrArg Script.losses host).trans (run.host.say_losses (.shuttingDown setup.closeTimeout))
  | idle opened limited quiet moment reached =>
    obtain ⟨left, ended⟩ := Prod.mk.inj outcome
    cases ended
    have host := congrArg Station.host left
    have unasked := standing.opened_iff.mp opened
    have now : run.erase.host.now = script.reached past := standing.now
    have upcoming : run.erase.host.upcoming = script.awaited setup past := standing.upcoming_eq fitting unasked
    rw [upcoming, now] at quiet
    rw [now] at reached
    refine ⟨.idle unasked limited quiet ?_ ?_, ?_⟩
    · exact (congrArg Script.now host).trans reached
    · exact (congrArg Station.phase left).trans standing.phase
    · exact (congrArg Script.losses host).trans
        (({ run.host with now := moment } : Script).say_losses .noActivity)
  | stuck opened unlimited nothing =>
    obtain ⟨left, ended⟩ := Prod.mk.inj outcome
    cases ended
    have host := congrArg Station.host left
    have unasked := standing.opened_iff.mp opened
    refine ⟨.stuck unasked unlimited ?_ ?_ ?_, ?_⟩
    · exact (standing.upcoming_eq fitting unasked).symm.trans nothing
    · exact (congrArg Script.now host).trans standing.now
    · exact (congrArg Station.phase left).trans standing.phase
    · exact congrArg Script.losses host
  | taken opened first timely moment reached =>
    rename_i due
    have among := (List.min?_eq_some_iff.mp first).1
    have ready := (Unbuffered.look_ready (standing.fits fitting) standing.attentive moment).mpr
      ⟨due, among, reached ▸ Nat.le_max_right _ _⟩
    have onward : run.erase.host.now ≤ moment := reached ▸ Nat.le_max_left _ _
    exact absurd outcome.symm (halted.untaken onward ready)

namespace Chronicle

variable {setup : Setup} {script : Script} {before after : Run Script} {past iterations : List Iteration}
  {ending : Ending}

theorem sound (chronicle : Chronicle setup before iterations after ending)
    (place : iterations = earlier ++ iteration :: later) : Sound setup earlier := by
  induction chronicle generalizing earlier with
  | halt step halted => simp at place
  | last step iterated =>
    cases earlier with
    | nil => exact rfl
    | cons head tail => simp at place
  | next step iterated rest ih =>
    cases earlier with
    | nil => exact rfl
    | cons head tail =>
      rw [List.cons_append, List.cons.injEq] at place
      obtain ⟨rfl, place⟩ := place
      exact sound_cons.mpr ⟨Option.map_eq_none_iff.mp iterated.ending_eq.symm, ih place⟩

-- After iterations that went well a run goes on from where it stands.
theorem resume (chronicle : Chronicle setup before iterations after ending) (fitting : script.Fits setup)
    (standing : Standing setup script past before) (place : iterations = earlier ++ later)
    (sound : Sound setup earlier) :
    ∃ middle, Standing setup script (past ++ earlier) middle ∧ Chronicle setup middle later after ending := by
  induction earlier generalizing before past iterations with
  | nil =>
    rw [List.append_nil]
    obtain rfl : iterations = later := place
    exact ⟨before, standing, chronicle⟩
  | cons head tail ih =>
    obtain ⟨well, others⟩ := sound_cons.mp sound
    cases chronicle with
    | halt step halted => cases place
    | last step iterated =>
      rw [List.cons_append, List.cons.injEq] at place
      obtain ⟨rfl, _⟩ := place
      have ended := iterated.ending_eq
      rw [well] at ended
      cases ended
    | next step iterated rest =>
      rw [List.cons_append, List.cons.injEq] at place
      obtain ⟨rfl, place⟩ := place
      obtain ⟨_, onward⟩ := standing.stepped fitting step iterated
      rw [List.append_cons]
      exact ih rest onward place others

theorem stand (chronicle : Chronicle setup (Forwarder.started setup script) iterations after ending)
    (fitting : script.Fits setup) (place : iterations = earlier ++ later) (sound : Sound setup earlier) :
    ∃ middle, Standing setup script earlier middle ∧ Chronicle setup middle later after ending :=
  chronicle.resume fitting (standing_started setup script) place sound

-- Where a run stands in front of an iteration, and where that leads.
theorem turn (chronicle : Chronicle setup before (iteration :: later) after ending) (fitting : script.Fits setup)
    (standing : Standing setup script past before) :
    ∃ middle progress, Iterated setup before.erase iteration middle.erase progress ∧
      Advanced setup before.erase iteration middle.erase ∧ Standing setup script (past ++ [iteration]) middle ∧
      ((iteration.steps.findSome? (Step.fault? setup) = none ∧ Chronicle setup middle later after ending) ∨
        ∃ cause, iteration.steps.findSome? (Step.fault? setup) = some cause ∧ later = [] ∧ middle = after ∧
          ending = .failed cause) := by
  cases chronicle with
  | last step iterated =>
    obtain ⟨advanced, onward⟩ := standing.stepped fitting step iterated
    obtain ⟨cause, fault, same⟩ := Option.map_eq_some_iff.mp iterated.ending_eq.symm
    exact ⟨after, _, iterated, advanced, onward, .inr ⟨cause, fault, rfl, rfl, same.symm⟩⟩
  | next step iterated rest =>
    obtain ⟨advanced, onward⟩ := standing.stepped fitting step iterated
    have well := Option.map_eq_none_iff.mp iterated.ending_eq.symm
    exact ⟨_, _, iterated, advanced, onward, .inl ⟨well, rest⟩⟩

theorem finale (chronicle : Chronicle setup before [] after ending) (fitting : script.Fits setup)
    (standing : Standing setup script past before) :
    Finale setup script past after ending ∧ after.host.losses = before.host.losses := by
  cases chronicle with
  | halt step halted => exact standing.finale fitting step halted

theorem sound_of_calm (chronicle : Chronicle setup before iterations after ending)
    (calm : ∀ cause, ending ≠ .failed cause) : Sound setup iterations := by
  obtain ⟨fault, dealt, decides⟩ := chronicle.dealt
  cases fault with
  | none => exact dealt.fault_eq
  | some cause => exact absurd ((decides cause).mpr rfl) (calm cause)

end Chronicle

-- Where a run is at its end: it failed in its last iteration, or it took nothing more.
inductive Outcome (setup : Setup) (script : Script) (iterations : List Iteration) (finished : Run Script) :
    Ending → Prop where
  | failed (taken : iterations ≠ []) (standing : Standing setup script iterations finished) :
      Outcome setup script iterations finished (.failed cause)
  | ended (standing : Standing setup script iterations middle) (finale : Finale setup script iterations finished ending)
      (losses : finished.host.losses = middle.host.losses) : Outcome setup script iterations finished ending

namespace Chronicle

variable {setup : Setup} {script : Script} {before after : Run Script} {iterations : List Iteration} {ending : Ending}

theorem outcome (chronicle : Chronicle setup (Forwarder.started setup script) iterations after ending)
    (fitting : script.Fits setup) : Outcome setup script iterations after ending := by
  by_cases fails : ∃ cause, ending = .failed cause
  · obtain ⟨cause, rfl⟩ := fails
    obtain ⟨previous, last, rfl, done, broken⟩ := chronicle.failed rfl
    obtain ⟨middle, standing, rest⟩ := chronicle.stand fitting rfl done.fault_eq
    obtain ⟨_, _, _, _, onward, ⟨well, _⟩ | ⟨_, _, _, rfl, _⟩⟩ := rest.turn fitting standing
    · rw [broken.fault_eq] at well
      cases well
    · exact .failed (List.append_ne_nil_of_right_ne_nil _ (List.cons_ne_nil _ _)) onward
  · have sound := chronicle.sound_of_calm fun cause same => fails ⟨cause, same⟩
    obtain ⟨middle, standing, rest⟩ := chronicle.stand fitting (List.append_nil _).symm sound
    obtain ⟨finale, losses⟩ := rest.finale fitting standing
    exact .ended standing finale losses

theorem whole (chronicle : Chronicle setup before iterations after ending) : ending ≠ .overran := by
  induction chronicle with
  | halt step halted => exact halted.whole
  | last step iterated =>
    obtain ⟨cause, rfl⟩ := iterated.calm
    exact nofun
  | next step iterated rest ih => exact ih

-- A limit on idling or a request still to come leaves the loop something to wait for.
theorem unstuck (chronicle : Chronicle setup (Forwarder.started setup script) iterations after ending)
    (fitting : script.Fits setup)
    (bounded : setup.idleTimeout.isSome ∨ ∃ due, script.shutdown = some (due, .requested)) : ending ≠ .stuck := by
  rintro rfl
  cases chronicle.outcome fitting with
  | ended standing finale losses =>
    cases finale with
    | stuck unasked unlimited nothing =>
      rcases bounded with limited | ⟨due, planned⟩
      · rw [unlimited] at limited
        cases limited
      · have awaited : due ∈ script.awaited setup iterations := news_awaited planned (.inl rfl)
        rw [nothing] at awaited
        cases awaited

end Chronicle

-- What a pass of the loop comes to that begins after these iterations.
inductive Prospect (setup : Setup) (script : Script) (iterations past : List Iteration) (finished : Run Script)
    (ending : Ending) : Prop where
  | ended (whole : iterations = past) (finale : Finale setup script past finished ending) :
      Prospect setup script iterations past finished ending
  | onward (place : iterations = past ++ iteration :: later) (unasked : heard past ≠ some .requested)
      (first : (script.awaited setup past).min? = some due) (moment : iteration.moment = max (script.reached past) due)
      (timely : ∀ limit, setup.idleTimeout = some limit → due ≤ script.reached past + limit) :
      Prospect setup script iterations past finished ending

theorem Chronicle.prospect {setup : Setup} {script : Script} {iterations past : List Iteration}
    {finished : Run Script} {ending : Ending}
    (chronicle : Chronicle setup (Forwarder.started setup script) iterations finished ending)
    (fitting : script.Fits setup) (begins : Begins setup iterations past) :
    Prospect setup script iterations past finished ending := by
  obtain ⟨⟨later, place⟩, sound⟩ := begins
  obtain ⟨middle, standing, rest⟩ := chronicle.stand fitting place sound
  cases later with
  | nil =>
    rw [List.append_nil] at place
    exact .ended place (rest.finale fitting standing).1
  | cons iteration later =>
    obtain ⟨_, _, _, advanced, _, _⟩ := rest.turn fitting standing
    obtain ⟨unasked, due, first, moment, timely⟩ := standing.foremost fitting advanced
    exact .onward place unasked first moment timely

end IpTunnel

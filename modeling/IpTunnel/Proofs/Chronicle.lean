import IpTunnel.Proofs.Waits

namespace IpTunnel

structure Iteration extends Takings where
  moment : Nat
  news : Option News
  forTunnel : List Entry
  for4 : List Entry
  for6 : List Entry

namespace Iteration

def intake (iteration : Iteration) : Intake := iteration.toTakings.intake iteration.news

def stages (setup : Setup) (iteration : Iteration) : List (List Deed) :=
  [Deed.ofTunnel setup iteration.intake.tunnel, Deed.ofSocket setup .v4 iteration.intake.socket4,
    Deed.ofSocket setup .v6 iteration.intake.socket6]

def entries (iteration : Iteration) : List Entry :=
  iteration.reads ++ (iteration.forTunnel ++ (iteration.for4 ++ iteration.for6))

end Iteration

-- An iteration in which something was ready: it is dealt with at the first moment at which it is.
structure Iterated (setup : Setup) (before : Station Script) (iteration : Iteration) (after : Station Script)
    (ending : Option Ending) : Prop where
  onward : before.host.now ≤ iteration.moment
  ready : iteration.intake.events.isReady = true
  taken : iteration.toTakings = (before.advance iteration.moment).host.takings setup
  heard : iteration.news = (before.advance iteration.moment).host.news? before.listening
  tunnel : before.host.tunnel = iteration.tunnel.toList ++ after.host.tunnel
  socket4 : before.host.socket4 = iteration.socket4.toList ++ after.host.socket4
  socket6 : before.host.socket6 = iteration.socket6.toList ++ after.host.socket6
  shutdown : after.host.shutdown = (before.advance iteration.moment).host.unheard before.listening
  now : after.host.now = iteration.moment
  trace : after.host.trace = before.host.trace ++ iteration.entries
  staged : Staged (iteration.stages setup) [iteration.forTunnel, iteration.for4, iteration.for6] ending

-- Every such iteration uses up an event or the news.
theorem Iterated.progress (iterated : Iterated setup before iteration after ending) :
    Host.pending after.host < Host.pending before.host := by
  have count {α : Type} (item : Option α) : item.toList.length = if item.isSome then 1 else 0 := by
    cases item <;> rfl
  have tunnel := congrArg List.length iterated.tunnel
  have socket4 := congrArg List.length iterated.socket4
  have socket6 := congrArg List.length iterated.socket6
  have news := (before.advance iteration.moment).host.unheard_news? before.listening
  have ready := iterated.ready
  rw [← iterated.heard, ← iterated.shutdown] at news
  simp only [List.length_append, count iteration.tunnel, count iteration.socket4, count iteration.socket6] at *
  simp only [Events.isReady, Iteration.intake, Takings.intake, Intake.events, Option.isSome_map, Bool.or_eq_true] at ready
  change after.host.pending < before.host.pending
  unfold Script.pending
  rw [count iteration.news] at news
  change _ = before.host.shutdown.toList.length at news
  rcases ready with ((ready | ready) | ready) | ready <;> rw [if_pos ready] at * <;> omega

structure Still (before after : Script) : Prop where
  tunnel : after.tunnel = before.tunnel
  socket4 : after.socket4 = before.socket4
  socket6 : after.socket6 = before.socket6
  trace : after.trace = before.trace

-- Nothing to take: on no device that exists is an event due, and there is no news that is not heard yet.
structure Station.Quiet (setup : Setup) (moment : Nat) (station : Station Script) : Prop where
  takings : (station.advance moment).host.takings setup = ⟨none, none, none⟩
  news : (station.advance moment).host.news? station.listening = none

-- A pass that takes nothing ends the run, and not by a failure. Unless it closes the session there was
-- nothing to take, and nothing comes before its wait is over.
structure Halted (setup : Setup) (before after : Station Script) (ending : Ending) : Prop where
  still : Still before.host after.host
  calm : ∀ cause, ending ≠ .failed cause
  whole : ending ≠ .overran
  closes : ending = .stopped .shutdown ↔ before.closing = true
  quiet : before.closing = false → ∃ moment, before.host.now ≤ moment ∧ before.Quiet setup moment
  late : before.host.Fits setup → before.Attentive → before.closing = false →
    ∀ due ∈ before.host.upcoming, ∃ limit, setup.idleTimeout = some limit ∧ before.host.now + limit < due

-- A run as its iterations; the last one of them may be one that took nothing.
inductive Chronicle (setup : Setup) : Run Script → List Iteration → Run Script → Ending → Prop where
  | halt (step : Forwarder.iterate setup before = ⟨after, some ending⟩)
      (halted : Halted setup before.erase after.erase ending) : Chronicle setup before [] after ending
  | last (step : Forwarder.iterate setup before = ⟨after, some ending⟩)
      (iterated : Iterated setup before.erase iteration after.erase (some ending)) :
      Chronicle setup before [iteration] after ending
  | next (step : Forwarder.iterate setup before = ⟨middle, none⟩)
      (iterated : Iterated setup before.erase iteration middle.erase none)
      (rest : Chronicle setup middle iterations after ending) :
      Chronicle setup before (iteration :: iterations) after ending

namespace Unbuffered

inductive Paused (setup : Setup) (before : Station Script) : Pause Script → Prop where
  | ready (onward : before.host.now ≤ moment) (ready : (look setup (before.advance moment)).2.events.isReady = true) :
      Paused setup before (.ready (look setup (before.advance moment)).1 (look setup (before.advance moment)).2)
  | idle (vain : ∃ looked, before.host.now ≤ looked ∧ before.Quiet setup looked) :
      Paused setup before (.idle (before.advance moment))
  | stuck (vain : ∃ looked, before.host.now ≤ looked ∧ before.Quiet setup looked) :
      Paused setup before (.stuck (before.advance moment))

theorem quiet_of_unready {setup : Setup} {before : Station Script} {moment : Nat}
    (unready : (look setup (before.advance moment)).2.events.isReady = false) : before.Quiet setup moment := by
  obtain ⟨_, intake⟩ := Script.look_took setup (before.advance moment)
  rw [intake] at unready
  simp only [Events.isReady, Intake.events, Takings.intake, Option.isSome_map, Bool.or_eq_false_iff,
    Option.isSome_eq_false_iff, Option.isNone_iff_eq_none] at unready
  obtain ⟨⟨⟨news, tunnel⟩, socket4⟩, socket6⟩ := unready
  refine ⟨?_, news⟩
  generalize (before.advance moment).host.takings setup = takings at tunnel socket4 socket6
  obtain ⟨_, _, _⟩ := takings
  cases tunnel
  cases socket4
  cases socket6
  rfl

-- It has looked in vain before it waits, also where its fuel runs out.
theorem waitUntil_paused (setup : Setup) (deadline : Option Nat) (fuel : Nat) {before : Station Script}
    {start : Nat} (onward : before.host.now ≤ start)
    (looks : 0 < fuel ∨ ∃ looked, before.host.now ≤ looked ∧ before.Quiet setup looked) :
    Paused setup before (waitUntil setup deadline fuel (before.advance start)) := by
  induction fuel generalizing start with
  | zero => exact .stuck (looks.resolve_left (Nat.lt_irrefl 0))
  | succ fuel ih =>
    unfold waitUntil
    by_cases ready : (look setup (before.advance start)).2.events.isReady = true
    · simp only [ready, if_true]
      exact .ready onward ready
    · have unready := Bool.eq_false_iff.mpr ready
      have vain : ∃ looked, before.host.now ≤ looked ∧ before.Quiet setup looked :=
        ⟨start, onward, quiet_of_unready unready⟩
      simp only [ready]
      rw [Script.look_waiting unready]
      obtain ⟨moment, elapsed, later⟩ := Script.await_frame deadline (before.advance start).host
      generalize Host.await deadline (before.advance start).host = answer at elapsed later
      obtain ⟨waking, after⟩ := answer
      obtain rfl := elapsed
      cases waking with
      | woken => exact ih (Nat.le_trans onward (later rfl)) (.inr vain)
      | timedOut => exact .idle vain
      | never => exact .stuck vain

theorem wait_paused (setup : Setup) (before : Station Script) : Paused setup before (wait setup before) :=
  waitUntil_paused setup _ _ (Nat.le_refl before.host.now) (.inl (Nat.succ_pos _))

theorem heed_host (news : Option News) (station : Station Script) :
    (heed news station).host.inputs = station.host.inputs ∧ (heed news station).host.trace = station.host.trace := by
  cases news with
  | none => exact ⟨rfl, rfl⟩
  | some news => cases news <;> exact ⟨rfl, rfl⟩

theorem deeds_eq (setup : Setup) (iteration : Iteration) :
    iteration.intake.deeds setup = (iteration.stages setup).flatten := by
  simp [Intake.deeds, Iteration.stages]

theorem handle_ready {setup : Setup} {before : Station Script} {moment : Nat} (onward : before.host.now ≤ moment)
    (ready : (look setup (before.advance moment)).2.events.isReady = true) :
    ∃ iteration, Iterated setup before iteration
      (handle setup (look setup (before.advance moment)).2 (look setup (before.advance moment)).1).1
      (handle setup (look setup (before.advance moment)).2 (look setup (before.advance moment)).1).2 := by
  obtain ⟨took, intake⟩ := Script.look_took setup (before.advance moment)
  let takings := (before.advance moment).host.takings setup
  let news := (before.advance moment).host.news? before.listening
  have seen : (look setup (before.advance moment)).2 = takings.intake news := intake
  rw [seen] at ready ⊢
  generalize (look setup (before.advance moment)).1 = looked at took
  obtain ⟨told, unwritten⟩ := heed_host news looked
  obtain ⟨parts, staged, grown, kept⟩ := Script.act_staged
    (Iteration.stages setup ⟨takings, moment, news, [], [], []⟩) (heed news looked).host
  obtain ⟨forTunnel, for4, for6, rfl⟩ := staged.three
  have inputs := kept.trans told
  rw [← deeds_eq] at staged grown inputs
  refine ⟨⟨takings, moment, news, forTunnel, for4, for6⟩, ?_⟩
  simp only [handle]
  exact {
    onward := onward
    ready := ready
    taken := rfl
    heard := rfl
    tunnel := took.tunnel.trans (congrArg _ (congrArg Inputs.tunnel inputs).symm)
    socket4 := took.socket4.trans (congrArg _ (congrArg Inputs.socket4 inputs).symm)
    socket6 := took.socket6.trans (congrArg _ (congrArg Inputs.socket6 inputs).symm)
    shutdown := (congrArg Inputs.shutdown inputs).trans took.shutdown
    now := (congrArg Inputs.now inputs).trans took.now
    trace := by
      refine (grown.trans (congrArg (· ++ _) (unwritten.trans took.trace))).trans ?_
      simp only [Iteration.entries, List.flatten_cons, List.flatten_nil, List.append_nil, List.append_assoc]
      rfl
    staged := staged }

theorem iterate_told (setup : Setup) (before : Station Script) :
    (∃ iteration, Iterated setup before iteration (iterate setup before).1 (iterate setup before).2) ∨
      ∃ ending, (iterate setup before).2 = some ending ∧ Halted setup before (iterate setup before).1 ending := by
  unfold iterate
  by_cases closing : before.closing = true
  · rw [if_pos closing]
    have closes : Ending.stopped .shutdown = .stopped .shutdown ↔ before.closing = true := by simp [closing]
    exact .inr ⟨_, rfl, ⟨rfl, rfl, rfl, rfl⟩, nofun, nofun, closes, by simp [closing], by simp [closing]⟩
  · rw [if_neg closing]
    have paused := wait_paused setup before
    have ended := @wait_ended setup before
    generalize wait setup before = pause at paused ended
    cases paused with
    | ready onward ready => exact .inl (handle_ready onward ready)
    | idle vain =>
      exact .inr ⟨_, rfl, ⟨rfl, rfl, rfl, rfl⟩, nofun, nofun, by simp [closing], fun _ => vain,
        fun fits attentive _ => (ended fits attentive).late (by simp)⟩
    | stuck vain =>
      exact .inr ⟨_, rfl, ⟨rfl, rfl, rfl, rfl⟩, nofun, nofun, by simp [closing], fun _ => vain,
        fun fits attentive _ => (ended fits attentive).late (by simp)⟩

end Unbuffered

namespace Chronicle

variable {setup : Setup} {before after : Run Script} {iterations : List Iteration} {ending : Ending}

theorem filterMap_cons_toList (select : α → Option β) (item : α) (rest : List α) :
    (item :: rest).filterMap select = (select item).toList ++ rest.filterMap select := by
  cases found : select item with
  | none => simp [found]
  | some value => simp [found]

theorem flatMap_eq_filterMap {spread : α → List β} {select : α → Option β} {items : List α}
    (same : ∀ item ∈ items, spread item = (select item).toList) : items.flatMap spread = items.filterMap select := by
  induction items with
  | nil => rfl
  | cons item rest ih =>
    rw [List.flatMap_cons, filterMap_cons_toList, same item (List.mem_cons_self ..),
      ih fun other among => same other (List.mem_cons_of_mem _ among)]

theorem told (chronicle : Chronicle setup before iterations after ending) :
    before.host.tunnel = iterations.filterMap (·.tunnel) ++ after.host.tunnel ∧
      before.host.socket4 = iterations.filterMap (·.socket4) ++ after.host.socket4 ∧
      before.host.socket6 = iterations.filterMap (·.socket6) ++ after.host.socket6 ∧
      after.host.trace = before.host.trace ++ iterations.flatMap Iteration.entries := by
  induction chronicle with
  | halt step halted =>
    obtain ⟨tunnel, socket4, socket6, trace⟩ := halted.still
    exact ⟨tunnel.symm, socket4.symm, socket6.symm, trace.trans (List.append_nil _).symm⟩
  | last step iterated =>
    simp only [filterMap_cons_toList, List.filterMap_nil, List.flatMap_cons, List.flatMap_nil, List.append_nil]
    exact ⟨iterated.tunnel, iterated.socket4, iterated.socket6, iterated.trace⟩
  | next step iterated rest ih =>
    obtain ⟨tunnel, socket4, socket6, trace⟩ := ih
    simp only [filterMap_cons_toList, List.flatMap_cons, List.append_assoc]
    refine ⟨iterated.tunnel.trans (congrArg _ tunnel), iterated.socket4.trans (congrArg _ socket4),
      iterated.socket6.trans (congrArg _ socket6), ?_⟩
    rw [trace, ← List.append_assoc]
    exact congrArg (· ++ _) iterated.trace

theorem iterated (chronicle : Chronicle setup before iterations after ending) {earlier later : List Iteration}
    {iteration : Iteration} (place : iterations = earlier ++ iteration :: later) :
    ∃ start stop progress, Iterated setup start iteration stop progress ∧
      ∀ failure, progress = some failure → later = [] ∧ ending = failure := by
  induction chronicle generalizing earlier with
  | halt step halted => simp at place
  | last step iterated =>
    cases earlier with
    | nil =>
      cases place
      exact ⟨_, _, _, iterated, fun failure same => ⟨rfl, Option.some.inj same⟩⟩
    | cons head tail => simp at place
  | next step iterated rest ih =>
    cases earlier with
    | nil =>
      cases place
      exact ⟨_, _, _, iterated, fun failure none => by cases none⟩
    | cons head tail =>
      rw [List.cons_append, List.cons.injEq] at place
      exact ih place.2

theorem member (chronicle : Chronicle setup before iterations after ending) {iteration : Iteration}
    (member : iteration ∈ iterations) : ∃ start stop progress, Iterated setup start iteration stop progress := by
  obtain ⟨earlier, later, place⟩ := List.append_of_mem member
  obtain ⟨start, stop, progress, iterated, _⟩ := chronicle.iterated place
  exact ⟨start, stop, progress, iterated⟩

end Chronicle

namespace Forwarder

-- The fuel never runs out.
theorem loop_chronicle (setup : Setup) {fuel : Nat} {before : Run Script} (sized : before.session.buffers.Sized)
    (enough : Host.pending before.host < fuel) :
    ∃ iterations, Chronicle setup before iterations (loop setup fuel before).1 (loop setup fuel before).2 := by
  induction fuel generalizing before with
  | zero => exact absurd enough (Nat.not_lt_zero _)
  | succ fuel ih =>
    unfold loop
    obtain ⟨erased, kept⟩ := Unbuffered.iterate_erase setup sized
    have told := Unbuffered.iterate_told setup before.erase
    rw [← erased] at told
    cases step : iterate setup before with
    | mk middle ending =>
      rw [step] at told kept
      cases ending with
      | none =>
        obtain ⟨iteration, iterated⟩ | ⟨ending, none, halted⟩ := told
        · have shorter : Host.pending middle.host < Host.pending before.host := iterated.progress
          obtain ⟨iterations, rest⟩ := ih kept (Nat.lt_of_lt_of_le shorter (Nat.le_of_lt_succ enough))
          exact ⟨_, .next step iterated rest⟩
        · cases none
      | some ending =>
        obtain ⟨iteration, iterated⟩ | ⟨halting, same, halted⟩ := told
        · exact ⟨_, .last step iterated⟩
        · cases same
          exact ⟨_, .halt step halted⟩

def started (setup : Setup) (host : σ) [Host σ] : Run σ :=
  say (.running setup.mode) ⟨{ Session.initial with phase := .running }, host⟩

theorem run_chronicle (setup : Setup) (script : Script) :
    ∃ iterations finished, Chronicle setup (started setup script) iterations finished (run setup script).2 ∧
      (run setup script).1 = ⟨{ finished.session with phase := .stopped }, finished.host⟩ := by
  have enough : Host.pending (started setup script).host < Host.pending script + 3 :=
    Nat.lt_add_of_pos_right (by decide)
  obtain ⟨iterations, chronicle⟩ := loop_chronicle setup Buffers.sized_initial enough
  exact ⟨iterations, _, chronicle, rfl⟩

end Forwarder

end IpTunnel

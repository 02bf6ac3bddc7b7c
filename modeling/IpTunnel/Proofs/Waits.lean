import IpTunnel.Proofs.Looks

namespace IpTunnel

theorem mode?_supports {listens : AddressPair} {mode : Mode} (implied : Setup.mode? listens = some mode)
    (family : Family) : mode.supports (.known family) = (listens.get? family).isSome := by
  obtain ⟨v4, v6⟩ := listens
  cases v4 <;> cases v6 <;> cases implied <;> cases family <;> rfl

-- A setup has a socket for exactly those families that its mode supports.
theorem supports_ofSettings {settings : Settings} {setup : Setup} (built : Setup.ofSettings settings = .ok setup)
    (family : Family) : setup.mode.supports (.known family) = setup.hasSocket family := by
  unfold Setup.ofSettings at built
  cases privates : AddressPair.collect? settings.privateAddresses with
  | none => simp [privates] at built
  | some privates_ =>
    cases listens : AddressPair.collect? settings.listenAddresses with
    | none => simp [privates, listens] at built
    | some pair =>
      cases implied : Setup.mode? pair with
      | none => simp [privates, listens, implied] at built
      | some mode =>
        simp only [privates, listens, implied, Except.ok.injEq] at built
        subst built
        exact mode?_supports implied family

namespace Script

def Fits (setup : Setup) (script : Script) : Prop :=
  ∀ family, script.mode.supports (.known family) = setup.hasSocket family

theorem fits_ofSettings {settings : Settings} {setup : Setup} {script : Script}
    (built : Setup.ofSettings settings = .ok setup) (fitting : script.mode = setup.mode) : script.Fits setup := by
  intro family
  rw [fitting]
  exact supports_ofSettings built family

def nextDue (events : List (Scheduled α)) : Option Nat := events.head?.map (·.due)

def newsDue (script : Script) : Option Nat := script.shutdown.map (·.1)

theorem due?_isSome {moment : Nat} {events : List (Scheduled α)} :
    (due? moment events).isSome = true ↔ ∃ due, nextDue events = some due ∧ due ≤ moment := by
  cases events with
  | nil => simp [due?, nextDue]
  | cons event rest =>
    by_cases ready : event.due ≤ moment <;> simp [due?, nextDue, ready]

theorem ready_isSome {setup : Setup} {script : Script} {family : Family} :
    (script.ready setup family).isSome = true ↔
      setup.hasSocket family = true ∧ ∃ due, nextDue (script.socket family) = some due ∧ due ≤ script.now := by
  unfold ready
  by_cases present : setup.hasSocket family = true
  · rw [if_pos present, due?_isSome]
    exact ⟨fun ready => ⟨present, ready⟩, fun both => both.2⟩
  · rw [if_neg present]
    exact ⟨nofun, fun both => absurd both.1 present⟩

theorem news?_eq_some {script : Script} {news : News} :
    script.news? true = some news ↔ ∃ due, script.shutdown = some (due, news) ∧ due ≤ script.now := by
  unfold news?
  cases script.shutdown with
  | none => simp
  | some plan =>
    obtain ⟨due, planned⟩ := plan
    simp only [if_true, Option.some.injEq, Prod.mk.injEq]
    constructor
    · intro found
      split at found
      · rename_i ready
        cases found
        exact ⟨due, ⟨rfl, rfl⟩, ready⟩
      · cases found
    · rintro ⟨_, ⟨rfl, rfl⟩, ready⟩
      exact if_pos ready

theorem news?_isSome {script : Script} :
    (script.news? true).isSome = true ↔ ∃ due, script.newsDue = some due ∧ due ≤ script.now := by
  rw [Option.isSome_iff_exists]
  constructor
  · rintro ⟨news, found⟩
    obtain ⟨due, planned, ready⟩ := news?_eq_some.mp found
    exact ⟨due, congrArg (·.map (·.1)) planned, ready⟩
  · rintro ⟨due, found, ready⟩
    obtain ⟨⟨_, news⟩, planned, rfl⟩ := Option.map_eq_some_iff.mp found
    exact ⟨news, news?_eq_some.mpr ⟨_, planned, ready⟩⟩

theorem mem_upcoming {setup : Setup} {script : Script} (fits : script.Fits setup) {due : Nat} :
    due ∈ script.upcoming ↔ nextDue script.tunnel = some due ∨
      (setup.hasSocket .v4 = true ∧ nextDue script.socket4 = some due) ∨
      (setup.hasSocket .v6 = true ∧ nextDue script.socket6 = some due) ∨ script.newsDue = some due := by
  have socket (family : Family) :
      due ∈ (if script.mode.supports (.known family) then ((script.socket family).head?.map (·.due)).toList else []) ↔
        setup.hasSocket family = true ∧ nextDue (script.socket family) = some due := by
    rw [fits family]
    split
    · rename_i present
      rw [Option.mem_toList]
      exact ⟨fun among => ⟨present, among⟩, fun both => both.2⟩
    · rename_i absent
      exact ⟨nofun, fun both => absurd both.1 absent⟩
  simp only [upcoming, List.mem_append, socket, Option.mem_toList, or_assoc]
  rfl

theorem length_pos_of_due {events : List (Scheduled α)} {due : Nat} (found : nextDue events = some due) :
    0 < events.length := by
  cases events with
  | nil => cases found
  | cons event rest => exact Nat.succ_pos _

-- Whatever a wait can end with is still pending.
theorem pending_pos {setup : Setup} {script : Script} (fits : script.Fits setup) {due : Nat}
    (among : due ∈ script.upcoming) : 0 < script.pending := by
  unfold pending
  rcases (mem_upcoming fits).mp among with found | ⟨_, found⟩ | ⟨_, found⟩ | found
  · have filled := length_pos_of_due found
    omega
  · have filled := length_pos_of_due found
    omega
  · have filled := length_pos_of_due found
    omega
  · unfold newsDue at found
    cases planned : script.shutdown with
    | none =>
      rw [planned] at found
      cases found
    | some plan => exact Nat.succ_pos _

inductive Awaited (deadline : Option Nat) (script : Script) : Waking × Script → Prop where
  | woken (first : script.upcoming.min? = some due) (timely : ∀ limit, deadline = some limit → due ≤ limit) :
      Awaited deadline script (.woken, { script with now := max script.now due })
  | timedOut (limited : deadline = some limit) (quiet : ∀ due ∈ script.upcoming, limit < due) :
      Awaited deadline script (.timedOut, { script with now := limit })
  | never (unlimited : deadline = none) (nothing : script.upcoming = []) : Awaited deadline script (.never, script)

theorem await_awaited (deadline : Option Nat) (script : Script) : Awaited deadline script (script.await deadline) := by
  unfold await
  cases first : script.upcoming.min? with
  | none =>
    have nothing := List.min?_eq_none_iff.mp first
    cases deadline with
    | none => exact .never rfl nothing
    | some limit => exact .timedOut rfl (by simp [nothing])
  | some due =>
    cases deadline with
    | none => exact .woken first nofun
    | some limit =>
      by_cases timely : due ≤ limit
      · simp only [timely, if_true]
        refine .woken first ?_
        intro other same
        cases same
        exact timely
      · simp only [timely, if_false]
        refine .timedOut rfl ?_
        intro other among
        exact Nat.lt_of_lt_of_le (Nat.not_le.mp timely) ((List.min?_eq_some_iff.mp first).2 other among)

end Script

namespace Station

-- News still to come finds somebody who listens.
def Attentive (station : Station Script) : Prop := station.listening = true ∨ station.host.shutdown = none

end Station

namespace Unbuffered

variable {setup : Setup} {station : Station Script}

theorem look_ready (fits : station.host.Fits setup) (attentive : station.Attentive) (moment : Nat) :
    (look setup (station.advance moment)).2.events.isReady = true ↔ ∃ due ∈ station.host.upcoming, due ≤ moment := by
  obtain ⟨_, intake⟩ := Script.look_took setup (station.advance moment)
  have news : ((station.advance moment).host.news? station.listening).isSome = true ↔
      ∃ due, station.host.newsDue = some due ∧ due ≤ moment := by
    rcases attentive with listening | nothing
    · rw [listening]
      exact Script.news?_isSome
    · simp [Script.news?, Script.newsDue, Station.advance, nothing]
  rw [intake]
  simp only [Events.isReady, Intake.events, Takings.intake, Option.isSome_map, Bool.or_eq_true, Script.takings,
    Script.due?_isSome, Script.ready_isSome]
  constructor
  · rintro (((heard | ⟨due, found, ready⟩) | ⟨present, due, found, ready⟩) | ⟨present, due, found, ready⟩)
    · obtain ⟨due, found, ready⟩ := news.mp heard
      exact ⟨due, (Script.mem_upcoming fits).mpr (.inr (.inr (.inr found))), ready⟩
    · exact ⟨due, (Script.mem_upcoming fits).mpr (.inl found), ready⟩
    · exact ⟨due, (Script.mem_upcoming fits).mpr (.inr (.inl ⟨present, found⟩)), ready⟩
    · exact ⟨due, (Script.mem_upcoming fits).mpr (.inr (.inr (.inl ⟨present, found⟩))), ready⟩
  · rintro ⟨due, among, ready⟩
    rcases (Script.mem_upcoming fits).mp among with found | ⟨present, found⟩ | ⟨present, found⟩ | found
    · exact .inl (.inl (.inr ⟨due, found, ready⟩))
    · exact .inl (.inr ⟨present, due, found, ready⟩)
    · exact .inr ⟨present, due, found, ready⟩
    · exact .inl (.inl (.inl (news.mpr ⟨due, found, ready⟩)))

inductive Ended (setup : Setup) (before : Station Script) : Pause Script → Prop where
  | ready (first : before.host.upcoming.min? = some due)
      (timely : ∀ limit, setup.idleTimeout = some limit → due ≤ before.host.now + limit)
      (moment : Nat) (reached : moment = max before.host.now due) :
      Ended setup before (.ready (look setup (before.advance moment)).1 (look setup (before.advance moment)).2)
  | idle (limited : setup.idleTimeout = some limit)
      (quiet : ∀ due ∈ before.host.upcoming, before.host.now + limit < due) :
      Ended setup before (.idle (before.advance (before.host.now + limit)))
  | stuck (unlimited : setup.idleTimeout = none) (nothing : before.host.upcoming = []) :
      Ended setup before (.stuck before)

theorem Ended.late {before : Station Script} {pause : Pause Script} (ended : Ended setup before pause)
    (unready : ∀ station intake, pause ≠ .ready station intake) :
    ∀ due ∈ before.host.upcoming, ∃ limit, setup.idleTimeout = some limit ∧ before.host.now + limit < due := by
  intro due among
  cases ended with
  | ready first timely moment reached => exact absurd rfl (unready _ _)
  | idle limited quiet => exact ⟨_, limited, quiet due among⟩
  | stuck unlimited nothing =>
    rw [nothing] at among
    cases among

theorem waitUntil_ready {before : Station Script} (deadline : Option Nat) {fuel moment : Nat} (enough : 0 < fuel)
    (ready : (look setup (before.advance moment)).2.events.isReady = true) :
    waitUntil setup deadline fuel (before.advance moment) =
      .ready (look setup (before.advance moment)).1 (look setup (before.advance moment)).2 := by
  cases fuel with
  | zero => cases enough
  | succ fuel => simp only [waitUntil, ready, if_true]

-- It takes at most two looks: one at the start, and one when the first event is due.
theorem wait_ended (fits : station.host.Fits setup) (attentive : station.Attentive) :
    Ended setup station (wait setup station) := by
  unfold wait
  generalize limits : setup.idleTimeout.map (Host.now station.host + ·) = deadline
  have awaited := Script.await_awaited deadline station.host
  have here : station.advance station.host.now = station := rfl
  by_cases ready : (look setup station).2.events.isReady = true
  · obtain ⟨due, among, early⟩ := (look_ready fits attentive station.host.now).mp ready
    rw [← here, waitUntil_ready deadline (Nat.succ_pos _) ready]
    cases first : station.host.upcoming.min? with
    | none =>
      rw [List.min?_eq_none_iff.mp first] at among
      cases among
    | some least =>
      have reached := Nat.le_trans ((List.min?_eq_some_iff.mp first).2 due among) early
      refine .ready first ?_ _ (Nat.max_eq_left reached).symm
      intro limit _
      exact Nat.le_trans reached (Nat.le_add_right _ _)
  · have waiting := Script.look_waiting (Bool.eq_false_iff.mpr ready)
    have await : Host.await deadline station.host = station.host.await deadline := rfl
    simp only [waitUntil, ready, waiting, await, Bool.false_eq_true, if_false]
    generalize station.host.await deadline = answer at awaited
    cases awaited with
    | woken first timely =>
      rename_i due
      have among := (List.min?_eq_some_iff.mp first).1
      have later := (look_ready fits attentive (max station.host.now due)).mpr ⟨due, among, Nat.le_max_right _ _⟩
      have found := waitUntil_ready deadline (Script.pending_pos fits among) later
      refine (congrArg (Ended setup station) found).mpr (.ready first ?_ _ rfl)
      intro limit limited
      apply timely
      rw [← limits, limited]
      rfl
    | timedOut limited quiet =>
      rw [limited] at limits
      obtain ⟨limit, found, rfl⟩ := Option.map_eq_some_iff.mp limits
      exact .idle found quiet
    | never unlimited nothing =>
      rw [unlimited] at limits
      exact .stuck (Option.map_eq_none_iff.mp limits) nothing

-- Everything that one pass of the loop can come to.
inductive Turn (setup : Setup) (before : Station Script) : Station Script × Option Ending → Prop where
  | close (closing : before.closing = true) : Turn setup before (close setup before)
  | idle (opened : before.closing = false) (limited : setup.idleTimeout = some limit)
      (quiet : ∀ due ∈ before.host.upcoming, before.host.now + limit < due)
      (moment : Nat) (reached : moment = before.host.now + limit) :
      Turn setup before
        ({ before with host := ({ before.host with now := moment } : Script).say .noActivity }, some (.stopped .idle))
  | stuck (opened : before.closing = false) (unlimited : setup.idleTimeout = none)
      (nothing : before.host.upcoming = []) : Turn setup before (before, some .stuck)
  | taken (opened : before.closing = false) (first : before.host.upcoming.min? = some due)
      (timely : ∀ limit, setup.idleTimeout = some limit → due ≤ before.host.now + limit)
      (moment : Nat) (reached : moment = max before.host.now due) :
      Turn setup before (handle setup (look setup (before.advance moment)).2 (look setup (before.advance moment)).1)

theorem iterate_turn (fits : station.host.Fits setup) (attentive : station.Attentive) :
    Turn setup station (iterate setup station) := by
  unfold iterate
  cases closing : station.closing with
  | true => exact .close closing
  | false =>
    have ended := wait_ended fits attentive
    simp only [Bool.false_eq_true, if_false]
    generalize wait setup station = pause at ended
    cases ended with
    | ready first timely moment reached => exact .taken closing first timely moment reached
    | idle limited quiet => exact .idle closing limited quiet _ rfl
    | stuck unlimited nothing => exact .stuck closing unlimited nothing

end Unbuffered

end IpTunnel

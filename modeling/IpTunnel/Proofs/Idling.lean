import IpTunnel.Proofs.Standing

namespace IpTunnel

-- No wait ends at the very moment at which something becomes ready.
def Untied (setup : Setup) (script : Script) (iterations : List Iteration) (limit : Nat) : Prop :=
  ∀ past, Begins setup iterations past → ∀ due ∈ script.awaited setup past, due ≠ script.reached past + limit

-- Why a run stops, told for all passes of its loop. Every iteration counts, whatever its events come to.
structure Idling (setup : Setup) (script : Script) (iterations : List Iteration) (ending : Ending) (finish : Nat) :
    Prop where
  never : setup.idleTimeout = none → ending ≠ .stopped .idle
  -- What is ready at the end of a wait comes before that end.
  stops : ∀ limit, setup.idleTimeout = some limit → ∀ moment,
    (ending = .stopped .idle ∧ finish = moment) ↔ ∃ past, Begins setup iterations past ∧
      moment = script.reached past + limit ∧ ∀ due ∈ script.awaited setup past, moment < due
  untied : ∀ limit, setup.idleTimeout = some limit → Untied setup script iterations limit → ∀ moment,
    (ending = .stopped .idle ∧ finish = moment) ↔ ∃ past, Begins setup iterations past ∧
      moment = script.reached past + limit ∧
      ∀ due ∈ script.awaited setup past, script.reached past < due ∧ moment ≤ due
  goesOn : ∀ past, Begins setup iterations past → heard past ≠ some .requested →
    ∀ due, (script.awaited setup past).min? = some due →
      (∀ limit, setup.idleTimeout = some limit → due ≤ script.reached past + limit) →
      ∃ iteration later, iterations = past ++ iteration :: later ∧
        iteration.moment = max (script.reached past) due ∧ Disciplined setup (script.unread past) iteration
  restarts : ∀ limit, setup.idleTimeout = some limit → ending = .stopped .idle →
    ∀ iteration ∈ iterations, iteration.moment + limit ≤ finish
  -- As long as there is always something due before the end of the wait, the run does not stop.
  lively : ∀ limit, setup.idleTimeout = some limit → ∀ bound,
    (∀ past, Begins setup iterations past → script.reached past ≤ bound →
      ∃ due ∈ script.awaited setup past, due < script.reached past + limit) →
    ending = .stopped .idle → bound + limit < finish

theorem le_reached {start : Nat} {script : Script} {iterations : List Iteration}
    (moments : (start :: iterations.map (·.moment)).Pairwise (· ≤ ·)) :
    ∀ iteration ∈ iterations, iteration.moment ≤ script.reached iterations := by
  intro iteration member
  unfold Script.reached
  cases final : iterations.getLast? with
  | none =>
    rw [List.getLast?_eq_none_iff.mp final] at member
    cases member
  | some last =>
    obtain ⟨front, rfl⟩ := List.getLast?_eq_some_iff.mp final
    have ordered := (List.pairwise_cons.mp moments).2
    rw [List.map_append, List.pairwise_append] at ordered
    rcases List.mem_append.mp member with among | among
    · exact ordered.2.2 _ (List.mem_map_of_mem among) _ (List.mem_singleton_self _)
    · rw [List.mem_singleton.mp among]
      exact Nat.le_refl _

namespace Chronicle

variable {setup : Setup} {script : Script} {iterations : List Iteration} {finished : Run Script} {ending : Ending}

theorem idle_limit (chronicle : Chronicle setup (Forwarder.started setup script) iterations finished ending)
    (fitting : script.Fits setup) (idle : ending = .stopped .idle) :
    Begins setup iterations iterations ∧ ∃ limit, setup.idleTimeout = some limit ∧
      finished.host.now = script.reached iterations + limit ∧
      ∀ due ∈ script.awaited setup iterations, script.reached iterations + limit < due := by
  subst idle
  have begins : Begins setup iterations iterations :=
    ⟨⟨[], (List.append_nil _).symm⟩, chronicle.sound_of_calm nofun⟩
  refine ⟨begins, ?_⟩
  cases chronicle.prospect fitting begins with
  | ended whole finale =>
    cases finale with
    | idle unasked limited quiet now phase => exact ⟨_, limited, now, quiet⟩
  | onward place unasked first moment timely => simp at place

theorem idle_of_quiet (chronicle : Chronicle setup (Forwarder.started setup script) iterations finished ending)
    (fitting : script.Fits setup) (begins : Begins setup iterations past) (limited : setup.idleTimeout = some limit)
    (quiet : ∀ due ∈ script.awaited setup past, script.reached past + limit < due) :
    ending = .stopped .idle ∧ finished.host.now = script.reached past + limit := by
  cases chronicle.prospect fitting begins with
  | ended whole finale =>
    cases finale with
    | shutdown asked planned come now phase =>
      have late := quiet _ (news_awaited planned (.inl rfl))
      omega
    | idle unasked same _ now phase =>
      rw [limited] at same
      cases same
      exact ⟨rfl, now⟩
    | stuck unasked unlimited =>
      rw [limited] at unlimited
      cases unlimited
  | onward place unasked first moment timely =>
    have early := timely limit limited
    have late := quiet _ (List.min?_eq_some_iff.mp first).1
    omega

theorem goes_on (chronicle : Chronicle setup (Forwarder.started setup script) iterations finished ending)
    (fitting : script.Fits setup) (begins : Begins setup iterations past) (unasked : heard past ≠ some .requested)
    (first : (script.awaited setup past).min? = some due)
    (timely : ∀ limit, setup.idleTimeout = some limit → due ≤ script.reached past + limit) :
    ∃ iteration later, iterations = past ++ iteration :: later ∧
      iteration.moment = max (script.reached past) due ∧ Disciplined setup (script.unread past) iteration := by
  have among := (List.min?_eq_some_iff.mp first).1
  cases chronicle.prospect fitting begins with
  | ended whole finale =>
    cases finale with
    | shutdown asked => exact absurd asked unasked
    | idle _ limited quiet =>
      have early := timely _ limited
      have late := quiet _ among
      omega
    | stuck _ unlimited nothing =>
      rw [nothing] at among
      cases among
  | onward place _ least moment _ =>
    rw [first] at least
    cases least
    exact ⟨_, _, place, moment, chronicle.disciplined place⟩

theorem idling (chronicle : Chronicle setup (Forwarder.started setup script) iterations finished ending)
    (fitting : script.Fits setup) : Idling setup script iterations ending finished.host.now where
  never unlimited idle := by
    obtain ⟨_, limit, limited, _⟩ := chronicle.idle_limit fitting idle
    rw [unlimited] at limited
    cases limited
  stops limit limited moment := by
    constructor
    · rintro ⟨idle, rfl⟩
      obtain ⟨begins, other, same, now, quiet⟩ := chronicle.idle_limit fitting idle
      rw [limited] at same
      cases same
      exact ⟨iterations, begins, now, now ▸ quiet⟩
    · rintro ⟨past, begins, rfl, quiet⟩
      exact chronicle.idle_of_quiet fitting begins limited quiet
  untied limit limited apart moment := by
    constructor
    · rintro ⟨idle, rfl⟩
      obtain ⟨begins, other, same, now, quiet⟩ := chronicle.idle_limit fitting idle
      rw [limited] at same
      cases same
      refine ⟨iterations, begins, now, ?_⟩
      intro due among
      have late := quiet due among
      omega
    · rintro ⟨past, begins, rfl, quiet⟩
      apply chronicle.idle_of_quiet fitting begins limited
      intro due among
      have late := (quiet due among).2
      have other := apart past begins due among
      omega
  goesOn past begins unasked due first timely := chronicle.goes_on fitting begins unasked first timely
  restarts limit limited idle iteration member := by
    obtain ⟨_, other, same, now, _⟩ := chronicle.idle_limit fitting idle
    rw [limited] at same
    cases same
    rw [now]
    exact Nat.add_le_add_right (le_reached chronicle.moments iteration member) _
  lively limit limited bound busy idle := by
    obtain ⟨begins, other, same, now, quiet⟩ := chronicle.idle_limit fitting idle
    rw [limited] at same
    cases same
    by_cases within : script.reached iterations ≤ bound
    · obtain ⟨due, among, early⟩ := busy iterations begins within
      have late := quiet due among
      omega
    · omega

end Chronicle

-- A run stops for want of activity exactly when one of its waits goes by with nothing to take.
theorem run_idles {settings : Settings} {setup : Setup} {script : Script}
    (built : Setup.ofSettings settings = .ok setup) (fitting : script.mode = setup.mode) :
    ∃ iterations finished,
      Chronicle setup (Forwarder.started setup script) iterations finished (Forwarder.run setup script).2 ∧
      (Forwarder.run setup script).1.host = finished.host ∧
      Orderly setup script iterations finished.host ∧
      Idling setup script iterations (Forwarder.run setup script).2 (Forwarder.run setup script).1.host.now := by
  obtain ⟨iterations, finished, chronicle, outcome⟩ := Forwarder.run_chronicle setup script
  have host : (Forwarder.run setup script).1.host = finished.host := by rw [outcome]
  refine ⟨iterations, finished, chronicle, host, chronicle.orderly, ?_⟩
  rw [host]
  exact chronicle.idling (Script.fits_ofSettings built fitting)

def patient : Settings where
  tunName := "tun0"
  privateAddresses := [.v4 (.ofOctets 10 0 0 1)]
  listenAddresses := [.v4 (.ofOctets 127 0 0 1)]
  port := 5000
  peers := .empty
  idleTimeout := some 1000
  closeTimeout := 0
  initialSleep := 0
  framing := true
  planetlab := false
  capturePath := none

def patientSetup : Setup where
  mode := .v4
  privates := ⟨some (.ofOctets 10 0 0 1), none⟩
  listens := ⟨some (.ofOctets 127 0 0 1), none⟩
  tunName := "tun0"
  port := 5000
  peers := .empty
  idleTimeout := some 1000
  closeTimeout := 0
  initialSleep := 0
  framing := true
  capturePath := none

-- A short frame, a keep-alive, a failure that is not passed on, and the loss of all who could ask for a
-- shutdown: nothing but what is discarded. The socket of the other family does not exist.
def trickle : Script where
  mode := .v4
  now := 0
  sleep := id
  tunnel := [⟨0, .ok [0x45]⟩]
  socket4 := [⟨900, .ok (.datagram [])⟩, ⟨1700, .ok (.report ⟨111, .host, 0, 0, 0, none⟩ [])⟩]
  socket6 := [⟨3000, .ok (.datagram [])⟩]
  tunnelResults := []
  results4 := []
  results6 := []
  shutdown := some (2600, .lost)
  recording := none
  trace := []
  log := []

theorem run_idles_trickle :
    Setup.ofSettings patient = .ok patientSetup ∧ trickle.mode = patientSetup.mode ∧
      (Forwarder.run patientSetup trickle).2 = .stopped .idle ∧
      (Forwarder.run patientSetup trickle).1.host.now = 3600 ∧
      ∃ iterations finished,
        Chronicle patientSetup (Forwarder.started patientSetup trickle) iterations finished
          (Forwarder.run patientSetup trickle).2 ∧
        (Forwarder.run patientSetup trickle).1.host = finished.host ∧
        Orderly patientSetup trickle iterations finished.host ∧
        Idling patientSetup trickle iterations (Forwarder.run patientSetup trickle).2
          (Forwarder.run patientSetup trickle).1.host.now :=
  have built : Setup.ofSettings patient = .ok patientSetup := rfl
  ⟨built, rfl, by decide +kernel, by decide +kernel, run_idles built rfl⟩

end IpTunnel

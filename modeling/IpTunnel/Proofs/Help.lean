import IpTunnel.Main
import IpTunnel.Proofs.OptionOrder

namespace IpTunnel.CommandLine

theorem takeUpAll_help {directory : Directory} {before : List String} (after : List String)
    (wellFormed : ∀ text ∈ before, WellFormed directory text) :
    takeUpAll directory .default (before ++ "--help" :: after) = ⟨before.filter (Unknown ·), .error .help⟩ := by
  have refused (choices : Choices) : takeUp directory choices "--help" = ⟨[], .error .help⟩ := rfl
  have taken := takeUpAll_append [] ("--help" :: after) wellFormed
  rw [selected_nil] at taken
  rw [taken, takeUpAll, refused]
  simp

-- A last call for help is taken up by nobody.
theorem understand_helps {directory : Directory} (program : String) {before : List String} (after : List String)
    (wellFormed : ∀ text ∈ before, WellFormed directory text) :
    understand directory (program :: (before ++ "--help" :: after)) =
      ⟨before.filter (Unknown ·), .error (if after = [] then .noAction else .help)⟩ := by
  rcases after.eq_nil_or_concat with rfl | ⟨middle, last, rfl⟩
  · exact understand_selected program "--help" wellFormed
  · have cut : before ++ "--help" :: (middle ++ [last]) = (before ++ "--help" :: middle) ++ [last] := by simp
    rw [List.concat_eq_append, cut, understand_concat, takeUpAll_help middle wellFormed, if_neg (by simp)]
    rfl

-- What the rest of the line is, what the files hold and what the machine is like plays no part.
theorem run_helps (machine : Machine) {directory : Directory} (program : String) {before : List String}
    (after : List String) (wellFormed : ∀ text ∈ before, WellFormed directory text) :
    run machine directory (program :: (before ++ "--help" :: after)) =
      { status := if after = [] then 2 else 0
        output := banner :: usage
        complaints := (before.filter (Unknown ·)).map unsupported ++ if after = [] then ["No action specified"] else []
        tunnelCalls := []
        calls4 := []
        calls6 := []
        directory := directory } := by
  rw [run, understand_helps program after wellFormed]
  by_cases last : after = []
  · rw [if_pos last, if_pos last, if_pos last]
    rfl
  · rw [if_neg last, if_neg last, if_neg last]
    rfl

theorem run_helps_framing :
    (∀ text ∈ ["--tun-framing", "--extra=3"], WellFormed ⟨[]⟩ text) ∧
      (run silent ⟨[]⟩ ["udptun", "--tun-framing", "--extra=3", "--help", "run"]).status = 0 ∧
      (run silent ⟨[]⟩ ["udptun", "--tun-framing", "--extra=3", "--help"]).status = 2 := by
  have wellFormed : ∀ text ∈ ["--tun-framing", "--extra=3"], WellFormed ⟨[]⟩ text := by
    simp only [List.forall_mem_cons]
    exact ⟨.framing, wellFormed_unknown _ (by decide), by simp⟩
  exact ⟨wellFormed, congrArg Printed.status (run_helps silent "udptun" ["run"] wellFormed),
    congrArg Printed.status (run_helps silent "udptun" [] wellFormed)⟩

-- Alone on the line, the call for help is an error.
theorem help_unanswered :
    ¬ ∀ machine directory program before after, (∀ text ∈ before, WellFormed directory text) →
      (run machine directory (program :: (before ++ "--help" :: after))).status = 0 := by
  intro answered
  have alone : (run silent ⟨[]⟩ ["udptun", "--help"]).status = 2 := rfl
  have status := answered silent ⟨[]⟩ "udptun" [] [] (by simp)
  rw [List.nil_append, alone] at status
  cases status

end IpTunnel.CommandLine

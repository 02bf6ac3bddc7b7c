import IpTunnel.CommandLine.Options

namespace IpTunnel.CommandLine

def nameOf (text : String) : String := String.ofList (Text.before '=' text.toList)

def valueOf (text : String) : String := String.ofList ((text.toList.dropWhile (· ≠ '=')).drop 1)

-- Options that have one value, of which the last one counts.
def singleNames : List String :=
  ["--log-level", "--tun-name", "--port", "--peers", "--idle-timeout", "--close-timeout", "--initial-sleep", "--pcap"]

-- Options whose values add up.
def addressNames : List String := ["--private-ip", "--listen-ip"]

def Unknown (text : String) : Prop := '=' ∈ text.toList ∧ nameOf text ∉ singleNames ++ addressNames

instance : DecidablePred Unknown := fun text =>
  inferInstanceAs (Decidable ('=' ∈ text.toList ∧ nameOf text ∉ singleNames ++ addressNames))

-- The value is one that an option of this name can take. If the name is an unknown one, any value will do.
structure Acceptable (directory : Directory) (name value : String) : Prop where
  level : name = "--log-level" → ∃ level, readLevel value = .ok level
  address : name ∈ addressNames → ∃ address, readAddress value = .ok address
  port : name = "--port" → ∃ port, readPort value = .ok port
  peers : name = "--peers" → ∃ table, readPeers directory value = .ok table
  time : name ∈ ["--idle-timeout", "--close-timeout", "--initial-sleep"] → ∃ time, readSeconds value = .ok time

inductive WellFormed (directory : Directory) : String → Prop where
  | framing : WellFormed directory "--tun-framing"
  | planetlab : WellFormed directory "--planetlab"
  | option (valued : '=' ∈ text.toList) (acceptable : Acceptable directory (nameOf text) (valueOf text)) :
      WellFormed directory text

def given (name : String) (options : List String) : List String := (options.filter (nameOf · = name)).map valueOf

def lastRead (read : String → Except ValueProblem α) (values : List String) : Option α :=
  values.getLast?.bind fun value => (read value).toOption

def addressesRead (values : List String) : List IpAddress := values.filterMap fun value => (readAddress value).toOption

-- A wait of no length is one without a limit.
def idleLimit (time : Nat) : Option Nat := if time = 0 then none else some time

-- What options come to, one choice at a time.
def selected (directory : Directory) (options : List String) : Choices where
  level := (lastRead readLevel (given "--log-level" options)).getD (some .info)
  tunName := (given "--tun-name" options).getLast?.getD ""
  privateAddresses := addressesRead (given "--private-ip" options)
  listenAddresses := addressesRead (given "--listen-ip" options)
  port := (lastRead readPort (given "--port" options)).getD 5000
  peers := lastRead (readPeers directory) (given "--peers" options)
  idleTimeout := idleLimit ((lastRead readSeconds (given "--idle-timeout" options)).getD 60000)
  closeTimeout := (lastRead readSeconds (given "--close-timeout" options)).getD 2000
  initialSleep := (lastRead readSeconds (given "--initial-sleep" options)).getD 0
  framing := options.contains "--tun-framing"
  planetlab := options.contains "--planetlab"
  capturePath := (given "--pcap" options).getLast?

theorem selected_nil (directory : Directory) : selected directory [] = .default := rfl

theorem splitAtFirst?_eq {mark : Char} {text : List Char} (marked : mark ∈ text) :
    Text.splitAtFirst? mark text = some (Text.before mark text, (text.dropWhile (· ≠ mark)).drop 1) := by
  induction text with
  | nil => cases marked
  | cons char rest ih =>
    by_cases found : char = mark
    · simp [Text.splitAtFirst?, Text.before, found]
    · have later : mark ∈ rest := (List.mem_cons.mp marked).resolve_left (Ne.symm found)
      simp [Text.splitAtFirst?, Text.before, found, ih later]

theorem ofText_option {text : String} (valued : '=' ∈ text.toList) :
    Argument.ofText text = .option (nameOf text) (valueOf text) := by
  have plain (word : String) (unvalued : '=' ∉ word.toList) : text ≠ word := by
    rintro rfl
    exact unvalued valued
  unfold Argument.ofText
  rw [if_neg, if_neg, if_neg, splitAtFirst?_eq valued]
  · rfl
  · exact plain "--planetlab" (by decide)
  · exact plain "--tun-framing" (by decide)
  · exact not_or.mpr ⟨plain "--help" (by decide), plain "help" (by decide)⟩

theorem given_snoc (name : String) (options : List String) (text : String) :
    given name (options ++ [text]) = given name options ++ if nameOf text = name then [valueOf text] else [] := by
  unfold given
  split <;> simp_all

theorem lastRead_snoc (read : String → Except ValueProblem α) (values : List String) {value : String} {item : α}
    (readable : read value = .ok item) : lastRead read (values ++ [value]) = some item := by
  simp [lastRead, readable, Except.toOption]

theorem addressesRead_snoc (values : List String) {value : String} {address : IpAddress}
    (readable : readAddress value = .ok address) :
    addressesRead (values ++ [value]) = addressesRead values ++ [address] := by
  simp [addressesRead, readable, Except.toOption]

-- One more option of a known name changes the choice that it is for, and one of another name changes nothing.
theorem choose_selected {directory : Directory} {text : String} (options : List String)
    (valued : '=' ∈ text.toList) (acceptable : Acceptable directory (nameOf text) (valueOf text)) :
    (selected directory options).choose directory (OptionName.ofText (nameOf text)) (valueOf text) =
      .ok (selected directory (options ++ [text])) := by
  have unflagged (flag : String) (unvalued : '=' ∉ flag.toList) : flag ≠ text := by
    rintro rfl
    exact unvalued valued
  have framing := unflagged "--tun-framing" (by decide)
  have planetlab := unflagged "--planetlab" (by decide)
  unfold OptionName.ofText
  split
  · rename_i name
    obtain ⟨level, readable⟩ := acceptable.level name
    simp [selected, given_snoc, name, framing, planetlab, Choices.choose, readable, Except.map, lastRead_snoc]
  split
  · rename_i name
    simp [selected, given_snoc, name, framing, planetlab, Choices.choose]
  split
  · rename_i name
    obtain ⟨address, readable⟩ := acceptable.address (by simp [name, addressNames])
    simp [selected, given_snoc, name, framing, planetlab, Choices.choose, readable, Except.map, addressesRead_snoc]
  split
  · rename_i name
    obtain ⟨address, readable⟩ := acceptable.address (by simp [name, addressNames])
    simp [selected, given_snoc, name, framing, planetlab, Choices.choose, readable, Except.map, addressesRead_snoc]
  split
  · rename_i name
    obtain ⟨port, readable⟩ := acceptable.port name
    simp [selected, given_snoc, name, framing, planetlab, Choices.choose, readable, Except.map, lastRead_snoc]
  split
  · rename_i name
    obtain ⟨table, readable⟩ := acceptable.peers name
    simp [selected, given_snoc, name, framing, planetlab, Choices.choose, readable, Except.map, lastRead_snoc]
  split
  · rename_i name
    obtain ⟨time, readable⟩ := acceptable.time (by simp [name])
    simp [selected, given_snoc, name, framing, planetlab, Choices.choose, readable, Except.map, lastRead_snoc,
      Choices.setIdleTimeout, idleLimit]
  split
  · rename_i name
    obtain ⟨time, readable⟩ := acceptable.time (by simp [name])
    simp [selected, given_snoc, name, framing, planetlab, Choices.choose, readable, Except.map, lastRead_snoc]
  split
  · rename_i name
    obtain ⟨time, readable⟩ := acceptable.time (by simp [name])
    simp [selected, given_snoc, name, framing, planetlab, Choices.choose, readable, Except.map, lastRead_snoc]
  split
  · rename_i name
    simp [selected, given_snoc, name, framing, planetlab, Choices.choose]
  · simp_all [selected, given_snoc, Choices.choose]

theorem ofText_unknown {name : String} :
    OptionName.ofText name = .unknown ↔ name ∉ singleNames ++ addressNames := by
  unfold OptionName.ofText singleNames addressNames
  repeat' split
  all_goals simp [*]

theorem takeUp_selected {directory : Directory} {text : String} (options : List String)
    (wellFormed : WellFormed directory text) :
    takeUp directory (selected directory options) text =
      ⟨[text].filter (Unknown ·), .ok (selected directory (options ++ [text]))⟩ := by
  cases wellFormed with
  | framing =>
    have name : nameOf "--tun-framing" = "--tun-framing" := by decide
    have known : ¬ Unknown "--tun-framing" := by decide
    have taken (choices : Choices) : takeUp directory choices "--tun-framing" =
        ⟨[], .ok { choices with framing := true }⟩ := rfl
    simp [taken, selected, given_snoc, name, known]
  | planetlab =>
    have name : nameOf "--planetlab" = "--planetlab" := by decide
    have known : ¬ Unknown "--planetlab" := by decide
    have taken (choices : Choices) : takeUp directory choices "--planetlab" =
        ⟨[], .ok { choices with planetlab := true }⟩ := rfl
    simp [taken, selected, given_snoc, name, known]
  | option valued acceptable =>
    have unknown : OptionName.ofText (nameOf text) = .unknown ↔ Unknown text :=
      ofText_unknown.trans (and_iff_right valued).symm
    rw [takeUp, ofText_option valued]
    simp only [choose_selected options valued acceptable, unknown]
    by_cases foreign : Unknown text
    · simp only [foreign, if_true, List.filter_cons, decide_true, List.filter_nil]
      rfl
    · simp only [foreign, if_false, List.filter_cons, decide_false, List.filter_nil]
      rfl

theorem takeUpAll_append {directory : Directory} {front : List String} (options rest : List String)
    (wellFormed : ∀ text ∈ front, WellFormed directory text) :
    takeUpAll directory (selected directory options) (front ++ rest) =
      ⟨front.filter (Unknown ·) ++ (takeUpAll directory (selected directory (options ++ front)) rest).unsupported,
        (takeUpAll directory (selected directory (options ++ front)) rest).outcome⟩ := by
  induction front generalizing options with
  | nil => simp
  | cons text front ih =>
    obtain ⟨first, others⟩ := List.forall_mem_cons.mp wellFormed
    simp only [List.cons_append, takeUpAll, takeUp_selected options first, ih (options ++ [text]) others,
      List.append_assoc, List.nil_append]
    rw [← List.append_assoc, ← List.filter_append]
    rfl

theorem takeUpAll_selected {directory : Directory} {options : List String}
    (wellFormed : ∀ text ∈ options, WellFormed directory text) :
    takeUpAll directory .default options = ⟨options.filter (Unknown ·), .ok (selected directory options)⟩ := by
  have taken := takeUpAll_append [] [] wellFormed
  rw [selected_nil, List.append_nil, List.nil_append] at taken
  rw [taken]
  simp [takeUpAll]

theorem understand_concat (directory : Directory) (program last : String) (options : List String) :
    understand directory (program :: (options ++ [last])) =
      ⟨(takeUpAll directory .default options).unsupported,
        (takeUpAll directory .default options).outcome.bind fun choices => conclude choices (some last)⟩ := by
  have between : (program :: (options ++ [last])).dropLast.drop 1 = options := by
    rw [← List.cons_append, List.dropLast_concat]
    rfl
  have action : (program :: (options ++ [last])).getLast? = some last := by
    rw [← List.cons_append, List.getLast?_concat]
  rw [understand, between, action]

theorem understand_selected {directory : Directory} {options : List String} (program last : String)
    (wellFormed : ∀ text ∈ options, WellFormed directory text) :
    understand directory (program :: (options ++ [last])) =
      ⟨options.filter (Unknown ·), conclude (selected directory options) (some last)⟩ := by
  rw [understand_concat, takeUpAll_selected wellFormed]
  rfl

def asked (directory : Directory) (program : String) (options : List String) : Except Refusal Command :=
  (understand directory (program :: (options ++ ["run"]))).outcome

theorem asked_selected {directory : Directory} {options : List String} (program : String)
    (wellFormed : ∀ text ∈ options, WellFormed directory text) :
    asked directory program options = conclude (selected directory options) (some "run") :=
  congrArg Understood.outcome (understand_selected program "run" wellFormed)

-- Options that come to the same: as to their last values, their addresses in their order, and their flags.
structure Alike (options others : List String) : Prop where
  single : ∀ name ∈ singleNames, (given name options).getLast? = (given name others).getLast?
  addresses : ∀ name ∈ addressNames, given name options = given name others
  framing : options.contains "--tun-framing" = others.contains "--tun-framing"
  planetlab : options.contains "--planetlab" = others.contains "--planetlab"

theorem Alike.selected_eq {options others : List String} (alike : Alike options others) (directory : Directory) :
    selected directory options = selected directory others := by
  obtain ⟨level, name, port, peers, idle, close, sleep, capture⟩ := by simpa [singleNames] using alike.single
  obtain ⟨privates, listens⟩ := by simpa [addressNames] using alike.addresses
  simp only [selected, lastRead, level, name, port, peers, idle, close, sleep, capture, privates, listens,
    alike.framing, alike.planetlab]

theorem Alike.symm {options others : List String} (alike : Alike options others) : Alike others options where
  single name known := (alike.single name known).symm
  addresses name known := (alike.addresses name known).symm
  framing := alike.framing.symm
  planetlab := alike.planetlab.symm

theorem given_append (name : String) (options others : List String) :
    given name (options ++ others) = given name options ++ given name others := by
  simp [given]

theorem given_cons (name text : String) (options : List String) :
    given name (text :: options) = (if nameOf text = name then [valueOf text] else []) ++ given name options := by
  unfold given
  split <;> simp_all

theorem alike_swapped (before after : List String) {first second : String}
    (different : nameOf first ≠ nameOf second) :
    Alike (before ++ second :: first :: after) (before ++ first :: second :: after) := by
  have same (name : String) :
      given name (before ++ second :: first :: after) = given name (before ++ first :: second :: after) := by
    simp only [given_append, given_cons]
    by_cases one : nameOf first = name
    · have two : nameOf second ≠ name := fun other => different (one.trans other.symm)
      simp [two]
    · simp [one]
  have flag (flag : String) : (before ++ second :: first :: after).contains flag =
      (before ++ first :: second :: after).contains flag := by
    simp [Bool.or_left_comm]
  exact ⟨fun name _ => congrArg List.getLast? (same name), fun name _ => same name, flag _, flag _⟩

-- An option counts for nothing if it adds no address and does not have the last word on anything.
theorem alike_dropped (before after : List String) {text : String} (added : nameOf text ∉ addressNames)
    (replaced : nameOf text ∈ singleNames → given (nameOf text) after ≠ []) (framing : text ≠ "--tun-framing")
    (planetlab : text ≠ "--planetlab") : Alike (before ++ text :: after) (before ++ after) where
  single name known := by
    simp only [given_append, given_cons]
    by_cases same : nameOf text = name
    · subst same
      obtain ⟨front, last, behind⟩ := (given (nameOf text) after).eq_nil_or_concat.resolve_left (replaced known)
      rw [behind, List.concat_eq_append]
      simp only [← List.append_assoc, List.getLast?_concat]
    · simp [same]
  addresses name known := by
    have other : nameOf text ≠ name := by
      rintro rfl
      exact added known
    simp [given_append, given_cons, other]
  framing := by simp [framing.symm]
  planetlab := by simp [planetlab.symm]

theorem alike_earlier (before between after : List String) {earlier later : String}
    (same : nameOf earlier = nameOf later) (single : nameOf later ∈ singleNames) :
    Alike (before ++ (between ++ later :: after)) (before ++ earlier :: (between ++ later :: after)) := by
  have apart : ∀ name ∈ singleNames, name ∉ addressNames := by decide
  have named (flag : String) (other : nameOf flag ∉ singleNames) : earlier ≠ flag := by
    rintro rfl
    exact other (same ▸ single)
  apply (alike_dropped _ _ ?_ ?_ ?_ ?_).symm
  · exact same ▸ apart _ single
  · intro _
    simp [given_append, given_cons, same]
  · exact named "--tun-framing" (by decide)
  · exact named "--planetlab" (by decide)

theorem Unknown.not_flag {text flag : String} (unknown : Unknown text) (unvalued : '=' ∉ flag.toList) :
    text ≠ flag := by
  rintro rfl
  exact unvalued unknown.1

theorem alike_unknown (before after : List String) {text : String} (unknown : Unknown text) :
    Alike (before ++ text :: after) (before ++ after) := by
  apply alike_dropped
  · exact fun among => unknown.2 (List.mem_append_right _ among)
  · exact fun among => absurd (List.mem_append_left _ among) unknown.2
  · exact unknown.not_flag (by decide)
  · exact unknown.not_flag (by decide)

theorem wellFormed_unknown (directory : Directory) {text : String} (unknown : Unknown text) :
    WellFormed directory text := by
  have other (name : String) (known : name ∈ singleNames ++ addressNames) : nameOf text ≠ name := by
    rintro rfl
    exact unknown.2 known
  refine .option unknown.1 ⟨?_, ?_, ?_, ?_, ?_⟩
  · exact fun same => absurd same (other _ (by decide))
  · exact fun among => absurd (List.mem_append_right _ among) unknown.2
  · exact fun same => absurd same (other _ (by decide))
  · exact fun same => absurd same (other _ (by decide))
  · have known : ∀ name ∈ ["--idle-timeout", "--close-timeout", "--initial-sleep"],
        name ∈ singleNames ++ addressNames := by decide
    exact fun among => absurd (known _ among) unknown.2

theorem readable_given {directory : Directory} {options : List String} {name value : String}
    (wellFormed : ∀ text ∈ options, WellFormed directory text) (known : name ∈ addressNames)
    (among : value ∈ given name options) : ∃ address, readAddress value = .ok address := by
  obtain ⟨text, chosen, rfl⟩ := List.mem_map.mp among
  obtain ⟨member, named⟩ := List.mem_filter.mp chosen
  replace named : nameOf text = name := of_decide_eq_true named
  subst named
  cases wellFormed text member with
  | framing => exact absurd known (by decide)
  | planetlab => exact absurd known (by decide)
  | option _ acceptable => exact acceptable.address known

theorem addressesRead_all {values : List String}
    (readable : ∀ value ∈ values, ∃ address, readAddress value = .ok address) :
    values.map readAddress = (addressesRead values).map .ok := by
  induction values with
  | nil => rfl
  | cons value values ih =>
    obtain ⟨⟨address, read⟩, others⟩ := List.forall_mem_cons.mp readable
    simp [addressesRead, read, Except.toOption, ih others]

-- The order of options plays no part but among those of one name.
structure OrderFree (directory : Directory) (program : String) (options : List String) : Prop where
  -- Each choice is told from the options of its own name.
  outcome : asked directory program options = conclude (selected directory options) (some "run")
  swapped : ∀ before first second after, options = before ++ first :: second :: after →
    nameOf first ≠ nameOf second →
      asked directory program (before ++ second :: first :: after) = asked directory program options
  lastCounts : ∀ before earlier between later after,
    options = before ++ earlier :: (between ++ later :: after) → nameOf earlier = nameOf later →
      nameOf later ∈ singleNames →
        asked directory program (before ++ (between ++ later :: after)) = asked directory program options
  addresses : ∀ command, asked directory program options = .ok command →
    command.settings.privateAddresses.map .ok = (given "--private-ip" options).map readAddress ∧
      (given "--listen-ip" options ≠ [] →
        command.settings.listenAddresses.map .ok = (given "--listen-ip" options).map readAddress)
  unknown : ∀ before after, options = before ++ after → ∀ text, Unknown text →
    asked directory program (before ++ text :: after) = asked directory program options

theorem asked_alike {directory : Directory} {options others : List String} (program : String)
    (alike : Alike others options) (wellFormed : ∀ text ∈ options, WellFormed directory text)
    (fine : ∀ text ∈ others, WellFormed directory text) :
    asked directory program others = asked directory program options := by
  rw [asked_selected program wellFormed, asked_selected program fine, alike.selected_eq]

theorem asked_addresses {directory : Directory} {program : String} {options : List String} {command : Command}
    (wellFormed : ∀ text ∈ options, WellFormed directory text)
    (done : asked directory program options = .ok command) :
    command.settings.privateAddresses.map .ok = (given "--private-ip" options).map readAddress ∧
      (given "--listen-ip" options ≠ [] →
        command.settings.listenAddresses.map .ok = (given "--listen-ip" options).map readAddress) := by
  have all (name : String) (known : name ∈ addressNames) :=
    addressesRead_all fun _ => readable_given wellFormed known
  have privates := all "--private-ip" (by decide)
  have listens := all "--listen-ip" (by decide)
  rw [asked_selected program wellFormed, conclude, if_pos rfl] at done
  split at done
  · cases done
    refine ⟨privates.symm, ?_⟩
    intro listening
    have some : (selected directory options).listenAddresses ≠ [] := by
      intro none
      rw [show addressesRead (given "--listen-ip" options) = [] from none, List.map_nil] at listens
      exact listening (List.map_eq_nil_iff.mp listens)
    exact (congrArg (List.map Except.ok) (if_neg some)).trans listens.symm
  · cases done

-- What well-formed options come to does not hang on how they are mixed, nor on any that nobody knows.
theorem understand_orderFree {directory : Directory} (program : String) {options : List String}
    (wellFormed : ∀ text ∈ options, WellFormed directory text) : OrderFree directory program options where
  outcome := asked_selected program wellFormed
  swapped := by
    rintro before first second after rfl different
    apply asked_alike program (alike_swapped before after different) wellFormed
    intro text among
    apply wellFormed
    simpa [or_left_comm] using among
  lastCounts := by
    rintro before earlier between later after rfl same single
    apply asked_alike program (alike_earlier before between after same single) wellFormed
    intro text among
    apply wellFormed
    rw [List.mem_append, List.mem_cons]
    exact (List.mem_append.mp among).imp_right .inr
  addresses _ done := asked_addresses wellFormed done
  unknown := by
    rintro before after rfl text unknown
    apply asked_alike program (alike_unknown before after unknown) wellFormed
    intro other among
    rw [List.mem_append, List.mem_cons] at among
    rcases among with among | rfl | among
    · exact wellFormed other (List.mem_append_left _ among)
    · exact wellFormed_unknown directory unknown
    · exact wellFormed other (List.mem_append_right _ among)

def twoPorts : List String := ["--port=1", "--private-ip=10.0.0.1", "--extra=3", "--port=2", "--peers=p"]

-- The later port counts, although an option that nobody knows stands between the two.
theorem understand_orderFree_ports :
    (∀ text ∈ twoPorts, WellFormed ⟨[("p", [])]⟩ text) ∧ OrderFree ⟨[("p", [])]⟩ "udptun" twoPorts ∧
      (asked ⟨[("p", [])]⟩ "udptun" twoPorts).toOption.map (·.settings.port) = some 2 := by
  have port (text : String) (valued : '=' ∈ text.toList) (name : nameOf text = "--port")
      (read : ∃ port, readPort (valueOf text) = .ok port) : WellFormed ⟨[("p", [])]⟩ text :=
    .option valued ⟨by simp [name], by simp [name, addressNames], fun _ => read, by simp [name], by simp [name]⟩
  have address : WellFormed ⟨[("p", [])]⟩ "--private-ip=10.0.0.1" := by
    have name : nameOf "--private-ip=10.0.0.1" = "--private-ip" := by decide
    exact .option (by decide)
      ⟨by simp [name], fun _ => ⟨_, rfl⟩, by simp [name], by simp [name], by simp [name]⟩
  have peers : WellFormed ⟨[("p", [])]⟩ "--peers=p" := by
    have name : nameOf "--peers=p" = "--peers" := by decide
    exact .option (by decide)
      ⟨by simp [name], by simp [name, addressNames], by simp [name], fun _ => ⟨_, rfl⟩, by simp [name]⟩
  have wellFormed : ∀ text ∈ twoPorts, WellFormed ⟨[("p", [])]⟩ text := by
    simp only [twoPorts, List.forall_mem_cons]
    exact ⟨port _ (by decide) (by decide) ⟨1, rfl⟩, address, wellFormed_unknown _ (by decide),
      port _ (by decide) (by decide) ⟨2, rfl⟩, peers, by simp⟩
  exact ⟨wellFormed, understand_orderFree "udptun" wellFormed, by decide +kernel⟩

end IpTunnel.CommandLine

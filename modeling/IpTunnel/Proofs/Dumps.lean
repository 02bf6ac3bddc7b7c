import IpTunnel.Text.Hex

namespace IpTunnel.Text.Hex

def lowerDigits : List Char :=
  ['0', '1', '2', '3', '4', '5', '6', '7', '8', '9', 'a', 'b', 'c', 'd', 'e', 'f']

def digit? (char : Char) : Option Nat := lowerDigits.idxOf? char

def readOctet? : List Char → Option UInt8
  | [high, low] => do
    let sixteens ← digit? high
    let ones ← digit? low
    return UInt8.ofNat (sixteens * 16 + ones)
  | _ => none

-- There is one blank between two octets and none at either end: what lies between blanks is never empty.
def readLine? (text : List Char) : Option Bytes := (text.splitOn ' ').mapM readOctet?

-- The parts of a text between its line feeds. An empty text has none.
def linesOf (text : String) : List (List Char) :=
  if text.toList = [] then [] else text.toList.splitOn '\n'

structure Filled (rows : List Bytes) : Prop where
  full : ∀ octets ∈ rows.dropLast, octets.length = 16
  bounded : ∀ octets ∈ rows, 1 ≤ octets.length ∧ octets.length ≤ 16

-- The lines of the text read as these rows, and the rows make up the data.
structure Shows (text : String) (data : Bytes) (rows : List Bytes) : Prop where
  read : (linesOf text).mapM readLine? = some rows
  filled : Filled rows
  whole : rows.flatten = data

def line (octets : Bytes) : List Char := [' '].intercalate (octets.map digits)

def layout (rows : List Bytes) : List Char := ['\n'].intercalate (rows.map line)

theorem lowerDigits_get (value : Fin 16) : lowerDigits[value] = Nat.digitChar value := by
  revert value
  decide

theorem digit?_digitChar {value : Nat} (small : value < 16) : digit? (Nat.digitChar value) = some value := by
  have table : ∀ value : Fin 16, digit? (Nat.digitChar value) = some value.val := by decide
  exact table ⟨value, small⟩

theorem digit?_eq_some {char : Char} {value : Nat} :
    digit? char = some value ↔ value < 16 ∧ char = Nat.digitChar value := by
  constructor
  · intro read
    obtain ⟨small, found, _⟩ := List.idxOf?_eq_some_iff.mp read
    exact ⟨small, found.symm.trans (lowerDigits_get ⟨value, small⟩)⟩
  · rintro ⟨small, rfl⟩
    exact digit?_digitChar small

theorem readOctet?_digits (octet : UInt8) : readOctet? (digits octet) = some octet := by
  have bound := octet.toNat_lt
  have whole : octet.toNat / 16 * 16 + octet.toNat % 16 = octet.toNat := Nat.div_add_mod' ..
  rw [digits, readOctet?, digit?_digitChar (by omega), digit?_digitChar (by omega)]
  simp only [Option.bind_eq_bind, Option.bind_some, whole, UInt8.ofNat_toNat]
  rfl

theorem readOctet?_eq_some {text : List Char} {octet : UInt8} :
    readOctet? text = some octet ↔ text = digits octet := by
  constructor
  · intro read
    match text with
    | [high, low] =>
      simp only [readOctet?, Option.bind_eq_bind, Option.bind_eq_some_iff] at read
      obtain ⟨sixteens, front, ones, back, value⟩ := read
      obtain ⟨frontSmall, rfl⟩ := digit?_eq_some.mp front
      obtain ⟨backSmall, rfl⟩ := digit?_eq_some.mp back
      have number : octet.toNat = sixteens * 16 + ones := by
        rw [← Option.some.inj value, UInt8.toNat_ofNat', Nat.mod_eq_of_lt (by omega)]
      have upper : octet.toNat / 16 = sixteens := by omega
      have lower : octet.toNat % 16 = ones := by omega
      rw [digits, upper, lower]
    | [] => cases read
    | [_] => cases read
    | _ :: _ :: _ :: _ => cases read
  · rintro rfl
    exact readOctet?_digits octet

-- A reader that undoes a writer, and accepts nothing else, does so for whole lists.
theorem mapM_eq_some {Part Value : Type} {read : Part → Option Value} {write : Value → Part} {Fit : Value → Prop}
    (exact : ∀ part value, read part = some value ↔ Fit value ∧ part = write value) {parts : List Part}
    {values : List Value} :
    parts.mapM read = some values ↔ (∀ value ∈ values, Fit value) ∧ parts = values.map write := by
  induction parts generalizing values with
  | nil =>
    rw [List.mapM_nil]
    cases values with
    | nil => simp
    | cons value rest => simp
  | cons part rest ih =>
    simp only [List.mapM_cons, Option.bind_eq_bind, Option.bind_eq_some_iff, Option.pure_def, Option.some.injEq,
      exact, ih]
    constructor
    · rintro ⟨value, ⟨fit, rfl⟩, others, ⟨fits, rfl⟩, rfl⟩
      exact ⟨List.forall_mem_cons.mpr ⟨fit, fits⟩, rfl⟩
    · rintro ⟨fits, whole⟩
      cases values with
      | nil => cases whole
      | cons value others =>
        obtain ⟨fit, rest⟩ := List.forall_mem_cons.mp fits
        obtain ⟨first, behind⟩ := List.cons.inj whole
        exact ⟨value, ⟨fit, first⟩, others, ⟨rest, behind⟩, rfl⟩

theorem not_mem_digits {char : Char} (octet : UInt8) (other : digit? char = none) : char ∉ digits octet := by
  have bound := octet.toNat_lt
  intro member
  rcases List.mem_cons.mp member with rfl | member
  · rw [digit?_digitChar (by omega)] at other
    cases other
  · rw [List.mem_singleton.mp member, digit?_digitChar (by omega)] at other
    cases other

theorem intercalate_cons {α : Type} (mark : α) (first : List α) (rest : List (List α)) :
    [mark].intercalate (first :: rest) = first ++ rest.flatMap (mark :: ·) := by
  induction rest generalizing first with
  | nil => rw [List.intercalate_singleton, List.flatMap_nil, List.append_nil]
  | cons next others ih =>
    rw [List.intercalate_cons_cons, ih, List.flatMap_cons, List.append_assoc, List.singleton_append, List.cons_append]

theorem line_cons (octet : UInt8) (rest : Bytes) :
    line (octet :: rest) = digits octet ++ rest.flatMap fun next => ' ' :: digits next := by
  rw [line, List.map_cons, intercalate_cons, List.flatMap_map]

theorem not_mem_line {char : Char} (octets : Bytes) (other : digit? char = none) (solid : char ≠ ' ') :
    char ∉ line octets := by
  cases octets with
  | nil => exact List.not_mem_nil
  | cons octet rest =>
    rw [line_cons, List.mem_append, List.mem_flatMap]
    rintro (first | ⟨next, _, member⟩)
    · exact not_mem_digits octet other first
    · rcases List.mem_cons.mp member with blank | digit
      · exact solid blank
      · exact not_mem_digits next other digit

theorem readLine?_eq_some {text : List Char} {octets : Bytes} :
    readLine? text = some octets ↔ octets ≠ [] ∧ text = line octets := by
  have exact (part : List Char) (octet : UInt8) : readOctet? part = some octet ↔ True ∧ part = digits octet := by
    rw [readOctet?_eq_some, true_and]
  rw [readLine?, mapM_eq_some exact]
  constructor
  · rintro ⟨_, parts⟩
    constructor
    -- Even an empty text has one part, and that part is no octet.
    · rintro rfl
      exact List.splitOn_ne_nil _ _ parts
    · rw [line, ← parts, List.intercalate_splitOn]
  · rintro ⟨present, rfl⟩
    refine ⟨fun _ _ => trivial, ?_⟩
    apply List.splitOn_intercalate
    · intro part member
      obtain ⟨octet, _, rfl⟩ := List.mem_map.mp member
      exact not_mem_digits octet (by decide)
    · simpa using present

theorem linesOf_layout {rows : List Bytes} (solid : ∀ octets ∈ rows, octets ≠ []) :
    linesOf (String.ofList (layout rows)) = rows.map line := by
  have unbroken : ∀ text ∈ rows.map line, '\n' ∉ text := by
    intro text member
    obtain ⟨octets, _, rfl⟩ := List.mem_map.mp member
    exact not_mem_line octets (by decide) (by decide)
  rw [linesOf, String.toList_ofList]
  match rows with
  | [] => rfl
  | [] :: _ => exact absurd rfl (solid [] (List.mem_cons_self ..))
  | (octet :: others) :: rest =>
    have written : layout ((octet :: others) :: rest) ≠ [] := by
      rw [layout, List.map_cons, intercalate_cons, line_cons]
      exact List.cons_ne_nil _ _
    rw [if_neg written]
    exact List.splitOn_intercalate _ unbroken (List.cons_ne_nil _ _)

theorem intercalate_linesOf (text : String) : ['\n'].intercalate (linesOf text) = text.toList := by
  unfold linesOf
  split
  · rename_i empty
    rw [empty]
    rfl
  · exact List.intercalate_splitOn _

theorem separator_inside {index : Nat} (later : 0 < index) (inside : index < 16) : separator index = [' '] := by
  rw [separator, if_neg (by omega), if_neg (by omega)]

theorem separator_shift {index : Nat} (later : 0 < index) : separator (index + 16) = separator index := by
  have one : ¬ index + 16 = 0 := by omega
  have other : ¬ index = 0 := by omega
  rw [separator, separator, if_neg one, if_neg other, Nat.add_mod_right]

-- Rows are all alike, but nothing stands before the first octet of all.
theorem dumpFrom_shift {index : Nat} (data : Bytes) (later : 0 < index) :
    dumpFrom (index + 16) data = dumpFrom index data := by
  induction data generalizing index with
  | nil => rfl
  | cons octet rest ih =>
    have next : dumpFrom (index + 1 + 16) rest = dumpFrom (index + 1) rest := ih (Nat.succ_pos index)
    rw [dumpFrom, dumpFrom, separator_shift later, Nat.add_right_comm, next]

theorem dumpFrom_append (index : Nat) (front back : Bytes) :
    dumpFrom index (front ++ back) = dumpFrom index front ++ dumpFrom (index + front.length) back := by
  induction front generalizing index with
  | nil => rfl
  | cons octet rest ih =>
    rw [List.cons_append, dumpFrom, dumpFrom, ih, List.length_cons, List.append_assoc, List.append_assoc,
      Nat.add_right_comm, Nat.add_assoc]

theorem dumpFrom_inside {index : Nat} {octets : Bytes} (later : 0 < index) (fits : index + octets.length ≤ 16) :
    dumpFrom index octets = octets.flatMap fun next => ' ' :: digits next := by
  induction octets generalizing index with
  | nil => rfl
  | cons octet rest ih =>
    rw [List.length_cons] at fits
    rw [dumpFrom, separator_inside later (by omega), ih (Nat.succ_pos index) (by omega), List.flatMap_cons,
      List.singleton_append, List.cons_append]

theorem dumpFrom_line {octets : Bytes} (fits : octets.length ≤ 16) : dumpFrom 0 octets = line octets := by
  cases octets with
  | nil => rfl
  | cons octet rest =>
    rw [List.length_cons] at fits
    rw [dumpFrom, dumpFrom_inside (Nat.succ_pos 0) (by omega), line_cons]
    rfl

theorem dumpFrom_newLine {data : Bytes} (more : data ≠ []) : dumpFrom 16 data = '\n' :: dumpFrom 0 data := by
  cases data with
  | nil => exact absurd rfl more
  | cons octet rest =>
    rw [dumpFrom, dumpFrom, dumpFrom_shift rest (Nat.succ_pos 0)]
    rfl

theorem Filled.rest {octets : Bytes} {rows : List Bytes} (filled : Filled (octets :: rows)) : Filled rows := by
  cases rows with
  | nil => exact ⟨by simp, by simp⟩
  | cons next others =>
    constructor
    · intro later member
      exact filled.full later (List.mem_cons_of_mem octets member)
    · intro later member
      exact filled.bounded later (List.mem_cons_of_mem octets member)

theorem Filled.cons {octets : Bytes} {rows : List Bytes} (size : octets.length = 16) (filled : Filled rows) :
    Filled (octets :: rows) := by
  constructor
  · cases rows with
    | nil => simp
    | cons next others => exact List.forall_mem_cons.mpr ⟨size, filled.full⟩
  · exact List.forall_mem_cons.mpr ⟨by omega, filled.bounded⟩

theorem Filled.solid {rows : List Bytes} (filled : Filled rows) : ∀ octets ∈ rows, octets ≠ [] := by
  intro octets member
  exact List.ne_nil_of_length_pos (filled.bounded octets member).1

-- By induction on the rows: where one ends and another follows, the index is a multiple of sixteen again.
theorem dumpFrom_flatten {rows : List Bytes} (filled : Filled rows) : dumpFrom 0 rows.flatten = layout rows := by
  induction rows with
  | nil => rfl
  | cons octets rest ih =>
    have fits := (filled.bounded octets (List.mem_cons_self ..)).2
    cases rest with
    | nil =>
      rw [List.flatten_cons, List.flatten_nil, List.append_nil, dumpFrom_line fits, layout, List.map_singleton,
        List.intercalate_singleton]
    | cons next others =>
      have size : octets.length = 16 := filled.full octets (List.mem_cons_self ..)
      have further := filled.rest
      have more : (next :: others).flatten ≠ [] := by
        rw [List.flatten_cons]
        exact List.append_ne_nil_of_left_ne_nil (further.solid next (List.mem_cons_self ..)) _
      calc
        dumpFrom 0 (octets :: next :: others).flatten
        _ = dumpFrom 0 octets ++ dumpFrom octets.length (next :: others).flatten := by
          rw [List.flatten_cons, dumpFrom_append, Nat.zero_add]
        _ = line octets ++ '\n' :: layout (next :: others) := by
          rw [dumpFrom_line fits, size, dumpFrom_newLine more, ih further]
        _ = layout (octets :: next :: others) := by
          simp only [layout, List.map_cons, List.intercalate_cons_cons, List.append_assoc, List.singleton_append]

-- Any data can be cut into rows: the first sixteen octets make one, as long as there are more.
theorem exists_filled (data : Bytes) : ∃ rows, Filled rows ∧ rows.flatten = data := by
  induction size : data.length using Nat.strongRecOn generalizing data with
  | ind length ih =>
    by_cases short : data.length ≤ 16
    · by_cases empty : data = []
      · exact ⟨[], ⟨by simp, by simp⟩, empty.symm⟩
      · have present := List.length_pos_iff.mpr empty
        have alone : ∀ octets ∈ [data], 1 ≤ octets.length ∧ octets.length ≤ 16 :=
          List.forall_mem_singleton.mpr ⟨present, short⟩
        exact ⟨[data], ⟨by simp, alone⟩, List.append_nil data⟩
    · have fewer : (data.drop 16).length < length := by
        rw [List.length_drop]
        omega
      obtain ⟨rows, filled, whole⟩ := ih _ fewer (data.drop 16) rfl
      have first : (data.take 16).length = 16 := List.length_take_of_le (by omega)
      refine ⟨data.take 16 :: rows, filled.cons first, ?_⟩
      rw [List.flatten_cons, whole, List.take_append_drop]

theorem shows_iff {text : String} {data : Bytes} {rows : List Bytes} :
    Shows text data rows ↔ Filled rows ∧ rows.flatten = data ∧ text = String.ofList (layout rows) := by
  constructor
  · rintro ⟨read, filled, whole⟩
    obtain ⟨_, lines⟩ := (mapM_eq_some fun _ _ => readLine?_eq_some).mp read
    have written := intercalate_linesOf text
    rw [lines, ← layout] at written
    rw [written, String.ofList_toList]
    exact ⟨filled, whole, rfl⟩
  · rintro ⟨filled, whole, rfl⟩
    have lines := linesOf_layout filled.solid
    exact ⟨(mapM_eq_some fun _ _ => readLine?_eq_some).mpr ⟨filled.solid, lines⟩, filled, whole⟩

theorem dump_flatten {rows : List Bytes} (filled : Filled rows) :
    dump rows.flatten = String.ofList (layout rows) := congrArg String.ofList (dumpFrom_flatten filled)

theorem shows_iff_dump {text : String} {data : Bytes} : (∃ rows, Shows text data rows) ↔ text = dump data := by
  constructor
  · rintro ⟨rows, shown⟩
    obtain ⟨filled, rfl, rfl⟩ := shows_iff.mp shown
    exact (dump_flatten filled).symm
  · rintro rfl
    obtain ⟨rows, filled, rfl⟩ := exists_filled data
    exact ⟨rows, shows_iff.mpr ⟨filled, rfl, dump_flatten filled⟩⟩

theorem Shows.unique {text : String} {data other : Bytes} {rows others : List Bytes} (first : Shows text data rows)
    (second : Shows text other others) : data = other := by
  have same : rows = others := Option.some.inj (first.read.symm.trans second.read)
  rw [← first.whole, same, second.whole]

theorem Shows.linesOf_eq_nil {text : String} {data : Bytes} {rows : List Bytes} (shown : Shows text data rows) :
    linesOf text = [] ↔ data = [] := by
  obtain ⟨filled, rfl, rfl⟩ := shows_iff.mp shown
  rw [linesOf_layout filled.solid, List.map_eq_nil_iff, List.flatten_eq_nil_iff]
  constructor
  · rintro rfl octets member
    exact absurd member List.not_mem_nil
  · intro blank
    exact List.eq_nil_iff_forall_not_mem.mpr fun octets member => filled.solid octets member (blank octets member)

-- A dump is the one text that shows its data in rows, and no other data has the same.
theorem dump_lossless (data : Bytes) :
    (∀ text, (∃ rows, Shows text data rows) ↔ text = dump data) ∧
      (linesOf (dump data) = [] ↔ data = []) ∧
      ∀ other, dump other = dump data ↔ other = data := by
  obtain ⟨rows, shown⟩ := shows_iff_dump.mpr (rfl : dump data = dump data)
  refine ⟨?_, shown.linesOf_eq_nil, ?_⟩
  · intro text
    exact shows_iff_dump
  · intro other
    constructor
    · intro alike
      obtain ⟨others, otherShown⟩ := shows_iff_dump.mpr alike.symm
      exact otherShown.unique shown
    · rintro rfl
      rfl

-- Seventeen octets are one row and the beginning of another.
example : dump (List.replicate 16 0x4A ++ [0x0F]) = "4a 4a 4a 4a 4a 4a 4a 4a 4a 4a 4a 4a 4a 4a 4a 4a\n0f" := by rfl

end IpTunnel.Text.Hex

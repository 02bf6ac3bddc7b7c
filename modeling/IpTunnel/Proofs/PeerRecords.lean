import IpTunnel.Address.Reader
import IpTunnel.Peers
import IpTunnel.Proofs.Words

namespace IpTunnel.PeerTable

def content (line : List Char) : List Char := line.takeWhile (· ≠ '#')

def recordOf (line : List Char) : List Char := Text.trim (content line)

structure Record where
  line : Nat
  text : List Char

def Record.words (record : Record) : List (List Char) := Text.words record.text

-- The records of lines, of which the first has the given number. A blank line is none, but it is counted.
def recordsFrom (number : Nat) (lines : List (List Char)) : List Record :=
  ((lines.zipIdx number).map fun line => ⟨line.2, recordOf line.1⟩).filter (! ·.text.isEmpty)

def records (text : List Char) : List Record := recordsFrom 1 (text.splitOn '\n')

def Reads (words : List (List Char)) (address : IpAddress) (endpoint : Endpoint) : Prop :=
  ∃ first second, words = [first, second] ∧ IpAddress.read? first = some address ∧
    Endpoint.read? second = some endpoint

def Lists (words : List (List Char)) (address : IpAddress) (endpoint : Endpoint) : Prop :=
  Reads words address endpoint ∧ address.family = endpoint.family

def Names (words : List (List Char)) (address : IpAddress) : Prop := ∃ endpoint, Lists words address endpoint

structure Valid (records : List Record) : Prop where
  listed : ∀ record ∈ records, ∃ address endpoint, Lists record.words address endpoint
  apart : records.Pairwise fun first second => ∀ address, Names first.words address → ¬ Names second.words address

-- What is wrong with a record behind others. Of several faults the one listed first here is reported.
inductive Offends (earlier : List Record) (record : Record) : PeerError → Prop where
  | fieldCount (other : ∀ first second, record.words ≠ [first, second]) :
      Offends earlier record (.malformed record.line .fieldCount)
  | privateAddress (two : record.words = [first, second]) (unread : IpAddress.read? first = none) :
      Offends earlier record (.malformed record.line .privateAddress)
  | publicEndpoint (two : record.words = [first, second]) (read : IpAddress.read? first = some address)
      (unread : Endpoint.read? second = none) : Offends earlier record (.malformed record.line .publicEndpoint)
  | mixed (reads : Reads record.words address endpoint) (families : address.family ≠ endpoint.family) :
      Offends earlier record (.familyMismatch address endpoint)
  | duplicate (lists : Lists record.words address endpoint)
      (known : ∃ former ∈ earlier, Names former.words address) : Offends earlier record (.duplicate address)

def FirstFault (records : List Record) (cause : PeerError) : Prop :=
  ∃ before record after, records = before ++ record :: after ∧ Valid before ∧ Offends before record cause

theorem reads_unique (first : Reads words address endpoint) (second : Reads words other value) :
    address = other ∧ endpoint = value := by
  obtain ⟨left, right, two, readLeft, readRight⟩ := first
  obtain ⟨left', right', two', readLeft', readRight'⟩ := second
  rw [two] at two'
  cases two'
  rw [readLeft] at readLeft'
  rw [readRight] at readRight'
  exact ⟨Option.some.inj readLeft', Option.some.inj readRight'⟩

theorem names_unique (lists : Lists words address endpoint) (names : Names words other) : other = address := by
  obtain ⟨value, listed⟩ := names
  exact (reads_unique listed.1 lists.1).1

theorem valid_nil : Valid [] := ⟨List.forall_mem_nil _, .nil⟩

theorem Valid.front {front back : List Record} (valid : Valid (front ++ back)) : Valid front where
  listed record member := valid.listed record (List.mem_append_left back member)
  apart := (List.pairwise_append.mp valid.apart).1

theorem Valid.snoc {earlier : List Record} {record : Record} (valid : Valid earlier)
    (lists : Lists record.words address endpoint) (fresh : ∀ former ∈ earlier, ¬ Names former.words address) :
    Valid (earlier ++ [record]) where
  listed other member := by
    rcases List.mem_append.mp member with former | last
    · exact valid.listed other former
    · rw [List.mem_singleton.mp last]
      exact ⟨address, endpoint, lists⟩
  apart := by
    refine List.pairwise_append.mpr ⟨valid.apart, List.pairwise_singleton .., ?_⟩
    intro former member last single key named again
    rw [List.mem_singleton.mp single] at again
    rw [names_unique lists again] at named
    exact fresh former member named

theorem Valid.fresh {earlier : List Record} {record : Record} (valid : Valid (earlier ++ [record]))
    (lists : Lists record.words address endpoint) : ∀ former ∈ earlier, ¬ Names former.words address := by
  intro former member named
  have apart := (List.pairwise_append.mp valid.apart).2.2 former member record (List.mem_singleton.mpr rfl)
  exact apart address named ⟨endpoint, lists⟩

theorem lists_or_offends (earlier : List Record) (record : Record) :
    (∃ address endpoint, Lists record.words address endpoint ∧ ∀ former ∈ earlier, ¬ Names former.words address) ∨
      ∃ cause, Offends earlier record cause := by
  by_cases two : ∃ first second, record.words = [first, second]
  · obtain ⟨first, second, two⟩ := two
    cases read : IpAddress.read? first with
    | none => exact .inr ⟨_, .privateAddress two read⟩
    | some address =>
      cases read' : Endpoint.read? second with
      | none => exact .inr ⟨_, .publicEndpoint two read read'⟩
      | some endpoint =>
        have reads : Reads record.words address endpoint := ⟨first, second, two, read, read'⟩
        by_cases same : address.family = endpoint.family
        · by_cases known : ∃ former ∈ earlier, Names former.words address
          · exact .inr ⟨_, .duplicate ⟨reads, same⟩ known⟩
          · refine .inl ⟨address, endpoint, ⟨reads, same⟩, ?_⟩
            intro former member named
            exact known ⟨former, member, named⟩
        · exact .inr ⟨_, .mixed reads same⟩
  · refine .inr ⟨_, .fieldCount ?_⟩
    intro first second same
    exact two ⟨first, second, same⟩

-- By induction from the end: a record is judged by those before it.
theorem valid_or_fault (records : List Record) : Valid records ∨ ∃ cause, FirstFault records cause := by
  induction records using List.reverseRecOn with
  | nil => exact .inl valid_nil
  | append_singleton front last ih =>
    rcases ih with valid | ⟨cause, before, record, after, split, valid, offends⟩
    · rcases lists_or_offends front last with ⟨address, endpoint, lists, fresh⟩ | ⟨cause, offends⟩
      · exact .inl (valid.snoc lists fresh)
      · exact .inr ⟨cause, front, last, [], rfl, valid, offends⟩
    · refine .inr ⟨cause, before, record, after ++ [last], ?_, valid, offends⟩
      rw [split, List.append_assoc, List.cons_append]

@[simp]
theorem recordsFrom_nil (number : Nat) : recordsFrom number [] = [] := rfl

theorem recordsFrom_blank {line : List Char} (blank : recordOf line = []) (number : Nat) (rest : List (List Char)) :
    recordsFrom number (line :: rest) = recordsFrom (number + 1) rest := by
  rw [recordsFrom, List.zipIdx_cons, List.map_cons, List.filter_cons_of_neg (by simp [blank])]
  rfl

theorem recordsFrom_record {line : List Char} (filled : recordOf line ≠ []) (number : Nat)
    (rest : List (List Char)) :
    recordsFrom number (line :: rest) = ⟨number, recordOf line⟩ :: recordsFrom (number + 1) rest := by
  rw [recordsFrom, List.zipIdx_cons, List.map_cons, List.filter_cons_of_pos (by simp [filled])]
  rfl

theorem words_recordOf (line : List Char) : Text.words (recordOf line) = Text.words (content line) :=
  Text.words_trim _

-- The words that lines have in front of their comments, for all lines that have any.
def rowsOf (lines : List (List Char)) : List (List (List Char)) :=
  (lines.map fun line => Text.words (content line)).filter (! ·.isEmpty)

theorem rows_recordsFrom (number : Nat) (lines : List (List Char)) :
    (recordsFrom number lines).map Record.words = rowsOf lines := by
  induction lines generalizing number with
  | nil => rfl
  | cons line rest ih =>
    by_cases blank : recordOf line = []
    · have wordless : Text.words (content line) = [] := Text.trim_eq_nil.mp blank
      rw [recordsFrom_blank blank, ih, rowsOf, rowsOf, List.map_cons, List.filter_cons_of_neg (by simp [wordless])]
    · have filled : Text.words (content line) ≠ [] := fun wordless => blank (Text.trim_eq_nil.mpr wordless)
      rw [recordsFrom_record blank, List.map_cons, ih, rowsOf, rowsOf, List.map_cons,
        List.filter_cons_of_pos (by simpa using filled), Record.words, words_recordOf]

-- A line with something added to it that is no part of a record: a comment, anything inside a comment, or
-- a blank where no word goes across.
inductive Retouched : List Char → List Char → Prop where
  | comment (line remark : List Char) : Retouched line (line ++ '#' :: remark)
  | remark (marked : '#' ∈ front) (back : List Char) (char : Char) : Retouched (front ++ back) (front ++ char :: back)
  | blank (sort : Text.isBlank char = true) (gap : Text.Gap front (content back)) :
      Retouched (front ++ back) (front ++ char :: back)

-- Lines in another order, with blank lines, comments and blanks added or taken away.
inductive Rearranged : List (List Char) → List (List Char) → Prop where
  | reordered (order : lines.Perm others) : Rearranged lines others
  | added (blank : recordOf line = []) (lines : List (List Char)) : Rearranged lines (line :: lines)
  | retouched (line : Retouched first second) (lines : List (List Char)) : Rearranged (first :: lines) (second :: lines)
  | undone (back : Rearranged others lines) : Rearranged lines others
  | trans (first : Rearranged lines middle) (second : Rearranged middle others) : Rearranged lines others

theorem content_marked {front : List Char} (marked : '#' ∈ front) (back : List Char) :
    content (front ++ back) = content front := by
  induction front with
  | nil => cases marked
  | cons char rest ih =>
    by_cases mark : char = '#'
    · simp [content, mark]
    · have later : '#' ∈ rest := by
        rcases List.mem_cons.mp marked with first | later
        · exact absurd first.symm mark
        · exact later
      simpa [content, mark] using ih later

theorem content_unmarked {front : List Char} (unmarked : '#' ∉ front) (back : List Char) :
    content (front ++ back) = front ++ content back := by
  apply List.takeWhile_append_of_pos
  intro char member
  exact decide_eq_true fun mark => unmarked (mark ▸ member)

theorem content_whole {line : List Char} (unmarked : '#' ∉ line) : content line = line := by
  have whole := content_unmarked unmarked []
  rw [List.append_nil] at whole
  exact whole.trans (List.append_nil line)

theorem Retouched.words (retouched : Retouched first second) :
    Text.words (content second) = Text.words (content first) := by
  cases retouched with
  | comment line remark =>
    by_cases marked : '#' ∈ first
    · rw [content_marked marked]
    · have blank : content ('#' :: remark) = [] := rfl
      rw [content_unmarked marked, content_whole marked, blank, List.append_nil]
  | remark marked back char => rw [content_marked marked, content_marked marked]
  | @blank char front back sort gap =>
    by_cases marked : '#' ∈ front
    · rw [content_marked marked, content_marked marked]
    · have other : char ≠ '#' := by
        rintro rfl
        cases sort
      have kept : content (char :: back) = char :: content back := List.takeWhile_cons_of_pos (decide_eq_true other)
      rw [content_unmarked marked, content_unmarked marked, kept]
      exact Text.words_widened sort gap

theorem rows_rearranged (rearranged : Rearranged lines others) : (rowsOf lines).Perm (rowsOf others) := by
  induction rearranged with
  | reordered order => exact (order.map _).filter _
  | @added line blank lines =>
    have wordless : Text.words (content line) = [] := Text.trim_eq_nil.mp blank
    simp [rowsOf, wordless]
  | retouched line lines => simp only [rowsOf, List.map_cons, line.words, List.Perm.refl]
  | undone _ ih => exact ih.symm
  | trans _ _ first second => exact first.trans second

theorem Valid.rearranged {records others : List Record} (valid : Valid records)
    (rows : (records.map Record.words).Perm (others.map Record.words)) : Valid others where
  listed record member := by
    have row : record.words ∈ records.map Record.words := rows.mem_iff.mpr (List.mem_map_of_mem member)
    obtain ⟨former, among, same⟩ := List.mem_map.mp row
    rw [← same]
    exact valid.listed former among
  apart := by
    have apart : (records.map Record.words).Pairwise fun first second =>
        ∀ address, Names first address → ¬ Names second address := List.pairwise_map.mpr valid.apart
    have symmetric : ∀ {first second : List (List Char)}, (∀ address, Names first address → ¬ Names second address) →
        ∀ address, Names second address → ¬ Names first address := by
      intro first second apart address later former
      exact apart address former later
    exact List.pairwise_map.mp ((rows.pairwise_iff symmetric).mp apart)

end IpTunnel.PeerTable

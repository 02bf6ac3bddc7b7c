import IpTunnel.Peers.Records
import IpTunnel.Proofs.Insertions
import IpTunnel.Proofs.PeerRecords

namespace IpTunnel.PeerTable

-- The table answers with what the records list, and has as many peers.
structure Holds (table : PeerTable) (records : List Record) : Prop where
  lookup : ∀ address endpoint, table.lookup address = some endpoint ↔
    ∃ record ∈ records, Lists record.words address endpoint
  size : table.size = records.length

theorem empty_holds : Holds empty [] where
  lookup address endpoint := by simp [PeerTable.lookup, empty]
  size := rfl

theorem Holds.unlisted {table : PeerTable} {records : List Record} (holds : Holds table records)
    (unnamed : ∀ record ∈ records, ¬ Names record.words address) : table.lookup address = none := by
  cases found : table.lookup address with
  | none => rfl
  | some endpoint =>
    obtain ⟨record, member, lists⟩ := (holds.lookup address endpoint).mp found
    exact absurd ⟨endpoint, lists⟩ (unnamed record member)

theorem Holds.named {table : PeerTable} {records : List Record} (holds : Holds table records)
    (known : ∃ record ∈ records, Names record.words address) : (table.lookup address).isSome := by
  obtain ⟨record, member, endpoint, lists⟩ := known
  rw [(holds.lookup address endpoint).mpr ⟨record, member, lists⟩]
  rfl

theorem Holds.put {table : PeerTable} {records : List Record} {record : Record} (holds : Holds table records)
    (lists : Lists record.words address endpoint) (fresh : table.lookup address = none) :
    Holds (table.put address endpoint lists.2) (records ++ [record]) where
  lookup key value := by
    rw [lookup_put]
    constructor
    · intro found
      by_cases same : key = address
      · rw [if_pos same] at found
        cases found
        rw [same]
        exact ⟨record, by simp, lists⟩
      · rw [if_neg same] at found
        obtain ⟨former, member, listed⟩ := (holds.lookup key value).mp found
        exact ⟨former, List.mem_append_left _ member, listed⟩
    · rintro ⟨other, member, listed⟩
      rcases List.mem_append.mp member with former | last
      · have found := (holds.lookup key value).mpr ⟨other, former, listed⟩
        have different : key ≠ address := by
          rintro rfl
          rw [fresh] at found
          cases found
        rw [if_neg different, found]
      · rw [List.mem_singleton.mp last] at listed
        obtain ⟨rfl, rfl⟩ := reads_unique listed.1 lists.1
        exact if_pos rfl
  size := by
    rw [size_put, fresh, List.length_append, ← holds.size]
    rfl

theorem Holds.rearranged {table : PeerTable} {records others : List Record} (holds : Holds table records)
    (rows : (records.map Record.words).Perm (others.map Record.words)) : Holds table others where
  lookup address endpoint := by
    have among (list : List Record) : (∃ record ∈ list, Lists record.words address endpoint) ↔
        ∃ row ∈ list.map Record.words, Lists row address endpoint := by simp
    rw [holds.lookup, among, among]
    constructor
    · rintro ⟨row, member, lists⟩
      exact ⟨row, rows.mem_iff.mp member, lists⟩
    · rintro ⟨row, member, lists⟩
      exact ⟨row, rows.mem_iff.mpr member, lists⟩
  size := by
    have length := rows.length_eq
    rw [List.length_map, List.length_map] at length
    rw [holds.size, length]

theorem Holds.agree {table other : PeerTable} {records : List Record} (first : Holds table records)
    (second : Holds other records) (address : IpAddress) : table.lookup address = other.lookup address := by
  apply Option.ext
  intro endpoint
  rw [first.lookup, second.lookup]

theorem fields_content (line : List Char) : Text.fields (Text.before '#' line) = Text.words (recordOf line) := by
  rw [Text.fields_eq, words_recordOf]
  rfl

theorem readFrom_blank {line : List Char} (blank : recordOf line = []) (table : PeerTable) (number : Nat)
    (rest : List (List Char)) : readFrom table number (line :: rest) = readFrom table (number + 1) rest := by
  have fields : Text.fields (Text.before '#' line) = [] := by
    rw [fields_content, blank]
    rfl
  simp only [readFrom, readRecord, fields]

theorem readRecord_reads {line : List Char} (reads : Reads (Text.words (recordOf line)) address endpoint)
    (number : Nat) : readRecord number line = .ok (some (address, endpoint)) := by
  obtain ⟨first, second, two, readFirst, readSecond⟩ := reads
  simp only [readRecord, fields_content, two, readFirst, readSecond]

theorem readFrom_lists {line : List Char} {table : PeerTable} (lists : Lists (Text.words (recordOf line)) address endpoint)
    (fresh : table.lookup address = none) (number : Nat) (rest : List (List Char)) :
    readFrom table number (line :: rest) = readFrom (table.put address endpoint lists.2) (number + 1) rest := by
  simp only [readFrom, readRecord_reads lists.1, insert_fresh lists.2 fresh]

-- The checks are made in the order in which a fault lists them.
theorem readFrom_offends {line : List Char} {table : PeerTable} {earlier : List Record} (holds : Holds table earlier)
    (filled : recordOf line ≠ []) (offends : Offends earlier ⟨number, recordOf line⟩ cause)
    (rest : List (List Char)) : readFrom table number (line :: rest) = .error cause := by
  have filledWords : Text.words (recordOf line) ≠ [] := by
    rw [words_recordOf]
    exact fun wordless => filled (Text.trim_eq_nil.mpr wordless)
  have refused (unread : readRecord number line = .error cause) :
      readFrom table number (line :: rest) = .error cause := by
    simp only [readFrom, unread]
  cases offends with
  | fieldCount other =>
    apply refused
    rw [readRecord, fields_content]
    split
    · rename_i wordless
      exact absurd wordless filledWords
    · rename_i first second two
      exact absurd two (other first second)
    · rfl
  | privateAddress two unread =>
    apply refused
    have two : Text.words (recordOf line) = [_, _] := two
    simp only [readRecord, fields_content, two, unread]
  | publicEndpoint two read unread =>
    apply refused
    have two : Text.words (recordOf line) = [_, _] := two
    simp only [readRecord, fields_content, two, read, unread]
  | mixed reads families => simp only [readFrom, readRecord_reads reads, insert_mixed families]
  | duplicate lists known =>
    simp only [readFrom, readRecord_reads lists.1, insert_known lists.2 (holds.named known)]

theorem readFrom_step {line : List Char} {table : PeerTable} {earlier : List Record}
    (holds : Holds table earlier) (valid : Valid (earlier ++ [⟨number, recordOf line⟩])) (rest : List (List Char)) :
    ∃ next, readFrom table number (line :: rest) = readFrom next (number + 1) rest ∧
      Holds next (earlier ++ [⟨number, recordOf line⟩]) := by
  obtain ⟨address, endpoint, lists⟩ := valid.listed ⟨number, recordOf line⟩ (by simp)
  have fresh : table.lookup address = none := holds.unlisted (valid.fresh lists)
  exact ⟨table.put address endpoint lists.2, readFrom_lists lists fresh number rest, holds.put lists fresh⟩

theorem readFrom_valid {table : PeerTable} {earlier : List Record} {lines : List (List Char)}
    (holds : Holds table earlier) (valid : Valid (earlier ++ recordsFrom number lines)) :
    ∃ after, readFrom table number lines = .ok after ∧ Holds after (earlier ++ recordsFrom number lines) := by
  induction lines generalizing table number earlier with
  | nil =>
    rw [recordsFrom_nil, List.append_nil]
    exact ⟨table, rfl, holds⟩
  | cons line rest ih =>
    by_cases blank : recordOf line = []
    · rw [recordsFrom_blank blank] at valid ⊢
      rw [readFrom_blank blank]
      exact ih holds valid
    · rw [recordsFrom_record blank, List.append_cons] at valid ⊢
      obtain ⟨next, step, held⟩ := readFrom_step holds valid.front rest
      rw [step]
      exact ih held valid

theorem readFrom_fault {table : PeerTable} {earlier before after : List Record} {record : Record}
    {lines : List (List Char)} (holds : Holds table earlier)
    (split : recordsFrom number lines = before ++ record :: after) (valid : Valid (earlier ++ before))
    (offends : Offends (earlier ++ before) record cause) : readFrom table number lines = .error cause := by
  induction lines generalizing table number earlier before with
  | nil =>
    rw [recordsFrom_nil] at split
    cases before <;> cases split
  | cons line rest ih =>
    by_cases blank : recordOf line = []
    · rw [recordsFrom_blank blank] at split
      rw [readFrom_blank blank]
      exact ih holds split valid offends
    · rw [recordsFrom_record blank] at split
      cases before with
      | nil =>
        cases split
        rw [List.append_nil] at offends
        exact readFrom_offends holds blank offends rest
      | cons first others =>
        obtain ⟨rfl, behind⟩ := List.cons.inj split
        rw [List.append_cons] at valid offends
        obtain ⟨next, step, held⟩ := readFrom_step holds valid.front rest
        rw [step]
        exact ih held behind valid offends

-- The carriage return of a line ending counts as a blank of the line.
theorem recordOf_closeLine (line : List Char) : recordOf (Text.closeLine line) = recordOf line := by
  rcases List.eq_nil_or_concat line with rfl | ⟨front, char, rfl⟩
  · rfl
  · rw [List.concat_eq_append]
    by_cases ending : char = '\r'
    · have closed : Text.closeLine (front ++ ['\r']) = front := by simp [Text.closeLine]
      rw [ending, closed, recordOf, recordOf]
      by_cases marked : '#' ∈ front
      · rw [content_marked marked]
      · have kept : content (front ++ ['\r']) = front ++ ['\r'] := content_unmarked marked ['\r']
        rw [kept, content_whole marked, Text.trim_snoc rfl]
    · have unclosed : Text.closeLine (front ++ [char]) = front ++ [char] := by
        rw [Text.closeLine, List.reverse_append, List.reverse_singleton, List.singleton_append]
        split
        · rename_i same
          cases same
          exact absurd rfl ending
        · rfl
      rw [unclosed]

-- The lines that are read have the records of the pieces between line feeds: the two differ by carriage
-- returns, and by a last piece that is empty.
theorem recordsFrom_linesFrom {held : List Char} (unbroken : '\n' ∉ held) (number : Nat) (text : List Char) :
    recordsFrom number (Text.linesFrom held text) = recordsFrom number ((held.reverse ++ text).splitOn '\n') := by
  induction text generalizing held number with
  | nil =>
    rw [List.append_nil, List.splitOn_eq_singleton (by simpa using unbroken), Text.linesFrom]
    cases held with
    | nil => rfl
    | cons char rest => rfl
  | cons char rest ih =>
    rw [Text.linesFrom]
    by_cases feed : char = '\n'
    · have further : recordsFrom (number + 1) (Text.linesFrom [] rest) = recordsFrom (number + 1) (rest.splitOn '\n') :=
        ih List.not_mem_nil (number + 1)
      rw [if_pos feed, feed, List.splitOn_append_cons_self_of_not_mem (by simpa using unbroken)]
      by_cases blank : recordOf held.reverse = []
      · rw [recordsFrom_blank ((recordOf_closeLine _).trans blank), recordsFrom_blank blank, further]
      · have filled : recordOf (Text.closeLine held.reverse) ≠ [] := by rwa [recordOf_closeLine]
        rw [recordsFrom_record filled, recordsFrom_record blank, recordOf_closeLine, further]
    · have longer : '\n' ∉ char :: held := by
        intro member
        rcases List.mem_cons.mp member with first | before
        · exact feed first.symm
        · exact unbroken before
      have further := ih longer number
      rw [List.reverse_cons, List.append_assoc] at further
      rw [if_neg feed]
      exact further

theorem recordsFrom_lines (text : List Char) : recordsFrom 1 (Text.lines text) = records text :=
  recordsFrom_linesFrom List.not_mem_nil 1 text

theorem read_valid (valid : Valid (records text)) : ∃ table, read text = .ok table ∧ Holds table (records text) := by
  rw [← recordsFrom_lines] at valid ⊢
  exact readFrom_valid empty_holds valid

theorem read_fault (fault : FirstFault (records text) cause) : read text = .error cause := by
  obtain ⟨before, record, after, split, valid, offends⟩ := fault
  rw [← recordsFrom_lines] at split
  exact readFrom_fault empty_holds split valid offends

structure Exact (text : List Char) : Prop where
  accepted : (∃ table, read text = .ok table) ↔ Valid (records text)
  mapping : ∀ table, read text = .ok table → Holds table (records text)
  rejected : ∀ cause, read text = .error cause ↔ FirstFault (records text) cause
  rearranged : ∀ other, Rearranged (text.splitOn '\n') (other.splitOn '\n') → ∀ table, read text = .ok table →
    ∃ similar, read other = .ok similar ∧ (∀ address, similar.lookup address = table.lookup address) ∧
      similar.size = table.size

theorem valid_of_accepted (accepted : read text = .ok table) : Valid (records text) ∧ Holds table (records text) := by
  rcases valid_or_fault (records text) with valid | ⟨cause, fault⟩
  · obtain ⟨other, same, holds⟩ := read_valid valid
    rw [accepted] at same
    cases same
    exact ⟨valid, holds⟩
  · rw [read_fault fault] at accepted
    cases accepted

theorem fault_of_rejected (rejected : read text = .error cause) : FirstFault (records text) cause := by
  rcases valid_or_fault (records text) with valid | ⟨other, fault⟩
  · obtain ⟨table, same, _⟩ := read_valid valid
    rw [rejected] at same
    cases same
  · have same := read_fault fault
    rw [rejected] at same
    cases same
    exact fault

theorem read_rearranged {other : List Char} (rearranged : Rearranged (text.splitOn '\n') (other.splitOn '\n'))
    (accepted : read text = .ok table) :
    ∃ similar, read other = .ok similar ∧ (∀ address, similar.lookup address = table.lookup address) ∧
      similar.size = table.size := by
  have rows : ((records text).map Record.words).Perm ((records other).map Record.words) := by
    rw [records, records, rows_recordsFrom, rows_recordsFrom]
    exact rows_rearranged rearranged
  obtain ⟨valid, holds⟩ := valid_of_accepted accepted
  obtain ⟨similar, readable, held⟩ := read_valid (valid.rearranged rows)
  have kept := holds.rearranged rows
  refine ⟨similar, readable, held.agree kept, ?_⟩
  rw [held.size, kept.size]

theorem read_exact (text : List Char) : Exact text where
  accepted := by
    constructor
    · rintro ⟨table, accepted⟩
      exact (valid_of_accepted accepted).1
    · intro valid
      obtain ⟨table, accepted, _⟩ := read_valid valid
      exact ⟨table, accepted⟩
  mapping table accepted := (valid_of_accepted accepted).2
  rejected cause := ⟨fault_of_rejected, read_fault⟩
  rearranged other rearranged table accepted := read_rearranged rearranged accepted

-- Two peers in either order, and a peer listed twice in front of a line that is none of a peer file.
theorem read_exact_reordered :
    read "10.9.0.2 192.0.2.1:5000\nfd00::2 [2001:db8::1]:5000".toList = .ok twoPeers ∧
      Holds twoPeers (records "10.9.0.2 192.0.2.1:5000\nfd00::2 [2001:db8::1]:5000".toList) ∧
      (∃ similar, read "fd00::2 [2001:db8::1]:5000\n10.9.0.2 192.0.2.1:5000".toList = .ok similar ∧
        (∀ address, similar.lookup address = twoPeers.lookup address) ∧ similar.size = 2) ∧
      FirstFault (records "10.9.0.2 192.0.2.1:5000\n#\n10.9.0.2 192.0.2.2:5000\nnonsense".toList)
        (.duplicate (.v4 (.ofOctets 10 9 0 2))) := by
  have accepted : read "10.9.0.2 192.0.2.1:5000\nfd00::2 [2001:db8::1]:5000".toList = .ok twoPeers := rfl
  have rejected : read "10.9.0.2 192.0.2.1:5000\n#\n10.9.0.2 192.0.2.2:5000\nnonsense".toList =
      .error (.duplicate (.v4 (.ofOctets 10 9 0 2))) := rfl
  have swapped : Rearranged ("10.9.0.2 192.0.2.1:5000\nfd00::2 [2001:db8::1]:5000".toList.splitOn '\n')
      ("fd00::2 [2001:db8::1]:5000\n10.9.0.2 192.0.2.1:5000".toList.splitOn '\n') := .reordered (.swap ..)
  have told := read_exact "10.9.0.2 192.0.2.1:5000\nfd00::2 [2001:db8::1]:5000".toList
  exact ⟨accepted, told.mapping _ accepted, told.rearranged _ swapped _ accepted,
    ((read_exact _).rejected _).mp rejected⟩

end IpTunnel.PeerTable

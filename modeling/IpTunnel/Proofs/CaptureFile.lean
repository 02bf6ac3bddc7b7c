import IpTunnel.Capture
import Mathlib.Algebra.Ring.Int.Defs
import Mathlib.Algebra.Ring.Nat

namespace IpTunnel.Capture

structure Sample where
  seconds : Nat
  nanoseconds : Nat
  length : Nat
  data : Bytes
deriving DecidableEq

def number (octets : Bytes) : Nat := octets.foldl (fun value octet => 256 * value + octet.toNat) 0

-- The first record and what stands behind it, unless the data end in the middle of the record.
def readRecord? (data : Bytes) : Option (Sample × Bytes) :=
  let captured := number ((data.drop 8).take 4)
  if 16 + captured ≤ data.length then
    some (⟨number (data.take 4), number ((data.drop 4).take 4), number ((data.drop 12).take 4),
      (data.drop 16).take captured⟩, data.drop (16 + captured))
  else none

theorem readRecord?_shorter (read : readRecord? data = some (sample, rest)) : rest.length < data.length := by
  unfold readRecord? at read
  dsimp only at read
  split at read
  · cases read
    rw [List.length_drop]
    omega
  · cases read

def readRecords? (data : Bytes) : Option (List Sample) :=
  if data = [] then some []
  else
    match read : readRecord? data with
    | none => none
    | some (sample, rest) =>
      have := readRecord?_shorter read
      (readRecords? rest).map (sample :: ·)
termination_by data.length

-- Nanosecond captures in network order are known by their first four octets.
def readFile? (file : Bytes) : Option (List Sample) :=
  if 24 ≤ file.length ∧ number (file.take 4) = 0xA1B23C4D then readRecords? (file.drop 24) else none

-- A packet with the time at which it was handed over.
structure Stamped where
  clock : Clock
  packet : Bytes

namespace Stamped

def record (stamped : Stamped) : Bytes :=
  Capture.record stamped.clock.seconds.toNat stamped.clock.nanoseconds stamped.packet

def sample (stamped : Stamped) : Sample :=
  ⟨stamped.clock.seconds.toNat % 2 ^ 32, stamped.clock.nanoseconds.toNat, stamped.packet.length,
    stamped.packet.take 2048⟩

end Stamped

theorem number_be32 (value : UInt32) : number (Bytes.be32 value) = value.toNat := by
  have bound := value.toNat_lt
  simp only [number, Bytes.be32, List.foldl_cons, List.foldl_nil, UInt32.toNat_toUInt8, UInt32.toNat_shiftRight,
    UInt32.toNat_ofNat, Nat.shiftRight_eq_div_pow, Nat.reduceMod, Nat.reducePow]
  omega

-- The captured length alone says where the next record begins.
theorem readRecord?_fields (seconds nanoseconds length : UInt32) {captured : UInt32} {packet : Bytes} (rest : Bytes)
    (size : captured.toNat = packet.length) :
    readRecord? (Bytes.be32 seconds ++ (Bytes.be32 nanoseconds ++ (Bytes.be32 captured ++ (Bytes.be32 length ++
        (packet ++ rest))))) =
      some (⟨seconds.toNat, nanoseconds.toNat, length.toNat, packet⟩, rest) := by
  generalize whole : Bytes.be32 seconds ++ _ = data
  have behind : data.drop 16 = packet ++ rest := by rw [← whole]; rfl
  have field : number ((data.drop 8).take 4) = packet.length := by
    rw [← size, ← number_be32, ← whole]
    rfl
  have fits : 16 + packet.length ≤ data.length := by
    rw [← whole]
    simp only [List.length_append, Bytes.length_be32]
    omega
  have next : data.drop (16 + packet.length) = rest := by rw [← List.drop_drop, behind, List.drop_left]
  rw [readRecord?, field, if_pos fits, next, behind, List.take_left, ← number_be32 seconds, ← number_be32 nanoseconds,
    ← number_be32 length, ← whole]
  rfl

theorem readRecord?_record {stamped : Stamped} (rest : Bytes) (short : stamped.packet.length < 2 ^ 32) :
    readRecord? (stamped.record ++ rest) = some (stamped.sample, rest) := by
  obtain ⟨clock, packet⟩ := stamped
  have captured : (UInt32.ofNat (min packet.length snapshotLength)).toNat = (packet.take snapshotLength).length := by
    rw [UInt32.toNat_ofNat', List.length_take, Nat.min_comm, snapshotLength]
    omega
  have read := readRecord?_fields (UInt32.ofNat clock.seconds.toNat) clock.nanoseconds
    (UInt32.ofNat packet.length) rest captured
  rw [UInt32.toNat_ofNat', UInt32.toNat_ofNat', Nat.mod_eq_of_lt short] at read
  simp only [Stamped.record, record, List.append_assoc]
  exact read

theorem readRecords?_next (read : readRecord? data = some (sample, rest)) :
    readRecords? data = (readRecords? rest).map (sample :: ·) := by
  have filled : data ≠ [] := by
    rintro rfl
    cases readRecord?_shorter read
  rw [readRecords?, if_neg filled]
  split
  · rename_i unread
    rw [read] at unread
    cases unread
  · rename_i other behind same
    rw [read] at same
    cases same
    rfl

theorem readRecords?_records {items : List Stamped} (short : ∀ item ∈ items, item.packet.length < 2 ^ 32) :
    readRecords? (items.flatMap Stamped.record) = some (items.map Stamped.sample) := by
  induction items with
  | nil => rw [List.flatMap_nil, readRecords?, if_pos rfl, List.map_nil]
  | cons first others ih =>
    have read := readRecord?_record (others.flatMap Stamped.record) (short first (List.mem_cons_self ..))
    have rest := ih fun item member => short item (List.mem_cons_of_mem _ member)
    rw [List.flatMap_cons, readRecords?_next read, rest]
    rfl

theorem readFile?_header (records : Bytes) : readFile? (fileHeader ++ records) = readRecords? records := by
  have known : 24 ≤ (fileHeader ++ records).length ∧ number ((fileHeader ++ records).take 4) = 0xA1B23C4D := by
    refine ⟨?_, rfl⟩
    rw [List.length_append]
    exact Nat.le_add_right 24 _
  rw [readFile?, if_pos known]
  rfl

end IpTunnel.Capture

import IpTunnel.Proofs.PiecewiseSums
import IpTunnel.Proofs.Slices

namespace IpTunnel

def filledIn (data : Bytes) (place : Nat) : Bytes := data.overwrite place (Bytes.be16 (checksum data))

-- Data that verifies, and what a change of one of its words does to that.
structure Guarded (data : Bytes) : Prop where
  verifies : checksum data = 0
  word : ∀ place old new, place % 2 = 0 → data.slice? place (place + 2) = some old → new.length = 2 → new ≠ old →
    (checksum (data.overwrite place new) = 0 ↔
      (old = [0, 0] ∧ new = [0xFF, 0xFF]) ∨
      (old = [0xFF, 0xFF] ∧ new = [0, 0] ∧ ∃ octet ∈ data.overwrite place new, octet ≠ 0))
  lastOctet : ∀ front old new, data = front ++ [old] → front.length % 2 = 0 → new ≠ old →
    checksum (front ++ [new]) ≠ 0

theorem reduce_eq_full {sum : Nat} : reduce sum = 65535 ↔ sum ≠ 0 ∧ sum % 65535 = 0 := by
  unfold reduce
  split <;> omega

-- The sum of data that verifies has all its bits set, and so it is not the sum of zeros.
theorem checksum_eq_zero {data : Bytes} : checksum data = 0 ↔ total data ≠ 0 ∧ total data % 65535 = 0 := by
  have bound := reduce_le (total data)
  rw [← reduce_eq_full, ← UInt16.toNat_inj, checksum_toNat, UInt16.toNat_zero]
  omega

theorem total_around {front word : Bytes} (back : Bytes) (even : front.length % 2 = 0) (size : word.length = 2) :
    total (front ++ (word ++ back)) = total front + (total word + total back) := by
  rw [total_append _ even, total_append _ (by rw [size])]

theorem pair_of_length {word : Bytes} (size : word.length = 2) : ∃ high low, word = [high, low] := by
  match word, size with
  | [high, low], _ => exact ⟨high, low, rfl⟩

theorem total_word_le {word : Bytes} (size : word.length = 2) : total word ≤ 65535 := by
  obtain ⟨high, low, rfl⟩ := pair_of_length size
  have highBound := high.toNat_lt
  have lowBound := low.toNat_lt
  simp only [total]
  omega

theorem total_word_inj {first second : Bytes} (size : first.length = 2) (other : second.length = 2) :
    total first = total second ↔ first = second := by
  obtain ⟨high, low, rfl⟩ := pair_of_length size
  obtain ⟨otherHigh, otherLow, rfl⟩ := pair_of_length other
  have lowBound := low.toNat_lt
  have otherBound := otherLow.toNat_lt
  have same : high.toNat * 256 + low.toNat + 0 = otherHigh.toNat * 256 + otherLow.toNat + 0 ↔
      high.toNat = otherHigh.toNat ∧ low.toNat = otherLow.toNat := by
    omega
  simp only [total, same, UInt8.toNat_inj, List.cons.injEq, and_true]

theorem split_at_word {data word : Bytes} {place : Nat} (held : data.slice? place (place + 2) = some word) :
    word.length = 2 ∧ (data.take place).length = place ∧
      data = data.take place ++ (word ++ data.drop (place + 2)) := by
  obtain ⟨_, bound, content⟩ := Bytes.slice?_eq_some.mp held
  rw [Nat.add_sub_cancel_left] at content
  refine ⟨?_, ?_, ?_⟩
  · rw [← content, List.length_take, List.length_drop]
    omega
  · rw [List.length_take]
    omega
  · rw [← content, ← List.drop_drop, List.take_append_drop, List.take_append_drop]

theorem checksum_filledIn {data : Bytes} {place : Nat} (even : place % 2 = 0)
    (blank : data.slice? place (place + 2) = some [0, 0]) : checksum (filledIn data place) = 0 := by
  obtain ⟨_, size, split⟩ := split_at_word blank
  have whole : checksum data =
      ((Checksum.empty.add (data.take place ++ (Bytes.be16 0 ++ data.drop (place + 2)))).fold).value :=
    congrArg checksum split
  exact Checksum.added_filled (by decide) (by rw [size]; exact even) whole

-- Words that differ make sums that differ by less than 0xFFFF, unless they are the two zeros.
theorem checksum_replaced {data old new : Bytes} {place : Nat} (verifies : checksum data = 0) (even : place % 2 = 0)
    (held : data.slice? place (place + 2) = some old) (size : new.length = 2) (changed : new ≠ old) :
    checksum (data.overwrite place new) = 0 ↔
      (old = [0, 0] ∧ new = [0xFF, 0xFF]) ∨
      (old = [0xFF, 0xFF] ∧ new = [0, 0] ∧ ∃ octet ∈ data.overwrite place new, octet ≠ 0) := by
  obtain ⟨oldSize, front, split⟩ := split_at_word held
  have edge : (data.take place).length % 2 = 0 := by rw [front]; exact even
  have replaced : data.overwrite place new = data.take place ++ (new ++ data.drop (place + 2)) := by
    rw [Bytes.overwrite, size]
  have before := checksum_eq_zero.mp verifies
  rw [split, total_around _ edge oldSize] at before
  have oldBound := total_word_le oldSize
  have newBound := total_word_le size
  have differ : total new ≠ total old := mt (total_word_inj size oldSize).mp changed
  have some_ : (∃ octet ∈ data.overwrite place new, octet ≠ 0) ↔ total (data.overwrite place new) ≠ 0 := by
    rw [Ne, total_eq_zero]
    simp
  have zeros : ([0, 0] : Bytes).length = 2 := rfl
  have ones : ([0xFF, 0xFF] : Bytes).length = 2 := rfl
  rw [checksum_eq_zero, some_, ← total_word_inj oldSize zeros, ← total_word_inj size ones,
    ← total_word_inj oldSize ones, ← total_word_inj size zeros, replaced, total_around _ edge size]
  change _ ↔ (total old = 0 ∧ total new = 65535) ∨ (total old = 65535 ∧ total new = 0 ∧ _)
  generalize total (data.take place) = others at before ⊢
  generalize total (data.drop (place + 2)) = rest at before ⊢
  omega

-- The last octet of an odd number of them is the upper half of a word, so it has no second zero.
theorem checksum_lastOctet {front : Bytes} {old new : UInt8} (verifies : checksum (front ++ [old]) = 0)
    (even : front.length % 2 = 0) (changed : new ≠ old) : checksum (front ++ [new]) ≠ 0 := by
  have before := checksum_eq_zero.mp verifies
  have differ : new.toNat ≠ old.toNat := mt UInt8.toNat_inj.mp changed
  have oldBound := old.toNat_lt
  have newBound := new.toNat_lt
  intro after
  rw [checksum_eq_zero, total_append _ even, total] at after
  rw [total_append _ even, total] at before
  omega

theorem filledIn_guarded {data : Bytes} {place : Nat} (even : place % 2 = 0)
    (blank : data.slice? place (place + 2) = some [0, 0]) : Guarded (filledIn data place) := by
  have verifies := checksum_filledIn even blank
  refine ⟨verifies, ?_, ?_⟩
  · intro place old new even held size changed
    exact checksum_replaced verifies even held size changed
  · intro front old new last even changed
    rw [last] at verifies
    exact checksum_lastOctet verifies even changed

theorem filledIn_guarded_zeros :
    2 % 2 = 0 ∧ Bytes.slice? [0, 0, 0, 0, 0] 2 (2 + 2) = some [0, 0] ∧ Guarded (filledIn [0, 0, 0, 0, 0] 2) :=
  ⟨rfl, rfl, @filledIn_guarded [0, 0, 0, 0, 0] 2 rfl rfl⟩

end IpTunnel

import IpTunnel.Checksum

namespace IpTunnel

-- What is left of a sum once all carries have gone back in. Only 0 becomes 0: other multiples of
-- 0xFFFF become 0xFFFF.
def reduce (sum : Nat) : Nat := if sum = 0 then 0 else (sum - 1) % 65535 + 1

-- The exact sum of the big-endian words; an odd last octet is the high half of a word.
def total : Bytes → Nat
  | high :: low :: rest => high.toNat * 256 + low.toNat + total rest
  | [high] => high.toNat * 256
  | [] => 0

theorem reduce_le (sum : Nat) : reduce sum ≤ 65535 := by
  unfold reduce
  split
  · exact Nat.zero_le _
  · have bound := Nat.mod_lt (sum - 1) (by decide : 0 < 65535)
    omega

theorem reduce_of_le {sum : Nat} (small : sum ≤ 65535) : reduce sum = sum := by
  unfold reduce
  split
  · omega
  · rw [Nat.mod_eq_of_lt (by omega)]
    omega

-- Numbers that differ by a multiple of 0xFFFF reduce to the same, unless only one of them is 0.
theorem reduce_congr (first second : Nat) (same : first % 65535 = second % 65535) (zero : first = 0 ↔ second = 0) :
    reduce first = reduce second := by
  unfold reduce
  by_cases empty : first = 0
  · rw [if_pos empty, if_pos (zero.mp empty)]
  · rw [if_neg empty, if_neg fun other => empty (zero.mpr other)]
    omega

theorem reduce_mod (sum : Nat) : reduce sum % 65535 = sum % 65535 := by
  unfold reduce
  split <;> omega

theorem reduce_eq_zero {sum : Nat} : reduce sum = 0 ↔ sum = 0 := by
  unfold reduce
  split <;> omega

theorem reduce_reduce_add (first second : Nat) : reduce (reduce first + second) = reduce (first + second) := by
  have same := reduce_mod first
  have zero := @reduce_eq_zero first
  exact reduce_congr _ _ (by omega) (by omega)

theorem reduce_complement (sum : Nat) : reduce (sum + (65535 - reduce sum)) = 65535 := by
  have bound := reduce_le sum
  have same := reduce_mod sum
  have zero := @reduce_eq_zero sum
  have reduced := reduce_congr (sum + (65535 - reduce sum)) 65535 (by omega) ⟨by omega, by omega⟩
  exact reduced.trans (reduce_of_le (Nat.le_refl _))

theorem total_append {first : Bytes} (second : Bytes) (even : first.length % 2 = 0) :
    total (first ++ second) = total first + total second := by
  induction first using total.induct with
  | case1 high low rest ih =>
    have shorter : rest.length % 2 = 0 := by
      simp only [List.length_cons] at even
      omega
    simp only [List.cons_append, total, ih shorter, Nat.add_assoc]
  | case2 high => simp at even
  | case3 => simp [total]

theorem total_be16 (value : UInt16) : total (Bytes.be16 value) = value.toNat := by
  have bound := value.toNat_lt
  simp only [Bytes.be16, total, UInt16.toNat_toUInt8, UInt16.toNat_shiftRight]
  simp only [UInt16.toNat_ofNat, Nat.reduceMod, Nat.reducePow, Nat.shiftRight_eq_div_pow]
  omega

namespace Checksum

theorem above_toNat (sum : UInt32) : (sum >>> 16).toNat = sum.toNat / 65536 := by
  rw [UInt32.toNat_shiftRight, Nat.shiftRight_eq_div_pow]
  rfl

theorem below_toNat (sum : UInt32) : (sum &&& 0xFFFF).toNat = sum.toNat % 65536 := by
  rw [UInt32.toNat_and]
  exact Nat.and_two_pow_sub_one_eq_mod sum.toNat 16

theorem carry_toNat (sum : UInt32) : (carry sum).toNat = sum.toNat / 65536 + sum.toNat % 65536 := by
  have bound := sum.toNat_lt
  rw [carry, UInt32.toNat_add, above_toNat, below_toNat, Nat.mod_eq_of_lt (by omega)]

theorem carry_reduce (sum : UInt32) : reduce (carry sum).toNat = reduce sum.toNat := by
  rw [carry_toNat]
  exact reduce_congr _ _ (by omega) (by omega)

theorem carry_le {sum : UInt32} (bound : sum.toNat ≤ 0x1FFFE) : (carry sum).toNat ≤ 0xFFFF := by
  rw [carry_toNat]
  omega

-- Two carries are enough for any sum.
theorem fold_toNat (checksum : Checksum) : checksum.fold.sum.toNat = reduce checksum.sum.toNat := by
  have bound := checksum.sum.toNat_lt
  have once : (carry checksum.sum).toNat ≤ 0x1FFFE := by
    rw [carry_toNat]
    omega
  have twice : (carry (carry checksum.sum)).toNat ≤ 65535 := carry_le once
  rw [fold, ← reduce_of_le twice, carry_reduce, carry_reduce]

theorem word_toNat (high low : UInt8) : (word high low).toNat = high.toNat * 256 + low.toNat := by
  have highBound := high.toNat_lt
  have lowBound := low.toNat_lt
  have disjoint := Nat.shiftLeft_add_eq_or_of_lt (i := 8) (b := low.toNat) (by omega) high.toNat
  simp only [word, UInt32.toNat_or, UInt32.toNat_shiftLeft, UInt8.toNat_toUInt32, UInt32.toNat_ofNat, Nat.reduceMod,
    Nat.reducePow]
  rw [Nat.shiftLeft_eq] at disjoint ⊢
  rw [Nat.mod_eq_of_lt (by omega), ← disjoint]

theorem word_le (high low : UInt8) : (word high low).toNat ≤ 0xFFFF := by
  have highBound := high.toNat_lt
  have lowBound := low.toNat_lt
  rw [word_toNat]
  omega

theorem upper_toNat (high : UInt8) : (high.toUInt32 <<< 8).toNat = high.toNat * 256 := by
  have bound := high.toNat_lt
  simp only [UInt32.toNat_shiftLeft, UInt8.toNat_toUInt32, UInt32.toNat_ofNat, Nat.reduceMod, Nat.reducePow,
    Nat.shiftLeft_eq]
  omega

theorem raised_toNat {sum : UInt32} (high low : UInt8) (small : sum.toNat ≤ 0xFFFF) :
    (sum + word high low).toNat = sum.toNat + (word high low).toNat := by
  have bound := word_le high low
  rw [UInt32.toNat_add, Nat.mod_eq_of_lt (by omega)]

-- One carry is enough after every word.
theorem held_le {sum : UInt32} (high low : UInt8) (small : sum.toNat ≤ 0xFFFF) :
    (carry (sum + word high low)).toNat ≤ 0xFFFF := by
  have bound := word_le high low
  apply carry_le
  rw [raised_toNat high low small]
  omega

theorem sumWords_toNat (sum : UInt32) (data : Bytes) (small : sum.toNat ≤ 0xFFFF) :
    (sumWords sum data).toNat ≤ 0x1FEFF ∧ reduce (sumWords sum data).toNat = reduce (sum.toNat + total data) := by
  induction data using total.induct generalizing sum with
  | case1 high low rest ih =>
    obtain ⟨bound, reduced⟩ := ih _ (held_le high low small)
    refine ⟨bound, ?_⟩
    rw [sumWords, reduced, ← reduce_reduce_add, carry_reduce, reduce_reduce_add, raised_toNat high low small,
      word_toNat, total, Nat.add_assoc]
  | case2 high =>
    have highBound := high.toNat_lt
    have added : (sumWords sum [high]).toNat = sum.toNat + high.toNat * 256 := by
      rw [sumWords, UInt32.toNat_add, upper_toNat, Nat.mod_eq_of_lt (by omega)]
    rw [added, total]
    exact ⟨by omega, rfl⟩
  | case3 =>
    rw [sumWords, total]
    exact ⟨by omega, rfl⟩

theorem add_toNat {checksum : Checksum} (data : Bytes) (small : checksum.sum.toNat ≤ 0xFFFF) :
    (checksum.add data).sum.toNat = reduce (checksum.sum.toNat + total data) := by
  obtain ⟨bound, reduced⟩ := sumWords_toNat 0 data (by decide)
  have added : (checksum.sum + sumWords 0 data).toNat = checksum.sum.toNat + (sumWords 0 data).toNat := by
    rw [UInt32.toNat_add, Nat.mod_eq_of_lt (by omega)]
  rw [add, fold_toNat, added, Nat.add_comm, ← reduce_reduce_add, reduced, reduce_reduce_add, UInt32.toNat_zero,
    Nat.zero_add, Nat.add_comm]

theorem add_le (checksum : Checksum) (data : Bytes) : (checksum.add data).sum.toNat ≤ 0xFFFF := by
  rw [add, fold_toNat]
  exact reduce_le _

theorem value_toNat {checksum : Checksum} (small : checksum.sum.toNat ≤ 0xFFFF) :
    checksum.value.toNat = 65535 - checksum.sum.toNat := by
  rw [value, UInt16.toNat_not, UInt32.toNat_toUInt16, Nat.mod_eq_of_lt (by omega)]
  rfl

theorem added_toNat {start : Checksum} (data : Bytes) (small : start.sum.toNat ≤ 0xFFFF) :
    (start.add data).fold.value.toNat = 65535 - reduce (start.sum.toNat + total data) := by
  have folded : (start.add data).fold.sum.toNat = reduce (start.sum.toNat + total data) := by
    rw [fold_toNat, add_toNat _ small, reduce_of_le (reduce_le _)]
  rw [value_toNat (folded ▸ reduce_le _), folded]

-- Data verifies if and only if the sum is a multiple of 0xFFFF other than 0.
theorem added_eq_zero {start : Checksum} {data : Bytes} (small : start.sum.toNat ≤ 0xFFFF) :
    (start.add data).fold.value = 0 ↔ reduce (start.sum.toNat + total data) = 65535 := by
  have bound := reduce_le (start.sum.toNat + total data)
  rw [← UInt16.toNat_inj, added_toNat _ small, UInt16.toNat_zero]
  omega

-- The checksum, put in the place of two zeros, makes the data verify.
theorem added_filled {start : Checksum} {front back : Bytes} {sum : UInt16} (small : start.sum.toNat ≤ 0xFFFF)
    (even : front.length % 2 = 0) (filled : sum = (start.add (front ++ (Bytes.be16 0 ++ back))).fold.value) :
    (start.add (front ++ (Bytes.be16 sum ++ back))).fold.value = 0 := by
  have words (value : UInt16) :
      total (front ++ (Bytes.be16 value ++ back)) = total front + (value.toNat + total back) := by
    rw [total_append _ even, total_append _ (by simp), total_be16]
  have complement := congrArg UInt16.toNat filled
  rw [added_toNat _ small, words, UInt16.toNat_zero, Nat.zero_add] at complement
  have whole := reduce_complement (start.sum.toNat + (total front + total back))
  rw [← complement] at whole
  rw [added_eq_zero small, words, ← whole]
  congr 1
  omega

end Checksum

theorem checksum_toNat (data : Bytes) : (checksum data).toNat = 65535 - reduce (total data) := by
  rw [checksum, Checksum.added_toNat _ (by decide)]
  exact congrArg (fun sum => 65535 - reduce sum) (Nat.zero_add _)

end IpTunnel

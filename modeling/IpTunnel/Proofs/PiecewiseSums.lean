import IpTunnel.Proofs.OnesComplement
import Mathlib.Algebra.Ring.Nat

namespace IpTunnel

namespace Checksum

-- The checksum that the exact sum of the words asks for. Only data of zeros has the other zero as its sum.
def expected (data : Bytes) : Nat :=
  if data.all (· == 0) then 65535 else 65535 - ((total data - 1) % 65535 + 1)

def addAll (checksum : Checksum) (pieces : List Bytes) : Checksum := pieces.foldl add checksum

def EvenCuts (pieces : List Bytes) : Prop := ∀ piece ∈ pieces.dropLast, piece.length % 2 = 0

instance (pieces : List Bytes) : Decidable (EvenCuts pieces) :=
  inferInstanceAs (Decidable (∀ piece ∈ pieces.dropLast, piece.length % 2 = 0))

def pseudoOctets (source target : Ipv6) (next : Protocol) (length : Nat) : Bytes :=
  source.octets ++ target.octets ++ Bytes.be32 (UInt32.ofNat (length % 2 ^ 32)) ++ [0, 0, 0, next.number]

end Checksum

theorem total_eq_zero {data : Bytes} : total data = 0 ↔ ∀ octet ∈ data, octet = 0 := by
  have zero (octet : UInt8) : octet = 0 ↔ octet.toNat = 0 := UInt8.toNat_inj.symm
  induction data using total.induct with
  | case1 high low rest ih =>
    have parts : high.toNat * 256 + low.toNat + total rest = 0 ↔ high.toNat = 0 ∧ low.toNat = 0 ∧ total rest = 0 := by
      omega
    rw [total, parts, List.forall_mem_cons, List.forall_mem_cons, zero, zero]
    exact and_congr_right fun _ => and_congr_right fun _ => ih
  | case2 high =>
    have part : high.toNat * 256 = 0 ↔ high.toNat = 0 := by omega
    rw [total, part, List.forall_mem_singleton, zero]
  | case3 => simp [total]

theorem total_flatten {pieces : List Bytes} (even : ∀ piece ∈ pieces, piece.length % 2 = 0) :
    total pieces.flatten = (pieces.map total).sum := by
  induction pieces with
  | nil => rfl
  | cons piece rest ih =>
    have others : ∀ other ∈ rest, other.length % 2 = 0 := by
      intro other member
      exact even other (List.mem_cons_of_mem piece member)
    rw [List.flatten_cons, total_append _ (even piece (List.mem_cons_self ..)), ih others, List.map_cons, List.sum_cons]

namespace Checksum

theorem expected_eq (data : Bytes) : expected data = 65535 - reduce (total data) := by
  unfold expected reduce
  have zero : data.all (· == 0) = true ↔ total data = 0 := by
    rw [List.all_eq_true, total_eq_zero]
    simp only [beq_iff_eq]
  by_cases zeros : total data = 0
  · rw [if_pos (zero.mpr zeros), if_pos zeros]
  · rw [if_neg (mt zero.mp zeros), if_neg zeros]

theorem sum_ext {first second : Checksum} (same : first.sum.toNat = second.sum.toNat) : first = second :=
  congrArg Checksum.mk (UInt32.toNat_inj.mp same)

theorem evenCuts_of_even {pieces : List Bytes} (even : ∀ piece ∈ pieces, piece.length % 2 = 0) : EvenCuts pieces := by
  intro piece member
  exact even piece (pieces.dropLast_sublist.mem member)

-- Each piece goes on top of the reduced sum of those before it, which ends at the edge of a word.
theorem addAll_toNat {checksum : Checksum} {pieces : List Bytes} (small : checksum.sum.toNat ≤ 0xFFFF)
    (cuts : EvenCuts pieces) :
    (checksum.addAll pieces).sum.toNat = reduce (checksum.sum.toNat + total pieces.flatten) := by
  induction pieces generalizing checksum with
  | nil => exact (reduce_of_le small).symm
  | cons piece rest ih =>
    have added : (checksum.add piece).sum.toNat = reduce (checksum.sum.toNat + total piece) := add_toNat piece small
    cases rest with
    | nil =>
      rw [List.flatten_cons, List.flatten_nil, List.append_nil]
      exact added
    | cons next others =>
      have even : piece.length % 2 = 0 := by
        apply cuts
        exact List.mem_cons_self ..
      have later : EvenCuts (next :: others) := by
        intro other member
        apply cuts
        exact List.mem_cons_of_mem piece member
      have rest := ih (add_le checksum piece) later
      have whole : total (piece :: next :: others).flatten = total piece + total (next :: others).flatten :=
        total_append _ even
      rw [addAll, List.foldl_cons, ← addAll, rest, added, reduce_reduce_add, whole, Nat.add_assoc]

theorem addAll_empty {pieces : List Bytes} (cuts : EvenCuts pieces) :
    (empty.addAll pieces).sum.toNat = reduce (total pieces.flatten) := by
  rw [addAll_toNat (by decide) cuts]
  exact congrArg reduce (Nat.zero_add _)

theorem value_addAll {pieces : List Bytes} (cuts : EvenCuts pieces) :
    (empty.addAll pieces).value.toNat = expected pieces.flatten := by
  have sum := addAll_empty cuts
  rw [value_toNat (sum ▸ reduce_le _), sum, expected_eq]

theorem addAll_recut {pieces others : List Bytes} (cuts : EvenCuts pieces) (otherCuts : EvenCuts others)
    (whole : pieces.flatten = others.flatten) : empty.addAll pieces = empty.addAll others := by
  apply sum_ext
  rw [addAll_empty cuts, addAll_empty otherCuts, whole]

theorem addAll_perm {pieces others : List Bytes} (even : ∀ piece ∈ pieces, piece.length % 2 = 0)
    (reordered : pieces.Perm others) : empty.addAll pieces = empty.addAll others := by
  have alsoEven : ∀ other ∈ others, other.length % 2 = 0 := by
    intro other member
    exact even other (reordered.mem_iff.mpr member)
  have totals : total pieces.flatten = total others.flatten := by
    rw [total_flatten even, total_flatten alsoEven]
    exact (reordered.map total).sum_nat
  apply sum_ext
  rw [addAll_empty (evenCuts_of_even even), addAll_empty (evenCuts_of_even alsoEven), totals]

theorem length_pseudoOctets (source target : Ipv6) (next : Protocol) (length : Nat) :
    (pseudoOctets source target next length).length = 40 := by
  simp [pseudoOctets, source.size, target.size]

-- The header is summed in four pieces, and each of them has whole words.
theorem pseudoHeader_eq (source target : Ipv6) (next : Protocol) (length : Nat) :
    pseudoHeader source target next length = empty.add (pseudoOctets source target next length) := by
  have size : UInt32.ofNat (length % 2 ^ 32) = UInt32.ofNat length := by
    rw [← UInt32.toNat_inj, UInt32.toNat_ofNat', UInt32.toNat_ofNat', Nat.mod_mod]
  have even : ∀ piece ∈ [source.octets, target.octets, Bytes.be32 (UInt32.ofNat length), [0, 0, 0, next.number]],
      piece.length % 2 = 0 := by
    simp [source.size, target.size]
  have whole : [source.octets, target.octets, Bytes.be32 (UInt32.ofNat length), [0, 0, 0, next.number]].flatten =
      [pseudoOctets source target next length].flatten := by
    simp only [pseudoOctets, size, List.flatten_cons, List.flatten_nil, List.append_nil, List.append_assoc]
  exact addAll_recut (evenCuts_of_even even) (fun piece member => by cases member) whole

end Checksum

-- A checksum is the one of the exact sum, in whatever pieces its data comes: wherever they are cut, and in
-- any order if they all have whole words. The header of IPv6 may as well be added as one piece.
theorem sum_exact :
    (∀ pieces, Checksum.EvenCuts pieces →
      (Checksum.empty.addAll pieces).value.toNat = Checksum.expected pieces.flatten) ∧
    (∀ data, (checksum data).toNat = Checksum.expected data) ∧
    (∀ pieces others, Checksum.EvenCuts pieces → Checksum.EvenCuts others → pieces.flatten = others.flatten →
      Checksum.empty.addAll pieces = Checksum.empty.addAll others) ∧
    (∀ pieces others : List Bytes, (∀ piece ∈ pieces, piece.length % 2 = 0) → pieces.Perm others →
      Checksum.empty.addAll pieces = Checksum.empty.addAll others) ∧
    (∀ source target next length, (Checksum.pseudoOctets source target next length).length = 40 ∧
      Checksum.pseudoHeader source target next length =
        Checksum.empty.add (Checksum.pseudoOctets source target next length)) := by
  refine ⟨?_, ?_, ?_, ?_, ?_⟩
  · intro pieces cuts
    exact Checksum.value_addAll cuts
  · intro data
    rw [checksum_toNat, Checksum.expected_eq]
  · intro pieces others cuts otherCuts whole
    exact Checksum.addAll_recut cuts otherCuts whole
  · intro pieces others even reordered
    exact Checksum.addAll_perm even reordered
  · intro source target next length
    exact ⟨Checksum.length_pseudoOctets .., Checksum.pseudoHeader_eq ..⟩

-- Two ways to cut five octets, and the even pieces in the other order.
theorem sum_exact_odd :
    Checksum.EvenCuts [[0xFF, 0xFE], [], [0, 1, 7]] ∧ Checksum.EvenCuts [[0xFF, 0xFE, 0, 1], [7]] ∧
      (Checksum.empty.addAll [[0xFF, 0xFE], [], [0, 1, 7]]).value.toNat =
        Checksum.expected [0xFF, 0xFE, 0, 1, 7] ∧
      Checksum.empty.addAll [[0xFF, 0xFE], [], [0, 1, 7]] = Checksum.empty.addAll [[0xFF, 0xFE, 0, 1], [7]] ∧
      Checksum.empty.addAll [[0xFF, 0xFE], [0, 1]] = Checksum.empty.addAll [[0, 1], [0xFF, 0xFE]] := by
  obtain ⟨pieces, _, recut, reorder, _⟩ := sum_exact
  exact ⟨by decide, by decide, pieces [[0xFF, 0xFE], [], [0, 1, 7]] (by decide),
    recut [[0xFF, 0xFE], [], [0, 1, 7]] [[0xFF, 0xFE, 0, 1], [7]] (by decide) (by decide) rfl,
    reorder [[0xFF, 0xFE], [0, 1]] [[0, 1], [0xFF, 0xFE]] (by decide) (.swap ..)⟩

end IpTunnel

import IpTunnel.Proofs.PiecewiseSums

namespace IpTunnel.Checksum

def plus? (first second : UInt32) : Option UInt32 :=
  if first.toNat + second.toNat < 2 ^ 32 then some (first + second) else none

def carry? (sum : UInt32) : Option UInt32 := plus? (sum >>> 16) (sum &&& 0xFFFF)

def fold? (checksum : Checksum) : Option Checksum := do
  let once ← carry? checksum.sum
  let twice ← carry? once
  return ⟨twice⟩

-- What the accumulator holds after one more word. It fails unless that is within sixteen bits again.
def accumulate? (held word : UInt32) : Option UInt32 := do
  let raised ← plus? held word
  let carried ← carry? raised
  if carried ≤ 0xFFFF then return carried else none

def sumWords? (held : UInt32) : Bytes → Option UInt32
  | high :: low :: rest => do
    let next ← accumulate? held (word high low)
    sumWords? next rest
  | [high] => plus? held (high.toUInt32 <<< 8)
  | [] => plus? held 0

def add? (checksum : Checksum) (data : Bytes) : Option Checksum := do
  let words ← sumWords? 0 data
  let sum ← plus? checksum.sum words
  fold? ⟨sum⟩

def pseudoHeader? (source target : Ipv6) (next : Protocol) (length : Nat) : Option Checksum := do
  let first ← empty.add? source.octets
  let second ← first.add? target.octets
  let third ← second.add? (Bytes.be32 (UInt32.ofNat length))
  third.add? [0, 0, 0, next.number]

-- All that is ever done to a checksum. One that is begun takes the place of the one there was.
inductive Operation where
  | begin
  | beginHeader (source target : Ipv6) (next : Protocol) (length : Nat)
  | add (data : Bytes)
  | fold

namespace Operation

def perform (checksum : Checksum) : Operation → Checksum
  | begin => empty
  | beginHeader source target next length => pseudoHeader source target next length
  | add data => checksum.add data
  | fold => checksum.fold

def perform? (checksum : Checksum) : Operation → Option Checksum
  | begin => some empty
  | beginHeader source target next length => pseudoHeader? source target next length
  | add data => checksum.add? data
  | fold => checksum.fold?

def exactly (sum : Nat) : Operation → Nat
  | begin => 0
  | beginHeader source target next length => total (pseudoOctets source target next length)
  | add data => sum + total data
  | fold => sum

end Operation

def run (operations : List Operation) : Checksum := operations.foldl Operation.perform empty

def run? (operations : List Operation) : Option Checksum := operations.foldlM Operation.perform? empty

def exact (operations : List Operation) : Nat := operations.foldl Operation.exactly 0

theorem plus?_eq {first second : UInt32} (small : first.toNat + second.toNat < 2 ^ 32) :
    plus? first second = some (first + second) := if_pos small

-- The halves of a word are numbers of sixteen bits.
theorem carry?_eq (sum : UInt32) : carry? sum = some (carry sum) := by
  have bound := sum.toNat_lt
  apply plus?_eq
  rw [above_toNat, below_toNat]
  omega

theorem fold?_eq (checksum : Checksum) : checksum.fold? = some checksum.fold := by
  rw [fold?, carry?_eq, Option.bind_eq_bind, Option.bind_some, carry?_eq]
  rfl

theorem accumulate?_eq {held : UInt32} (high low : UInt8) (small : held.toNat ≤ 0xFFFF) :
    accumulate? held (word high low) = some (carry (held + word high low)) := by
  have bound := word_le high low
  have carried : carry (held + word high low) ≤ 0xFFFF := UInt32.le_iff_toNat_le.mpr (held_le high low small)
  rw [accumulate?, plus?_eq (by omega), Option.bind_eq_bind, Option.bind_some, carry?_eq, Option.bind_some,
    if_pos carried]
  rfl

theorem sumWords?_eq {held : UInt32} (data : Bytes) (small : held.toNat ≤ 0xFFFF) :
    sumWords? held data = some (sumWords held data) := by
  induction data using total.induct generalizing held with
  | case1 high low rest ih =>
    rw [sumWords?, accumulate?_eq high low small, Option.bind_eq_bind, Option.bind_some, sumWords]
    exact ih (held_le high low small)
  | case2 high =>
    have bound := high.toNat_lt
    apply plus?_eq
    rw [upper_toNat]
    omega
  | case3 =>
    have room : held.toNat + (0 : UInt32).toNat < 2 ^ 32 := held.toNat_lt
    rw [sumWords?, plus?_eq room, UInt32.add_zero, sumWords]

theorem add?_eq {checksum : Checksum} (data : Bytes) (small : checksum.sum.toNat ≤ 0xFFFF) :
    checksum.add? data = some (checksum.add data) := by
  have words := (sumWords_toNat 0 data (by decide)).1
  rw [add?, sumWords?_eq data (by decide), Option.bind_eq_bind, Option.bind_some, plus?_eq (by omega), Option.bind_some,
    fold?_eq]
  rfl

theorem pseudoHeader?_eq (source target : Ipv6) (next : Protocol) (length : Nat) :
    pseudoHeader? source target next length = some (pseudoHeader source target next length) := by
  simp only [pseudoHeader?, pseudoHeader, add?_eq _ (show empty.sum.toNat ≤ 0xFFFF by decide), add?_eq _ (add_le _ _),
    Option.bind_eq_bind, Option.bind_some]

-- What one operation does where the sum is the exact one, reduced.
theorem perform_toNat {checksum : Checksum} {sum : Nat} (operation : Operation)
    (reduced : checksum.sum.toNat = reduce sum) :
    (operation.perform checksum).sum.toNat = reduce (operation.exactly sum) := by
  have small : checksum.sum.toNat ≤ 0xFFFF := reduced ▸ reduce_le sum
  cases operation with
  | begin => rfl
  | beginHeader source target next length =>
    rw [Operation.perform, pseudoHeader_eq, add_toNat _ (by decide)]
    exact congrArg reduce (Nat.zero_add _)
  | add data => rw [Operation.perform, add_toNat data small, reduced, reduce_reduce_add, Operation.exactly]
  | fold => rw [Operation.perform, fold_toNat, reduce_of_le small, reduced, Operation.exactly]

theorem perform_le {checksum : Checksum} (operation : Operation) (small : checksum.sum.toNat ≤ 0xFFFF) :
    (operation.perform checksum).sum.toNat ≤ 0xFFFF := by
  rw [perform_toNat operation (reduce_of_le small).symm]
  exact reduce_le _

theorem perform?_eq {checksum : Checksum} (operation : Operation) (small : checksum.sum.toNat ≤ 0xFFFF) :
    operation.perform? checksum = some (operation.perform checksum) := by
  cases operation with
  | begin => rfl
  | beginHeader source target next length => exact pseudoHeader?_eq ..
  | add data => exact add?_eq data small
  | fold => exact fold?_eq checksum

theorem foldl_toNat {checksum : Checksum} {sum : Nat} (operations : List Operation)
    (reduced : checksum.sum.toNat = reduce sum) :
    (operations.foldl Operation.perform checksum).sum.toNat = reduce (operations.foldl Operation.exactly sum) := by
  induction operations generalizing checksum sum with
  | nil => exact reduced
  | cons operation rest ih => exact ih (perform_toNat operation reduced)

theorem foldlM_eq {checksum : Checksum} (operations : List Operation) (small : checksum.sum.toNat ≤ 0xFFFF) :
    operations.foldlM Operation.perform? checksum = some (operations.foldl Operation.perform checksum) := by
  induction operations generalizing checksum with
  | nil => rfl
  | cons operation rest ih =>
    rw [List.foldlM_cons, perform?_eq operation small, Option.bind_eq_bind, Option.bind_some, List.foldl_cons]
    exact ih (perform_le operation small)

theorem run_toNat (operations : List Operation) : (run operations).sum.toNat = reduce (exact operations) :=
  foldl_toNat operations rfl

-- After every operation the sum is within sixteen bits; so every addition finds room, a fold changes nothing, and the
-- value is that of the exact sum, behind a fold or not.
theorem run_folded (operations : List Operation) :
    (∀ count, (run (operations.take count)).sum.toNat ≤ 0xFFFF) ∧
      run? operations = some (run operations) ∧
      (run operations).fold = run operations ∧
      (run operations).value.toNat = 65535 - reduce (exact operations) := by
  have small (passed : List Operation) : (run passed).sum.toNat ≤ 0xFFFF := run_toNat passed ▸ reduce_le _
  refine ⟨?_, ?_, ?_, ?_⟩
  · intro count
    exact small (operations.take count)
  · exact foldlM_eq operations (by decide)
  · apply sum_ext
    rw [fold_toNat, reduce_of_le (small operations)]
  · rw [value_toNat (small operations), run_toNat]

-- The largest word on top of the largest sum, in the accumulator and behind it.
example : (empty.add [0xFF, 0xFF, 0xFF, 0xFF]).add [0xFF, 0xFF] = ⟨0xFFFF⟩ := by decide

end IpTunnel.Checksum

namespace IpTunnel

abbrev Bytes := List UInt8

namespace Bytes

def be16 (value : UInt16) : Bytes := [(value >>> 8).toUInt8, value.toUInt8]

def be32 (value : UInt32) : Bytes :=
  [(value >>> 24).toUInt8, (value >>> 16).toUInt8, (value >>> 8).toUInt8, value.toUInt8]

-- Machine order, as control messages have it: the low octet comes first.
def ofLe16 (low high : UInt8) : UInt16 := low.toUInt16 ||| (high.toUInt16 <<< 8)

def ofLe32 (first second third fourth : UInt8) : UInt32 :=
  first.toUInt32 ||| (second.toUInt32 <<< 8) ||| (third.toUInt32 <<< 16) ||| (fourth.toUInt32 <<< 24)

def slice? (data : Bytes) (start stop : Nat) : Option Bytes :=
  if start ≤ stop ∧ stop ≤ data.length then some ((data.take stop).drop start) else none

def overwrite (data : Bytes) (start : Nat) (patch : Bytes) : Bytes :=
  data.take start ++ (patch ++ data.drop (start + patch.length))

-- A buffer after a read into its part from `start` on: what does not fit is cut off.
def fill (buffer : Bytes) (start : Nat) (data : Bytes) : Bytes :=
  overwrite buffer start (data.take (buffer.length - start))

@[simp]
theorem length_be16 (value : UInt16) : (be16 value).length = 2 := rfl

@[simp]
theorem length_be32 (value : UInt32) : (be32 value).length = 4 := rfl

theorem length_overwrite {data patch : Bytes} {start : Nat}
    (fits : start + patch.length ≤ data.length) :
    (overwrite data start patch).length = data.length := by
  simp only [overwrite, List.length_append, List.length_take, List.length_drop]
  omega

theorem length_fill {buffer : Bytes} {start : Nat} (data : Bytes) (inside : start ≤ buffer.length) :
    (fill buffer start data).length = buffer.length := by
  apply length_overwrite
  rw [List.length_take]
  omega

end Bytes

end IpTunnel

import IpTunnel.Bytes

namespace IpTunnel.Bytes

theorem slice?_eq_some {data part : Bytes} {start stop : Nat} :
    slice? data start stop = some part ↔
      start ≤ stop ∧ stop ≤ data.length ∧ (data.drop start).take (stop - start) = part := by
  unfold slice?
  split
  · rename_i inside
    simp [inside, List.drop_take]
  · rename_i outside
    simp only [reduceCtorEq, false_iff]
    exact fun ⟨order, bound, _⟩ => outside ⟨order, bound⟩

theorem slice?_front {data part : Bytes} (front : data.take part.length = part) :
    slice? data 0 part.length = some part := by
  have bound : part.length ≤ data.length := by
    have size := congrArg List.length front
    rw [List.length_take] at size
    omega
  exact slice?_eq_some.mpr ⟨Nat.zero_le _, bound, front⟩

theorem slice?_behind (room : Bytes) {data part : Bytes} (front : data.take part.length = part) :
    slice? (room ++ data) room.length (room.length + part.length) = some part := by
  have bound : part.length ≤ data.length := by
    have size := congrArg List.length front
    rw [List.length_take] at size
    omega
  refine slice?_eq_some.mpr ⟨Nat.le_add_right _ _, ?_, ?_⟩
  · rw [List.length_append]
    omega
  · rw [List.drop_left, Nat.add_sub_cancel_left, front]

theorem take_fill {buffer data : Bytes} :
    (fill buffer 0 data).take (min data.length buffer.length) = data.take buffer.length := by
  have size : (data.take buffer.length).length = min data.length buffer.length := by
    rw [List.length_take, Nat.min_comm]
  simp only [fill, overwrite, List.take_zero, List.nil_append, Nat.sub_zero, ← size]
  exact List.take_left

theorem take_overwrite (buffer patch : Bytes) : (overwrite buffer 0 patch).take patch.length = patch := by
  simp only [overwrite, List.take_zero, List.nil_append]
  exact List.take_left

theorem overwrite_overwrite {buffer front rest : Bytes} (fits : front.length + rest.length ≤ buffer.length) :
    overwrite (overwrite buffer front.length rest) 0 front = overwrite buffer 0 (front ++ rest) := by
  have room : (buffer.take front.length).length = front.length := by
    rw [List.length_take]
    omega
  simp only [overwrite, List.take_zero, List.nil_append, Nat.zero_add, List.length_append, List.append_assoc]
  congr 1
  exact List.drop_left' room

end IpTunnel.Bytes

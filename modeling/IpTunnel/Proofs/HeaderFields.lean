import IpTunnel.Proofs.ValidPackets

namespace IpTunnel.Header

-- The two octets from `start` on are this number in network order.
def Field (packet : Bytes) (start value : Nat) : Prop :=
  ∃ high low, packet.slice? start (start + 2) = some [high, low] ∧ high.toNat * 256 + low.toNat = value

structure Undone4 (written : Written) (source target : Ipv4) (protocol : Protocol) (payload : Nat) : Prop where
  size : written.outcome = .ok 20
  header : read written.buffer = .ok (.v4 protocol source target)
  totalLength : Field written.buffer 2 (20 + payload)
  sum : checksum (written.buffer.take 20) = 0

structure Undone6 (written : Written) (source target : Ipv6) (protocol : Protocol) (payload : Nat) : Prop where
  size : written.outcome = .ok 40
  header : read written.buffer = .ok (.v6 protocol source target)
  payloadLength : Field written.buffer 4 payload

theorem field_be16 {front back : Bytes} {value : Nat} (small : value ≤ 0xFFFF) :
    Field (front ++ (Bytes.be16 (UInt16.ofNat value) ++ back)) front.length value := by
  have bound : (UInt16.ofNat value).toNat = value := by
    rw [UInt16.toNat_ofNat']
    exact Nat.mod_eq_of_lt (by omega)
  refine ⟨_, _, Bytes.slice?_behind front (List.take_left' rfl), ?_⟩
  have sum := total_be16 (UInt16.ofNat value)
  simp only [Bytes.be16, total, Nat.add_zero] at sum
  rw [sum, bound]

theorem writeIpv4_room {buffer : Bytes} (source target : Ipv4) (protocol : Protocol) {payload : Nat}
    (room : 20 ≤ buffer.length) (short : payload ≤ 65515) :
    writeIpv4 buffer source target protocol payload =
      ⟨ipv4 protocol source target (UInt16.ofNat (20 + payload)) ++ buffer.drop 20, .ok 20⟩ := by
  have enough : ¬ buffer.length < ipv4Length := Nat.not_lt.mpr room
  have fits : ¬ 0xFFFF < ipv4Length + payload := by
    rw [ipv4Length]
    omega
  rw [writeIpv4, if_neg enough, if_neg fits, Icmp.Message.overwrite_front, length_ipv4]
  rfl

theorem writeIpv6_room {buffer : Bytes} (source target : Ipv6) (protocol : Protocol) {payload : Nat}
    (room : 40 ≤ buffer.length) (short : payload ≤ 65535) :
    writeIpv6 buffer source target protocol payload =
      ⟨ipv6 protocol source target (UInt16.ofNat payload) ++ buffer.drop 40, .ok 40⟩ := by
  have enough : ¬ buffer.length < ipv6Length := Nat.not_lt.mpr room
  rw [writeIpv6, if_neg enough, if_neg (Nat.not_lt.mpr short), Icmp.Message.overwrite_front, length_ipv6]
  rfl

theorem writeIpv4_refused {buffer : Bytes} (source target : Ipv4) (protocol : Protocol) {payload : Nat}
    (unfit : ¬ (20 ≤ buffer.length ∧ payload ≤ 65515)) :
    ∃ cause, writeIpv4 buffer source target protocol payload = ⟨buffer, .error cause⟩ := by
  by_cases room : buffer.length < ipv4Length
  · exact ⟨_, if_pos room⟩
  · have long : 0xFFFF < ipv4Length + payload := by
      simp only [ipv4Length] at room ⊢
      omega
    refine ⟨.ipv4LengthOverflow, ?_⟩
    rw [writeIpv4, if_neg room, if_pos long]

theorem writeIpv6_refused {buffer : Bytes} (source target : Ipv6) (protocol : Protocol) {payload : Nat}
    (unfit : ¬ (40 ≤ buffer.length ∧ payload ≤ 65535)) :
    ∃ cause, writeIpv6 buffer source target protocol payload = ⟨buffer, .error cause⟩ := by
  by_cases room : buffer.length < ipv6Length
  · exact ⟨_, if_pos room⟩
  · have long : 0xFFFF < payload := by
      simp only [ipv6Length] at room
      omega
    refine ⟨.ipv6LengthOverflow, ?_⟩
    rw [writeIpv6, if_neg room, if_pos long]

theorem writeIpv4_undone {buffer : Bytes} (source target : Ipv4) (protocol : Protocol) {payload : Nat}
    (room : 20 ≤ buffer.length) (short : payload ≤ 65515) :
    Undone4 (writeIpv4 buffer source target protocol payload) source target protocol payload := by
  have length : (ipv4 protocol source target (UInt16.ofNat (20 + payload))).length = 20 := length_ipv4 ..
  rw [writeIpv4_room source target protocol room short]
  refine ⟨rfl, read_ipv4 _ _ _ _ _, ?_, ?_⟩
  · have small : 20 + payload ≤ 0xFFFF := by omega
    simp only [ipv4, ipv4With, List.append_assoc]
    exact @field_be16 [0x45, 0] _ _ small
  · rw [List.take_left' length]
    exact checksum_ipv4 _ _ _ _

theorem writeIpv6_undone {buffer : Bytes} (source target : Ipv6) (protocol : Protocol) {payload : Nat}
    (room : 40 ≤ buffer.length) (short : payload ≤ 65535) :
    Undone6 (writeIpv6 buffer source target protocol payload) source target protocol payload := by
  rw [writeIpv6_room source target protocol room short]
  refine ⟨rfl, read_ipv6 _ _ _ _ _, ?_⟩
  simp only [ipv6, List.append_assoc]
  exact @field_be16 [0x60, 0, 0, 0] _ _ short

theorem ok_iff {written : Written} {fits : Prop} (made : fits → written.outcome = .ok size)
    (refused : ¬ fits → ∃ cause, written = ⟨buffer, .error cause⟩) :
    (∃ size, written.outcome = .ok size) ↔ fits := by
  constructor
  · rintro ⟨other, succeeded⟩
    by_cases fit : fits
    · exact fit
    · obtain ⟨cause, failed⟩ := refused fit
      rw [failed] at succeeded
      cases succeeded
  · intro fit
    exact ⟨size, made fit⟩

theorem writeIpv4_ok {buffer : Bytes} {source target : Ipv4} {protocol : Protocol} {payload : Nat} :
    (∃ size, (writeIpv4 buffer source target protocol payload).outcome = .ok size) ↔
      20 ≤ buffer.length ∧ payload ≤ 65515 := by
  apply ok_iff
  · intro fits
    exact (writeIpv4_undone source target protocol fits.1 fits.2).size
  · exact writeIpv4_refused source target protocol

theorem writeIpv6_ok {buffer : Bytes} {source target : Ipv6} {protocol : Protocol} {payload : Nat} :
    (∃ size, (writeIpv6 buffer source target protocol payload).outcome = .ok size) ↔
      40 ≤ buffer.length ∧ payload ≤ 65535 := by
  apply ok_iff
  · intro fits
    exact (writeIpv6_undone source target protocol fits.1 fits.2).size
  · exact writeIpv6_refused source target protocol

-- A header is written if and only if there is space for it and its length field can hold the length, and
-- what is written is the header of just this packet.
theorem write_undone (buffer : Bytes) (protocol : Protocol) (payload : Nat) :
    (∀ source target : Ipv4,
      ((∃ size, (writeIpv4 buffer source target protocol payload).outcome = .ok size) ↔
        20 ≤ buffer.length ∧ payload ≤ 65515) ∧
      ∀ size, (writeIpv4 buffer source target protocol payload).outcome = .ok size →
        Undone4 (writeIpv4 buffer source target protocol payload) source target protocol payload) ∧
    ∀ source target : Ipv6,
      ((∃ size, (writeIpv6 buffer source target protocol payload).outcome = .ok size) ↔
        40 ≤ buffer.length ∧ payload ≤ 65535) ∧
      ∀ size, (writeIpv6 buffer source target protocol payload).outcome = .ok size →
        Undone6 (writeIpv6 buffer source target protocol payload) source target protocol payload := by
  refine ⟨?_, ?_⟩
  · intro source target
    refine ⟨writeIpv4_ok, ?_⟩
    intro size written
    obtain ⟨room, short⟩ := writeIpv4_ok.mp ⟨size, written⟩
    exact writeIpv4_undone source target protocol room short
  · intro source target
    refine ⟨writeIpv6_ok, ?_⟩
    intro size written
    obtain ⟨room, short⟩ := writeIpv6_ok.mp ⟨size, written⟩
    exact writeIpv6_undone source target protocol room short

-- The longest packet of each family that has a header, over old content.
theorem write_undone_longest :
    Undone4 (writeIpv4 (List.replicate 21 0xAA) (.ofOctets 10 0 0 1) (.ofOctets 10 0 0 2) .udp 65515)
        (.ofOctets 10 0 0 1) (.ofOctets 10 0 0 2) .udp 65515 ∧
      Undone6 (writeIpv6 (List.replicate 40 0xAA) ⟨List.replicate 16 1, rfl⟩ ⟨List.replicate 16 2, rfl⟩ .udp 65535)
        ⟨List.replicate 16 1, rfl⟩ ⟨List.replicate 16 2, rfl⟩ .udp 65535 :=
  ⟨((write_undone (List.replicate 21 0xAA) .udp 65515).1 _ _).2 20 rfl,
    ((write_undone (List.replicate 40 0xAA) .udp 65535).2 _ _).2 40 rfl⟩

end IpTunnel.Header

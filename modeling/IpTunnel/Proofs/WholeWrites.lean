import IpTunnel.Proofs.HeaderFields

namespace IpTunnel

structure Whole (buffer : Bytes) (written : Written) : Prop where
  refused : ∀ cause, written.outcome = .error cause → written.buffer = buffer
  behind : ∀ size, written.outcome = .ok size → size ≤ buffer.length ∧ written.buffer.drop size = buffer.drop size
  length : written.buffer.length = buffer.length

theorem whole_refused (buffer : Bytes) (cause : IpError) : Whole buffer ⟨buffer, .error cause⟩ where
  refused _ _ := rfl
  behind size written := by cases written
  length := rfl

theorem whole_written {buffer patch : Bytes} {size : Nat} (exactly : patch.length = size)
    (room : size ≤ buffer.length) : Whole buffer ⟨patch ++ buffer.drop size, .ok size⟩ where
  refused cause refused := by cases refused
  behind other written := by
    cases written
    exact ⟨room, List.drop_left' exactly⟩
  length := by
    rw [List.length_append, List.length_drop, exactly]
    omega

theorem writeFraming_whole (version : Version) (buffer : Bytes) : Whole buffer (version.writeFraming buffer) := by
  unfold Version.writeFraming
  split
  · exact whole_refused buffer _
  · rename_i room
    rw [Icmp.Message.overwrite_front]
    exact whole_written version.length_framing (Nat.not_lt.mp room)

theorem writeIpv4_whole (buffer : Bytes) (source target : Ipv4) (protocol : Protocol) (payload : Nat) :
    Whole buffer (Header.writeIpv4 buffer source target protocol payload) := by
  by_cases fits : 20 ≤ buffer.length ∧ payload ≤ 65515
  · rw [Header.writeIpv4_room source target protocol fits.1 fits.2]
    exact whole_written (Header.length_ipv4 ..) fits.1
  · obtain ⟨cause, refused⟩ := Header.writeIpv4_refused source target protocol fits
    rw [refused]
    exact whole_refused buffer cause

theorem writeIpv6_whole (buffer : Bytes) (source target : Ipv6) (protocol : Protocol) (payload : Nat) :
    Whole buffer (Header.writeIpv6 buffer source target protocol payload) := by
  by_cases fits : 40 ≤ buffer.length ∧ payload ≤ 65535
  · rw [Header.writeIpv6_room source target protocol fits.1 fits.2]
    exact whole_written (Header.length_ipv6 ..) fits.1
  · obtain ⟨cause, refused⟩ := Header.writeIpv6_refused source target protocol fits
    rw [refused]
    exact whole_refused buffer cause

namespace Icmp.Message

def noSpaceFor : Family → IpError
  | .v4 => .noSpaceForIcmpv4
  | .v6 => .noSpaceForIcmpv6

-- Why a message is not forged, if it is not. The reasons are gone through in this order.
def refusal? (message : Message) (fragment : Bytes) (target : IpAddress) (room : Nat) : Option IpError :=
  if fragment.length < 8 then some .shortFragment
  else if message.offender.family ≠ target.family then some .mixedFamilies
  else if room < forgedLength target.family then some (noSpaceFor target.family)
  else none

theorem refusal?_same {message : Message} {fragment : Bytes} {target : IpAddress} (room : Nat)
    (quotable : 8 ≤ fragment.length) (same : message.offender.family = target.family) :
    message.refusal? fragment target room =
      if room < forgedLength target.family then some (noSpaceFor target.family) else none := by
  rw [refusal?, if_neg (Nat.not_lt.mpr quotable), if_neg (not_not_intro same)]

theorem refusal?_mixed {message : Message} {fragment : Bytes} {target : IpAddress} (room : Nat)
    (quotable : 8 ≤ fragment.length) (mixed : message.offender.family ≠ target.family) :
    message.refusal? fragment target room = some .mixedFamilies := by
  rw [refusal?, if_neg (Nat.not_lt.mpr quotable), if_pos mixed]

theorem forge_mixed {message : Message} {fragment : Bytes} {target : IpAddress} (buffer : Bytes)
    (quotable : 8 ≤ fragment.length) (mixed : message.offender.family ≠ target.family) :
    message.forge fragment target buffer = ⟨buffer, .error .mixedFamilies⟩ := by
  have long : ¬ fragment.length < quotedLength := Nat.not_lt.mpr quotable
  unfold forge
  rw [if_neg long]
  cases offender : message.offender with
  | v4 source =>
    cases target with
    | v4 target => exact absurd (congrArg IpAddress.family offender) mixed
    | v6 target => rfl
  | v6 source =>
    cases target with
    | v4 target => rfl
    | v6 target => exact absurd (congrArg IpAddress.family offender) mixed

theorem forge_v4 {message : Message} {fragment : Bytes} {source : Ipv4} (target : Ipv4) (buffer : Bytes)
    (quotable : 8 ≤ fragment.length) (offender : message.offender = .v4 source) :
    message.forge fragment (.v4 target) buffer =
      message.forgeIpv4 (fragment.take quotedLength) source target buffer := by
  have long : ¬ fragment.length < quotedLength := Nat.not_lt.mpr quotable
  unfold forge
  rw [if_neg long, offender]

theorem forge_v6 {message : Message} {fragment : Bytes} {source : Ipv6} (target : Ipv6) (buffer : Bytes)
    (quotable : 8 ≤ fragment.length) (offender : message.offender = .v6 source) :
    message.forge fragment (.v6 target) buffer =
      message.forgeIpv6 (fragment.take quotedLength) source target buffer := by
  have long : ¬ fragment.length < quotedLength := Nat.not_lt.mpr quotable
  unfold forge
  rw [if_neg long, offender]

theorem sameFamily_cases {first second : IpAddress} (same : first.family = second.family) :
    (∃ source target, first = .v4 source ∧ second = .v4 target) ∨
      ∃ source target, first = .v6 source ∧ second = .v6 target := by
  cases first with
  | v4 source =>
    cases second with
    | v4 target => exact .inl ⟨source, target, rfl, rfl⟩
    | v6 target => cases same
  | v6 source =>
    cases second with
    | v4 target => cases same
    | v6 target => exact .inr ⟨source, target, rfl, rfl⟩

theorem forge_narrow {message : Message} {fragment buffer : Bytes} {target : IpAddress}
    (quotable : 8 ≤ fragment.length) (same : message.offender.family = target.family)
    (narrow : buffer.length < forgedLength target.family) :
    message.forge fragment target buffer = ⟨buffer, .error (noSpaceFor target.family)⟩ := by
  rcases sameFamily_cases same with ⟨source, target, offender, rfl⟩ | ⟨source, target, offender, rfl⟩
  · rw [forge_v4 target buffer quotable offender]
    exact if_pos narrow
  · rw [forge_v6 target buffer quotable offender]
    exact if_pos narrow

theorem forge_room {message : Message} {fragment buffer : Bytes} {target : IpAddress}
    (quotable : 8 ≤ fragment.length) (same : message.offender.family = target.family)
    (room : forgedLength target.family ≤ buffer.length) :
    ∃ packet, packet.length = forgedLength target.family ∧
      message.forge fragment target buffer =
        ⟨packet ++ buffer.drop (forgedLength target.family), .ok (forgedLength target.family)⟩ := by
  have eight := length_quoted quotable
  rcases sameFamily_cases same with ⟨source, target, offender, rfl⟩ | ⟨source, target, offender, rfl⟩
  · have size := @length_packet4 message _ source target eight
    refine ⟨_, size, ?_⟩
    rw [forge_v4 target buffer quotable offender, forgeIpv4_eq eight room, overwrite_front, size]
    rfl
  · have size := @length_packet6 message _ source target eight
    refine ⟨_, size, ?_⟩
    rw [forge_v6 target buffer quotable offender, forgeIpv6_eq eight room, overwrite_front, size]
    rfl

-- What is forged is decided before anything is written; past the three tests the header has its space.
theorem forge_decided (message : Message) (fragment : Bytes) (target : IpAddress) (buffer : Bytes) :
    Whole buffer (message.forge fragment target buffer) ∧
      (message.forge fragment target buffer).outcome =
        match message.refusal? fragment target buffer.length with
        | some cause => .error cause
        | none => .ok (forgedLength target.family) := by
  by_cases quotable : 8 ≤ fragment.length
  · by_cases same : message.offender.family = target.family
    · rw [refusal?_same _ quotable same]
      by_cases narrow : buffer.length < forgedLength target.family
      · rw [forge_narrow quotable same narrow, if_pos narrow]
        exact ⟨whole_refused buffer _, rfl⟩
      · obtain ⟨packet, size, made⟩ := forge_room quotable same (Nat.not_lt.mp narrow)
        rw [made, if_neg narrow]
        exact ⟨whole_written size (Nat.not_lt.mp narrow), rfl⟩
    · rw [refusal?_mixed _ quotable same, forge_mixed buffer quotable same]
      exact ⟨whole_refused buffer _, rfl⟩
  · have short : fragment.length < quotedLength := Nat.not_le.mp quotable
    have forged : message.forge fragment target buffer = ⟨buffer, .error .shortFragment⟩ := if_pos short
    have refusal : message.refusal? fragment target buffer.length = some .shortFragment := if_pos short
    rw [refusal, forged]
    exact ⟨whole_refused buffer _, rfl⟩

end Icmp.Message

theorem writes_whole (buffer : Bytes) :
    (∀ version : Version, Whole buffer (version.writeFraming buffer) ∧
      ∀ size, (version.writeFraming buffer).outcome = .ok size → size = 4) ∧
    (∀ source target protocol payload, Whole buffer (Header.writeIpv4 buffer source target protocol payload)) ∧
    (∀ source target protocol payload, Whole buffer (Header.writeIpv6 buffer source target protocol payload)) ∧
    ∀ (message : Icmp.Message) fragment target, Whole buffer (message.forge fragment target buffer) ∧
      (message.forge fragment target buffer).outcome =
        match message.refusal? fragment target buffer.length with
        | some cause => .error cause
        | none => .ok (Icmp.Message.forgedLength target.family) := by
  refine ⟨?_, ?_, ?_, ?_⟩
  · intro version
    refine ⟨writeFraming_whole version buffer, ?_⟩
    intro size written
    unfold Version.writeFraming at written
    split at written
    · cases written
    · exact (Except.ok.inj written).symm
  · intro source target protocol payload
    exact writeIpv4_whole buffer source target protocol payload
  · intro source target protocol payload
    exact writeIpv6_whole buffer source target protocol payload
  · intro message fragment target
    exact message.forge_decided fragment target buffer

-- One octet too few, and one octet more than a forged packet takes up.
theorem writes_whole_tight :
    (Icmp.Message.forge ⟨3, 4, 1400, .v4 (.ofOctets 192 0 2 1)⟩ (List.replicate 8 0x45) (.v4 (.ofOctets 10 0 0 2))
        (List.replicate 35 0xAA)).buffer = List.replicate 35 0xAA ∧
      (Icmp.Message.forge ⟨3, 4, 1400, .v4 (.ofOctets 192 0 2 1)⟩ (List.replicate 8 0x45) (.v4 (.ofOctets 10 0 0 2))
        (List.replicate 37 0xAA)).buffer.drop 36 = [0xAA] := by
  obtain ⟨_, _, _, narrow⟩ := writes_whole (List.replicate 35 0xAA)
  obtain ⟨_, _, _, wide⟩ := writes_whole (List.replicate 37 0xAA)
  exact ⟨(narrow _ _ _).1.refused .noSpaceForIcmpv4 rfl, ((wide _ _ _).1.behind 36 rfl).2⟩

end IpTunnel

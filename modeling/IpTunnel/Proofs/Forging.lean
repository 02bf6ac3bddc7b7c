import IpTunnel.Icmp.Forge
import IpTunnel.Proofs.Slices

namespace IpTunnel.Icmp.Message

def packet? (message : Message) (fragment : Bytes) (target : IpAddress) : Except IpError Bytes :=
  if fragment.length < quotedLength then .error .shortFragment
  else
    let quoted := fragment.take quotedLength
    match message.offender, target with
    | .v4 source, .v4 target => .ok (Header.ipv4 .icmp source target 36 ++ message.body4 quoted)
    | .v6 source, .v6 target => .ok (Header.ipv6 .icmp6 source target 16 ++ message.body6 source target quoted)
    | _, _ => .error .mixedFamilies

theorem length_bodyWith {message : Message} {sum : UInt16} {restOfHeader quoted : Bytes}
    (rest : restOfHeader.length = 4) (eight : quoted.length = quotedLength) :
    (bodyWith sum message restOfHeader quoted).length = messageLength := by
  simp [bodyWith, rest, eight, quotedLength, messageLength]

theorem length_body4 {message : Message} {quoted : Bytes} (eight : quoted.length = quotedLength) :
    (message.body4 quoted).length = messageLength :=
  length_bodyWith message.length_restOfHeader4 eight

theorem length_body6 {message : Message} {source target : Ipv6} {quoted : Bytes}
    (eight : quoted.length = quotedLength) : (message.body6 source target quoted).length = messageLength :=
  length_bodyWith message.length_restOfHeader6 eight

theorem length_quoted {fragment : Bytes} (quotable : quotedLength ≤ fragment.length) :
    (fragment.take quotedLength).length = quotedLength := by
  rw [List.length_take, Nat.min_eq_left quotable]

theorem forgeIpv4_eq {message : Message} {quoted buffer : Bytes} {source target : Ipv4}
    (eight : quoted.length = quotedLength) (room : forgedIpv4Length ≤ buffer.length) :
    message.forgeIpv4 quoted source target buffer =
      ⟨buffer.overwrite 0 (Header.ipv4 .icmp source target 36 ++ message.body4 quoted), .ok forgedIpv4Length⟩ := by
  have header : (Header.ipv4 .icmp source target 36).length = Header.ipv4Length := Header.length_ipv4 ..
  have body : (message.body4 quoted).length = messageLength := length_body4 eight
  have fits : (Header.ipv4 .icmp source target 36).length + (message.body4 quoted).length ≤ buffer.length := by
    rw [header, body]
    exact room
  have kept : (buffer.overwrite Header.ipv4Length (message.body4 quoted)).length = buffer.length :=
    Bytes.length_overwrite (header ▸ fits)
  have enough : ¬ buffer.length < Header.ipv4Length := by
    simp only [forgedIpv4Length, Header.ipv4Length] at *
    omega
  rw [forgeIpv4, if_neg (Nat.not_lt.mpr room), Header.writeIpv4, if_neg (kept.symm ▸ enough), if_neg (by decide),
    ← Bytes.overwrite_overwrite fits, header]
  rfl

theorem forgeIpv6_eq {message : Message} {quoted buffer : Bytes} {source target : Ipv6}
    (eight : quoted.length = quotedLength) (room : forgedIpv6Length ≤ buffer.length) :
    message.forgeIpv6 quoted source target buffer =
      ⟨buffer.overwrite 0 (Header.ipv6 .icmp6 source target 16 ++ message.body6 source target quoted),
        .ok forgedIpv6Length⟩ := by
  have header : (Header.ipv6 .icmp6 source target 16).length = Header.ipv6Length := Header.length_ipv6 ..
  have body : (message.body6 source target quoted).length = messageLength := length_body6 eight
  have fits : (Header.ipv6 .icmp6 source target 16).length + (message.body6 source target quoted).length ≤
      buffer.length := by
    rw [header, body]
    exact room
  have kept : (buffer.overwrite Header.ipv6Length (message.body6 source target quoted)).length = buffer.length :=
    Bytes.length_overwrite (header ▸ fits)
  have enough : ¬ buffer.length < Header.ipv6Length := by
    simp only [forgedIpv6Length, Header.ipv6Length] at *
    omega
  rw [forgeIpv6, if_neg (Nat.not_lt.mpr room), Header.writeIpv6, if_neg (kept.symm ▸ enough), if_neg (by decide),
    ← Bytes.overwrite_overwrite fits, header]
  rfl

theorem length_packet4 {message : Message} {quoted : Bytes} {source target : Ipv4}
    (eight : quoted.length = quotedLength) :
    (Header.ipv4 .icmp source target 36 ++ message.body4 quoted).length = forgedIpv4Length := by
  rw [List.length_append, Header.length_ipv4, length_body4 eight]
  rfl

theorem length_packet6 {message : Message} {quoted : Bytes} {source target : Ipv6}
    (eight : quoted.length = quotedLength) :
    (Header.ipv6 .icmp6 source target 16 ++ message.body6 source target quoted).length = forgedIpv6Length := by
  rw [List.length_append, Header.length_ipv6, length_body6 eight]
  rfl

-- A forged packet, or the refusal to forge one, does not depend on what the buffer held.
theorem forge_eq {message : Message} {fragment buffer : Bytes} {target : IpAddress}
    (room : forgedIpv6Length ≤ buffer.length) :
    message.forge fragment target buffer =
      match message.packet? fragment target with
      | .ok packet => ⟨buffer.overwrite 0 packet, .ok packet.length⟩
      | .error cause => ⟨buffer, .error cause⟩ := by
  unfold forge packet?
  by_cases short : fragment.length < quotedLength
  · rw [if_pos short, if_pos short]
  · have eight := length_quoted (Nat.not_lt.mp short)
    have room4 : forgedIpv4Length ≤ buffer.length := Nat.le_trans (by decide) room
    rw [if_neg short, if_neg short]
    cases offender : message.offender with
    | v4 source =>
      cases target with
      | v4 target => simp only [forgeIpv4_eq eight room4, length_packet4 eight]
      | v6 target => rfl
    | v6 source =>
      cases target with
      | v4 target => rfl
      | v6 target => simp only [forgeIpv6_eq eight room, length_packet6 eight]

theorem length_packet {message : Message} {fragment packet : Bytes} {target : IpAddress}
    (made : message.packet? fragment target = .ok packet) : packet.length ≤ forgedIpv6Length := by
  unfold packet? at made
  by_cases short : fragment.length < quotedLength
  · simp [short] at made
  · have eight := length_quoted (Nat.not_lt.mp short)
    rw [if_neg short] at made
    cases offender : message.offender with
    | v4 source =>
      cases target with
      | v4 target =>
        simp only [offender, Except.ok.injEq] at made
        rw [← made, length_packet4 eight]
        decide
      | v6 target => simp [offender] at made
    | v6 source =>
      cases target with
      | v4 target => simp [offender] at made
      | v6 target =>
        simp only [offender, Except.ok.injEq] at made
        rw [← made]
        exact Nat.le_of_eq (length_packet6 eight)

end IpTunnel.Icmp.Message

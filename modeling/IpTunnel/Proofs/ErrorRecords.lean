import IpTunnel.ExtendedError
import IpTunnel.Proofs.Slices
import Mathlib.Algebra.Ring.Nat

namespace IpTunnel

namespace Bytes

def ofLow : Bytes → Nat
  | [] => 0
  | first :: rest => first.toNat + 256 * ofLow rest

def low : Nat → Nat → Bytes
  | 0, _ => []
  | size + 1, value => UInt8.ofNat value :: low size (value / 256)

@[simp]
theorem length_low (size value : Nat) : (low size value).length = size := by
  induction size generalizing value with
  | zero => rfl
  | succ size ih => simp [low, ih]

theorem ofLow_low {size value : Nat} (small : value < 256 ^ size) : ofLow (low size value) = value := by
  induction size generalizing value with
  | zero =>
    have zero : value = 0 := by simpa using small
    rw [zero]
    rfl
  | succ size ih =>
    have rest : value / 256 < 256 ^ size := by
      rw [Nat.pow_succ] at small
      omega
    simp only [low, ofLow, ih rest, UInt8.toNat_ofNat']
    omega

-- An octet that is shifted past a number stands beside it.
theorem or_shifted {number bits : Nat} (octet : Nat) (small : number < 2 ^ bits) :
    number ||| octet <<< bits = number + octet * 2 ^ bits := by
  rw [Nat.shiftLeft_eq, Nat.or_comm, Nat.mul_comm, ← Nat.two_pow_add_eq_or_of_lt small, Nat.add_comm]

theorem ofLe16_toNat (first second : UInt8) : (ofLe16 first second).toNat = ofLow [first, second] := by
  have bound := first.toNat_lt
  have other := second.toNat_lt
  have shifted : second.toNat <<< 8 < 2 ^ 16 := by
    rw [Nat.shiftLeft_eq]
    omega
  simp only [ofLe16, ofLow, UInt16.toNat_or, UInt16.toNat_shiftLeft, UInt8.toNat_toUInt16, UInt16.toNat_ofNat,
    Nat.mod_eq_of_lt shifted, or_shifted _ bound]
  omega

theorem ofLe32_toNat (first second third fourth : UInt8) :
    (ofLe32 first second third fourth).toNat = ofLow [first, second, third, fourth] := by
  have shifted (octet : UInt8) {bits : Nat} (inside : bits ≤ 24) : octet.toNat <<< bits < 2 ^ 32 := by
    have power : 2 ^ bits ≤ 2 ^ 24 := Nat.pow_le_pow_right (by omega) inside
    have product : octet.toNat * 2 ^ bits ≤ 255 * 2 ^ 24 := Nat.mul_le_mul (Nat.le_of_lt_succ octet.toNat_lt) power
    rw [Nat.shiftLeft_eq]
    omega
  have one := first.toNat_lt
  have two : first.toNat + second.toNat * 2 ^ 8 < 2 ^ 16 := by
    have bound := second.toNat_lt
    omega
  have three : first.toNat + second.toNat * 2 ^ 8 + third.toNat * 2 ^ 16 < 2 ^ 24 := by
    have bound := third.toNat_lt
    omega
  simp only [ofLe32, ofLow, UInt32.toNat_or, UInt32.toNat_shiftLeft, UInt8.toNat_toUInt32, UInt32.toNat_ofNat,
    Nat.mod_eq_of_lt (shifted second (by omega : 8 ≤ 24)), Nat.mod_eq_of_lt (shifted third (by omega : 16 ≤ 24)),
    Nat.mod_eq_of_lt (shifted fourth (Nat.le_refl 24)), or_shifted _ one, or_shifted _ two, or_shifted _ three]
  omega

theorem ofLe32_low (value : UInt32) :
    ofLe32 (UInt8.ofNat value.toNat) (UInt8.ofNat (value.toNat / 256)) (UInt8.ofNat (value.toNat / 256 / 256))
      (UInt8.ofNat (value.toNat / 256 / 256 / 256)) = value := by
  apply UInt32.toNat_inj.mp
  rw [ofLe32_toNat]
  exact @ofLow_low 4 _ value.toNat_lt

end Bytes

theorem Ipv4.ofSlice_iff {data : Bytes} {start : Nat} (inside : start + 4 ≤ data.length) {address : Ipv4} :
    Ipv4.ofSlice data start inside = address ↔ data.slice? start (start + 4) = some address.octets := by
  obtain ⟨octets, size⟩ := address
  simp [Ipv4.ofSlice, Bytes.slice?_eq_some, inside]

theorem Ipv6.ofSlice_iff {data : Bytes} {start : Nat} (inside : start + 16 ≤ data.length) {address : Ipv6} :
    Ipv6.ofSlice data start inside = address ↔ data.slice? start (start + 16) = some address.octets := by
  obtain ⟨octets, size⟩ := address
  simp [Ipv6.ofSlice, Bytes.slice?_eq_some, inside]

def Origin.number : Origin → UInt8
  | .unspecified => 0
  | .host => 1
  | .icmp => 2
  | .icmp6 => 3
  | .other number => number

theorem Origin.number_ofNumber (number : UInt8) : (ofNumber number).number = number := by
  unfold ofNumber
  split
  · rename_i zero
    exact UInt8.toNat_inj.mp zero.symm
  · rename_i one
    exact UInt8.toNat_inj.mp one.symm
  · rename_i two
    exact UInt8.toNat_inj.mp two.symm
  · rename_i three
    exact UInt8.toNat_inj.mp three.symm
  · rfl

theorem Origin.ofNumber_other {number unknown : UInt8} (other : ofNumber number = .other unknown) :
    3 < unknown.toNat := by
  unfold ofNumber at other
  split at other
  · cases other
  · cases other
  · cases other
  · cases other
  · cases other
    simp only [imp_false] at *
    omega

theorem Origin.ofNumber_icmp {number : UInt8} :
    (ofNumber number = .icmp ∨ ofNumber number = .icmp6) ↔ number = 2 ∨ number = 3 := by
  constructor
  · have back := number_ofNumber number
    rintro (same | same)
    · rw [same] at back
      exact .inl back.symm
    · rw [same] at back
      exact .inr back.symm
  · rintro (rfl | rfl)
    · exact .inl rfl
    · exact .inr rfl

-- What the system reports of a failure, in front of a socket address.
structure ErrorRecord where
  errno : UInt32
  origin : UInt8
  kind : UInt8
  code : UInt8
  padding : UInt8
  info : UInt32
  data : UInt32

def ErrorRecord.octets (record : ErrorRecord) : Bytes :=
  Bytes.low 4 record.errno.toNat ++ [record.origin, record.kind, record.code, record.padding] ++
    Bytes.low 4 record.info.toNat ++ Bytes.low 4 record.data.toNat

-- Records that differ at most in the octets that tell nothing.
structure ErrorRecord.Alike (one other : ErrorRecord) : Prop where
  errno : one.errno = other.errno
  origin : one.origin = other.origin
  kind : one.kind = other.kind
  code : one.code = other.code
  info : one.info = other.info

namespace ExtendedError

-- Socket addresses of one family, with the same address if they have one. The port is in front of an IPv4 address
-- and, with the flow information, in front of an IPv6 address; the scope is behind it.
structure SameHost (one other : Bytes) : Prop where
  family : one.take 2 = other.take 2
  address4 : one.take 2 = [2, 0] → one.slice? 4 8 = other.slice? 4 8
  address6 : one.take 2 = [10, 0] → one.slice? 8 24 = other.slice? 8 24

structure Inverts (record : ErrorRecord) (sockaddr : Bytes) (error : ExtendedError) : Prop where
  errno : error.errno = record.errno
  origin : error.origin.number = record.origin
  -- The four origins that have names go by these.
  named : ∀ number, error.origin = .other number → 3 < number.toNat
  kind : error.kind = record.kind
  code : error.code = record.code
  info : error.info = record.info
  offender4 : ∀ address, error.offender = some (.v4 address) ↔
    sockaddr.take 2 = [2, 0] ∧ sockaddr.slice? 4 8 = some address.octets
  offender6 : ∀ address, error.offender = some (.v6 address) ↔
    sockaddr.take 2 = [10, 0] ∧ sockaddr.slice? 8 24 = some address.octets
  nobody : error.offender = none ↔ ¬ (sockaddr.take 2 = [2, 0] ∧ 8 ≤ sockaddr.length) ∧
    ¬ (sockaddr.take 2 = [10, 0] ∧ 24 ≤ sockaddr.length)
  present : error.icmp?.isSome ↔ (record.origin = 2 ∨ record.origin = 3) ∧ error.offender.isSome
  carried : ∀ message, error.icmp? = some message → message.kind = record.kind ∧ message.code = record.code ∧
    message.info = record.info ∧ error.offender = some message.offender

theorem family_eq {low high number : UInt8} :
    Bytes.ofLe16 low high = number.toUInt16 ↔ low = number ∧ high = 0 := by
  have first := low.toNat_lt
  have small := number.toNat_lt
  rw [← UInt16.toNat_inj, ← UInt8.toNat_inj, ← UInt8.toNat_inj, Bytes.ofLe16_toNat, UInt8.toNat_toUInt16]
  simp only [Bytes.ofLow, UInt8.toNat_ofNat]
  omega

-- What stands in a socket address counts only if the family is at its front.
theorem readOffender_eq (sockaddr : Bytes) :
    readOffender sockaddr =
      if inside : sockaddr.take 2 = [2, 0] ∧ 8 ≤ sockaddr.length then some (.v4 (.ofSlice sockaddr 4 inside.2))
      else if inside : sockaddr.take 2 = [10, 0] ∧ 24 ≤ sockaddr.length then
        some (.v6 (.ofSlice sockaddr 8 inside.2))
      else none := by
  match sockaddr with
  | [] => simp [readOffender]
  | [low] => simp [readOffender]
  | low :: high :: rest =>
    have two : Bytes.ofLe16 low high = 2 ↔ low = 2 ∧ high = 0 := @family_eq low high 2
    have ten : Bytes.ofLe16 low high = 10 ↔ low = 10 ∧ high = 0 := @family_eq low high 10
    simp [readOffender, two, ten]

theorem offender_v4 {sockaddr : Bytes} {address : Ipv4} : readOffender sockaddr = some (.v4 address) ↔
    sockaddr.take 2 = [2, 0] ∧ sockaddr.slice? 4 8 = some address.octets := by
  rw [readOffender_eq]
  split
  · rename_i inside
    simp [Ipv4.ofSlice_iff, inside.1]
  · rename_i outside
    constructor
    · intro other
      split at other <;> cases other
    · rintro ⟨family, found⟩
      exact absurd ⟨family, (Bytes.slice?_eq_some.mp found).2.1⟩ outside

theorem offender_v6 {sockaddr : Bytes} {address : Ipv6} : readOffender sockaddr = some (.v6 address) ↔
    sockaddr.take 2 = [10, 0] ∧ sockaddr.slice? 8 24 = some address.octets := by
  rw [readOffender_eq]
  split
  · rename_i inside
    simp [inside.1]
  · split
    · rename_i inside
      simp [Ipv6.ofSlice_iff, inside.1]
    · rename_i outside
      constructor
      · nofun
      · rintro ⟨family, found⟩
        exact absurd ⟨family, (Bytes.slice?_eq_some.mp found).2.1⟩ outside

theorem offender_none {sockaddr : Bytes} : readOffender sockaddr = none ↔
    ¬ (sockaddr.take 2 = [2, 0] ∧ 8 ≤ sockaddr.length) ∧ ¬ (sockaddr.take 2 = [10, 0] ∧ 24 ≤ sockaddr.length) := by
  rw [readOffender_eq]
  split
  · rename_i inside
    simp [inside]
  · rename_i outside
    simp [outside]

theorem readOffender_same {one other : Bytes} (same : SameHost one other) :
    readOffender one = readOffender other := by
  apply Option.ext
  intro offender
  cases offender with
  | v4 address =>
    rw [offender_v4, offender_v4, ← same.family]
    exact and_congr_right fun family => by rw [same.address4 family]
  | v6 address =>
    rw [offender_v6, offender_v6, ← same.family]
    exact and_congr_right fun family => by rw [same.address6 family]

theorem icmp?_eq (error : ExtendedError) :
    error.icmp? =
      if error.origin = .icmp ∨ error.origin = .icmp6 then
        error.offender.map fun offender => ⟨error.kind, error.code, error.info, offender⟩
      else none := by
  unfold ExtendedError.icmp?
  cases error.origin <;> simp

theorem icmp?_isSome {error : ExtendedError} :
    error.icmp?.isSome ↔ (error.origin = .icmp ∨ error.origin = .icmp6) ∧ error.offender.isSome := by
  rw [icmp?_eq]
  split <;> simp [*]

theorem icmp?_carried {error : ExtendedError} {message : Icmp.Message} (carries : error.icmp? = some message) :
    message.kind = error.kind ∧ message.code = error.code ∧ message.info = error.info ∧
      error.offender = some message.offender := by
  rw [icmp?_eq] at carries
  split at carries
  · obtain ⟨offender, found, rfl⟩ := Option.map_eq_some_iff.mp carries
    exact ⟨rfl, rfl, rfl, found⟩
  · cases carries

theorem read_octets (record : ErrorRecord) (sockaddr : Bytes) :
    read (record.octets ++ sockaddr) = .ok {
      errno := record.errno
      origin := .ofNumber record.origin
      kind := record.kind
      code := record.code
      info := record.info
      offender := readOffender sockaddr } := by
  obtain ⟨errno, origin, kind, code, padding, info, data⟩ := record
  simp only [ErrorRecord.octets, Bytes.low, List.cons_append, List.nil_append, read, Bytes.ofLe32_low]

theorem read_octets_inverts (record : ErrorRecord) (sockaddr : Bytes) :
    ∃ error, read (record.octets ++ sockaddr) = .ok error ∧ Inverts record sockaddr error := by
  refine ⟨_, read_octets record sockaddr, rfl, ?_, ?_, rfl, rfl, rfl, ?_, ?_, ?_, ?_, ?_⟩
  · exact Origin.number_ofNumber record.origin
  · intro number other
    exact Origin.ofNumber_other other
  · intro address
    exact offender_v4
  · intro address
    exact offender_v6
  · exact offender_none
  · rw [icmp?_isSome, Origin.ofNumber_icmp]
  · intro message carries
    exact icmp?_carried carries

theorem read_alike {record other : ErrorRecord} {sockaddr rest : Bytes} (alike : record.Alike other)
    (same : SameHost sockaddr rest) : read (record.octets ++ sockaddr) = read (other.octets ++ rest) := by
  rw [read_octets, read_octets, alike.errno, alike.origin, alike.kind, alike.code, alike.info, readOffender_same same]

theorem read_long {data : Bytes} (long : 16 ≤ data.length) : ∃ error, read data = .ok error := by
  have size : (data.take 16).length = 16 := List.length_take_of_le long
  rw [← List.take_append_drop 16 data]
  match data.take 16, size with
  | [_, _, _, _, _, _, _, _, _, _, _, _, _, _, _, _], _ => exact ⟨_, rfl⟩

theorem read_short {data : Bytes} (short : data.length < 16) : read data = .error .shortExtendedError := by
  unfold read
  split
  · simp only [List.length_cons] at short
    omega
  · rfl

theorem read_rejects {data : Bytes} : (∃ cause, read data = .error cause) ↔ data.length < 16 := by
  constructor
  · rintro ⟨cause, rejected⟩
    apply Nat.lt_of_not_le
    intro long
    obtain ⟨error, accepted⟩ := read_long long
    rw [accepted] at rejected
    cases rejected
  · intro short
    exact ⟨_, read_short short⟩

-- Every field comes back as it was laid out, whatever the octets between them and behind the address are, and
-- nothing but a record that is too short is turned down.
theorem read_inverts :
    (∀ record sockaddr, ∃ error, read (record.octets ++ sockaddr) = .ok error ∧ Inverts record sockaddr error) ∧
      (∀ (record other : ErrorRecord) (sockaddr rest : Bytes), record.Alike other → SameHost sockaddr rest →
        read (record.octets ++ sockaddr) = read (other.octets ++ rest)) ∧
      ∀ data, (∃ cause, read data = .error cause) ↔ data.length < 16 := by
  refine ⟨?_, ?_, ?_⟩
  · intro record sockaddr
    exact read_octets_inverts record sockaddr
  · intro record other sockaddr rest alike same
    exact read_alike alike same
  · intro data
    exact read_rejects

def unreachableHost : ErrorRecord := ⟨113, 2, 3, 1, 0, 0, 0⟩

def router : Bytes := [2, 0, 0, 0, 203, 0, 113, 7, 0, 0, 0, 0, 0, 0, 0, 0]

-- The same router with a port, and nothing behind its address.
def routerWithPort : Bytes := [2, 0, 0x13, 0x88, 203, 0, 113, 7]

theorem read_inverts_unreachable :
    unreachableHost.Alike { unreachableHost with padding := 9, data := 1500 } ∧ SameHost router routerWithPort ∧
      read (unreachableHost.octets ++ router) =
        read ({ unreachableHost with padding := 9, data := 1500 }.octets ++ routerWithPort) ∧
      read (unreachableHost.octets ++ router) =
        .ok ⟨113, .icmp, 3, 1, 0, some (.v4 (.ofOctets 203 0 113 7))⟩ := by
  have alike : unreachableHost.Alike { unreachableHost with padding := 9, data := 1500 } := ⟨rfl, rfl, rfl, rfl, rfl⟩
  have same : SameHost router routerWithPort := ⟨rfl, fun _ => rfl, nofun⟩
  exact ⟨alike, same, read_inverts.2.1 _ _ _ _ alike same, rfl⟩

end ExtendedError

end IpTunnel

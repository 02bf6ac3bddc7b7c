import IpTunnel.Capture
import IpTunnel.Proofs.Forging

namespace IpTunnel

namespace Bytes

structure Patch where
  start : Nat
  stop : Nat
  octets : Bytes

def put? (buffer : Bytes) (patch : Patch) : Option Bytes :=
  if patch.start ≤ patch.stop ∧ patch.stop ≤ buffer.length ∧ patch.octets.length = patch.stop - patch.start then
    some (buffer.overwrite patch.start patch.octets)
  else none

def putAll? (buffer : Bytes) (patches : List Patch) : Option Bytes := patches.foldlM put? buffer

def octetsOf (patches : List Patch) : Bytes := patches.flatMap (·.octets)

-- Patches of which each begins where the one before it has stopped.
def Adjoining : Nat → List Patch → Prop
  | _, [] => True
  | start, patch :: rest =>
    patch.start = start ∧ patch.stop = start + patch.octets.length ∧ Adjoining patch.stop rest

theorem put?_between (front : Bytes) {old new : Bytes} (back : Bytes) (size : new.length = old.length) :
    put? (front ++ (old ++ back)) ⟨front.length, front.length + old.length, new⟩ = some (front ++ (new ++ back)) := by
  have inside : front.length ≤ front.length + old.length ∧
      front.length + old.length ≤ (front ++ (old ++ back)).length ∧
      new.length = front.length + old.length - front.length := by
    simp only [List.length_append]
    omega
  have behind : (front ++ (old ++ back)).drop (front.length + new.length) = back := by
    rw [size, ← List.drop_drop, List.drop_left, List.drop_left]
  rw [put?, if_pos inside, overwrite, List.take_left, behind]

theorem putAll?_cons (buffer : Bytes) (patch : Patch) (rest : List Patch) :
    putAll? buffer (patch :: rest) = (put? buffer patch).bind (putAll? · rest) := rfl

theorem putAll?_adjoining {front back : Bytes} {patches : List Patch} (adjoining : Adjoining front.length patches)
    (fits : (octetsOf patches).length ≤ back.length) :
    putAll? (front ++ back) patches = some (front ++ (octetsOf patches ++ back.drop (octetsOf patches).length)) := by
  induction patches generalizing front back with
  | nil => rfl
  | cons patch rest ih =>
    obtain ⟨start, stop, octets⟩ := patch
    obtain ⟨starts, stops, others⟩ := adjoining
    change start = front.length at starts
    change stop = front.length + octets.length at stops
    have whole : octetsOf (⟨start, stop, octets⟩ :: rest) = octets ++ octetsOf rest := List.flatMap_cons
    rw [whole, List.length_append] at fits
    have size : (back.take octets.length).length = octets.length := List.length_take_of_le (by omega)
    have put : put? (front ++ back) ⟨start, stop, octets⟩ = some (front ++ octets ++ back.drop octets.length) := by
      have placed := put?_between front (back.drop octets.length) size.symm
      rw [List.take_append_drop, size, ← List.append_assoc] at placed
      rw [starts, stops, placed]
    have further : Adjoining (front ++ octets).length rest := by
      rw [List.length_append, ← stops]
      exact others
    have room : (octetsOf rest).length ≤ (back.drop octets.length).length := by
      rw [List.length_drop]
      omega
    rw [putAll?_cons, put, Option.bind_some, ih further room, whole, List.length_append, List.drop_drop,
      List.append_assoc, List.append_assoc]

theorem putAll?_front {buffer : Bytes} {patches : List Patch} (adjoining : Adjoining 0 patches)
    (fits : (octetsOf patches).length ≤ buffer.length) :
    putAll? buffer patches = some (buffer.overwrite 0 (octetsOf patches)) := by
  have filled := @putAll?_adjoining [] buffer patches adjoining fits
  rw [overwrite, List.take_zero, Nat.zero_add]
  exact filled

theorem overwrite_whole {buffer patch : Bytes} (size : patch.length = buffer.length) :
    buffer.overwrite 0 patch = patch := by
  rw [overwrite, List.take_zero, Nat.zero_add, size, List.drop_length, List.append_nil, List.nil_append]

theorem putAll?_whole {buffer : Bytes} {patches : List Patch} (adjoining : Adjoining 0 patches)
    (size : (octetsOf patches).length = buffer.length) : putAll? buffer patches = some (octetsOf patches) := by
  rw [putAll?_front adjoining (Nat.le_of_eq size), overwrite_whole size]

theorem slice?_take {data : Bytes} {stop : Nat} (inside : stop ≤ data.length) :
    slice? data 0 stop = some (data.take stop) := slice?_eq_some.mpr ⟨Nat.zero_le _, inside, rfl⟩

theorem slice?_drop {data : Bytes} {start : Nat} (inside : start ≤ data.length) :
    slice? data start data.length = some (data.drop start) := by
  refine slice?_eq_some.mpr ⟨inside, Nat.le_refl _, ?_⟩
  rw [← List.length_drop, List.take_length]

theorem put?_front {buffer patch : Bytes} {stop : Nat} (inside : stop ≤ buffer.length) (size : patch.length = stop) :
    put? buffer ⟨0, stop, patch⟩ = some (buffer.overwrite 0 patch) :=
  if_pos ⟨Nat.zero_le _, inside, size⟩

end Bytes

def Ipv4.ofSlice? (data : Bytes) (start stop : Nat) : Option Ipv4 := do
  let octets ← data.slice? start stop
  if size : octets.length = 4 then some ⟨octets, size⟩ else none

def Ipv6.ofSlice? (data : Bytes) (start stop : Nat) : Option Ipv6 := do
  let octets ← data.slice? start stop
  if size : octets.length = 16 then some ⟨octets, size⟩ else none

theorem Ipv4.ofSlice?_eq {data : Bytes} {start : Nat} (inside : start + 4 ≤ data.length) :
    Ipv4.ofSlice? data start (start + 4) = some (Ipv4.ofSlice data start inside) := by
  have size : ((data.drop start).take 4).length = 4 := (Ipv4.ofSlice data start inside).size
  have held : data.slice? start (start + 4) = some ((data.drop start).take 4) := by
    refine Bytes.slice?_eq_some.mpr ⟨Nat.le_add_right _ _, inside, ?_⟩
    rw [Nat.add_sub_cancel_left]
  rw [Ipv4.ofSlice?, held]
  exact dif_pos size

theorem Ipv6.ofSlice?_eq {data : Bytes} {start : Nat} (inside : start + 16 ≤ data.length) :
    Ipv6.ofSlice? data start (start + 16) = some (Ipv6.ofSlice data start inside) := by
  have size : ((data.drop start).take 16).length = 16 := (Ipv6.ofSlice data start inside).size
  have held : data.slice? start (start + 16) = some ((data.drop start).take 16) := by
    refine Bytes.slice?_eq_some.mpr ⟨Nat.le_add_right _ _, inside, ?_⟩
    rw [Nat.add_sub_cancel_left]
  rw [Ipv6.ofSlice?, held]
  exact dif_pos size

namespace Header

def readIpv4? (data : Bytes) : Option (Except IpError Header) :=
  if data.length < 20 then some (.error .shortIpv4Header)
  else do
    let protocol ← data[9]?
    let source ← Ipv4.ofSlice? data 12 16
    let target ← Ipv4.ofSlice? data 16 20
    some (.ok (.v4 ⟨protocol⟩ source target))

def readIpv6? (data : Bytes) : Option (Except IpError Header) :=
  if data.length < 40 then some (.error .shortIpv6Header)
  else do
    let protocol ← data[6]?
    let source ← Ipv6.ofSlice? data 8 24
    let target ← Ipv6.ofSlice? data 24 40
    some (.ok (.v6 ⟨protocol⟩ source target))

def read? (packet : Bytes) : Option (Except IpError Header) :=
  match Version.ofPacket? packet with
  | some (.known .v4) => readIpv4? packet
  | some (.known .v6) => readIpv6? packet
  | some (.unknown nibble) => some (.error (.unsupportedVersion nibble))
  | none => some (.error .emptyPacket)

theorem readIpv4?_eq (data : Bytes) : readIpv4? data = some (readIpv4 data) := by
  unfold readIpv4? readIpv4
  by_cases enough : 20 ≤ data.length
  · have protocol : data[9]? = some data[9] := List.getElem?_eq_getElem (by omega)
    rw [if_neg (Nat.not_lt.mpr enough), dif_pos enough, protocol, Ipv4.ofSlice?_eq (by omega),
      Ipv4.ofSlice?_eq (by omega)]
    rfl
  · rw [if_pos (Nat.not_le.mp enough), dif_neg enough]

theorem readIpv6?_eq (data : Bytes) : readIpv6? data = some (readIpv6 data) := by
  unfold readIpv6? readIpv6
  by_cases enough : 40 ≤ data.length
  · have protocol : data[6]? = some data[6] := List.getElem?_eq_getElem (by omega)
    rw [if_neg (Nat.not_lt.mpr enough), dif_pos enough, protocol, Ipv6.ofSlice?_eq (by omega),
      Ipv6.ofSlice?_eq (by omega)]
    rfl
  · rw [if_pos (Nat.not_le.mp enough), dif_neg enough]

theorem read?_eq (packet : Bytes) : read? packet = some (read packet) := by
  unfold read? read
  cases Version.ofPacket? packet with
  | none => rfl
  | some version =>
    cases version with
    | unknown nibble => rfl
    | known family =>
      cases family with
      | v4 => exact readIpv4?_eq packet
      | v6 => exact readIpv6?_eq packet

def fields4 (protocol : Protocol) (source target : Ipv4) (total : UInt16) : List Bytes.Patch :=
  [⟨0, 1, [0x45]⟩, ⟨1, 2, [0]⟩, ⟨2, 4, Bytes.be16 total⟩, ⟨4, 8, [0, 0, 0, 0]⟩, ⟨8, 9, [255]⟩,
    ⟨9, 10, [protocol.number]⟩, ⟨10, 12, [0, 0]⟩, ⟨12, 16, source.octets⟩, ⟨16, 20, target.octets⟩]

def fields6 (protocol : Protocol) (source target : Ipv6) (payload : UInt16) : List Bytes.Patch :=
  [⟨0, 4, [0x60, 0, 0, 0]⟩, ⟨4, 6, Bytes.be16 payload⟩, ⟨6, 7, [protocol.number]⟩, ⟨7, 8, [255]⟩,
    ⟨8, 24, source.octets⟩, ⟨24, 40, target.octets⟩]

def writeIpv4? (buffer : Bytes) (source target : Ipv4) (protocol : Protocol) (payload : Nat) : Option Written :=
  if buffer.length < ipv4Length ∨ 0xFFFF < ipv4Length + payload then none
  else do
    let header ← buffer.slice? 0 ipv4Length
    let header ← header.putAll? (fields4 protocol source target (UInt16.ofNat (ipv4Length + payload)))
    let header ← header.put? ⟨10, 12, Bytes.be16 (checksum header)⟩
    let buffer ← buffer.put? ⟨0, ipv4Length, header⟩
    some ⟨buffer, .ok ipv4Length⟩

def writeIpv6? (buffer : Bytes) (source target : Ipv6) (protocol : Protocol) (payload : Nat) : Option Written :=
  if buffer.length < ipv6Length ∨ 0xFFFF < payload then none
  else do
    let header ← buffer.slice? 0 ipv6Length
    let header ← header.putAll? (fields6 protocol source target (UInt16.ofNat payload))
    let buffer ← buffer.put? ⟨0, ipv6Length, header⟩
    some ⟨buffer, .ok ipv6Length⟩

theorem putAll?_fields4 {header : Bytes} (protocol : Protocol) (source target : Ipv4) (total : UInt16)
    (size : header.length = ipv4Length) :
    header.putAll? (fields4 protocol source target total) = some (ipv4With 0 protocol source target total) := by
  have octets : Bytes.octetsOf (fields4 protocol source target total) = ipv4With 0 protocol source target total := by
    simp [Bytes.octetsOf, fields4, ipv4With, Bytes.be16]
  have adjoining : Bytes.Adjoining 0 (fields4 protocol source target total) := by
    simp [Bytes.Adjoining, fields4, source.size, target.size]
  rw [← octets]
  apply Bytes.putAll?_whole adjoining
  rw [octets, length_ipv4With, size]

theorem putAll?_fields6 {header : Bytes} (protocol : Protocol) (source target : Ipv6) (payload : UInt16)
    (size : header.length = ipv6Length) :
    header.putAll? (fields6 protocol source target payload) = some (ipv6 protocol source target payload) := by
  have octets : Bytes.octetsOf (fields6 protocol source target payload) = ipv6 protocol source target payload := by
    simp [Bytes.octetsOf, fields6, ipv6]
  have adjoining : Bytes.Adjoining 0 (fields6 protocol source target payload) := by
    simp [Bytes.Adjoining, fields6, source.size, target.size]
  rw [← octets]
  apply Bytes.putAll?_whole adjoining
  rw [octets, length_ipv6, size]

-- The checksum goes into the place of the zeros that it was taken over.
theorem put?_checksum (protocol : Protocol) (source target : Ipv4) (total sum : UInt16) :
    (ipv4With 0 protocol source target total).put? ⟨10, 12, Bytes.be16 sum⟩ =
      some (ipv4With sum protocol source target total) := by
  have split (sum : UInt16) : ipv4With sum protocol source target total =
      ([0x45, 0] ++ Bytes.be16 total ++ [0, 0, 0, 0, 255, protocol.number]) ++
        (Bytes.be16 sum ++ (source.octets ++ target.octets)) := by
    simp only [ipv4With, List.append_assoc]
  rw [split, split]
  exact Bytes.put?_between _ _ rfl

theorem writeIpv4?_eq {buffer : Bytes} (source target : Ipv4) (protocol : Protocol) {payload : Nat}
    (room : ipv4Length ≤ buffer.length) (short : ipv4Length + payload ≤ 0xFFFF) :
    writeIpv4? buffer source target protocol payload = some (writeIpv4 buffer source target protocol payload) := by
  have space : ¬ (buffer.length < ipv4Length ∨ 0xFFFF < ipv4Length + payload) := by omega
  have front : (buffer.take ipv4Length).length = ipv4Length := List.length_take_of_le room
  rw [writeIpv4?, if_neg space, Bytes.slice?_take room, writeIpv4, if_neg (by omega), if_neg (by omega)]
  simp only [Option.bind_eq_bind, Option.bind_some, putAll?_fields4 _ _ _ _ front, put?_checksum]
  rw [← ipv4, Bytes.put?_front room (length_ipv4 ..), Option.bind_some]

theorem writeIpv6?_eq {buffer : Bytes} (source target : Ipv6) (protocol : Protocol) {payload : Nat}
    (room : ipv6Length ≤ buffer.length) (short : payload ≤ 0xFFFF) :
    writeIpv6? buffer source target protocol payload = some (writeIpv6 buffer source target protocol payload) := by
  have space : ¬ (buffer.length < ipv6Length ∨ 0xFFFF < payload) := by omega
  have front : (buffer.take ipv6Length).length = ipv6Length := List.length_take_of_le room
  rw [writeIpv6?, if_neg space, Bytes.slice?_take room, writeIpv6, if_neg (by omega), if_neg (by omega)]
  simp only [Option.bind_eq_bind, Option.bind_some, putAll?_fields6 _ _ _ _ front]
  rw [Bytes.put?_front room (length_ipv6 ..), Option.bind_some]

end Header

def Version.writeFraming? (version : Version) (buffer : Bytes) : Option Written :=
  if buffer.length < framingLength then none
  else do
    let buffer ← buffer.putAll? [⟨0, 2, [0, 0]⟩, ⟨2, 4, Bytes.be16 version.etherType⟩]
    some ⟨buffer, .ok framingLength⟩

theorem Version.writeFraming?_eq (version : Version) {buffer : Bytes} (room : framingLength ≤ buffer.length) :
    version.writeFraming? buffer = some (version.writeFraming buffer) := by
  have written : buffer.putAll? [⟨0, 2, [0, 0]⟩, ⟨2, 4, Bytes.be16 version.etherType⟩] =
      some (buffer.overwrite 0 version.framing) := Bytes.putAll?_front ⟨rfl, rfl, rfl, rfl, trivial⟩ room
  rw [writeFraming?, if_neg (Nat.not_lt.mpr room), written, writeFraming, if_neg (Nat.not_lt.mpr room)]
  rfl

namespace Icmp.Message

def mtu4 (message : Message) : List Bytes.Patch :=
  if message.kind = 3 ∧ message.code = 4 then
    [⟨6, 8, Bytes.be16 (UInt16.ofNat (min message.info.toNat 0xFFFF))⟩]
  else []

def mtu6 (message : Message) : List Bytes.Patch :=
  if message.kind = 2 then [⟨4, 8, Bytes.be32 message.info⟩] else []

-- The header with zeros for all it need not have, the MTU over them, the quoted octets, the checksum at last.
def body? (message : Message) (mtu : List Bytes.Patch) (quoted : Bytes) (sum : Bytes → UInt16) (body : Bytes) :
    Option Bytes := do
  let body ← body.putAll? [⟨0, 1, [message.kind]⟩, ⟨1, 2, [message.code]⟩, ⟨2, 8, [0, 0, 0, 0, 0, 0]⟩]
  let body ← body.putAll? mtu
  let body ← body.put? ⟨8, body.length, quoted⟩
  body.put? ⟨2, 4, Bytes.be16 (sum body)⟩

def assemble? (length headerLength : Nat) (makeBody : Bytes → Option Bytes)
    (writeHeader : Bytes → Nat → Option Written) (buffer : Bytes) : Option Written :=
  if buffer.length < length then none
  else do
    let packet ← buffer.slice? 0 length
    let header ← packet.slice? 0 headerLength
    let body ← packet.slice? headerLength packet.length
    let body ← makeBody body
    let written ← writeHeader header body.length
    let packet ← packet.putAll? [⟨0, headerLength, written.buffer⟩, ⟨headerLength, packet.length, body⟩]
    let buffer ← buffer.put? ⟨0, length, packet⟩
    some ⟨buffer, .ok length⟩

def forgeIpv4? (message : Message) (quoted : Bytes) (source target : Ipv4) : Bytes → Option Written :=
  assemble? forgedIpv4Length Header.ipv4Length (message.body? message.mtu4 quoted checksum)
    fun header payload => Header.writeIpv4? header source target .icmp payload

def forgeIpv6? (message : Message) (quoted : Bytes) (source target : Ipv6) : Bytes → Option Written :=
  assemble? forgedIpv6Length Header.ipv6Length
    (message.body? message.mtu6 quoted fun body =>
      ((Checksum.pseudoHeader source target .icmp6 body.length).add body).fold.value)
    fun header payload => Header.writeIpv6? header source target .icmp6 payload

def forge? (message : Message) (fragment : Bytes) (target : IpAddress) (buffer : Bytes) : Option Written :=
  if fragment.length < quotedLength then some ⟨buffer, .error .shortFragment⟩
  else do
    let quoted ← fragment.slice? 0 quotedLength
    match message.offender, target with
    | .v4 source, .v4 target => message.forgeIpv4? quoted source target buffer
    | .v6 source, .v6 target => message.forgeIpv6? quoted source target buffer
    | _, _ => some ⟨buffer, .error .mixedFamilies⟩

-- What the MTU makes of the zeros behind the checksum.
structure Places (message : Message) (mtu : List Bytes.Patch) (restOfHeader : Bytes) : Prop where
  size : restOfHeader.length = 4
  placed : ∀ back, Bytes.putAll? ([message.kind, message.code, 0, 0] ++ ([0, 0, 0, 0] ++ back)) mtu =
    some ([message.kind, message.code, 0, 0] ++ (restOfHeader ++ back))

theorem places4 (message : Message) : Places message message.mtu4 message.restOfHeader4 := by
  refine ⟨message.length_restOfHeader4, ?_⟩
  intro back
  unfold mtu4 restOfHeader4
  by_cases fragmented : message.kind = 3 ∧ message.code = 4
  · rw [if_pos fragmented, if_pos fragmented]
    let mtu : Bytes.Patch := ⟨6, 8, Bytes.be16 (UInt16.ofNat (min message.info.toNat 0xFFFF))⟩
    exact @Bytes.putAll?_adjoining [message.kind, message.code, 0, 0, 0, 0] ([0, 0] ++ back) [mtu] ⟨rfl, rfl, trivial⟩
      (Nat.le_add_left 2 _)
  · rw [if_neg fragmented, if_neg fragmented]
    rfl

theorem places6 (message : Message) : Places message message.mtu6 message.restOfHeader6 := by
  refine ⟨message.length_restOfHeader6, ?_⟩
  intro back
  unfold mtu6 restOfHeader6
  by_cases tooBig : message.kind = 2
  · rw [if_pos tooBig, if_pos tooBig]
    let mtu : Bytes.Patch := ⟨4, 8, Bytes.be32 message.info⟩
    exact @Bytes.putAll?_adjoining [message.kind, message.code, 0, 0] ([0, 0, 0, 0] ++ back) [mtu] ⟨rfl, rfl, trivial⟩
      (Nat.le_add_left 4 _)
  · rw [if_neg tooBig, if_neg tooBig]
    rfl

theorem body?_eq {message : Message} {mtu : List Bytes.Patch} {restOfHeader quoted body : Bytes}
    (sum : Bytes → UInt16) (places : Places message mtu restOfHeader) (eight : quoted.length = quotedLength)
    (size : body.length = messageLength) :
    message.body? mtu quoted sum body =
      some (bodyWith (sum (bodyWith 0 message restOfHeader quoted)) message restOfHeader quoted) := by
  have behind : (body.drop 8).length = quotedLength := by
    rw [List.length_drop, size]
    rfl
  have room : 8 ≤ body.length := size.symm ▸ (by decide : 8 ≤ messageLength)
  have blank : body.putAll? [⟨0, 1, [message.kind]⟩, ⟨1, 2, [message.code]⟩, ⟨2, 8, [0, 0, 0, 0, 0, 0]⟩] =
      some ([message.kind, message.code, 0, 0] ++ ([0, 0, 0, 0] ++ body.drop 8)) :=
    @Bytes.putAll?_adjoining [] body _ ⟨rfl, rfl, rfl, rfl, rfl, rfl, trivial⟩ room
  have header : ([message.kind, message.code, 0, 0] ++ restOfHeader).length = 8 := by
    rw [List.length_append, places.size]
    rfl
  have length : ([message.kind, message.code, 0, 0] ++ (restOfHeader ++ body.drop 8)).length = 8 + quotedLength := by
    rw [← List.append_assoc, List.length_append, header, behind]
  have quotes : Bytes.put? ([message.kind, message.code, 0, 0] ++ (restOfHeader ++ body.drop 8))
      ⟨8, 8 + quotedLength, quoted⟩ = some (bodyWith 0 message restOfHeader quoted) := by
    have between := Bytes.put?_between ([message.kind, message.code, 0, 0] ++ restOfHeader) [] (eight.trans behind.symm)
    rw [header, behind, List.append_nil, List.append_nil, List.append_assoc] at between
    exact between
  have summed (value : UInt16) : (bodyWith 0 message restOfHeader quoted).put? ⟨2, 4, Bytes.be16 value⟩ =
      some (bodyWith value message restOfHeader quoted) := by
    have split (value : UInt16) : bodyWith value message restOfHeader quoted =
        [message.kind, message.code] ++ (Bytes.be16 value ++ (restOfHeader ++ quoted)) := by
      simp only [bodyWith, List.append_assoc]
    rw [split, split]
    exact Bytes.put?_between [message.kind, message.code] _ rfl
  simp only [body?, blank, places.placed, Option.bind_eq_bind, Option.bind_some, length, quotes, summed]

theorem assemble?_eq {buffer body header : Bytes} {length headerLength : Nat} {makeBody : Bytes → Option Bytes}
    {writeHeader : Bytes → Nat → Option Written} (room : length ≤ buffer.length)
    (made : ∀ blank, blank.length = body.length → makeBody blank = some body)
    (headed : ∀ blank, blank.length = headerLength → ∃ outcome, writeHeader blank body.length = some ⟨header, outcome⟩)
    (headerSize : header.length = headerLength) (size : headerLength + body.length = length) :
    assemble? length headerLength makeBody writeHeader buffer =
      some ⟨buffer.overwrite 0 (header ++ body), .ok length⟩ := by
  have whole : (buffer.take length).length = length := List.length_take_of_le room
  have inside : headerLength ≤ (buffer.take length).length := by omega
  have front : ((buffer.take length).take headerLength).length = headerLength := List.length_take_of_le inside
  have rest : ((buffer.take length).drop headerLength).length = body.length := by
    rw [List.length_drop, whole]
    omega
  obtain ⟨outcome, wrote⟩ := headed _ front
  have octets : Bytes.octetsOf [⟨0, headerLength, header⟩, ⟨headerLength, (buffer.take length).length, body⟩] =
      header ++ body := by
    simp [Bytes.octetsOf]
  have joined : Bytes.putAll? (buffer.take length)
      [⟨0, headerLength, header⟩, ⟨headerLength, (buffer.take length).length, body⟩] = some (header ++ body) := by
    rw [← octets]
    apply Bytes.putAll?_whole
    · exact ⟨rfl, by rw [headerSize, Nat.zero_add], rfl, by rw [whole, size], trivial⟩
    · rw [octets, List.length_append, headerSize, size, whole]
  have placed : buffer.put? ⟨0, length, header ++ body⟩ = some (buffer.overwrite 0 (header ++ body)) := by
    apply Bytes.put?_front room
    rw [List.length_append, headerSize, size]
  rw [assemble?, if_neg (Nat.not_lt.mpr room), Bytes.slice?_take room]
  simp only [Option.bind_eq_bind, Option.bind_some, Bytes.slice?_take inside, Bytes.slice?_drop inside,
    made _ rest, wrote, joined, placed]

theorem forgeIpv4?_eq {message : Message} {quoted buffer : Bytes} (source target : Ipv4)
    (eight : quoted.length = quotedLength) (room : forgedIpv4Length ≤ buffer.length) :
    message.forgeIpv4? quoted source target buffer = some (message.forgeIpv4 quoted source target buffer) := by
  have body : (message.body4 quoted).length = messageLength := length_body4 eight
  rw [forgeIpv4_eq eight room]
  apply assemble?_eq room
  · intro blank size
    exact body?_eq checksum message.places4 eight (size.trans body)
  · intro blank size
    refine ⟨.ok Header.ipv4Length, ?_⟩
    have enough : ¬ blank.length < Header.ipv4Length := by omega
    rw [body, Header.writeIpv4?_eq source target .icmp (Nat.le_of_eq size.symm) (by decide), Header.writeIpv4,
      if_neg enough, if_neg (by decide), Bytes.overwrite_whole]
    · rfl
    · rw [Header.length_ipv4, size]
  · exact Header.length_ipv4 ..
  · rw [body]
    rfl

theorem forgeIpv6?_eq {message : Message} {quoted buffer : Bytes} (source target : Ipv6)
    (eight : quoted.length = quotedLength) (room : forgedIpv6Length ≤ buffer.length) :
    message.forgeIpv6? quoted source target buffer = some (message.forgeIpv6 quoted source target buffer) := by
  have body : (message.body6 source target quoted).length = messageLength := length_body6 eight
  rw [forgeIpv6_eq eight room]
  apply assemble?_eq room
  · intro blank size
    rw [body?_eq _ message.places6 eight (size.trans body), length_bodyWith message.length_restOfHeader6 eight]
    rfl
  · intro blank size
    refine ⟨.ok Header.ipv6Length, ?_⟩
    have enough : ¬ blank.length < Header.ipv6Length := by omega
    rw [body, Header.writeIpv6?_eq source target .icmp6 (Nat.le_of_eq size.symm) (by decide), Header.writeIpv6,
      if_neg enough, if_neg (by decide), Bytes.overwrite_whole]
    · rfl
    · rw [Header.length_ipv6, size]
  · exact Header.length_ipv6 ..
  · rw [body]
    rfl

theorem forge?_eq (message : Message) (fragment : Bytes) (target : IpAddress) {buffer : Bytes}
    (room : forgedIpv6Length ≤ buffer.length) :
    message.forge? fragment target buffer = some (message.forge fragment target buffer) := by
  unfold forge? forge
  by_cases short : fragment.length < quotedLength
  · rw [if_pos short, if_pos short]
  · have quotable := Nat.not_lt.mp short
    have eight := length_quoted quotable
    have room4 : forgedIpv4Length ≤ buffer.length := Nat.le_trans (by decide) room
    rw [if_neg short, if_neg short, Bytes.slice?_take quotable]
    cases message.offender with
    | v4 source =>
      cases target with
      | v4 target => exact forgeIpv4?_eq source target eight room4
      | v6 target => rfl
    | v6 source =>
      cases target with
      | v4 target => rfl
      | v6 target => exact forgeIpv6?_eq source target eight room

end Icmp.Message

namespace Capture

def recordHeaderLength : Nat := 16

-- A record is made in a buffer for the longest one, and the part of it that was filled is kept.
def record? (seconds : Nat) (nanoseconds : UInt32) (packet : Bytes) : Option Bytes := do
  let captured := min packet.length snapshotLength
  let octets ← packet.slice? 0 captured
  let buffer ← Bytes.putAll? (List.replicate (recordHeaderLength + snapshotLength) 0)
    [⟨0, 4, Bytes.be32 (UInt32.ofNat seconds)⟩, ⟨4, 8, Bytes.be32 nanoseconds⟩,
      ⟨8, 12, Bytes.be32 (UInt32.ofNat captured)⟩, ⟨12, 16, Bytes.be32 (UInt32.ofNat packet.length)⟩,
      ⟨recordHeaderLength, recordHeaderLength + captured, octets⟩]
  buffer.slice? 0 (recordHeaderLength + captured)

theorem record?_eq (seconds : Nat) (nanoseconds : UInt32) (packet : Bytes) :
    record? seconds nanoseconds packet = some (record seconds nanoseconds packet) := by
  have kept : packet.take (min packet.length snapshotLength) = packet.take snapshotLength := by
    rw [List.take_eq_take_iff, Nat.min_right_comm, Nat.min_self, Nat.min_comm]
  have size : (packet.take (min packet.length snapshotLength)).length = min packet.length snapshotLength :=
    List.length_take_of_le (Nat.min_le_left _ _)
  let fields : List Bytes.Patch :=
    [⟨0, 4, Bytes.be32 (UInt32.ofNat seconds)⟩, ⟨4, 8, Bytes.be32 nanoseconds⟩,
      ⟨8, 12, Bytes.be32 (UInt32.ofNat (min packet.length snapshotLength))⟩,
      ⟨12, 16, Bytes.be32 (UInt32.ofNat packet.length)⟩,
      ⟨recordHeaderLength, recordHeaderLength + min packet.length snapshotLength,
        packet.take (min packet.length snapshotLength)⟩]
  have octets : Bytes.octetsOf fields = record seconds nanoseconds packet := by
    simp only [Bytes.octetsOf, fields, kept, record, List.flatMap_cons, List.flatMap_nil, List.append_nil,
      List.append_assoc]
  have length : (record seconds nanoseconds packet).length = recordHeaderLength + min packet.length snapshotLength := by
    rw [record, ← kept, List.length_append, size]
    rfl
  have adjoining : Bytes.Adjoining 0 fields :=
    ⟨rfl, rfl, rfl, rfl, rfl, rfl, rfl, rfl, rfl, congrArg _ size.symm, trivial⟩
  have made := @Bytes.putAll?_front (List.replicate (recordHeaderLength + snapshotLength) 0) fields adjoining
    (by rw [octets, length, List.length_replicate]; omega)
  have front := Bytes.slice?_front (Bytes.take_overwrite (List.replicate (recordHeaderLength + snapshotLength) 0)
    (record seconds nanoseconds packet))
  rw [length] at front
  rw [octets] at made
  simp only [record?, Bytes.slice?_take (Nat.min_le_left _ _), Option.bind_eq_bind, Option.bind_some]
  exact (congrArg (Option.bind · _) made).trans front

end Capture
end IpTunnel

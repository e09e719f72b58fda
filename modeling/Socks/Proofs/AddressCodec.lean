import Socks.Address.Codec
import Socks.Proofs.IPv6Literals

/-!
The wire form of an address, said once and apart from the codec, and the two halves
that meet in it: decoding accepts exactly the byte strings that start with a wire
form, and encoding writes exactly the wire form of an address that a caller can get
hold of. The host is kept as a text, so both halves rest on the spelling of an IP
address being read back as that address.
-/
namespace Socks.Proofs.AddressCodec

open Text Net Wire
open Socks (Address)

/-- The bytes of an address: a type byte, the host in the form of its kind, and the
port. A domain name is at most as long as its length byte can say. -/
inductive WireForm : List UInt8 → Address → Prop where
  | ipv4 (ip : IPv4) (port : UInt16) :
      WireForm (Protocol.addressIPv4 :: ip.octets ++ BigEndian.bytes port) (.ofIPv4 ip port)
  | domain (name : String) (port : UInt16)
      (short : (bytes name).length ≤ Protocol.maxDomainLength) :
      WireForm (Protocol.addressDomain :: UInt8.ofNat (bytes name).length :: bytes name ++
        BigEndian.bytes port) (.ofDomain name port)
  | ipv6 (ip : IPv6) (port : UInt16) :
      WireForm (Protocol.addressIPv6 :: ip.octets ++ BigEndian.bytes port) (.ofIPv6 ip port)

/-- The addresses that callers can get hold of. -/
inductive Obtainable : Address → Prop where
  | ofHost (kind : Address.Kind) (host : String) (port : UInt16) :
      Obtainable (.ofHost kind host port)
  | ofDomain (name : String) (port : UInt16) : Obtainable (.ofDomain name port)
  | ofIPv4 (ip : IPv4) (port : UInt16) : Obtainable (.ofIPv4 ip port)
  | ofIPv6 (ip : IPv6) (port : UInt16) : Obtainable (.ofIPv6 ip port)
  | ofEndpoint (endpoint : Endpoint) : Obtainable (.ofEndpoint endpoint)
  | unspecified : Obtainable .unspecified
  | decoded {buffer : List UInt8} {address : Address}
      (accepted : (Address.decode buffer).outcome = .ok address) : Obtainable address

/-- The host is spelled as addresses of the kind keep it. -/
def Canonical (address : Address) : Prop :=
  address.kind.canonicalHost address.host = address.host

/-! ## Octets -/

theorem octets_ofOctets_v4 (octets : Block 4) : (IPv4.ofOctets octets).octets = octets.bytes := by
  match octets with
  | ⟨[_, _, _, _], _⟩ => rfl

theorem ofOctets_octets_v4 (ip : IPv4) : IPv4.ofOctets ⟨ip.octets, rfl⟩ = ip := rfl

theorem octets_ofOctets_v6 (octets : Block 16) : (IPv6.ofOctets octets).octets = octets.bytes := by
  match octets with
  | ⟨[_, _, _, _, _, _, _, _, _, _, _, _, _, _, _, _], _⟩ =>
    simp only [IPv6.octets, IPv6.ofOctets, BigEndian.bytes, List.flatMap_cons, List.flatMap_nil,
      BigEndian.high_join, BigEndian.low_join]
    rfl

theorem ofOctets_octets_v6 (ip : IPv6) : IPv6.ofOctets ⟨ip.octets, ip.length_octets⟩ = ip := by
  match ip with
  | ⟨[a, b, c, d, e, f, g, h], _⟩ =>
    have joined (group : UInt16) :
        BigEndian.join (BigEndian.high group) (BigEndian.low group) = group :=
      BigEndian.join_high_low group
    simp only [IPv6.ofOctets, IPv6.mk.injEq, List.cons.injEq, and_true]
    exact ⟨joined a, joined b, joined c, joined d, joined e, joined f, joined g, joined h⟩

/-! ## Canonical hosts -/

/-- A literal in a canonical address is spelled as its family spells it. -/
theorem Canonical.spelled_ipv4 {host : String} {ip : IPv4} {port : UInt16}
    (canonical : Canonical ⟨.ipv4, host, port⟩) (read : IPv4.ofText? host = some ip) :
    toString ip = host := by
  simpa [Canonical, Address.Kind.canonicalHost, read] using canonical

theorem Canonical.spelled_ipv6 {host : String} {ip : IPv6} {port : UInt16}
    (canonical : Canonical ⟨.ipv6, host, port⟩) (read : IPv6.ofText? host = some ip) :
    toString ip = host := by
  simpa [Canonical, Address.Kind.canonicalHost, read] using canonical

theorem canonicalHost_idempotent (kind : Address.Kind) (host : String) :
    kind.canonicalHost (kind.canonicalHost host) = kind.canonicalHost host := by
  cases kind with
  | ipv4 =>
    simp only [Address.Kind.canonicalHost]
    cases read : IPv4.ofText? host with
    | none => simp [read]
    | some ip => simp [IPv4Literals.ofText?_toString]
  | domain => rfl
  | ipv6 =>
    simp only [Address.Kind.canonicalHost]
    cases read : IPv6.ofText? host with
    | none => simp [read]
    | some ip => simp [IPv6Literals.ofText?_toString]

theorem canonical_of_wireForm {frame : List UInt8} {address : Address}
    (form : WireForm frame address) : Canonical address := by
  cases form with
  | ipv4 ip port =>
    simp [Canonical, Address.Kind.canonicalHost, Address.ofIPv4, IPv4Literals.ofText?_toString]
  | domain name port short => rfl
  | ipv6 ip port =>
    simp [Canonical, Address.Kind.canonicalHost, Address.ofIPv6, IPv6Literals.ofText?_toString]

/-! ## Lengths -/

/-- A byte counts up to 255 bytes. -/
theorem toNat_count {count : Nat} (short : count ≤ 255) : (UInt8.ofNat count).toNat = count :=
  UInt8.toNat_ofNat_of_lt' (Nat.lt_succ_of_le short)

/-- A byte is the count of so many bytes. -/
theorem eq_toNat_iff {size : Nat} {count : UInt8} :
    size = count.toNat ↔ size ≤ 255 ∧ count = UInt8.ofNat size := by
  constructor
  · rintro rfl
    exact ⟨Nat.le_of_lt_succ count.toNat_lt, UInt8.ofNat_toNat.symm⟩
  · rintro ⟨short, rfl⟩
    exact (toNat_count short).symm

/-- The type byte and the byte behind it tell how long a wire form is. -/
theorem wireForm_length {frame : List UInt8} {address : Address} (form : WireForm frame address) :
    ∃ next body, frame = address.kind.toByte :: next :: body ∧
      frame.length = address.kind.frameLength next ∧ frame.length = address.encodedLength := by
  cases form with
  | ipv4 ip port => exact ⟨_, _, rfl, rfl, rfl⟩
  | domain name port short =>
    have counted := toNat_count short
    refine ⟨_, _, rfl, ?_, ?_⟩
    · simp [Address.Kind.frameLength, Address.Kind.bodyLength, Address.ofDomain, Address.ofHost,
        BigEndian.bytes, counted]
      omega
    · simp [Address.encodedLength, Address.ofDomain, Address.ofHost, Address.Kind.canonicalHost,
        BigEndian.bytes]
      omega
  | ipv6 ip port =>
    have sixteen := ip.length_octets
    obtain ⟨next, body, octets⟩ := List.exists_cons_of_length_eq_add_one sixteen
    refine ⟨next, body ++ BigEndian.bytes port, by simp [octets, Address.ofIPv6, Address.Kind.toByte],
      ?_, ?_⟩ <;>
      simp [sixteen, BigEndian.bytes, Address.ofIPv6, Address.Kind.frameLength,
        Address.Kind.bodyLength, Address.encodedLength]

theorem frameLength_toByte (kind : Address.Kind) (next : UInt8) :
    (Address.frameLength kind.toByte next).outcome = .ok (kind.frameLength next) := by
  cases kind <;> rfl

/-! ## Decoding -/

theorem ofByte?_eq_some_iff {type : UInt8} {kind : Address.Kind} :
    Address.Kind.ofByte? type = some kind ↔ type = kind.toByte := by
  constructor
  · intro known
    unfold Address.Kind.ofByte? at known
    split at known
    · cases known; assumption
    · split at known
      · cases known; assumption
      · split at known
        · cases known; assumption
        · cases known
  · rintro rfl
    cases kind <;> rfl

theorem ofByte?_eq_none_iff {type : UInt8} :
    Address.Kind.ofByte? type = none ↔ type ∉ ([1, 3, 4] : List UInt8) := by
  unfold Address.Kind.ofByte?
  by_cases one : type = 1
  · simp [one, Protocol.addressIPv4]
  by_cases three : type = 3
  · simp [three, Protocol.addressIPv4, Protocol.addressDomain]
  by_cases four : type = 4
  · simp [four, Protocol.addressIPv4, Protocol.addressDomain, Protocol.addressIPv6]
  · simp [one, three, four, Protocol.addressIPv4, Protocol.addressDomain, Protocol.addressIPv6]

/-- What decoding comes to, by the type byte and the number of bytes there are. -/
theorem decode_cons (type : UInt8) (rest : List UInt8) :
    (Address.decode (type :: rest)).outcome =
      match Address.Kind.ofByte? type with
      | none => .error (.badAddressType type)
      | some kind =>
        let needed := kind.frameLength (rest.headD 0)
        if enough : needed ≤ (type :: rest).length then
          Address.ofFrame kind (rest.headD 0) (.take (type :: rest) needed enough)
        else .error (.malformed (.truncatedAddress needed (type :: rest).length)) := by
  simp only [Address.decode, Address.readKind]
  cases Address.Kind.ofByte? type with
  | none => rfl
  | some kind =>
    simp only [Report.outcome_bind, Report.outcome_pure]
    split <;> rfl

private theorem decode_cons_cons (kind : Address.Kind) (next : UInt8) (rest : List UInt8) :
    (Address.decode (kind.toByte :: next :: rest)).outcome =
      if enough : kind.frameLength next ≤ (kind.toByte :: next :: rest).length then
        Address.ofFrame kind next (.take (kind.toByte :: next :: rest) _ enough)
      else .error (.malformed (.truncatedAddress (kind.frameLength next)
        (kind.toByte :: next :: rest).length)) := by
  rw [decode_cons, ofByte?_eq_some_iff.mpr rfl]
  rfl

/-- The bytes of a whole address are its type byte, its body and its port. -/
theorem bytes_eq_pieces {length : Nat} (frame : Block (1 + length + 2)) :
    frame.bytes = frame.bytes.take 1 ++ (Address.bodyOf frame).bytes ++
      BigEndian.bytes (Address.portOf frame) := by
  have size := frame.length_bytes
  have port : frame.bytes.drop (1 + length) = BigEndian.bytes (Address.portOf frame) := by
    rw [List.drop_eq_getElem_cons (by omega), List.drop_eq_getElem_cons (by omega),
      List.drop_of_length_le (by omega)]
    simp [Address.portOf, BigEndian.bytes, Block.get]
  have front : frame.bytes.take 1 ++ (Address.bodyOf frame).bytes = frame.bytes.take (1 + length) := by
    simp only [Address.bodyOf, Block.bytes_cast, Block.bytes_slice]
    conv_rhs => rw [← List.take_append_drop 1 (frame.bytes.take (1 + length))]
    rw [List.take_take, Nat.min_eq_left (by omega)]
  rw [front, ← port, List.take_append_drop]

private theorem bigEndian_bytes_injective {a b : UInt16}
    (same : BigEndian.bytes a = BigEndian.bytes b) : a = b := by
  simp only [BigEndian.bytes, List.cons.injEq, and_true] at same
  rw [← BigEndian.join_high_low a, same.1, same.2, BigEndian.join_high_low]

private theorem append_port_inj {front back : List UInt8} {port other : UInt16}
    (size : front.length = back.length)
    (same : front ++ BigEndian.bytes port = back ++ BigEndian.bytes other) :
    front = back ∧ port = other := by
  obtain ⟨fronts, ports⟩ := List.append_inj same size
  exact ⟨fronts, bigEndian_bytes_injective ports⟩

theorem wireForm_ipv4_iff {octets : Block 4} {port : UInt16} {address : Address} :
    WireForm (Protocol.addressIPv4 :: octets.bytes ++ BigEndian.bytes port) address ↔
      address = .ofIPv4 (IPv4.ofOctets octets) port := by
  constructor
  · generalize whole : Protocol.addressIPv4 :: octets.bytes ++ BigEndian.bytes port = frame
    intro form
    cases form with
    | ipv4 ip other =>
      obtain ⟨same, rfl⟩ := append_port_inj octets.length_bytes (List.cons.inj whole).2
      have read : octets = ⟨ip.octets, rfl⟩ := Block.eq_of_bytes_eq same
      rw [read, ofOctets_octets_v4]
    | domain name other short => cases (List.cons.inj whole).1
    | ipv6 ip other => cases (List.cons.inj whole).1
  · rintro rfl
    rw [← octets_ofOctets_v4]
    exact .ipv4 _ _

theorem wireForm_ipv6_iff {octets : Block 16} {port : UInt16} {address : Address} :
    WireForm (Protocol.addressIPv6 :: octets.bytes ++ BigEndian.bytes port) address ↔
      address = .ofIPv6 (IPv6.ofOctets octets) port := by
  constructor
  · generalize whole : Protocol.addressIPv6 :: octets.bytes ++ BigEndian.bytes port = frame
    intro form
    cases form with
    | ipv4 ip other => cases (List.cons.inj whole).1
    | domain name other short => cases (List.cons.inj whole).1
    | ipv6 ip other =>
      obtain ⟨same, rfl⟩ := append_port_inj
        (octets.length_bytes.trans (ip.length_octets).symm) (List.cons.inj whole).2
      have read : octets = ⟨ip.octets, ip.length_octets⟩ := Block.eq_of_bytes_eq same
      rw [read, ofOctets_octets_v6]
  · rintro rfl
    rw [← octets_ofOctets_v6]
    exact .ipv6 _ _

theorem wireForm_domain_iff {count : UInt8} {name : List UInt8} {port : UInt16} {address : Address}
    (size : name.length = count.toNat) :
    WireForm (Protocol.addressDomain :: count :: name ++ BigEndian.bytes port) address ↔
      ∃ text, ofBytes? name = some text ∧ address = .ofDomain text port := by
  constructor
  · generalize whole : Protocol.addressDomain :: count :: name ++ BigEndian.bytes port = frame
    intro form
    cases form with
    | ipv4 ip other => cases (List.cons.inj whole).1
    | domain text other short =>
      obtain ⟨counts, later⟩ := List.cons.inj (List.cons.inj whole).2
      have sizes : name.length = (bytes text).length := by
        rw [size, counts, toNat_count short]
      obtain ⟨same, rfl⟩ := append_port_inj sizes later
      exact ⟨text, same ▸ ofBytes?_bytes text, rfl⟩
    | ipv6 ip other => cases (List.cons.inj whole).1
  · rintro ⟨text, spelled, rfl⟩
    have same := bytes_of_ofBytes? spelled
    have counted : UInt8.ofNat (bytes text).length = count := by
      rw [same, size, UInt8.ofNat_toNat]
    rw [← same, ← counted]
    exact .domain text port (by rw [same, size]; exact Nat.le_of_lt_succ count.toNat_lt)

/-- A body and a port make an address just when they stand in its wire form. -/
theorem ofBody_eq_ok_iff {kind : Address.Kind} {next : UInt8} {body : Block (kind.bodyLength next)}
    {port : UInt16} {address : Address} (head : body.bytes.head? = some next) :
    Address.ofBody kind next body port = .ok address ↔
      WireForm (kind.toByte :: body.bytes ++ BigEndian.bytes port) address := by
  cases kind with
  | ipv4 => exact ⟨fun read => wireForm_ipv4_iff.mpr (Except.ok.inj read).symm,
      fun form => congrArg Except.ok (wireForm_ipv4_iff.mp form).symm⟩
  | domain =>
    obtain ⟨name, shape⟩ := List.head?_eq_some_iff.mp head
    have size : name.length = next.toNat := by
      have counted := body.length_bytes
      simp only [shape, List.length_cons, Address.Kind.bodyLength] at counted
      omega
    simp only [Address.ofBody, shape, List.drop_succ_cons, List.drop_zero]
    refine Iff.trans ?_ (wireForm_domain_iff size).symm
    cases spelled : ofBytes? name with
    | none => simp
    | some text => simp [eq_comm]
  | ipv6 => exact ⟨fun read => wireForm_ipv6_iff.mpr (Except.ok.inj read).symm,
      fun form => congrArg Except.ok (wireForm_ipv6_iff.mp form).symm⟩

/-- A block of the right length is its type byte, its body and its port, and the body
starts with the byte behind the type byte. -/
theorem pieces_of_frame {kind : Address.Kind} {next : UInt8} {frame : Block (kind.frameLength next)}
    {later : List UInt8} (shape : frame.bytes = kind.toByte :: next :: later) :
    frame.bytes = kind.toByte :: (Address.bodyOf frame).bytes ++
        BigEndian.bytes (Address.portOf frame) ∧
      (Address.bodyOf frame).bytes.head? = some next := by
  have pieces := bytes_eq_pieces frame
  have type : frame.bytes.take 1 = [kind.toByte] := by rw [shape]; rfl
  rw [type, List.singleton_append] at pieces
  refine ⟨pieces, ?_⟩
  have positive : 0 < kind.bodyLength next := by
    cases kind <;> simp [Address.Kind.bodyLength]
  obtain ⟨first, others, body⟩ := List.exists_cons_of_length_pos
    (Nat.lt_of_lt_of_eq positive (Address.bodyOf frame).length_bytes.symm)
  rw [shape, body] at pieces
  rw [body, (List.cons.inj (List.cons.inj pieces).2).1]
  rfl

/-- A block of the right length decodes to an address just when it is the wire form
of that address. -/
theorem ofFrame_eq_ok_iff {kind : Address.Kind} {next : UInt8} {frame : Block (kind.frameLength next)}
    {later : List UInt8} {address : Address} (shape : frame.bytes = kind.toByte :: next :: later) :
    Address.ofFrame kind next frame = .ok address ↔ WireForm frame.bytes address := by
  obtain ⟨pieces, head⟩ := pieces_of_frame shape
  rw [pieces]
  exact ofBody_eq_ok_iff head

/-! ## Names that are not texts -/

/-- The bytes are not those of any text. -/
def Illegible (name : List UInt8) : Prop := ∀ text, bytes text ≠ name

/-- The bytes of a whole address of a domain whose name is not a text. -/
inductive IllegibleDomain : List UInt8 → Prop where
  | named {count : UInt8} {name : List UInt8} (port : UInt16) (size : name.length = count.toNat)
      (illegible : Illegible name) :
      IllegibleDomain (Protocol.addressDomain :: count :: name ++ BigEndian.bytes port)

theorem ofBytes?_eq_none_iff {name : List UInt8} : ofBytes? name = none ↔ Illegible name := by
  constructor
  · intro unread text same
    rw [← same, ofBytes?_bytes] at unread
    cases unread
  · intro illegible
    cases spelled : ofBytes? name with
    | none => rfl
    | some text => exact absurd (bytes_of_ofBytes? spelled) (illegible text)

private theorem ofBody_eq_error_iff {kind : Address.Kind} {next : UInt8}
    {body : Block (kind.bodyLength next)} {port : UInt16} {rejection : Rejection}
    (head : body.bytes.head? = some next) :
    Address.ofBody kind next body port = .error rejection ↔
      IllegibleDomain (kind.toByte :: body.bytes ++ BigEndian.bytes port) ∧
        rejection = .malformed .domainNotUtf8 := by
  cases kind with
  | ipv4 =>
    constructor
    · intro rejected
      cases rejected
    · rintro ⟨domain, -⟩
      cases domain
  | ipv6 =>
    constructor
    · intro rejected
      cases rejected
    · rintro ⟨domain, -⟩
      cases domain
  | domain =>
    obtain ⟨name, shape⟩ := List.head?_eq_some_iff.mp head
    have size : name.length = next.toNat := by
      have counted := body.length_bytes
      simp only [shape, List.length_cons, Address.Kind.bodyLength] at counted
      omega
    simp only [Address.ofBody, shape, List.drop_succ_cons, List.drop_zero]
    constructor
    · intro rejected
      cases spelled : ofBytes? name with
      | some text => simp [spelled] at rejected
      | none =>
        simp only [spelled, Except.error.injEq] at rejected
        exact ⟨.named port size (ofBytes?_eq_none_iff.mp spelled), rejected.symm⟩
    · rintro ⟨domain, rfl⟩
      generalize whole : Address.Kind.domain.toByte :: next :: name ++ BigEndian.bytes port = frame
        at domain
      obtain ⟨other, sizeOther, illegible⟩ := domain
      obtain ⟨rfl, later⟩ := List.cons.inj (List.cons.inj whole).2
      obtain ⟨rfl, -⟩ := append_port_inj (size.trans sizeOther.symm) later
      rw [ofBytes?_eq_none_iff.mpr illegible]

/-- A block of the right length is refused just when it names a domain by no text. -/
theorem ofFrame_eq_error_iff {kind : Address.Kind} {next : UInt8}
    {frame : Block (kind.frameLength next)} {later : List UInt8} {rejection : Rejection}
    (shape : frame.bytes = kind.toByte :: next :: later) :
    Address.ofFrame kind next frame = .error rejection ↔
      IllegibleDomain frame.bytes ∧ rejection = .malformed .domainNotUtf8 := by
  obtain ⟨pieces, head⟩ := pieces_of_frame shape
  rw [pieces]
  exact ofBody_eq_error_iff head

private theorem take_frameLength (kind : Address.Kind) (next : UInt8) (rest : List UInt8) :
    ∃ later, (kind.toByte :: next :: rest).take (kind.frameLength next) =
      kind.toByte :: next :: later := by
  obtain ⟨more, size⟩ : ∃ more, kind.frameLength next = more + 2 :=
    ⟨1 + kind.bodyLength next, rfl⟩
  exact ⟨rest.take more, by rw [size]; rfl⟩

/-- Decoding accepts exactly the byte strings that start with a wire form. -/
theorem decode_eq_ok_iff {buffer : List UInt8} {address : Address} :
    (Address.decode buffer).outcome = .ok address ↔
      ∃ frame tail, buffer = frame ++ tail ∧ WireForm frame address := by
  constructor
  · intro read
    match buffer with
    | [] => cases read
    | [type] =>
      rw [decode_cons] at read
      cases known : Address.Kind.ofByte? type with
      | none => simp [known] at read
      | some kind => simp [known, Address.Kind.frameLength] at read
    | type :: next :: rest =>
      cases known : Address.Kind.ofByte? type with
      | none => simp [decode_cons, known] at read
      | some kind =>
        cases ofByte?_eq_some_iff.mp known
        rw [decode_cons_cons] at read
        split at read
        · obtain ⟨later, shape⟩ := take_frameLength kind next rest
          exact ⟨_, _, (List.take_append_drop (kind.frameLength next) _).symm,
            (ofFrame_eq_ok_iff shape).mp read⟩
        · cases read
  · rintro ⟨frame, tail, rfl, form⟩
    obtain ⟨next, body, shape, size, -⟩ := wireForm_length form
    have front : (address.kind.toByte :: next :: (body ++ tail)).take (address.kind.frameLength next) =
        address.kind.toByte :: next :: body := by
      rw [← size, shape]
      exact List.take_left
    have enough : address.kind.frameLength next ≤
        (address.kind.toByte :: next :: (body ++ tail)).length := by
      rw [← size, shape]
      simp
    rw [shape, List.cons_append, List.cons_append, decode_cons_cons, dif_pos enough]
    apply (ofFrame_eq_ok_iff front).mpr
    rw [Block.bytes_take, front, ← shape]
    exact form

theorem frameLength_eq_ok_iff {type next : UInt8} {length : Nat} :
    (Address.frameLength type next).outcome = .ok length ↔
      ∃ kind : Address.Kind, type = kind.toByte ∧ length = kind.frameLength next := by
  constructor
  · intro announced
    cases known : Address.Kind.ofByte? type with
    | none => simp [Address.frameLength, Address.readKind, known] at announced
    | some kind =>
      cases ofByte?_eq_some_iff.mp known
      rw [frameLength_toByte] at announced
      exact ⟨kind, rfl, (Except.ok.inj announced).symm⟩
  · rintro ⟨kind, rfl, rfl⟩
    exact frameLength_toByte kind next

theorem frameLength_eq_error_iff {type next : UInt8} {rejection : Rejection} :
    (Address.frameLength type next).outcome = .error rejection ↔
      type ∉ ([1, 3, 4] : List UInt8) ∧ rejection = .badAddressType type := by
  rw [← ofByte?_eq_none_iff, Address.frameLength, Address.readKind]
  cases known : Address.Kind.ofByte? type with
  | none => simp [eq_comm]
  | some kind => simp

/-- No address is shorter than one with an empty domain name. -/
theorem four_le_frameLength {type next : UInt8} {length : Nat}
    (announced : (Address.frameLength type next).outcome = .ok length) : 4 ≤ length := by
  obtain ⟨kind, -, rfl⟩ := frameLength_eq_ok_iff.mp announced
  cases kind <;> simp only [Address.Kind.frameLength, Address.Kind.bodyLength] <;> omega

theorem announced_of_wireForm {frame : List UInt8} {address : Address}
    (form : WireForm frame address) :
    ∃ type next body, frame = type :: next :: body ∧
      (Address.frameLength type next).outcome = .ok frame.length := by
  obtain ⟨next, body, shape, size, -⟩ := wireForm_length form
  exact ⟨_, next, body, shape, size ▸ frameLength_toByte _ next⟩

/-- A byte string that is as long as its first two bytes say has nothing behind the
address in front of it. -/
theorem decode_exact_iff {type next : UInt8} {rest : List UInt8} {address : Address}
    (announced : (Address.frameLength type next).outcome = .ok (type :: next :: rest).length) :
    (Address.decode (type :: next :: rest)).outcome = .ok address ↔
      WireForm (type :: next :: rest) address := by
  constructor
  · intro read
    obtain ⟨frame, tail, shape, form⟩ := decode_eq_ok_iff.mp read
    obtain ⟨_, _, body, rfl, size⟩ := announced_of_wireForm form
    obtain ⟨rfl, rfl, rfl⟩ : type = _ ∧ next = _ ∧ rest = body ++ tail := by simpa using shape
    have empty : tail = [] := by
      rw [announced, Except.ok.injEq] at size
      exact List.eq_nil_of_length_eq_zero (by simpa using size)
    simpa [empty] using form
  · intro form
    exact decode_eq_ok_iff.mpr ⟨_, [], (List.append_nil _).symm, form⟩

/-- A byte string that is as long as its first two bytes say is refused only for a domain
whose name is not a text. -/
theorem decode_exact_error_iff {type next : UInt8} {rest : List UInt8} {rejection : Rejection}
    (announced : (Address.frameLength type next).outcome = .ok (type :: next :: rest).length) :
    (Address.decode (type :: next :: rest)).outcome = .error rejection ↔
      IllegibleDomain (type :: next :: rest) ∧ rejection = .malformed .domainNotUtf8 := by
  obtain ⟨kind, rfl, size⟩ := frameLength_eq_ok_iff.mp announced
  have whole : (kind.toByte :: next :: rest).take (kind.frameLength next) =
      kind.toByte :: next :: rest := List.take_of_length_le (Nat.le_of_eq size)
  rw [decode_cons_cons, dif_pos (Nat.le_of_eq size.symm), ofFrame_eq_error_iff whole, Block.bytes_take,
    whole]

/-- A byte string that is shorter than it announces is malformed, also where the byte that
tells its length is missing. -/
theorem decode_of_short {type next : UInt8} {rest : List UInt8} {length kept : Nat}
    (announced : (Address.frameLength type next).outcome = .ok length) (short : kept < length) :
    ∃ defect, (Address.decode ((type :: next :: rest).take kept)).outcome =
      .error (.malformed defect) := by
  obtain ⟨kind, rfl, rfl⟩ := frameLength_eq_ok_iff.mp announced
  match kept with
  | 0 => exact ⟨_, rfl⟩
  | 1 =>
    have four := four_le_frameLength (frameLength_toByte kind 0)
    have cut : ¬ kind.frameLength 0 ≤ [kind.toByte].length := by
      rw [List.length_singleton]
      omega
    refine ⟨.truncatedAddress (kind.frameLength 0) 1, ?_⟩
    rw [List.take_succ_cons, List.take_zero, decode_cons, ofByte?_eq_some_iff.mpr rfl]
    exact dif_neg cut
  | kept + 2 =>
    have cut : ¬ kind.frameLength next ≤ (kind.toByte :: next :: rest.take kept).length := by
      simp only [List.length_cons, List.length_take]
      omega
    rw [List.take_succ_cons, List.take_succ_cons, decode_cons_cons, dif_neg cut]
    exact ⟨_, rfl⟩

/-! ## Encoding -/

/-- Encoding writes the wire form and nothing else. A host that is not canonical
has no wire form, although it may be written: it is the text of another address. -/
theorem toBytes_eq_ok_iff {frame : List UInt8} {address : Address} (canonical : Canonical address) :
    address.toBytes = .ok frame ↔ WireForm frame address := by
  constructor
  · obtain ⟨kind, host, port⟩ := address
    intro written
    cases kind with
    | ipv4 =>
      simp only [Address.toBytes] at written
      cases read : IPv4.ofText? host with
      | none => simp [read] at written
      | some ip =>
        simp only [read, Except.ok.injEq] at written
        rw [← written, ← canonical.spelled_ipv4 read]
        exact .ipv4 ip port
    | domain =>
      simp only [Address.toBytes] at written
      split at written
      · rename_i short
        cases written
        exact .domain host port short
      · cases written
    | ipv6 =>
      simp only [Address.toBytes] at written
      cases read : IPv6.ofText? host with
      | none => simp [read] at written
      | some ip =>
        simp only [read, Except.ok.injEq] at written
        rw [← written, ← canonical.spelled_ipv6 read]
        exact .ipv6 ip port
  · intro form
    cases form with
    | ipv4 ip port => simp [Address.toBytes, Address.ofIPv4, IPv4Literals.ofText?_toString]
    | domain name port short =>
      simp [Address.toBytes, Address.ofDomain, Address.ofHost, Address.Kind.canonicalHost, short]
    | ipv6 ip port => simp [Address.toBytes, Address.ofIPv6, IPv6Literals.ofText?_toString]

/-- The addresses that callers can get hold of are those with a canonical host. -/
theorem obtainable_iff_canonical {address : Address} : Obtainable address ↔ Canonical address := by
  constructor
  · intro obtainable
    cases obtainable with
    | ofHost kind host port => exact canonicalHost_idempotent kind host
    | ofDomain name port => rfl
    | ofIPv4 ip port => exact canonical_of_wireForm (.ipv4 ip port)
    | ofIPv6 ip port => exact canonical_of_wireForm (.ipv6 ip port)
    | ofEndpoint endpoint =>
      cases endpoint with
      | v4 ip port => exact canonical_of_wireForm (.ipv4 ip port)
      | v6 ip port flow scope => exact canonical_of_wireForm (.ipv6 ip port)
    | unspecified => exact canonical_of_wireForm (.ipv4 IPv4.unspecified 0)
    | decoded accepted =>
      obtain ⟨frame, tail, -, form⟩ := decode_eq_ok_iff.mp accepted
      exact canonical_of_wireForm form
  · intro canonical
    have same : Address.ofHost address.kind address.host address.port = address := by
      cases address
      simp only [Address.ofHost, Address.mk.injEq, true_and, and_true]
      exact canonical
    rw [← same]
    exact .ofHost _ _ _

/-- **The address codec loses nothing and invents nothing.** An address that a
caller can get hold of and that can be written is decoded from its own bytes,
whatever follows them, and its length is the one that it announces and that its
first two bytes tell. An address that is decoded is written as exactly the bytes
that it was decoded from. -/
theorem addresses_and_frames_correspond :
    (∀ address, Obtainable address → ∀ frame tail, address.toBytes = .ok frame →
      (Address.decode (frame ++ tail)).outcome = .ok address ∧
      frame.length = address.encodedLength ∧
      ∃ type next rest, frame = type :: next :: rest ∧
        (Address.frameLength type next).outcome = .ok frame.length) ∧
    (∀ buffer address, (Address.decode buffer).outcome = .ok address →
      ∃ type next rest length, buffer = type :: next :: rest ∧
        (Address.frameLength type next).outcome = .ok length ∧ length ≤ buffer.length ∧
        address.toBytes = .ok (buffer.take length)) := by
  constructor
  · intro address obtainable frame tail written
    have form := (toBytes_eq_ok_iff (obtainable_iff_canonical.mp obtainable)).mp written
    obtain ⟨next, body, -, -, encoded⟩ := wireForm_length form
    exact ⟨decode_eq_ok_iff.mpr ⟨frame, tail, rfl, form⟩, encoded, announced_of_wireForm form⟩
  · intro buffer address read
    obtain ⟨frame, tail, rfl, form⟩ := decode_eq_ok_iff.mp read
    obtain ⟨type, next, body, shape, announced⟩ := announced_of_wireForm form
    refine ⟨type, next, body ++ tail, frame.length, by rw [shape]; rfl, announced, by simp, ?_⟩
    rw [List.take_left]
    exact (toBytes_eq_ok_iff (canonical_of_wireForm form)).mpr form

/-- A literal that is not in its usual spelling, with a byte behind its address. -/
theorem literal_and_frame_correspond :
    let address := Address.ofHost .ipv6 "2001:DB8:0::1" 80
    let frame : List UInt8 := [4, 0x20, 0x01, 0x0d, 0xb8, 0, 0, 0, 0, 0, 0, 0, 0, 0, 0, 0, 1, 0, 80]
    address.toBytes = .ok frame ∧ (Address.decode (frame ++ [7])).outcome = .ok address ∧
      frame.length = address.encodedLength ∧
      ∃ type next rest length, frame ++ [7] = type :: next :: rest ∧
        (Address.frameLength type next).outcome = .ok length ∧ length ≤ (frame ++ [7]).length ∧
        address.toBytes = .ok ((frame ++ [7]).take length) := by
  intro address frame
  have written : address.toBytes = .ok frame := by decide +kernel
  obtain ⟨read, size, -⟩ := addresses_and_frames_correspond.1 address (.ofHost ..) frame [7] written
  exact ⟨written, read, size, addresses_and_frames_correspond.2 (frame ++ [7]) address read⟩

end Socks.Proofs.AddressCodec

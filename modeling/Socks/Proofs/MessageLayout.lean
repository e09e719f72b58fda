import Socks.Proofs.MessageRoundTrip
import Socks.Proofs.PacketCodec

/-!
Which values can be written, and as which bytes. The layout of addresses and messages is said
here field by field and apart from the encoders: a count is a byte whose value is the number of
bytes behind it, and a field of sixteen bits has its more significant byte first. What can be
wrong with a value is a list of faults in the order in which they are reported. Every encoder
is held against both: it refuses a value for the first fault that is present, and a value
without faults it writes as its layout and as nothing else.
-/
namespace Socks.Proofs.MessageLayout

open Text Net Wire Transport
open AddressCodec MessageFrames MessageRoundTrip PacketCodec
open Socks (Address)

/-! ## Fields -/

/-- The bytes of a field of sixteen bits. -/
inductive Word : UInt16 → List UInt8 → Prop where
  | bigEndian {field : UInt16} {high low : UInt8}
      (value : field.toNat = 256 * high.toNat + low.toNat) : Word field [high, low]

/-- The bytes of several fields of sixteen bits. -/
inductive Words : List UInt16 → List UInt8 → Prop where
  | nil : Words [] []
  | cons {field : UInt16} {fields : List UInt16} {front back : List UInt8}
      (first : Word field front) (later : Words fields back) :
      Words (field :: fields) (front ++ back)

/-- Some bytes behind a byte that counts them. -/
inductive Counted : List UInt8 → List UInt8 → Prop where
  | behind {field : List UInt8} {count : UInt8} (counts : count.toNat = field.length) :
      Counted field (count :: field)

theorem word_iff {field : UInt16} {written : List UInt8} :
    Word field written ↔ written = BigEndian.bytes field := by
  constructor
  · rintro ⟨value⟩
    rename_i high low
    have joined : BigEndian.join high low = field := by
      apply UInt16.toNat_inj.mp
      rw [BigEndian.toNat_join, value]
    rw [← joined, BigEndian.bytes, BigEndian.high_join, BigEndian.low_join]
  · rintro rfl
    refine .bigEndian ?_
    rw [← BigEndian.toNat_join, BigEndian.join_high_low]

theorem words_iff {fields : List UInt16} {written : List UInt8} :
    Words fields written ↔ written = fields.flatMap BigEndian.bytes := by
  induction fields generalizing written with
  | nil =>
    constructor
    · rintro ⟨⟩
      rfl
    · rintro rfl
      exact .nil
  | cons field fields ih =>
    rw [List.flatMap_cons]
    constructor
    · rintro (_ | ⟨first, later⟩)
      rw [word_iff.mp first, ih.mp later]
    · rintro rfl
      exact .cons (word_iff.mpr rfl) (ih.mpr rfl)

/-- There is a count just for up to 255 bytes, and it is not cut then. -/
theorem counted_iff {field written : List UInt8} :
    Counted field written ↔
      field.length ≤ 255 ∧ written = UInt8.ofNat field.length :: field := by
  constructor
  · rintro ⟨counts⟩
    obtain ⟨short, rfl⟩ := eq_toNat_iff.mp counts.symm
    exact ⟨short, rfl⟩
  · rintro ⟨short, rfl⟩
    exact .behind (toNat_count short)

/-! ## Layouts -/

/-- The bytes of an address. -/
inductive AddressLayout : Address → List UInt8 → Prop where
  | ipv4 {host : String} {ip : IPv4} {port : UInt16} {last : List UInt8}
      (literal : IPv4.ofText? host = some ip) (ported : Word port last) :
      AddressLayout ⟨.ipv4, host, port⟩
        (1 :: ip.first :: ip.second :: ip.third :: ip.fourth :: last)
  | domain {host : String} {port : UInt16} {name last : List UInt8}
      (counted : Counted (bytes host) name) (ported : Word port last) :
      AddressLayout ⟨.domain, host, port⟩ (3 :: name ++ last)
  | ipv6 {host : String} {ip : IPv6} {port : UInt16} {octets last : List UInt8}
      (literal : IPv6.ofText? host = some ip) (grouped : Words ip.groups octets)
      (ported : Word port last) :
      AddressLayout ⟨.ipv6, host, port⟩ (4 :: octets ++ last)

/-- The byte that the protocol gives to a method. -/
def methodByte : Method → UInt8
  | .none => 0
  | .gssApi => 1
  | .password => 2
  | .notAcceptable => 0xff
  | .other byte => byte

/-- The byte that the protocol gives to a command. -/
def commandByte : Command → UInt8
  | .connect => 1
  | .bind => 2
  | .udpAssociate => 3

/-- The byte that the protocol gives to a reply. -/
def replyByte : ReplyCode → UInt8
  | .succeeded => 0
  | .generalFailure => 1
  | .connectionNotAllowed => 2
  | .networkUnreachable => 3
  | .hostUnreachable => 4
  | .connectionRefused => 5
  | .ttlExpired => 6
  | .commandNotSupported => 7
  | .addressTypeNotSupported => 8

/-- The bytes of a message. The version of a credential or a status and the reserved field of
a datagram are those that the message carries, be they what the standard fixes for them or
not; see `Standard`. -/
inductive Layout : Message → List UInt8 → Prop where
  | offer {offer : Offer} {methods : List UInt8} (counted : Counted offer.bytes methods) :
      Layout (.offer offer) (5 :: methods)
  | selection (method : Method) : Layout (.selection method) [5, methodByte method]
  | credential {login : Credential} {name word : List UInt8}
      (username : Counted (bytes login.username) name)
      (password : Counted (bytes login.password) word) :
      Layout (.credential login) (login.version :: name ++ word)
  | status (answer : LoginStatus) : Layout (.status answer) [answer.version, answer.code]
  | request {asked : Request} {encoded : List UInt8}
      (address : AddressLayout asked.address encoded) :
      Layout (.request asked) (5 :: commandByte asked.command :: 0 :: encoded)
  | reply {given : Reply} {encoded : List UInt8} (address : AddressLayout given.address encoded) :
      Layout (.reply given) (5 :: replyByte given.code :: 0 :: encoded)
  | datagram {relayed : Datagram} {reserved encoded : List UInt8}
      (field : Word relayed.header.reserved reserved)
      (address : AddressLayout relayed.header.address encoded) :
      Layout (.datagram relayed)
        (reserved ++ relayed.header.fragment :: encoded ++ relayed.payload)

/-! ## Faults -/

/-- What can be wrong with a value, and the rejection that reports it. -/
structure Fault where
  /-- It is wrong. -/
  present : Prop
  /-- How it is reported. -/
  rejection : Rejection

/-- A host is no literal of its family, or it is a name with more bytes than can be counted. -/
def hostFault : Address.Kind → String → Fault
  | .ipv4, host => ⟨IPv4.ofText? host = none, .malformed (.badLiteral .v4 host)⟩
  | .domain, host =>
    ⟨255 < (bytes host).length, .malformed (.domainTooLong (bytes host).length)⟩
  | .ipv6, host => ⟨IPv6.ofText? host = none, .malformed (.badLiteral .v6 host)⟩

/-- What can be wrong with an address. -/
def addressFaults (address : Address) : List Fault := [hostFault address.kind address.host]

/-- A text of a credential has more bytes than can be counted. -/
def fieldFault (field : LoginField) (text : String) : Fault :=
  ⟨255 < (bytes text).length, .malformed (.fieldTooLong field (bytes text).length)⟩

/-- A payload is longer than a reserved field can say. -/
def payloadFault (payload : List UInt8) : Fault :=
  ⟨65535 < payload.length, .malformed (.payloadTooLong payload.length)⟩

/-- What can be wrong with a message, in the order in which it is reported. -/
def faults : Message → List Fault
  | .offer offer =>
    [⟨offer.bytes = [], .noMethods⟩,
      ⟨255 < offer.bytes.length, .malformed (.tooManyMethods offer.bytes.length)⟩]
  | .selection _ => []
  | .credential login => [fieldFault .username login.username, fieldFault .password login.password]
  | .status _ => []
  | .request asked => addressFaults asked.address
  | .reply given => addressFaults given.address
  | .datagram relayed => payloadFault relayed.payload :: addressFaults relayed.header.address

/-- What can be wrong with a datagram that is to be a packet. -/
def packetFaults (framing : Framing) (relayed : Datagram) : List Fault :=
  let reserved := relayed.header.reserved
  let length := relayed.payload.length
  ⟨framing = .lengthPrefixed ∧ reserved.toNat ≠ length,
    .malformed (.reservedMismatch reserved length)⟩ :: faults (.datagram relayed)

/-- The number of bytes of a message. -/
def size : Message → Nat
  | .offer offer => 2 + offer.length
  | .selection _ => 2
  | .credential login => login.encodedLength
  | .status _ => 2
  | .request asked => 3 + asked.address.encodedLength
  | .reply given => 3 + given.address.encodedLength
  | .datagram relayed => relayed.header.encodedLength + relayed.payload.length

/-! ## Verdicts -/

/-- What writing comes to when the faults are looked for one after the other: the first one
that is present is reported, and behind the last one stands the layout. -/
inductive Verdict (layout : List UInt8 → Prop) (size : Nat) :
    List Fault → Except Rejection (List UInt8) → Prop where
  | written {frame : List UInt8} (unique : ∀ other, layout other ↔ other = frame)
      (length : frame.length = size) : Verdict layout size [] (.ok frame)
  | refused {fault : Fault} {later : List Fault} (present : fault.present) :
      Verdict layout size (fault :: later) (.error fault.rejection)
  | passed {fault : Fault} {later : List Fault} {outcome : Except Rejection (List UInt8)}
      (absent : ¬ fault.present) (behind : Verdict layout size later outcome) :
      Verdict layout size (fault :: later) outcome

/-- A value is written as its layout if nothing is wrong with it, and is refused for the first
fault otherwise. -/
structure Exact (layout : List UInt8 → Prop) (size : Nat) (faults : List Fault)
    (outcome : Except Rejection (List UInt8)) : Prop where
  /-- There are bytes just when no fault is present. -/
  succeeds_iff : (∃ frame, outcome = .ok frame) ↔ ∀ fault ∈ faults, ¬ fault.present
  /-- They are the layout and nothing else. -/
  layout_iff : ∀ frame, outcome = .ok frame → ∀ other, layout other ↔ other = frame
  /-- They are as many as announced. -/
  length_eq : ∀ frame, outcome = .ok frame → frame.length = size
  /-- The first fault that is present is reported. -/
  refused : ∀ before fault after, faults = before ++ fault :: after →
    (∀ earlier ∈ before, ¬ earlier.present) → fault.present → outcome = .error fault.rejection

section Verdicts

variable {layout : List UInt8 → Prop} {size : Nat} {outcome : Except Rejection (List UInt8)}
  {fault : Fault} {later flaws : List Fault}

/-- A check in front of others is for a fault in front of others. -/
theorem Verdict.check (caught : fault.present → outcome = .error fault.rejection)
    (behind : ¬ fault.present → Verdict layout size later outcome) :
    Verdict layout size (fault :: later) outcome := by
  by_cases present : fault.present
  · rw [caught present]
    exact .refused present
  · exact .passed present (behind present)

/-- What encloses something is refused for the same faults. -/
theorem Verdict.enclosed {wide : List UInt8 → Prop} {enclose : List UInt8 → List UInt8}
    {more : Nat} (inner : Verdict layout size flaws outcome)
    (outer : ∀ frame, wide frame ↔ ∃ encoded, layout encoded ∧ frame = enclose encoded)
    (longer : ∀ encoded, (enclose encoded).length = more + encoded.length) :
    Verdict wide (more + size) flaws (outcome.map enclose) := by
  induction inner with
  | @written frame unique length =>
    refine .written (fun other => ?_) (by rw [longer, length])
    simp only [outer, unique, exists_eq_left]
  | refused present => exact .refused present
  | passed absent behind ih => exact .passed absent ih

/-- A verdict says when there are bytes, which, and what is reported if there are none. -/
theorem Verdict.exact (verdict : Verdict layout size flaws outcome) :
    Exact layout size flaws outcome := by
  induction verdict with
  | @written frame unique length =>
    refine ⟨iff_of_true ⟨frame, rfl⟩ (by simp), ?_, ?_, ?_⟩
    · rintro _ ⟨⟩
      exact unique
    · rintro _ ⟨⟩
      exact length
    · intro before other after shape
      cases before <;> cases shape
  | @refused fault later present =>
    refine ⟨iff_of_false ?_ ?_, ?_, ?_, ?_⟩
    · rintro ⟨_, ⟨⟩⟩
    · exact fun faultless => faultless fault List.mem_cons_self present
    · rintro _ ⟨⟩
    · rintro _ ⟨⟩
    · intro before other after shape earlier _
      cases before with
      | nil =>
        cases shape
        rfl
      | cons first before =>
        cases shape
        exact absurd present (earlier fault List.mem_cons_self)
  | @passed fault later outcome absent behind ih =>
    refine ⟨?_, ih.layout_iff, ih.length_eq, ?_⟩
    · rw [ih.succeeds_iff, List.forall_mem_cons]
      exact (and_iff_right absent).symm
    · intro before other after shape earlier present
      cases before with
      | nil =>
        cases shape
        exact absurd present absent
      | cons first before =>
        cases shape
        exact ih.refused before other after rfl
          (fun one member => earlier one (List.mem_cons_of_mem _ member)) present

end Verdicts

/-! ## Addresses -/

theorem addressLayout_ipv4_iff {host : String} {ip : IPv4} {port : UInt16} {frame : List UInt8}
    (literal : IPv4.ofText? host = some ip) :
    AddressLayout ⟨.ipv4, host, port⟩ frame ↔ frame = 1 :: ip.octets ++ BigEndian.bytes port := by
  constructor
  · intro laid
    cases laid with
    | ipv4 again ported =>
      cases literal.symm.trans again
      rw [word_iff.mp ported]
      rfl
  · rintro rfl
    exact .ipv4 literal (word_iff.mpr rfl)

theorem addressLayout_domain_iff {host : String} {port : UInt16} {frame : List UInt8}
    (short : (bytes host).length ≤ 255) :
    AddressLayout ⟨.domain, host, port⟩ frame ↔
      frame = 3 :: UInt8.ofNat (bytes host).length :: bytes host ++ BigEndian.bytes port := by
  constructor
  · intro laid
    cases laid with
    | domain counted ported =>
      rw [(counted_iff.mp counted).2, word_iff.mp ported]
  · rintro rfl
    exact .domain (counted_iff.mpr ⟨short, rfl⟩) (word_iff.mpr rfl)

theorem addressLayout_ipv6_iff {host : String} {ip : IPv6} {port : UInt16} {frame : List UInt8}
    (literal : IPv6.ofText? host = some ip) :
    AddressLayout ⟨.ipv6, host, port⟩ frame ↔ frame = 4 :: ip.octets ++ BigEndian.bytes port := by
  constructor
  · intro laid
    cases laid with
    | ipv6 again grouped ported =>
      cases literal.symm.trans again
      rw [words_iff.mp grouped, word_iff.mp ported]
      rfl
  · rintro rfl
    exact .ipv6 literal (words_iff.mpr rfl) (word_iff.mpr rfl)

/-- An address is refused for its host or written as its layout. -/
theorem verdict_address (address : Address) :
    Verdict (AddressLayout address) address.encodedLength (addressFaults address)
      address.toBytes := by
  obtain ⟨kind, host, port⟩ := address
  cases kind with
  | ipv4 =>
    cases read : IPv4.ofText? host with
    | none =>
      have refused : Address.toBytes ⟨.ipv4, host, port⟩ =
          .error (.malformed (.badLiteral .v4 host)) := by
        simp only [Address.toBytes, read]
      rw [refused]
      exact .refused read
    | some ip =>
      have written : Address.toBytes ⟨.ipv4, host, port⟩ =
          .ok (1 :: ip.octets ++ BigEndian.bytes port) := by
        simp only [Address.toBytes, read]
        rfl
      have absent : ¬ (hostFault .ipv4 host).present := by
        simp only [hostFault, read, reduceCtorEq, not_false_eq_true]
      rw [written]
      exact .passed absent
        (.written (fun _ => addressLayout_ipv4_iff read) (Address.length_of_toBytes written))
  | domain =>
    by_cases short : (bytes host).length ≤ 255
    · have written : Address.toBytes ⟨.domain, host, port⟩ =
          .ok (3 :: UInt8.ofNat (bytes host).length :: bytes host ++ BigEndian.bytes port) :=
        if_pos short
      rw [written]
      exact .passed (Nat.not_lt_of_le short)
        (.written (fun _ => addressLayout_domain_iff short) (Address.length_of_toBytes written))
    · have refused : Address.toBytes ⟨.domain, host, port⟩ =
          .error (.malformed (.domainTooLong (bytes host).length)) := if_neg short
      rw [refused]
      exact .refused (Nat.lt_of_not_le short)
  | ipv6 =>
    cases read : IPv6.ofText? host with
    | none =>
      have refused : Address.toBytes ⟨.ipv6, host, port⟩ =
          .error (.malformed (.badLiteral .v6 host)) := by
        simp only [Address.toBytes, read]
      rw [refused]
      exact .refused read
    | some ip =>
      have written : Address.toBytes ⟨.ipv6, host, port⟩ =
          .ok (4 :: ip.octets ++ BigEndian.bytes port) := by
        simp only [Address.toBytes, read]
        rfl
      have absent : ¬ (hostFault .ipv6 host).present := by
        simp only [hostFault, read, reduceCtorEq, not_false_eq_true]
      rw [written]
      exact .passed absent
        (.written (fun _ => addressLayout_ipv6_iff read) (Address.length_of_toBytes written))

/-! ## Requests and replies -/

theorem toByte_command (command : Command) : command.toByte = commandByte command := by
  cases command <;> rfl

theorem toByte_replyCode (code : ReplyCode) : code.toByte = replyByte code := by
  cases code <;> rfl

theorem exchange_toBytes_eq_map (code : UInt8) (address : Address) :
    Exchange.toBytes code address = address.toBytes.map (5 :: code :: 0 :: ·) := by
  rw [Exchange.toBytes]
  cases address.toBytes <;> rfl

/-- What can be wrong with a request or a reply is what is wrong with its address. -/
theorem exchange_toBytes_eq_error_iff {code : UInt8} {address : Address} {rejection : Rejection} :
    Exchange.toBytes code address = .error rejection ↔ address.toBytes = .error rejection := by
  rw [exchange_toBytes_eq_map]
  cases address.toBytes <;> simp [Except.map]

private theorem verdict_exchange {code : UInt8} {address : Address} {layout : List UInt8 → Prop}
    (outer : ∀ frame, layout frame ↔
      ∃ encoded, AddressLayout address encoded ∧ frame = 5 :: code :: 0 :: encoded) :
    Verdict layout (3 + address.encodedLength) (addressFaults address)
      (Exchange.toBytes code address) := by
  rw [exchange_toBytes_eq_map]
  exact (verdict_address address).enclosed outer fun encoded => Nat.add_comm encoded.length 3

theorem verdict_request (asked : Request) :
    Verdict (Layout (.request asked)) (3 + asked.address.encodedLength)
      (addressFaults asked.address) asked.toBytes := by
  refine verdict_exchange fun frame => ?_
  rw [toByte_command]
  constructor
  · rintro ⟨⟩
    exact ⟨_, ‹_›, rfl⟩
  · rintro ⟨encoded, address, rfl⟩
    exact .request address

theorem verdict_reply (given : Reply) :
    Verdict (Layout (.reply given)) (3 + given.address.encodedLength)
      (addressFaults given.address) given.toBytes := by
  refine verdict_exchange fun frame => ?_
  rw [toByte_replyCode]
  constructor
  · rintro ⟨⟩
    exact ⟨_, ‹_›, rfl⟩
  · rintro ⟨encoded, address, rfl⟩
    exact .reply address

/-! ## Negotiation and login -/

theorem toByte_method (method : Method) : method.toByte = methodByte method := by
  cases method <;> rfl

theorem verdict_offer (offer : Offer) :
    Verdict (Layout (.offer offer)) (2 + offer.length) (faults (.offer offer))
      offer.message.outcome := by
  refine .check (fun unoffered => ?_) fun offered => .check (fun long => ?_) fun short => ?_
  · have empty : offer.isEmpty = true := List.isEmpty_iff.mpr unoffered
    rw [Offer.message, if_pos empty]
    rfl
  · have full : ¬ offer.isEmpty = true := fun empty => offered (List.isEmpty_iff.mp empty)
    rw [Offer.message, if_neg full]
    exact congrArg Report.outcome (if_pos long)
  · have fits : offer.bytes.length ≤ 255 := Nat.le_of_not_lt short
    rw [offer_message_eq_ok_iff.mpr ⟨offered, fits, rfl⟩]
    refine .written (fun other => ?_) (Nat.add_comm offer.bytes.length 2)
    constructor
    · rintro ⟨counted⟩
      rw [(counted_iff.mp counted).2]
      rfl
    · rintro rfl
      exact .offer (counted_iff.mpr ⟨fits, rfl⟩)

theorem verdict_selection (method : Method) :
    Verdict (Layout (.selection method)) 2 [] method.message.outcome := by
  rw [selection_message_eq_ok_iff.mpr rfl]
  refine .written (fun other => ?_) rfl
  rw [toByte_method]
  constructor
  · rintro ⟨⟩
    rfl
  · rintro rfl
    exact .selection method

/-- The username is looked at before the password. -/
theorem verdict_credential (login : Credential) :
    Verdict (Layout (.credential login)) login.encodedLength (faults (.credential login))
      login.toBytes := by
  refine .check (fun long => ?_) fun name => .check (fun long => ?_) fun word => ?_
  · rw [Credential.toBytes, fieldBytes_of_long long]
    rfl
  · have nameFits : (bytes login.username).length ≤ 255 := Nat.le_of_not_lt name
    rw [Credential.toBytes, fieldBytes_eq_ok_iff.mpr ⟨nameFits, rfl⟩, fieldBytes_of_long long]
    rfl
  · have nameFits : (bytes login.username).length ≤ 255 := Nat.le_of_not_lt name
    have wordFits : (bytes login.password).length ≤ 255 := Nat.le_of_not_lt word
    rw [Credential.toBytes, fieldBytes_eq_ok_iff.mpr ⟨nameFits, rfl⟩,
      fieldBytes_eq_ok_iff.mpr ⟨wordFits, rfl⟩]
    refine .written (fun other => ?_) ?_
    · constructor
      · intro laid
        cases laid with
        | credential username password =>
          rw [(counted_iff.mp username).2, (counted_iff.mp password).2]
      · rintro rfl
        exact .credential (counted_iff.mpr ⟨nameFits, rfl⟩) (counted_iff.mpr ⟨wordFits, rfl⟩)
    · simp only [Credential.encodedLength, List.length_cons, List.length_append]
      omega

theorem verdict_status (answer : LoginStatus) :
    Verdict (Layout (.status answer)) 2 [] answer.message.outcome := by
  rw [status_message_eq_ok_iff.mpr rfl]
  refine .written (fun other => ?_) rfl
  constructor
  · rintro ⟨⟩
    rfl
  · rintro rfl
    exact .status answer

/-! ## Datagrams -/

theorem toBytes_of_short_payload {relayed : Datagram} (short : relayed.payload.length ≤ 65535) :
    relayed.toBytes = relayed.header.address.toBytes.map fun encoded =>
      BigEndian.bytes relayed.header.reserved ++ relayed.header.fragment :: encoded ++
        relayed.payload := by
  have counted : Datagram.payloadLength relayed.payload = .ok (UInt16.ofNat relayed.payload.length) :=
    if_pos short
  rw [Datagram.toBytes, counted, Header.toBytes]
  cases relayed.header.address.toBytes <;> rfl

/-- The payload is looked at before the address. -/
theorem verdict_datagram (relayed : Datagram) :
    Verdict (Layout (.datagram relayed)) (size (.datagram relayed)) (faults (.datagram relayed))
      relayed.toBytes := by
  refine .check toBytes_of_long_payload fun short => ?_
  rw [toBytes_of_short_payload (Nat.le_of_not_lt short)]
  have total : size (.datagram relayed) =
      3 + relayed.payload.length + relayed.header.address.encodedLength :=
    Nat.add_right_comm 3 relayed.header.address.encodedLength relayed.payload.length
  rw [total]
  refine (verdict_address relayed.header.address).enclosed (fun frame => ?_) fun encoded => ?_
  · constructor
    · intro laid
      cases laid with
      | datagram field address =>
        rw [word_iff.mp field]
        exact ⟨_, address, rfl⟩
    · rintro ⟨encoded, address, rfl⟩
      exact .datagram (word_iff.mpr rfl) address
  · simp only [BigEndian.bytes, List.length_append, List.length_cons, List.length_nil]
    omega

/-- What the framing asks of the reserved field is looked at before all else. -/
theorem verdict_packet (framing : Framing) (relayed : Datagram) :
    Verdict (Layout (.datagram relayed)) (size (.datagram relayed)) (packetFaults framing relayed)
      (framing.encodePacket relayed) := by
  refine .check ?_ fun admitted => ?_
  · rintro ⟨rfl, other⟩
    exact if_neg fun admits => other (beq_iff_eq.mp admits)
  · have admits : framing.admits relayed.header.reserved relayed.payload.length := by
      cases framing with
      | lengthPrefixed => exact beq_iff_eq.mpr (Decidable.not_not.mp fun other => admitted ⟨rfl, other⟩)
      | datagram => rfl
    have written : framing.encodePacket relayed = relayed.toBytes := if_pos admits
    rw [written]
    exact verdict_datagram relayed

/-! ## Messages -/

theorem verdict_message (message : Message) :
    Verdict (Layout message) (size message) (faults message) message.encode.outcome := by
  cases message with
  | offer offer => exact verdict_offer offer
  | selection method => exact verdict_selection method
  | credential login =>
    rw [Message.encode, Credential.message, Report.outcome_ofOutcome_log]
    exact verdict_credential login
  | status answer => exact verdict_status answer
  | request asked =>
    rw [Message.encode, Request.message, Report.outcome_ofOutcome_log]
    exact verdict_request asked
  | reply given =>
    rw [Message.encode, Reply.message, Report.outcome_ofOutcome_log]
    exact verdict_reply given
  | datagram relayed =>
    rw [Message.encode, datagram_outcome_message]
    exact verdict_datagram relayed

/-! ## The standard -/

/-- The version of a credential or a status is the one that the standard fixes, and the
reserved field of a datagram is the length of its payload. -/
def Regular : Message → Prop
  | .credential login => login.version = 1
  | .status answer => answer.version = 1
  | .datagram relayed => relayed.header.reserved.toNat = relayed.payload.length
  | .offer _ | .selection _ | .request _ | .reply _ => True

/-- The first bytes of a frame are what the standard fixes for them where a message carries
them. -/
def Fixed : Message → List UInt8 → Prop
  | .credential _, frame | .status _, frame => ∃ behind, frame = 1 :: behind
  | .datagram relayed, frame => ∃ high low behind, frame = high :: low :: behind ∧
      256 * high.toNat + low.toNat = relayed.payload.length
  | .offer _, _ | .selection _, _ | .request _, _ | .reply _, _ => True

/-- The layout of a message with all that the standard fixes. -/
structure Standard (message : Message) (frame : List UInt8) : Prop where
  /-- The fields stand where they belong. -/
  layout : Layout message frame
  /-- The ones that the message carries are as the standard has them. -/
  fixed : Fixed message frame

theorem fixed_iff {message : Message} {frame : List UInt8} (laid : Layout message frame) :
    Fixed message frame ↔ Regular message := by
  cases laid with
  | offer | selection | request | reply => exact Iff.rfl
  | credential | status => simp [Fixed, Regular]
  | datagram field address =>
    obtain ⟨value⟩ := field
    simp only [Fixed, Regular, value]
    constructor
    · rintro ⟨_, _, _, shape, same⟩
      cases shape
      exact same
    · intro same
      exact ⟨_, _, _, rfl, same⟩

/-- **Every value is written as it is laid out, or refused for the first thing that is wrong
with it.** An address has bytes just when its host is a literal of its family or a name of up
to 255 bytes; requests and replies have bytes just when their address has, and are refused as
it is; a credential is refused for its username before its password, and a datagram for its
payload before its address. A packet under the framing `lengthPrefixed` is first of all
refused for a reserved field that is not the length of the payload. What is written is the
layout, of the announced size, and a sink that takes that many bytes gets just these. It is
what the standard prescribes just when the message carries the version or the reserved field
that the standard fixes. -/
theorem values_are_written_as_laid_out [Runtime] :
    (∀ address : Address, Exact (AddressLayout address) address.encodedLength
      (addressFaults address) address.toBytes) ∧
    (∀ asked : Request,
      Exact (Layout (.request asked)) (3 + asked.address.encodedLength)
        (addressFaults asked.address) asked.toBytes ∧
      ∀ rejection, asked.toBytes = .error rejection ↔ asked.address.toBytes = .error rejection) ∧
    (∀ given : Reply,
      Exact (Layout (.reply given)) (3 + given.address.encodedLength)
        (addressFaults given.address) given.toBytes ∧
      ∀ rejection, given.toBytes = .error rejection ↔ given.address.toBytes = .error rejection) ∧
    (∀ login : Credential, Exact (Layout (.credential login)) login.encodedLength
      [fieldFault .username login.username, fieldFault .password login.password] login.toBytes) ∧
    (∀ relayed : Datagram,
      Exact (Layout (.datagram relayed)) (relayed.header.encodedLength + relayed.payload.length)
        (payloadFault relayed.payload :: addressFaults relayed.header.address) relayed.toBytes) ∧
    (∀ (framing : Framing) (relayed : Datagram),
      Exact (Layout (.datagram relayed)) (relayed.header.encodedLength + relayed.payload.length)
        (packetFaults framing relayed) (framing.encodePacket relayed)) ∧
    (∀ message : Message,
      Exact (Layout message) (size message) (faults message) message.encode.outcome ∧
      (∀ sink, Accepting sink (size message) →
        let delivery := sink.send message.encode
        (∀ rejection, message.encode.outcome = .error rejection →
          delivery.outcome = .error (.rejected rejection) ∧ delivery.written = []) ∧
        (∀ frame, message.encode.outcome = .ok frame →
          delivery.outcome = .ok () ∧ delivery.written = frame)) ∧
      (∀ frame, message.encode.outcome = .ok frame →
        (Standard message frame ↔ Regular message))) := by
  refine ⟨fun address => (verdict_address address).exact,
    fun asked => ⟨(verdict_request asked).exact, fun _ => exchange_toBytes_eq_error_iff⟩,
    fun given => ⟨(verdict_reply given).exact, fun _ => exchange_toBytes_eq_error_iff⟩,
    fun login => (verdict_credential login).exact,
    fun relayed => (verdict_datagram relayed).exact,
    fun framing relayed => (verdict_packet framing relayed).exact, fun message => ?_⟩
  have exactly := (verdict_message message).exact
  refine ⟨exactly, fun sink accepting => ⟨fun rejection => send_error sink, ?_⟩, ?_⟩
  · intro frame encoded
    rw [← exactly.length_eq frame encoded] at accepting
    exact accepting.send encoded
  · intro frame encoded
    have laid : Layout message frame := (exactly.layout_iff frame encoded frame).mpr rfl
    rw [← fixed_iff laid]
    exact ⟨Standard.fixed, fun fixed => ⟨laid, fixed⟩⟩

/-- A name of 255 bytes and one of 256, which has only half as many letters; two texts that are
both too long; a packet with a wrong reserved field before a host that is no literal; and
offers to a sink that takes one byte at a time. -/
theorem long_texts_and_wrong_fields_are_refused_in_order :
    let _ : Runtime := .direct
    let long := String.ofList (List.replicate 128 'é')
    let name := String.ofList ('a' :: List.replicate 127 'é')
    let relayed : Datagram := ⟨⟨5, 0, ⟨.ipv4, "1.2.3", 80⟩⟩, [7]⟩
    let sink : Sink := ⟨some 1, some 3, none, none⟩
    (∃ frame, (Address.ofDomain name 80).toBytes = .ok frame ∧ frame.length = 259) ∧
      Request.toBytes ⟨.connect, .ofDomain long 80⟩ = .error (.malformed (.domainTooLong 256)) ∧
      Reply.toBytes ⟨.succeeded, .ofDomain long 80⟩ = .error (.malformed (.domainTooLong 256)) ∧
      Credential.toBytes ⟨1, long, long⟩ = .error (.malformed (.fieldTooLong .username 256)) ∧
      relayed.toBytes = .error (.malformed (.badLiteral .v4 "1.2.3")) ∧
      Framing.lengthPrefixed.encodePacket relayed =
        .error (.malformed (.reservedMismatch 5 1)) ∧
      (sink.send (Message.offer ⟨[2]⟩).encode).written = [5, 1, 2] ∧
      (sink.send (Message.offer ⟨[]⟩).encode).outcome = .error (.rejected .noMethods) ∧
      Standard (.status ⟨1, 7⟩) [1, 7] := by
  intro _ long name relayed sink
  obtain ⟨addresses, requests, replies, logins, datagrams, packets, messages⟩ :=
    values_are_written_as_laid_out
  have longSize : (bytes long).length = 256 := by decide +kernel
  have nameSize : (bytes name).length = 255 := by decide +kernel
  have beyond : 255 < (bytes long).length := by
    rw [longSize]
    decide
  have tooLong : (Address.ofDomain long 80).toBytes = .error (.malformed (.domainTooLong 256)) := by
    rw [← longSize]
    exact (addresses _).refused [] (hostFault .domain long) [] rfl (by simp) beyond
  have accepting {methods : List UInt8} (few : methods.length ≤ 1) :
      Accepting sink (size (.offer ⟨methods⟩)) := by
    refine ⟨by decide, ?_, rfl⟩
    rintro _ ⟨⟩
    exact Nat.add_le_add_left few 2
  refine ⟨?_, (requests _).2 _ |>.mpr tooLong, (replies _).2 _ |>.mpr tooLong, ?_, ?_, ?_, ?_, ?_, ?_⟩
  · have exactly := addresses (.ofDomain name 80)
    have fits : ∀ fault ∈ addressFaults (.ofDomain name 80), ¬ fault.present := by
      refine List.forall_mem_singleton.mpr ?_
      change ¬ 255 < (bytes name).length
      rw [nameSize]
      decide
    obtain ⟨frame, written⟩ := exactly.succeeds_iff.mpr fits
    have counted (host : String) : (Address.ofDomain host 80).encodedLength =
        1 + (1 + (bytes host).length) + 2 := rfl
    refine ⟨frame, written, ?_⟩
    rw [exactly.length_eq frame written, counted, nameSize]
  · rw [← longSize]
    exact (logins _).refused [] (fieldFault .username long) [fieldFault .password long] rfl (by simp)
      beyond
  · refine (datagrams relayed).refused [payloadFault [7]] (hostFault .ipv4 "1.2.3") [] rfl ?_ ?_
    · exact List.forall_mem_singleton.mpr (by decide : ¬ 65535 < [(7 : UInt8)].length)
    · change IPv4.ofText? "1.2.3" = none
      decide +kernel
  · exact (packets .lengthPrefixed relayed).refused [] _ _ rfl (by simp) ⟨rfl, by decide⟩
  · exact (((messages (.offer ⟨[2]⟩)).2.1 sink (accepting (Nat.le_refl 1))).2 [5, 1, 2] rfl).2
  · exact (((messages (.offer ⟨[]⟩)).2.1 sink (accepting (Nat.zero_le 1))).1 .noMethods rfl).1
  · exact ((messages (.status ⟨1, 7⟩)).2.2 [1, 7] rfl).mpr rfl

/-- What a message carries is written as it is: a version that the standard does not have, and
a reserved field that is not the length of the payload. -/
theorem other_versions_and_reserved_fields_are_written :
    let login : Credential := ⟨5, "v", "w"⟩
    let relayed : Datagram := ⟨⟨7, 0, .ofDomain "a" 53⟩, [1]⟩
    (login.toBytes = .ok [5, 1, 118, 1, 119] ∧
      ¬ Standard (.credential login) [5, 1, 118, 1, 119]) ∧
    (relayed.toBytes = .ok [0, 7, 0, 3, 1, 97, 0, 53, 1] ∧
      ¬ Standard (.datagram relayed) [0, 7, 0, 3, 1, 97, 0, 53, 1]) := by
  intro login relayed
  refine ⟨⟨by decide +kernel, ?_⟩, by decide +kernel, ?_⟩
  · rintro ⟨-, behind, shape⟩
    cases shape
  · rintro ⟨-, high, low, behind, shape, same⟩
    cases shape
    cases same

end Socks.Proofs.MessageLayout

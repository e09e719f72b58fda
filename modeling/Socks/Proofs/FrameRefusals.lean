import Socks.Proofs.ReadDemand

/-!
The frames that readers refuse. A reader refuses a message for two kinds of reasons. A
wrong version byte, an offer of nothing and an unknown address type are found out when
only the head of the message was read. All other faults lie in a message that is whole
and was read to its end: an unknown command or reply code behind a valid address, and a
name or a text that is not UTF-8. The two relations list these frames without the
readers, and `takes_error_iff` says that readers refuse them, for that reason, and no
others.
-/
namespace Socks.Proofs.FrameRefusals

open Text Wire Transport
open AddressCodec FrameReading MessageFrames ReadDemand
open Socks (Address)

/-- The version byte with which the messages of a kind start, if they start with one. -/
def versionOf : Message.Kind → Option UInt8
  | .offer | .selection | .request | .reply => some Protocol.version
  | .credential | .status => some Protocol.loginVersion
  | .datagram => none

/-- The heads that are refused, so that nothing behind them is read. -/
inductive RefusedHead : Message.Kind → List UInt8 → Rejection → Prop where
  | version {kind : Message.Kind} {expected actual : UInt8} {later : List UInt8}
      (required : versionOf kind = some expected) (wrong : actual ≠ expected)
      (size : later.length + 1 = headLength kind) :
      RefusedHead kind (actual :: later) (.badVersion expected actual)
  | noMethods : RefusedHead .offer [Protocol.version, 0] .noMethods
  | addressType {kind : Message.Kind} {first second third type next : UInt8}
      (addressed : Exchanged kind ∧ first = Protocol.version ∨ kind = .datagram)
      (unknown : type ∉ ([1, 3, 4] : List UInt8)) :
      RefusedHead kind [first, second, third, type, next] (.badAddressType type)

/-- The codes of requests and replies that are refused, behind any address. -/
inductive RefusedCode : Message.Kind → UInt8 → Rejection → Prop where
  | command {code : UInt8} (unknown : code ∉ ([1, 2, 3] : List UInt8)) :
      RefusedCode .request code (.unsupportedCommand code)
  | reply {code : UInt8} (unknown : 8 < code) :
      RefusedCode .reply code (.malformed (.unknownReplyCode code))

/-- The messages that are whole, of the right version and with an address of a known
type, and that are refused for what they hold. -/
inductive RefusedContent : Message.Kind → List UInt8 → Rejection → Prop where
  | code {kind : Message.Kind} {code reserved : UInt8} {encoded : List UInt8} {address : Address}
      {rejection : Rejection} (refused : RefusedCode kind code rejection)
      (form : WireForm encoded address) :
      RefusedContent kind (Protocol.version :: code :: reserved :: encoded) rejection
  | exchangedName {kind : Message.Kind} {code reserved : UInt8} {encoded : List UInt8}
      (exchanged : Exchanged kind) (domain : IllegibleDomain encoded) :
      RefusedContent kind (Protocol.version :: code :: reserved :: encoded)
        (.malformed .domainNotUtf8)
  | datagramName {reserved : UInt16} {fragment : UInt8} {encoded payload : List UInt8}
      (domain : IllegibleDomain encoded) (framed : reserved.toNat = payload.length) :
      RefusedContent .datagram (BigEndian.bytes reserved ++ fragment :: encoded ++ payload)
        (.malformed .domainNotUtf8)
  | username {count size : UInt8} {name word : List UInt8} (counted : name.length = count.toNat)
      (sized : word.length = size.toNat) (illegible : Illegible name) :
      RefusedContent .credential (Protocol.loginVersion :: count :: name ++ size :: word)
        (.malformed (.fieldNotUtf8 .username))
  | password {count size : UInt8} {name : String} {word : List UInt8}
      (counted : (bytes name).length = count.toNat) (sized : word.length = size.toNat)
      (illegible : Illegible word) :
      RefusedContent .credential (Protocol.loginVersion :: count :: bytes name ++ size :: word)
        (.malformed (.fieldNotUtf8 .password))

variable {frame : List UInt8} {rejection : Rejection}

/-! ## Lengths -/

/-- A head is refused as soon as it is there. -/
theorem length_of_refusedHead {kind : Message.Kind} (refused : RefusedHead kind frame rejection) :
    frame.length = headLength kind := by
  cases refused with
  | version required wrong size => exact size
  | noMethods => rfl
  | addressType addressed unknown =>
    rcases addressed with ⟨rfl | rfl, -⟩ | rfl <;> rfl

theorem whole_of_illegibleDomain {encoded : List UInt8} (domain : IllegibleDomain encoded) :
    Whole encoded := by
  obtain ⟨port, size, -⟩ := domain
  refine ⟨_, _, _, rfl, (frameLength_toByte .domain _).trans (congrArg Except.ok ?_)⟩
  simp only [Address.Kind.frameLength, Address.Kind.bodyLength, BigEndian.bytes, List.length_cons,
    List.length_append, List.length_nil, size]
  omega

theorem exchanged_of_refusedCode {kind : Message.Kind} {code : UInt8}
    (refused : RefusedCode kind code rejection) : Exchanged kind := by
  cases refused with
  | command unknown => exact .inl rfl
  | reply unknown => exact .inr rfl

theorem length_of_refusedContent {kind : Message.Kind}
    (refused : RefusedContent kind frame rejection) : frame.length = announced kind frame := by
  symm
  cases refused with
  | code known form =>
    exact announced_exchange (exchanged_of_refusedCode known) (announced_of_wireForm form)
  | exchangedName exchanged domain =>
    exact announced_exchange exchanged (whole_of_illegibleDomain domain)
  | datagramName domain framed => exact announced_datagram (whole_of_illegibleDomain domain) framed
  | username counted sized illegible => exact announced_credential counted sized
  | password counted sized illegible => exact announced_credential counted sized

/-! ## Heads -/

section Heads

variable {kind : Message.Kind}

theorem refusedHead_two_iff {expected : UInt8} (two : headLength kind = 2)
    (required : versionOf kind = some expected) :
    RefusedHead kind frame rejection ↔
      (∃ actual next, frame = [actual, next] ∧ actual ≠ expected ∧
        rejection = .badVersion expected actual) ∨
      (kind = .offer ∧ frame = [Protocol.version, 0] ∧ rejection = .noMethods) := by
  constructor
  · intro refused
    cases refused with
    | version known wrong size =>
      rw [required] at known
      cases known
      rw [two] at size
      obtain ⟨next, rfl⟩ := List.length_eq_one_iff.mp (Nat.succ.inj size)
      exact .inl ⟨_, next, rfl, wrong, rfl⟩
    | noMethods => exact .inr ⟨rfl, rfl, rfl⟩
    | addressType addressed unknown => rcases addressed with ⟨rfl | rfl, -⟩ | rfl <;> cases two
  · rintro (⟨actual, next, rfl, wrong, rfl⟩ | ⟨rfl, rfl, rfl⟩)
    · exact .version required wrong two.symm
    · exact .noMethods

theorem refusedHead_exchanged_iff (exchanged : Exchanged kind) :
    RefusedHead kind frame rejection ↔
      (∃ version code reserved type next, frame = [version, code, reserved, type, next] ∧
        ((version ≠ Protocol.version ∧ rejection = .badVersion Protocol.version version) ∨
        (version = Protocol.version ∧ type ∉ ([1, 3, 4] : List UInt8) ∧
          rejection = .badAddressType type))) := by
  have required : versionOf kind = some Protocol.version := by
    rcases exchanged with rfl | rfl <;> rfl
  constructor
  · intro refused
    cases refused with
    | @version _ _ actual later known wrong size =>
      rw [required] at known
      cases known
      rw [exchanged.headLength_eq] at size
      match later with
      | [code, reserved, type, next] => exact ⟨actual, _, _, _, _, rfl, .inl ⟨wrong, rfl⟩⟩
    | noMethods => simp [Exchanged] at exchanged
    | addressType addressed unknown =>
      rcases addressed with ⟨-, rfl⟩ | rfl
      · exact ⟨_, _, _, _, _, rfl, .inr ⟨rfl, unknown, rfl⟩⟩
      · simp [Exchanged] at exchanged
  · rintro ⟨version, code, reserved, type, next, rfl, ⟨wrong, rfl⟩ | ⟨rfl, unknown, rfl⟩⟩
    · exact .version required wrong exchanged.headLength_eq.symm
    · exact .addressType (.inl ⟨exchanged, rfl⟩) unknown

theorem refusedHead_datagram_iff :
    RefusedHead .datagram frame rejection ↔
      ∃ high low fragment type next, frame = [high, low, fragment, type, next] ∧
        type ∉ ([1, 3, 4] : List UInt8) ∧ rejection = .badAddressType type := by
  constructor
  · intro refused
    cases refused with
    | version required wrong size => cases required
    | addressType addressed unknown => exact ⟨_, _, _, _, _, rfl, unknown, rfl⟩
  · rintro ⟨high, low, fragment, type, next, rfl, unknown, rfl⟩
    exact .addressType (.inr rfl) unknown

end Heads

/-! ## Negotiation and status -/

private theorem takes_offer_error_iff :
    Takes Offer.decoder frame (.error rejection) ↔ RefusedHead .offer frame rejection := by
  rw [refusedHead_two_iff rfl rfl, Offer.decoder, takes_readPrefix_bind_iff]
  constructor
  · rintro ⟨head, back, rfl, taken⟩
    rcases pair : head.two with ⟨version, count⟩
    rw [Block.bytes_of_two pair]
    simp only [pair, takes_checkVersion_bind_iff] at taken
    rcases taken with ⟨rfl, taken⟩ | ⟨wrong, rfl, known⟩
    · by_cases zero : count = 0
      · obtain ⟨rfl, rfl⟩ : back = [] ∧ rejection = .noMethods := by simpa [zero] using taken
        rw [zero]
        exact .inr ⟨rfl, rfl, rfl⟩
      · rw [if_neg zero, takes_readRemainder_bind_iff] at taken
        simp at taken
    · exact .inl ⟨version, count, rfl, wrong, Except.error.inj known⟩
  · rintro (⟨version, count, rfl, wrong, rfl⟩ | ⟨-, rfl, rfl⟩)
    · exact ⟨⟨[version, count], rfl⟩, [], rfl, takes_checkVersion_bind_iff.mpr (.inr ⟨wrong, rfl, rfl⟩)⟩
    · refine ⟨⟨[Protocol.version, 0], rfl⟩, [], rfl, takes_checkVersion_bind_iff.mpr ?_⟩
      exact .inl ⟨rfl, .log _ (.done _)⟩

/-- A message of two bytes is refused for its version only. -/
private theorem takes_two_error_iff {α : Type} (message : Versioned)
    (event : UInt8 → Event) (result : UInt8 × UInt8 → α) :
    Takes (do
      let head : Block 2 ← .readPrefix 2
      .checkVersion message head.two.1
      .report (event head.two.2)
      return result head.two) frame (.error rejection) ↔
      ∃ actual next, frame = [actual, next] ∧ actual ≠ message.version ∧
        rejection = .badVersion message.version actual := by
  rw [takes_readPrefix_bind_iff, Block.exists_two_iff]
  simp only [Block.two_mk, takes_checkVersion_bind_iff]
  constructor
  · rintro ⟨actual, next, back, rfl, ⟨-, taken⟩ | ⟨wrong, rfl, known⟩⟩
    · simp at taken
    · exact ⟨actual, next, rfl, wrong, Except.error.inj known⟩
  · rintro ⟨actual, next, rfl, wrong, rfl⟩
    exact ⟨actual, next, [], rfl, .inr ⟨wrong, rfl, rfl⟩⟩

private theorem takes_selection_error_iff :
    Takes Method.decoder frame (.error rejection) ↔ RefusedHead .selection frame rejection := by
  rw [refusedHead_two_iff rfl rfl]
  refine (takes_two_error_iff .selection (fun byte => .selectionDecoded (Method.ofByte byte))
    fun pair => Method.ofByte pair.2).trans ?_
  simp [Versioned.version]

private theorem takes_status_error_iff :
    Takes LoginStatus.decoder frame (.error rejection) ↔ RefusedHead .status frame rejection := by
  rw [refusedHead_two_iff rfl rfl]
  refine (takes_two_error_iff .status .statusDecoded fun pair => LoginStatus.mk pair.1 pair.2).trans ?_
  simp [Versioned.version]

/-! ## Requests and replies -/

private theorem takes_exchange_error_iff {kind : Message.Kind} (exchanged : Exchanged kind) :
    Takes Exchange.decoder frame (.error rejection) ↔ RefusedHead kind frame rejection ∨
      (∃ code reserved encoded, frame = Protocol.version :: code :: reserved :: encoded ∧
        IllegibleDomain encoded ∧ rejection = .malformed .domainNotUtf8) := by
  rw [refusedHead_exchanged_iff exchanged, takes_exchange_readings]
  constructor
  · rintro ⟨version, code, reserved, type, next, later, rfl, ⟨wrong, rfl, same⟩ |
      ⟨rfl, rfl, refused, unknown, same⟩ | ⟨rfl, announced, read⟩⟩
    · exact .inl ⟨version, code, reserved, type, next, rfl, .inl ⟨wrong, Except.error.inj same⟩⟩
    · cases Except.error.inj same
      obtain ⟨unsupported, rfl⟩ := frameLength_eq_error_iff.mp unknown
      exact .inl ⟨_, code, reserved, type, next, rfl, .inr ⟨rfl, unsupported, rfl⟩⟩
    · rcases Report.bind_eq_error_iff.mp read.symm with refused | ⟨_, _, accepted⟩
      · obtain ⟨domain, rfl⟩ := (decode_exact_error_iff announced).mp refused
        exact .inr ⟨code, reserved, _, rfl, domain, rfl⟩
      · cases accepted
  · rintro (⟨version, code, reserved, type, next, rfl, ⟨wrong, rfl⟩ | ⟨rfl, unsupported, rfl⟩⟩ |
      ⟨code, reserved, encoded, rfl, domain, rfl⟩)
    · exact ⟨version, code, reserved, type, next, [], rfl, .inl ⟨wrong, rfl, rfl⟩⟩
    · refine ⟨_, code, reserved, type, next, [], rfl, .inr (.inl ⟨rfl, rfl, _, ?_, rfl⟩)⟩
      exact frameLength_eq_error_iff.mpr ⟨unsupported, rfl⟩
    · obtain ⟨type, next, body, rfl, announced⟩ := whole_of_illegibleDomain domain
      refine ⟨_, code, reserved, type, next, body, rfl, .inr (.inr ⟨rfl, announced, ?_⟩)⟩
      rw [(decode_exact_error_iff announced).mpr ⟨domain, rfl⟩]
      rfl

theorem command_ofByte?_eq_none_iff {byte : UInt8} :
    Command.ofByte? byte = none ↔ byte ∉ ([1, 2, 3] : List UInt8) := by
  unfold Command.ofByte?
  by_cases one : byte = 1
  · simp [one, Protocol.commandConnect]
  by_cases two : byte = 2
  · simp [two, Protocol.commandConnect, Protocol.commandBind]
  by_cases three : byte = 3
  · simp [three, Protocol.commandConnect, Protocol.commandBind, Protocol.commandUdpAssociate]
  · simp [one, two, three, Protocol.commandConnect, Protocol.commandBind,
      Protocol.commandUdpAssociate]

theorem replyCode_ofByte_eq_error_iff {byte : UInt8} :
    ReplyCode.ofByte byte = .error rejection ↔
      8 < byte ∧ rejection = .malformed (.unknownReplyCode byte) := by
  have small (code : ReplyCode) : ¬ 8 < code.toByte := by
    cases code <;> decide
  have refused {other : Rejection} (unknown : ReplyCode.ofByte byte = .error other) :
      8 < byte ∧ other = .malformed (.unknownReplyCode byte) := by
    unfold ReplyCode.ofByte at unknown
    repeat' split at unknown
    all_goals cases unknown
    refine ⟨?_, rfl⟩
    simp only [Protocol.replySucceeded, Protocol.replyGeneralFailure,
      Protocol.replyConnectionNotAllowed, Protocol.replyNetworkUnreachable,
      Protocol.replyHostUnreachable, Protocol.replyConnectionRefused, Protocol.replyTtlExpired,
      Protocol.replyCommandNotSupported, Protocol.replyAddressTypeNotSupported] at *
    grind
  constructor
  · exact refused
  · rintro ⟨large, rfl⟩
    cases known : ReplyCode.ofByte byte with
    | ok code => exact absurd (replyCode_ofByte_eq_ok_iff.mp known ▸ large) (small code)
    | error other => rw [(refused known).2]

theorem refusedCode_request_iff {code : UInt8} :
    RefusedCode .request code rejection ↔
      Command.ofByte? code = none ∧ rejection = .unsupportedCommand code := by
  rw [command_ofByte?_eq_none_iff]
  constructor
  · intro refused
    cases refused with
    | command unknown => exact ⟨unknown, rfl⟩
  · rintro ⟨unknown, rfl⟩
    exact .command unknown

theorem refusedCode_reply_iff {code : UInt8} :
    RefusedCode .reply code rejection ↔ ReplyCode.ofByte code = .error rejection := by
  rw [replyCode_ofByte_eq_error_iff]
  constructor
  · intro refused
    cases refused with
    | reply unknown => exact ⟨unknown, rfl⟩
  · rintro ⟨unknown, rfl⟩
    exact .reply unknown

theorem refusedContent_exchanged_iff {kind : Message.Kind} (exchanged : Exchanged kind) :
    RefusedContent kind frame rejection ↔
      ∃ code reserved encoded, frame = Protocol.version :: code :: reserved :: encoded ∧
        ((∃ address, WireForm encoded address ∧ RefusedCode kind code rejection) ∨
        (IllegibleDomain encoded ∧ rejection = .malformed .domainNotUtf8)) := by
  constructor
  · intro refused
    cases refused with
    | code known form => exact ⟨_, _, _, rfl, .inl ⟨_, form, known⟩⟩
    | exchangedName _ domain => exact ⟨_, _, _, rfl, .inr ⟨domain, rfl⟩⟩
    | datagramName _ _ => simp [Exchanged] at exchanged
    | username _ _ _ => simp [Exchanged] at exchanged
    | password _ _ _ => simp [Exchanged] at exchanged
  · rintro ⟨code, reserved, encoded, rfl, ⟨address, form, known⟩ | ⟨domain, rfl⟩⟩
    · exact .code known form
    · exact .exchangedName exchanged domain

/-- What judges the code behind the address refuses it without reading on. -/
private theorem takes_judged_error_iff {α : Type} {judge : UInt8 × Address → Decoder α}
    {kind : Message.Kind} (exchanged : Exchanged kind)
    (judged : ∀ code address back, Takes (judge (code, address)) back (.error rejection) ↔
      back = [] ∧ RefusedCode kind code rejection) :
    Takes (Exchange.decoder >>= judge) frame (.error rejection) ↔
      RefusedHead kind frame rejection ∨ RefusedContent kind frame rejection := by
  rw [takes_bind_iff, refusedContent_exchanged_iff exchanged]
  constructor
  · rintro (⟨⟨code, address⟩, front, back, rfl, taken, later⟩ | ⟨other, taken, same⟩)
    · obtain ⟨rfl, known⟩ := (judged code address back).mp later
      obtain ⟨reserved, encoded, rfl, form⟩ := takes_exchange_iff.mp taken
      rw [List.append_nil]
      exact .inr ⟨code, reserved, encoded, rfl, .inl ⟨address, form, known⟩⟩
    · cases Except.error.inj same
      rcases (takes_exchange_error_iff exchanged).mp taken with head | ⟨code, reserved, encoded, rfl,
        domain⟩
      · exact .inl head
      · exact .inr ⟨code, reserved, encoded, rfl, .inr domain⟩
  · rintro (head | ⟨code, reserved, encoded, rfl, ⟨address, form, known⟩ | domain⟩)
    · exact .inr ⟨rejection, (takes_exchange_error_iff exchanged).mpr (.inl head), rfl⟩
    · refine .inl ⟨(code, address), _, [], (List.append_nil _).symm, ?_, ?_⟩
      · exact takes_exchange_iff.mpr ⟨reserved, encoded, rfl, form⟩
      · exact (judged code address []).mpr ⟨rfl, known⟩
    · refine .inr ⟨rejection, (takes_exchange_error_iff exchanged).mpr (.inr ?_), rfl⟩
      exact ⟨code, reserved, encoded, rfl, domain⟩

private theorem takes_request_error_iff :
    Takes Request.decoder frame (.error rejection) ↔
      RefusedHead .request frame rejection ∨ RefusedContent .request frame rejection := by
  refine takes_judged_error_iff (.inl rfl) fun code address back => ?_
  rw [refusedCode_request_iff]
  cases known : Command.ofByte? code <;> simp [known]

private theorem takes_reply_error_iff :
    Takes Reply.decoder frame (.error rejection) ↔
      RefusedHead .reply frame rejection ∨ RefusedContent .reply frame rejection := by
  refine takes_judged_error_iff (.inr rfl) fun code address back => ?_
  rw [refusedCode_reply_iff]
  cases known : ReplyCode.ofByte code <;> simp [known, eq_comm]

/-! ## Datagrams -/

theorem refusedContent_datagram_iff :
    RefusedContent .datagram frame rejection ↔
      ∃ reserved fragment encoded payload, frame = BigEndian.bytes reserved ++ fragment :: encoded ++
        payload ∧ IllegibleDomain encoded ∧ reserved.toNat = payload.length ∧
        rejection = .malformed .domainNotUtf8 := by
  constructor
  · intro refused
    cases refused with
    | code known form => cases known
    | exchangedName exchanged domain => simp [Exchanged] at exchanged
    | datagramName domain framed => exact ⟨_, _, _, _, rfl, domain, framed, rfl⟩
  · rintro ⟨reserved, fragment, encoded, payload, rfl, domain, framed, rfl⟩
    exact .datagramName domain framed

private theorem takes_datagram_error_iff :
    Takes Datagram.decoder frame (.error rejection) ↔
      RefusedHead .datagram frame rejection ∨ RefusedContent .datagram frame rejection := by
  rw [refusedHead_datagram_iff, refusedContent_datagram_iff, takes_datagram_readings]
  constructor
  · rintro ⟨high, low, fragment, type, next, later, rfl, ⟨rfl, refused, unknown, same⟩ |
      ⟨body, payload, rfl, announced, framed, read⟩⟩
    · cases Except.error.inj same
      obtain ⟨unsupported, rfl⟩ := frameLength_eq_error_iff.mp unknown
      exact .inl ⟨high, low, fragment, type, next, rfl, unsupported, rfl⟩
    · rcases Report.bind_eq_error_iff.mp read.symm with refused | ⟨_, _, accepted⟩
      · obtain ⟨domain, rfl⟩ := (decode_exact_error_iff announced).mp refused
        refine .inr ⟨BigEndian.join high low, fragment, _, payload, ?_, domain, framed.symm, rfl⟩
        simp [BigEndian.bytes]
      · cases accepted
  · rintro (⟨high, low, fragment, type, next, rfl, unsupported, rfl⟩ |
      ⟨reserved, fragment, encoded, payload, rfl, domain, framed, rfl⟩)
    · refine ⟨high, low, fragment, type, next, [], rfl, .inl ⟨rfl, _, ?_, rfl⟩⟩
      exact frameLength_eq_error_iff.mpr ⟨unsupported, rfl⟩
    · obtain ⟨type, next, body, rfl, announced⟩ := whole_of_illegibleDomain domain
      refine ⟨BigEndian.high reserved, BigEndian.low reserved, fragment, type, next, body ++ payload,
        rfl, .inr ⟨body, payload, rfl, announced, ?_, ?_⟩⟩
      · rw [BigEndian.join_high_low, framed]
      · rw [(decode_exact_error_iff announced).mpr ⟨domain, rfl⟩]
        rfl

/-! ## Credentials -/

theorem readField_eq_error_iff {field : LoginField} {spelled : List UInt8} :
    Credential.readField field spelled = .error rejection ↔
      Illegible spelled ∧ rejection = .malformed (.fieldNotUtf8 field) := by
  rw [← ofBytes?_eq_none_iff, Credential.readField]
  cases known : ofBytes? spelled with
  | none => simp [eq_comm]
  | some text => simp

theorem refusedContent_credential_iff :
    RefusedContent .credential frame rejection ↔
      ∃ count size name word, name.length = count.toNat ∧ word.length = size.toNat ∧
        frame = Protocol.loginVersion :: count :: name ++ size :: word ∧
        ((Illegible name ∧ rejection = .malformed (.fieldNotUtf8 .username)) ∨
        (∃ text, bytes text = name ∧ Illegible word ∧
          rejection = .malformed (.fieldNotUtf8 .password))) := by
  constructor
  · intro refused
    cases refused with
    | code known form => cases known
    | exchangedName exchanged domain => simp [Exchanged] at exchanged
    | username counted sized illegible =>
      exact ⟨_, _, _, _, counted, sized, rfl, .inl ⟨illegible, rfl⟩⟩
    | password counted sized illegible =>
      exact ⟨_, _, _, _, counted, sized, rfl, .inr ⟨_, rfl, illegible, rfl⟩⟩
  · rintro ⟨count, size, name, word, counted, sized, rfl, ⟨illegible, rfl⟩ |
      ⟨text, rfl, illegible, rfl⟩⟩
    · exact .username counted sized illegible
    · exact .password counted sized illegible

private theorem takes_credential_error_iff :
    Takes Credential.decoder frame (.error rejection) ↔
      RefusedHead .credential frame rejection ∨ RefusedContent .credential frame rejection := by
  rw [refusedHead_two_iff rfl rfl, refusedContent_credential_iff, takes_credential_readings]
  constructor
  · rintro (⟨version, next, rfl, wrong, same⟩ | ⟨count, size, name, word, counted, sized, rfl, read⟩)
    · exact .inl (.inl ⟨version, next, rfl, wrong, Except.error.inj same⟩)
    · refine .inr ⟨count, size, name, word, counted, sized, rfl, ?_⟩
      rcases Report.bind_eq_error_iff.mp read.symm with nameRead | ⟨text, nameRead, behind⟩
      · exact .inl (readField_eq_error_iff.mp nameRead)
      · rcases Report.bind_eq_error_iff.mp behind with wordRead | ⟨_, _, accepted⟩
        · exact .inr ⟨text, (readField_eq_ok_iff.mp nameRead).symm,
            readField_eq_error_iff.mp wordRead⟩
        · cases accepted
  · rintro ((⟨version, next, rfl, wrong, rfl⟩ | ⟨offered, -⟩) |
      ⟨count, size, name, word, counted, sized, rfl, refused⟩)
    · exact .inl ⟨version, next, rfl, wrong, rfl⟩
    · cases offered
    · refine .inr ⟨count, size, name, word, counted, sized, rfl, ?_⟩
      rcases refused with illegible | ⟨text, rfl, illegible⟩
      · rw [readField_eq_error_iff.mpr illegible]
        rfl
      · rw [readField_eq_ok_iff.mpr rfl, readField_eq_error_iff.mpr illegible]
        rfl

/-! ## Readers -/

/-- No message of two bytes or list of methods is refused for its content. -/
private theorem not_refusedContent {kind : Message.Kind}
    (plain : kind = .offer ∨ kind = .selection ∨ kind = .status) :
    ¬ RefusedContent kind frame rejection := by
  intro refused
  cases refused with
  | code known form => rcases plain with rfl | rfl | rfl <;> cases known
  | exchangedName exchanged domain =>
    rcases exchanged with rfl | rfl <;> rcases plain with plain | plain | plain <;> cases plain
  | _ => rcases plain with plain | plain | plain <;> cases plain

/-- **Readers refuse the frames that are listed, for that reason, and no others.** -/
theorem takes_error_iff {kind : Message.Kind} :
    Takes kind.decoder frame (.error rejection) ↔
      RefusedHead kind frame rejection ∨ RefusedContent kind frame rejection := by
  cases kind with
  | offer =>
    rw [Message.Kind.decoder, takes_map_error_iff, takes_offer_error_iff]
    simp only [not_refusedContent (.inl rfl), or_false]
  | selection =>
    rw [Message.Kind.decoder, takes_map_error_iff, takes_selection_error_iff]
    simp only [not_refusedContent (.inr (.inl rfl)), or_false]
  | status =>
    rw [Message.Kind.decoder, takes_map_error_iff, takes_status_error_iff]
    simp only [not_refusedContent (.inr (.inr rfl)), or_false]
  | credential => rw [Message.Kind.decoder, takes_map_error_iff, takes_credential_error_iff]
  | request => rw [Message.Kind.decoder, takes_map_error_iff, takes_request_error_iff]
  | reply => rw [Message.Kind.decoder, takes_map_error_iff, takes_reply_error_iff]
  | datagram => rw [Message.Kind.decoder, takes_map_error_iff, takes_datagram_error_iff]

end Socks.Proofs.FrameRefusals

import Socks.Message
import Socks.Proofs.AddressCodec
import Socks.Proofs.FrameReading

/-!
The frames of the seven kinds of messages. For each kind, writing is described by the
bytes that are written and reading by the frames that are taken, and the two are
compared: a reader takes a frame as a message just when the frame is what the message
is written as and the message is one that the wire can tell from all others. Only the
reserved byte of requests and replies is free, which readers do not look at.
-/
namespace Socks.Proofs.MessageFrames

open Text Wire Transport
open AddressCodec FrameReading
open Socks (Address)

/-! ## Bytes of names -/

theorem toByte_ofByte (byte : UInt8) : (Method.ofByte byte).toByte = byte := by
  unfold Method.ofByte
  repeat' split
  all_goals simp_all [Method.toByte]

theorem command_ofByte?_eq_some_iff {byte : UInt8} {command : Command} :
    Command.ofByte? byte = some command ↔ byte = command.toByte := by
  constructor
  · intro known
    unfold Command.ofByte? at known
    repeat' split at known
    all_goals cases known <;> assumption
  · rintro rfl
    cases command <;> rfl

theorem replyCode_ofByte_eq_ok_iff {byte : UInt8} {code : ReplyCode} :
    ReplyCode.ofByte byte = .ok code ↔ byte = code.toByte := by
  constructor
  · intro known
    unfold ReplyCode.ofByte at known
    repeat' split at known
    all_goals cases known <;> assumption
  · rintro rfl
    cases code <;> rfl

variable {frame : List UInt8}

/-! ## Negotiation -/

theorem offer_message_eq_ok_iff {offer : Offer} :
    offer.message.outcome = .ok frame ↔ offer.bytes ≠ [] ∧ offer.bytes.length ≤ 255 ∧
      frame = Protocol.version :: UInt8.ofNat offer.bytes.length :: offer.bytes := by
  obtain ⟨methods⟩ := offer
  by_cases empty : methods = []
  · simp [Offer.message, Offer.isEmpty, empty]
  by_cases long : 255 < methods.length
  · have many : ¬ methods.length ≤ 255 := Nat.not_le_of_lt long
    simp [Offer.message, Offer.isEmpty, Offer.length, Protocol.maxMethodCount, empty, long, many]
  · simp [Offer.message, Offer.isEmpty, Offer.length, Protocol.maxMethodCount, empty, long,
      Nat.le_of_not_lt long]
    exact eq_comm

/-- An offer is taken from what it is written as. -/
theorem takes_offer_iff {offer : Offer} :
    Takes Offer.decoder frame (.ok offer) ↔ offer.message.outcome = .ok frame := by
  have taken : Takes Offer.decoder frame (.ok offer) ↔
      ∃ count methods, frame = Versioned.offer.version :: count :: methods ∧ count ≠ 0 ∧
        methods.length + 2 = 2 + count.toNat ∧ offer = ⟨methods⟩ := by
    simp [Offer.decoder, Block.exists_two_iff]
    simp [Block.exists_iff]
  rw [taken, offer_message_eq_ok_iff]
  constructor
  · rintro ⟨count, methods, rfl, positive, size, rfl⟩
    have counted : methods.length = count.toNat := by omega
    obtain ⟨short, rfl⟩ := eq_toNat_iff.mp counted
    refine ⟨?_, short, rfl⟩
    rintro rfl
    exact positive rfl
  · rintro ⟨offered, short, rfl⟩
    have counted := toNat_count short
    refine ⟨_, offer.bytes, rfl, ?_, by rw [counted, Nat.add_comm], rfl⟩
    intro zero
    rw [zero] at counted
    exact offered (List.eq_nil_of_length_eq_zero counted.symm)

theorem selection_message_eq_ok_iff {method : Method} :
    method.message.outcome = .ok frame ↔ frame = [Protocol.version, method.toByte] := by
  simp [Method.message, eq_comm]

/-- A selection is taken from what it is written as, by the name of its byte. -/
theorem takes_selection_iff {method : Method} :
    Takes Method.decoder frame (.ok method) ↔
      Method.ofByte method.toByte = method ∧ method.message.outcome = .ok frame := by
  have taken : Takes Method.decoder frame (.ok method) ↔
      ∃ byte, frame = [Versioned.selection.version, byte] ∧ method = Method.ofByte byte := by
    simp [Method.decoder, Block.exists_two_iff]
  rw [taken, selection_message_eq_ok_iff]
  constructor
  · rintro ⟨byte, rfl, rfl⟩
    rw [toByte_ofByte]
    exact ⟨rfl, rfl⟩
  · rintro ⟨named, rfl⟩
    exact ⟨method.toByte, rfl, named.symm⟩

/-! ## Login -/

theorem fieldBytes_eq_ok_iff {field : LoginField} {text : String} {written : List UInt8} :
    Credential.fieldBytes field text = .ok written ↔
      (bytes text).length ≤ 255 ∧ written = bytes text := by
  by_cases short : (bytes text).length ≤ 255
  · simp [Credential.fieldBytes, Protocol.maxCredentialLength, short, eq_comm]
  · simp [Credential.fieldBytes, Protocol.maxCredentialLength, short]

theorem fieldBytes_of_long {field : LoginField} {text : String}
    (long : 255 < (bytes text).length) :
    Credential.fieldBytes field text =
      .error (.malformed (.fieldTooLong field (bytes text).length)) :=
  if_neg (Nat.not_le_of_lt long)

theorem readField_eq_ok_iff {field : LoginField} {spelled : List UInt8} {text : String} :
    Credential.readField field spelled = .ok text ↔ spelled = bytes text := by
  rw [Credential.readField]
  constructor
  · intro read
    cases known : ofBytes? spelled with
    | none => simp [known] at read
    | some found =>
      simp only [known, Except.ok.injEq] at read
      rw [← read, bytes_of_ofBytes? known]
  · rintro rfl
    rw [ofBytes?_bytes]

theorem credential_message_eq_ok_iff {login : Credential} :
    login.message.outcome = .ok frame ↔
      (bytes login.username).length ≤ 255 ∧ (bytes login.password).length ≤ 255 ∧
        frame = login.version :: UInt8.ofNat (bytes login.username).length :: bytes login.username ++
          UInt8.ofNat (bytes login.password).length :: bytes login.password := by
  rw [Credential.message, Report.outcome_ofOutcome_log, Credential.toBytes]
  constructor
  · intro done
    obtain ⟨name, username, behind⟩ := Report.bind_eq_ok_iff.mp done
    obtain ⟨word, password, written⟩ := Report.bind_eq_ok_iff.mp behind
    obtain ⟨nameFits, rfl⟩ := fieldBytes_eq_ok_iff.mp username
    obtain ⟨wordFits, rfl⟩ := fieldBytes_eq_ok_iff.mp password
    exact ⟨nameFits, wordFits, (Except.ok.inj written).symm⟩
  · rintro ⟨nameFits, wordFits, rfl⟩
    rw [fieldBytes_eq_ok_iff.mpr ⟨nameFits, rfl⟩, fieldBytes_eq_ok_iff.mpr ⟨wordFits, rfl⟩]
    rfl

theorem get_behind {length count : Nat} {block : Block length} {version counted next : UInt8}
    {name later : List UInt8} (shape : block.bytes = version :: counted :: (name ++ next :: later))
    (size : name.length = count) (inside : 2 + count < length) :
    block.get ⟨2 + count, inside⟩ = next := by
  have found : block.bytes[2 + count]? = some next := by
    rw [shape, ← size, Nat.add_comm, List.getElem?_cons_succ, List.getElem?_cons_succ,
      List.getElem?_append_right (Nat.le_refl _), Nat.sub_self, List.getElem?_cons_zero]
  exact Option.some.inj ((block.getElem?_bytes ⟨2 + count, inside⟩).symm.trans found)

/-- The two texts stand where the counts say. -/
theorem fields_of_frame (version counted next : UInt8) {name word : List UInt8}
    {count size : Nat} (counts : name.length = count) (sizes : word.length = size) :
    ((version :: counted :: (name ++ [next]) ++ word).take (2 + count)).drop 2 = name ∧
      ((version :: counted :: (name ++ [next]) ++ word).take (3 + count + size)).drop (3 + count) =
        word := by
  constructor
  · rw [List.drop_take, Nat.add_sub_cancel_left, List.cons_append, List.cons_append,
      List.drop_succ_cons, List.drop_succ_cons, List.drop_zero, List.append_assoc,
      List.take_left' counts]
  · have front : (version :: counted :: (name ++ [next])).length = 3 + count := by
      simp only [List.length_cons, List.length_append, List.length_nil]
      omega
    rw [List.drop_take, Nat.add_sub_cancel_left, List.drop_left' front,
      List.take_of_length_le (Nat.le_of_eq sizes)]

private theorem count_inside (count : UInt8) : 2 + count.toNat < max 2 (3 + count.toNat) := by
  omega

/-- The second reading gets the username and the byte that counts the password. -/
private theorem front_of_half {version count : UInt8} {front : List UInt8}
    {half : Block (max 2 (3 + count.toNat))} (start : half.bytes = version :: count :: front) :
    ∃ name last, front = name ++ [last] ∧ name.length = count.toNat ∧
      half.get ⟨2 + count.toNat, count_inside count⟩ = last := by
  have size := half.length_bytes
  simp only [start, List.length_cons] at size
  obtain ⟨name, last, rfl⟩ : ∃ name last, front = name ++ [last] := by
    refine ⟨_, _, (List.dropLast_concat_getLast (l := front) ?_).symm⟩
    rintro rfl
    rw [List.length_nil] at size
    omega
  rw [List.length_append, List.length_singleton] at size
  have counted : name.length = count.toNat := by omega
  exact ⟨name, last, rfl, counted, get_behind start counted _⟩

/-- The readings of a credential end behind a wrong version, or they get the two texts
that are counted, and the outcome is what the texts spell. -/
theorem takes_credential_readings {outcome : Except Rejection Credential} :
    Takes Credential.decoder frame outcome ↔
      (∃ version next, frame = [version, next] ∧ version ≠ Protocol.loginVersion ∧
        outcome = .error (.badVersion Protocol.loginVersion version)) ∨
      (∃ count size name word, name.length = count.toNat ∧ word.length = size.toNat ∧
        frame = Protocol.loginVersion :: count :: name ++ size :: word ∧ outcome = (do
          let username ← Credential.readField .username name
          let password ← Credential.readField .password word
          return ⟨Protocol.loginVersion, username, password⟩)) := by
  simp only [Credential.decoder, Block.bytes_slice]
  simp only [takes_readPrefix_bind_iff, Block.exists_two_iff, Block.two_mk,
    takes_checkVersion_bind_iff]
  constructor
  · rintro ⟨version, count, back, rfl, ⟨rfl, taken⟩ | ⟨wrong, rfl, same⟩⟩
    · right
      simp only [takes_readRemainder_bind_iff] at taken
      obtain ⟨half, front, _, start, rfl, full, word, later, whole, rfl, taken⟩ := taken
      obtain ⟨name, size, rfl, counted, behind⟩ := front_of_half start
      have total := length_of_remainder whole
      rw [behind] at total
      have sized : word.length = size.toNat := by omega
      obtain ⟨nameThere, wordThere⟩ : (full.bytes.take (2 + count.toNat)).drop 2 = name ∧
          (full.bytes.take (3 + count.toNat + (half.get
            ⟨2 + count.toNat, count_inside count⟩).toNat)).drop (3 + count.toNat) = word := by
        rw [whole, start, behind]
        exact fields_of_frame _ count size counted sized
      simp only [nameThere, wordThere] at taken
      obtain ⟨rfl, read⟩ := (takes_judgment_iff takes_outcome_iff
        (takes_judgment_iff takes_outcome_iff takes_reported_iff)).mp taken
      refine ⟨count, size, name, word, counted, sized, ?_, read⟩
      simp [Versioned.version]
    · exact .inl ⟨version, count, rfl, wrong, same⟩
  · rintro (⟨version, next, rfl, wrong, rfl⟩ | ⟨count, size, name, word, counted, sized, rfl, rfl⟩)
    · exact ⟨version, next, [], rfl, .inr ⟨wrong, rfl, rfl⟩⟩
    · obtain ⟨nameThere, wordThere⟩ :=
        fields_of_frame Protocol.loginVersion count size counted sized
      let half : Block (max 2 (3 + count.toNat)) :=
        ⟨Protocol.loginVersion :: count :: (name ++ [size]), by
          simp only [List.length_cons, List.length_append, List.length_nil]
          omega⟩
      have behind : half.get ⟨2 + count.toNat, count_inside count⟩ = size := get_behind rfl counted _
      refine ⟨_, count, (name ++ [size]) ++ word, by simp [Versioned.version], .inl ⟨rfl, ?_⟩⟩
      simp only [takes_readRemainder_bind_iff]
      refine ⟨half, name ++ [size], word, rfl, rfl, ⟨half.bytes ++ word, ?_⟩, word, [], rfl,
        (List.append_nil _).symm, ?_⟩
      · rw [behind]
        simp only [half, List.length_append, List.length_cons, List.length_nil]
        omega
      · simp only [behind, half, nameThere, wordThere]
        exact (takes_judgment_iff takes_outcome_iff
          (takes_judgment_iff takes_outcome_iff takes_reported_iff)).mpr ⟨rfl, rfl⟩

/-- The readings of a credential find the texts whose bytes are counted. -/
private theorem takes_credential_pieces {login : Credential} :
    Takes Credential.decoder frame (.ok login) ↔
      ∃ count next : UInt8, (bytes login.username).length = count.toNat ∧
        (bytes login.password).length = next.toNat ∧ login.version = Protocol.loginVersion ∧
        frame = login.version :: count :: bytes login.username ++ next :: bytes login.password := by
  rw [takes_credential_readings]
  constructor
  · rintro (⟨_, _, _, _, same⟩ | ⟨count, next, name, word, counted, sized, rfl, read⟩)
    · cases same
    · obtain ⟨username, nameRead, behind⟩ := Report.bind_eq_ok_iff.mp read.symm
      obtain ⟨password, wordRead, same⟩ := Report.bind_eq_ok_iff.mp behind
      cases same
      cases readField_eq_ok_iff.mp nameRead
      cases readField_eq_ok_iff.mp wordRead
      exact ⟨count, next, counted, sized, rfl, rfl⟩
  · obtain ⟨version, username, password⟩ := login
    rintro ⟨count, next, counted, sized, rfl, rfl⟩
    refine .inr ⟨count, next, _, _, counted, sized, rfl, ?_⟩
    rw [readField_eq_ok_iff.mpr rfl, readField_eq_ok_iff.mpr rfl]
    rfl

/-- A credential of the known version is taken from what it is written as. -/
theorem takes_credential_iff {login : Credential} :
    Takes Credential.decoder frame (.ok login) ↔
      login.version = Protocol.loginVersion ∧ login.message.outcome = .ok frame := by
  simp only [takes_credential_pieces, credential_message_eq_ok_iff, eq_toNat_iff]
  constructor
  · rintro ⟨_, _, ⟨nameFits, rfl⟩, ⟨wordFits, rfl⟩, known, rfl⟩
    exact ⟨known, nameFits, wordFits, rfl⟩
  · rintro ⟨known, nameFits, wordFits, rfl⟩
    exact ⟨_, _, ⟨nameFits, rfl⟩, ⟨wordFits, rfl⟩, known, rfl⟩

theorem status_message_eq_ok_iff {status : LoginStatus} :
    status.message.outcome = .ok frame ↔ frame = [status.version, status.code] := by
  simp [LoginStatus.message, eq_comm]

/-- A status of the known version is taken from what it is written as. -/
theorem takes_status_iff {status : LoginStatus} :
    Takes LoginStatus.decoder frame (.ok status) ↔
      status.version = Protocol.loginVersion ∧ status.message.outcome = .ok frame := by
  have taken : Takes LoginStatus.decoder frame (.ok status) ↔
      ∃ code, frame = [Versioned.status.version, code] ∧
        status = ⟨Versioned.status.version, code⟩ := by
    simp [LoginStatus.decoder, Block.exists_two_iff]
  rw [taken, status_message_eq_ok_iff]
  constructor
  · rintro ⟨code, rfl, rfl⟩
    exact ⟨rfl, rfl⟩
  · obtain ⟨version, code⟩ := status
    rintro ⟨rfl, rfl⟩
    exact ⟨code, rfl, rfl⟩

/-! ## Requests and replies -/

/-- The readings of a request or a reply end behind a head that is refused, or they get
an address, and the outcome is what its bytes are decoded to. -/
theorem takes_exchange_readings {outcome : Except Rejection (UInt8 × Address)} :
    Takes Exchange.decoder frame outcome ↔
      ∃ version code reserved type next later,
        frame = version :: code :: reserved :: type :: next :: later ∧
        ((version ≠ Protocol.version ∧ later = [] ∧
          outcome = .error (.badVersion Protocol.version version)) ∨
        (version = Protocol.version ∧ later = [] ∧ ∃ rejection,
          (Address.frameLength type next).outcome = .error rejection ∧ outcome = .error rejection) ∨
        (version = Protocol.version ∧
          (Address.frameLength type next).outcome = .ok (type :: next :: later).length ∧
          outcome = (do
            let address ← (Address.decode (type :: next :: later)).outcome
            return (code, address)))) := by
  simp only [Exchange.decoder, Protocol.addressedHeadLength, takes_readPrefix_bind_iff,
    Block.exists_five_iff, Block.five_mk, takes_checkVersion_bind_iff, takes_ofReport_bind_iff]
  constructor
  · rintro ⟨version, code, reserved, type, next, later, rfl, taken⟩
    refine ⟨version, code, reserved, type, next, later, rfl, ?_⟩
    rcases taken with ⟨rfl, ⟨length, announced, taken⟩ | ⟨rejection, unknown, rfl, same⟩⟩ |
      ⟨wrong, rfl, same⟩
    · right; right
      rw [takes_readRemainder_bind_iff] at taken
      obtain ⟨full, middle, behind, whole, rfl, taken⟩ := taken
      have exactly : (type :: next :: middle).length = length := by
        have four := four_le_frameLength announced
        have size := length_of_remainder whole
        simp only [List.length_cons]
        omega
      have read := (takes_judgment_iff takes_ofReport_iff takes_pure_iff).mp taken
      rw [whole] at read
      obtain ⟨rfl, rfl⟩ := read
      rw [List.append_nil]
      exact ⟨rfl, exactly ▸ announced, rfl⟩
    · exact .inr (.inl ⟨rfl, rfl, rejection, unknown, same⟩)
    · exact .inl ⟨wrong, rfl, same⟩
  · rintro ⟨version, code, reserved, type, next, later, rfl, taken⟩
    refine ⟨version, code, reserved, type, next, later, rfl, ?_⟩
    rcases taken with ⟨wrong, rfl, same⟩ | ⟨rfl, rfl, rejection, unknown, same⟩ |
      ⟨rfl, announced, rfl⟩
    · exact .inr ⟨wrong, rfl, same⟩
    · exact .inl ⟨rfl, .inr ⟨rejection, unknown, rfl, same⟩⟩
    · have four := four_le_frameLength announced
      let full : Block (max 5 (3 + (type :: next :: later).length)) :=
        ⟨Protocol.version :: code :: reserved :: type :: next :: later, by
          simp only [List.length_cons] at four ⊢
          omega⟩
      refine .inl ⟨rfl, .inl ⟨_, announced, takes_readRemainder_bind_iff.mpr ?_⟩⟩
      refine ⟨full, later, [], rfl, (List.append_nil _).symm, ?_⟩
      exact (takes_judgment_iff takes_ofReport_iff takes_pure_iff).mpr ⟨rfl, rfl⟩

/-- What requests and replies share is taken from any reserved byte and the wire form
of an address. -/
theorem takes_exchange_iff {code : UInt8} {address : Address} :
    Takes Exchange.decoder frame (.ok (code, address)) ↔
      ∃ reserved encoded, frame = Protocol.version :: code :: reserved :: encoded ∧
        WireForm encoded address := by
  rw [takes_exchange_readings]
  constructor
  · rintro ⟨version, other, reserved, type, next, later, rfl, ⟨_, _, same⟩ | ⟨_, _, _, _, same⟩ |
      ⟨rfl, announced, read⟩⟩
    · cases same
    · cases same
    · obtain ⟨found, known, same⟩ := Report.bind_eq_ok_iff.mp read.symm
      cases same
      exact ⟨reserved, _, rfl, (decode_exact_iff announced).mp known⟩
  · rintro ⟨reserved, encoded, rfl, form⟩
    obtain ⟨type, next, body, rfl, announced⟩ := announced_of_wireForm form
    refine ⟨_, code, reserved, type, next, body, rfl, .inr (.inr ⟨rfl, announced, ?_⟩)⟩
    rw [(decode_exact_iff announced).mpr form]
    rfl

theorem exchange_toBytes_eq_ok_iff {code : UInt8} {address : Address}
    (canonical : Canonical address) :
    Exchange.toBytes code address = .ok frame ↔ ∃ encoded, WireForm encoded address ∧
      frame = Protocol.version :: code :: Protocol.reserved :: encoded := by
  simp only [← toBytes_eq_ok_iff canonical, Exchange.toBytes]
  cases address.toBytes with
  | ok encoded => simp [bind, Except.bind, pure, Except.pure, eq_comm]
  | error rejection => simp [bind, Except.bind]

/-- Writing puts zero where reading looks at nothing. -/
theorem takes_exchange_iff_toBytes {code : UInt8} {address : Address} :
    Takes Exchange.decoder frame (.ok (code, address)) ↔ Obtainable address ∧
      Exchange.toBytes code address = .ok (frame.set 2 Protocol.reserved) := by
  rw [takes_exchange_iff, obtainable_iff_canonical]
  constructor
  · rintro ⟨reserved, encoded, rfl, form⟩
    have canonical := canonical_of_wireForm form
    exact ⟨canonical, (exchange_toBytes_eq_ok_iff canonical).mpr ⟨encoded, form, rfl⟩⟩
  · rintro ⟨canonical, written⟩
    obtain ⟨encoded, form, shape⟩ := (exchange_toBytes_eq_ok_iff canonical).mp written
    match frame with
    | version :: other :: reserved :: rest =>
      simp only [List.set_cons_succ, List.set_cons_zero, List.cons.injEq] at shape
      obtain ⟨rfl, rfl, -, rfl⟩ := shape
      exact ⟨reserved, rest, rfl, form⟩

/-- Bytes that differ from what is written in the reserved byte alone hold the wire form of the
address. -/
theorem wireForm_of_exchange {code : UInt8} {address : Address} (obtainable : Obtainable address)
    (written : Exchange.toBytes code address = .ok (frame.set 2 Protocol.reserved)) :
    ∃ reserved encoded, frame = Protocol.version :: code :: reserved :: encoded ∧
      WireForm encoded address :=
  takes_exchange_iff.mp (takes_exchange_iff_toBytes.mpr ⟨obtainable, written⟩)

/-- What judges the code behind the address takes no more bytes. -/
private theorem takes_judged_iff {α : Type} {judge : UInt8 × Address → Decoder α} {message : α}
    {code : UInt8} {address : Address}
    (judged : ∀ byte given back, Takes (judge (byte, given)) back (.ok message) →
      back = [] ∧ byte = code ∧ given = address)
    (accepted : Takes (judge (code, address)) [] (.ok message)) :
    Takes (Exchange.decoder >>= judge) frame (.ok message) ↔ Obtainable address ∧
      Exchange.toBytes code address = .ok (frame.set 2 Protocol.reserved) := by
  rw [← takes_exchange_iff_toBytes, takes_bind_iff]
  constructor
  · rintro (⟨⟨byte, given⟩, front, back, rfl, taken, later⟩ | ⟨_, _, rejected⟩)
    · obtain ⟨rfl, rfl, rfl⟩ := judged byte given back later
      rw [List.append_nil]
      exact taken
    · cases rejected
  · intro taken
    exact .inl ⟨_, frame, [], (List.append_nil _).symm, taken, accepted⟩

/-- A request is taken from what it is written as, with any reserved byte. -/
theorem takes_request_iff {request : Request} :
    Takes Request.decoder frame (.ok request) ↔ Obtainable request.address ∧
      request.message.outcome = .ok (frame.set 2 Protocol.reserved) := by
  rw [Request.message, Report.outcome_ofOutcome_log]
  refine takes_judged_iff (fun byte given back taken => ?_) ?_
  · cases known : Command.ofByte? byte with
    | none => simp [known] at taken
    | some command =>
      obtain ⟨rfl, rfl⟩ : back = [] ∧ request = ⟨command, given⟩ := by simpa [known] using taken
      exact ⟨rfl, command_ofByte?_eq_some_iff.mp known, rfl⟩
  · simp [command_ofByte?_eq_some_iff.mpr rfl]

/-- A reply is taken from what it is written as, with any reserved byte. -/
theorem takes_reply_iff {reply : Reply} :
    Takes Reply.decoder frame (.ok reply) ↔ Obtainable reply.address ∧
      reply.message.outcome = .ok (frame.set 2 Protocol.reserved) := by
  rw [Reply.message, Report.outcome_ofOutcome_log]
  refine takes_judged_iff (fun byte given back taken => ?_) ?_
  · cases known : ReplyCode.ofByte byte with
    | error rejection => simp [known] at taken
    | ok code =>
      obtain ⟨rfl, rfl⟩ : back = [] ∧ reply = ⟨code, given⟩ := by simpa [known] using taken
      exact ⟨rfl, replyCode_ofByte_eq_ok_iff.mp known, rfl⟩
  · simp [replyCode_ofByte_eq_ok_iff.mpr rfl]

/-! ## Datagrams -/

private theorem parts_of_frame (high low fragment : UInt8) (encoded payload : List UInt8) :
    ((high :: low :: fragment :: (encoded ++ payload)).take (3 + encoded.length)).drop 3 = encoded ∧
      (high :: low :: fragment :: (encoded ++ payload)).drop (3 + encoded.length) = payload := by
  rw [List.drop_take, Nat.add_sub_cancel_left, Nat.add_comm]
  simp

/-- The bytes that are read behind the head of a datagram are the rest of its address and
its payload. -/
private theorem split_of_announced {type next : UInt8} {length behind : Nat} {middle : List UInt8}
    (announced : (Address.frameLength type next).outcome = .ok length)
    (size : 5 + middle.length = max 5 (3 + length + behind)) :
    ∃ body payload, middle = body ++ payload ∧ (type :: next :: body).length = length ∧
      payload.length = behind := by
  have four := four_le_frameLength announced
  refine ⟨middle.take (length - 2), middle.drop (length - 2),
    (List.take_append_drop ..).symm, ?_, ?_⟩
  · simp only [List.length_cons, List.length_take]
    omega
  · rw [List.length_drop]
    omega

/-- The readings of a datagram end behind a head that is refused, or they get an address
and a payload, and the outcome is what the bytes of the address are decoded to. -/
theorem takes_datagram_readings {outcome : Except Rejection Datagram} :
    Takes Datagram.decoder frame outcome ↔
      ∃ high low fragment type next later,
        frame = high :: low :: fragment :: type :: next :: later ∧
        ((later = [] ∧ ∃ rejection, (Address.frameLength type next).outcome = .error rejection ∧
          outcome = .error rejection) ∨
        (∃ body payload, later = body ++ payload ∧
          (Address.frameLength type next).outcome = .ok (type :: next :: body).length ∧
          payload.length = (BigEndian.join high low).toNat ∧ outcome = (do
            let address ← (Address.decode (type :: next :: body)).outcome
            return ⟨⟨BigEndian.join high low, fragment, address⟩, payload⟩))) := by
  simp only [Datagram.decoder, Block.bytes_slice]
  simp only [Protocol.addressedHeadLength, takes_readPrefix_bind_iff, Block.exists_five_iff,
    Block.five_mk, takes_ofReport_bind_iff]
  constructor
  · rintro ⟨high, low, fragment, type, next, later, rfl, taken⟩
    refine ⟨high, low, fragment, type, next, later, rfl, ?_⟩
    rcases taken with ⟨length, announced, taken⟩ | ⟨rejection, unknown, rfl, same⟩
    · right
      rw [takes_readRemainder_bind_iff] at taken
      obtain ⟨full, middle, behind, whole, rfl, taken⟩ := taken
      obtain ⟨body, payload, rfl, rfl, framed⟩ :=
        split_of_announced announced (length_of_remainder whole)
      obtain ⟨front, back⟩ :
          (full.bytes.take (3 + (type :: next :: body).length)).drop 3 = type :: next :: body ∧
            full.bytes.drop (3 + (type :: next :: body).length) = payload := by
        rw [whole]
        exact parts_of_frame high low fragment (type :: next :: body) payload
      simp only [front, back] at taken
      obtain ⟨rfl, read⟩ := (takes_judgment_iff takes_ofReport_iff takes_reported_iff).mp taken
      rw [List.append_nil]
      exact ⟨body, payload, rfl, announced, framed, read⟩
    · exact .inl ⟨rfl, rejection, unknown, same⟩
  · rintro ⟨high, low, fragment, type, next, later, rfl, taken⟩
    refine ⟨high, low, fragment, type, next, later, rfl, ?_⟩
    rcases taken with ⟨rfl, rejection, unknown, same⟩ | ⟨body, payload, rfl, announced, framed, rfl⟩
    · exact .inr ⟨rejection, unknown, rfl, same⟩
    · have four := four_le_frameLength announced
      let full : Block (max 5 (3 + (type :: next :: body).length + (BigEndian.join high low).toNat)) :=
        ⟨high :: low :: fragment :: (type :: next :: body ++ payload), by
          simp only [framed, List.length_cons, List.length_append] at four ⊢
          omega⟩
      obtain ⟨front, back⟩ := parts_of_frame high low fragment (type :: next :: body) payload
      refine .inl ⟨_, announced, takes_readRemainder_bind_iff.mpr ?_⟩
      refine ⟨full, body ++ payload, [], rfl, (List.append_nil _).symm, ?_⟩
      simp only [full, front, back]
      exact (takes_judgment_iff takes_ofReport_iff takes_reported_iff).mpr ⟨rfl, rfl⟩

/-- The readings of a datagram find the wire form of an address, and behind it as many
bytes as the reserved field says. -/
theorem takes_datagram_pieces {datagram : Datagram} :
    Takes Datagram.decoder frame (.ok datagram) ↔
      ∃ encoded, WireForm encoded datagram.header.address ∧
        datagram.header.reserved.toNat = datagram.payload.length ∧
        frame = BigEndian.bytes datagram.header.reserved ++ datagram.header.fragment :: encoded ++
          datagram.payload := by
  rw [takes_datagram_readings]
  constructor
  · rintro ⟨high, low, fragment, type, next, later, rfl, ⟨_, _, _, same⟩ |
      ⟨body, payload, rfl, announced, framed, read⟩⟩
    · cases same
    · obtain ⟨found, known, same⟩ := Report.bind_eq_ok_iff.mp read.symm
      cases same
      refine ⟨_, (decode_exact_iff announced).mp known, framed.symm, ?_⟩
      simp [BigEndian.bytes]
  · obtain ⟨⟨reserved, fragment, address⟩, payload⟩ := datagram
    rintro ⟨encoded, form, framed, rfl⟩
    obtain ⟨type, next, body, rfl, announced⟩ := announced_of_wireForm form
    refine ⟨BigEndian.high reserved, BigEndian.low reserved, fragment, type, next, body ++ payload,
      rfl, .inr ⟨body, payload, rfl, announced, ?_, ?_⟩⟩
    · rw [BigEndian.join_high_low, framed]
    · rw [(decode_exact_iff announced).mpr form, BigEndian.join_high_low]
      rfl

theorem datagram_outcome_message (datagram : Datagram) :
    datagram.message.outcome = datagram.toBytes := by
  rw [Datagram.message]
  split <;> cases datagram.toBytes <;> rfl

theorem datagram_message_eq_ok_iff {datagram : Datagram}
    (canonical : Canonical datagram.header.address) :
    datagram.message.outcome = .ok frame ↔ datagram.payload.length ≤ 65535 ∧
      ∃ encoded, WireForm encoded datagram.header.address ∧
        frame = BigEndian.bytes datagram.header.reserved ++ datagram.header.fragment :: encoded ++
          datagram.payload := by
  simp only [datagram_outcome_message, ← toBytes_eq_ok_iff canonical, Datagram.toBytes,
    Header.toBytes]
  by_cases short : datagram.payload.length ≤ 65535
  · cases datagram.header.address.toBytes with
    | ok encoded =>
      simp [Datagram.payloadLength, Protocol.maxPayloadLength, short, bind, Except.bind, pure,
        Except.pure, eq_comm]
    | error rejection =>
      simp [Datagram.payloadLength, Protocol.maxPayloadLength, short, bind, Except.bind]
  · simp [Datagram.payloadLength, Protocol.maxPayloadLength, short, bind, Except.bind]

/-- A datagram that announces its payload is taken from what it is written as. -/
theorem takes_datagram_iff {datagram : Datagram} :
    Takes Datagram.decoder frame (.ok datagram) ↔
      (Obtainable datagram.header.address ∧ datagram.isFramed) ∧
        datagram.message.outcome = .ok frame := by
  rw [takes_datagram_pieces, obtainable_iff_canonical, Datagram.isFramed, beq_iff_eq]
  constructor
  · rintro ⟨encoded, form, framed, shape⟩
    have canonical := canonical_of_wireForm form
    have short : datagram.payload.length ≤ 65535 :=
      framed ▸ Nat.le_of_lt_succ datagram.header.reserved.toNat_lt
    exact ⟨⟨canonical, framed⟩,
      (datagram_message_eq_ok_iff canonical).mpr ⟨short, encoded, form, shape⟩⟩
  · rintro ⟨⟨canonical, framed⟩, written⟩
    obtain ⟨-, encoded, form, shape⟩ := (datagram_message_eq_ok_iff canonical).mp written
    exact ⟨encoded, form, framed, shape⟩

/-! ## Messages -/

/-- The wire can tell the message from all others: what is not written has the value
that readers put in its place, and the rest is spelled as readers spell it. -/
def Faithful : Message → Prop
  | .offer _ => True
  | .selection method => Method.ofByte method.toByte = method
  | .credential login => login.version = Protocol.loginVersion
  | .status answer => answer.version = Protocol.loginVersion
  | .request asked => Obtainable asked.address
  | .reply given => Obtainable given.address
  | .datagram relayed => Obtainable relayed.header.address ∧ relayed.isFramed

/-- A frame of a kind as a writer of that kind sets its reserved byte. -/
def clearReserved : Message.Kind → List UInt8 → List UInt8
  | .request, frame | .reply, frame => frame.set 2 Protocol.reserved
  | _, frame => frame

/-- **Readers take what writers write.** A frame is taken as a message just when the
message is of the kind that the reader expects, the wire can tell it from all others,
and it is written as that frame with the reserved byte cleared. -/
theorem takes_iff {kind : Message.Kind} {message : Message} :
    Takes kind.decoder frame (.ok message) ↔ message.kind = kind ∧ Faithful message ∧
      message.encode.outcome = .ok (clearReserved kind frame) := by
  cases kind <;> cases message <;>
    simp [Message.Kind.decoder, Message.kind, Message.encode, Faithful, clearReserved,
      takes_offer_iff, takes_selection_iff, takes_credential_iff, takes_status_iff,
      takes_request_iff, takes_reply_iff, takes_datagram_iff]

/-- Writers clear the reserved byte. -/
theorem clearReserved_encoded {message : Message} (faithful : Faithful message)
    (encoded : message.encode.outcome = .ok frame) : clearReserved message.kind frame = frame := by
  have cleared {code : UInt8} {address : Address} (obtainable : Obtainable address)
      (written : Exchange.toBytes code address = .ok frame) :
      frame.set 2 Protocol.reserved = frame := by
    obtain ⟨_, -, rfl⟩ :=
      (exchange_toBytes_eq_ok_iff (obtainable_iff_canonical.mp obtainable)).mp written
    rfl
  cases message with
  | request asked => exact cleared faithful ((Report.outcome_ofOutcome_log ..).symm.trans encoded)
  | reply given => exact cleared faithful ((Report.outcome_ofOutcome_log ..).symm.trans encoded)
  | _ => rfl

/-- What a faithful message is written as is taken as that message. -/
theorem takes_encoded {message : Message} (faithful : Faithful message)
    (encoded : message.encode.outcome = .ok frame) :
    Takes message.kind.decoder frame (.ok message) :=
  takes_iff.mpr ⟨rfl, faithful, (clearReserved_encoded faithful encoded).symm ▸ encoded⟩

end Socks.Proofs.MessageFrames

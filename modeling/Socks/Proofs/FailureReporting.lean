import Socks.Proofs.FrameRefusals
import Socks.Proofs.SinkWriting
import Socks.Datagram.Packet

/-!
Which errors blame the stream. A reader makes calls that get some bytes each, until one gets
none; `Calls` says how such calls end, apart from any source. All readings of all programs make
calls of this form, so an operation fails with the stream exactly if one of its calls did, with
what that call met; only a call that the runtime makes again is met by another one, and so its
failure is carried to nobody. The other errors are rejections, and none of them refuses a login:
whether a credential is accepted is not for the codec to decide.
-/
namespace Socks.Proofs.FailureReporting

open Wire Transport
open StreamReading FrameReading FrameRefusals

variable {α β : Type}

/-- A call that moves no byte meets the end of the stream, or a failure. -/
inductive MovesNothing : Except Failure Nat → Prop where
  | ended : MovesNothing (.ok 0)
  | failed (failure : Failure) : MovesNothing (.error failure)

theorem movesNothing_ok_iff {count : Nat} : MovesNothing (.ok count) ↔ count = 0 := by
  constructor
  · rintro ⟨⟩
    rfl
  · rintro rfl
    exact .ended

/-! ## Calls of readers -/

/-- The calls of a reader, and the failure that ends them, if any does. -/
inductive Calls [Runtime] : List ReadCall → Option Failure → Prop where
  /-- Nothing is missing. -/
  | complete : Calls [] none
  /-- The call gets some bytes. -/
  | got {wanted count : Nat} {calls : List ReadCall} {ending : Option Failure}
      (positive : 0 < count) (later : Calls calls ending) :
      Calls (⟨wanted, .ok count⟩ :: calls) ending
  /-- The stream is at its end. -/
  | ended (wanted : Nat) : Calls [⟨wanted, .ok 0⟩] (some Failure.earlyEnd)
  /-- The call fails, and the failure is passed on. -/
  | failed (wanted : Nat) {failure : Failure} (final : Runtime.repeats failure = false) :
      Calls [⟨wanted, .error failure⟩] (some failure)
  /-- The call fails and is made again, and then the stream is at its end. -/
  | repeated (wanted : Nat) {failure : Failure} (again : Runtime.repeats failure = true) :
      Calls [⟨wanted, .error failure⟩, ⟨wanted, .ok 0⟩] (some Failure.earlyEnd)

section Forms

variable [Runtime] {calls earlier later : List ReadCall} {ending : Option Failure}

theorem Calls.append {first second : List ReadCall} (one : Calls first none)
    (other : Calls second ending) : Calls (first ++ second) ending := by
  generalize complete : none = stop at one
  induction one with
  | complete => exact other
  | got positive later ih => exact .got positive (ih complete)
  | ended | failed | repeated => cases complete

theorem Calls.suffix {call : ReadCall} (made : Calls (earlier ++ call :: later) ending) :
    Calls (call :: later) ending := by
  induction earlier with
  | nil => exact made
  | cons first between ih =>
    generalize shape : first :: between ++ call :: later = whole at made
    cases made with
    | complete => cases shape
    | got positive behind =>
      cases shape
      exact ih behind
    | ended | failed => simp at shape
    | repeated =>
      -- Only the repeated call has one in front of it.
      cases between with
      | nil =>
        cases shape
        exact .ended _
      | cons => simp at shape

theorem Calls.of_ended {wanted : Nat} (made : Calls (⟨wanted, .ok 0⟩ :: later) ending) :
    later = [] ∧ ending = some Failure.earlyEnd := by
  cases made with
  | got positive behind => exact absurd positive (Nat.lt_irrefl 0)
  | ended => exact ⟨rfl, rfl⟩

/-- A call that fails ends the calls, unless it is made again. -/
theorem Calls.of_failed {wanted : Nat} {failure : Failure}
    (made : Calls (⟨wanted, .error failure⟩ :: later) ending) :
    if Runtime.repeats failure then later = [⟨wanted, .ok 0⟩] ∧ ending = some Failure.earlyEnd
    else later = [] ∧ ending = some failure := by
  cases made with
  | failed _ final =>
    rw [if_neg (Bool.eq_false_iff.mp final)]
    exact ⟨rfl, rfl⟩
  | repeated _ again =>
    rw [if_pos again]
    exact ⟨rfl, rfl⟩

/-- Under a runtime that passes failures on, it always does. -/
theorem Calls.of_failed_passedOn (passesOn : Runtime.PassesOn) {wanted : Nat} {failure : Failure}
    (made : Calls (⟨wanted, .error failure⟩ :: later) ending) :
    later = [] ∧ ending = some failure := by
  have last := made.of_failed
  rwa [if_neg (passesOn.not_repeats failure)] at last

/-- Behind a call that moves nothing, nothing is moved. -/
theorem Calls.takenBy_eq_zero {wanted : Nat} {answer : Except Failure Nat}
    (made : Calls (⟨wanted, answer⟩ :: later) ending) (nothing : MovesNothing answer) :
    takenBy (⟨wanted, answer⟩ :: later) = 0 := by
  cases made with
  | got positive behind => exact absurd (movesNothing_ok_iff.mp nothing) (Nat.ne_of_gt positive)
  | ended | failed | repeated => rfl

theorem Calls.failed_iff (made : Calls calls ending) :
    (∃ failure, ending = some failure) ↔ ∃ call ∈ calls, MovesNothing call.answer := by
  induction made with
  | complete => simp
  | @got wanted count calls ending positive later ih =>
    simp only [List.mem_cons, exists_eq_or_imp, movesNothing_ok_iff]
    exact ih.trans (or_iff_right (Nat.ne_of_gt positive)).symm
  | ended wanted => exact iff_of_true ⟨_, rfl⟩ ⟨_, List.mem_cons_self, .ended⟩
  | failed wanted final => exact iff_of_true ⟨_, rfl⟩ ⟨_, List.mem_cons_self, .failed _⟩
  | repeated wanted again => exact iff_of_true ⟨_, rfl⟩ ⟨_, List.mem_cons_self, .failed _⟩

end Forms

/-! ## Readers -/

/-- The failure that ended a reading. -/
def failureOf : Except Failure α → Option Failure
  | .ok _ => none
  | .error failure => some failure

theorem failureOf_map (outcome : Except Failure α) (convert : α → β) :
    failureOf (outcome.map convert) = failureOf outcome := by
  cases outcome <;> rfl

/-- The failure of the stream that ended an operation, if that is what ended it. -/
def streamFailure : Except CodecError α → Option Failure
  | .error (.failed failure) => some failure
  | _ => none

theorem streamFailure_eq_some_iff {outcome : Except CodecError α} {failure : Failure} :
    streamFailure outcome = some failure ↔ outcome = .error (.failed failure) := by
  rcases outcome with (_ | _) | _ <;> simp [streamFailure]

/-- A reading makes such calls. -/
theorem calls_readChunks [Runtime] (ending : Option Failure) (count : Nat)
    (chunks : List (List UInt8)) :
    let reading := Source.readChunks ending count chunks
    Calls reading.calls (failureOf reading.outcome) := by
  rcases Nat.eq_zero_or_pos count with rfl | positive
  · rw [readChunks_zero]
    exact .complete
  induction chunks generalizing count with
  | nil =>
    rw [readChunks_nil positive]
    cases ending with
    | none => exact .ended count
    | some failure =>
      by_cases again : Runtime.repeats failure
      · simp only [Source.readEnd, if_pos again]
        exact .repeated count again
      · simp only [Source.readEnd, if_neg again]
        exact .failed count (Bool.eq_false_iff.mpr again)
  | cons chunk later ih =>
    cases chunk with
    | nil =>
      rw [readChunks_empty positive]
      exact .ended count
    | cons byte chunk =>
      by_cases short : (byte :: chunk).length < count
      · rw [readChunks_beyond short]
        dsimp only
        rw [failureOf_map]
        exact .got (Nat.succ_pos _) (ih _ (Nat.sub_pos_of_lt short))
      · rw [readChunks_within positive (Nat.le_of_not_lt short)]
        exact .got positive .complete

/-- **A program makes such calls, and it fails with what ends them.** -/
theorem calls_run [Runtime] (program : Decoder α) (source : Source) :
    Calls (program.run source).calls (streamFailure (program.run source).outcome) := by
  induction program generalizing source with
  | done outcome => cases outcome <;> exact .complete
  | log event next ih => exact ih source
  | read count next ih =>
    have made : Calls (source.read count).calls (failureOf (source.read count).outcome) :=
      calls_readChunks source.ending count source.chunks
    rw [Decoder.run]
    cases outcome : (source.read count).outcome with
    | error failure =>
      rw [outcome] at made
      exact made
    | ok block =>
      rw [outcome] at made
      exact made.append (ih block _)

/-! ## Writers -/

/-- A call to a sink that fails: nothing is taken, or what was taken is not flushed. -/
inductive Unsuccessful : WriteCall → Prop where
  | write (offered : Nat) {answer : Except Failure Nat} (nothing : MovesNothing answer) :
      Unsuccessful (.write offered answer)
  | flush (failure : Failure) : Unsuccessful (.flush (.error failure))

theorem unsuccessful_write_iff {offered : Nat} {answer : Except Failure Nat} :
    Unsuccessful (.write offered answer) ↔ MovesNothing answer := by
  constructor
  · rintro ⟨⟩
    assumption
  · exact .write offered

/-- A writer fails with a stream that fails one of its calls. -/
theorem write_failed_iff [Runtime] (sink : Sink) (left : List UInt8) :
    (∃ failure, (sink.write left).outcome = .error (.failed failure)) ↔
      ∃ call ∈ (sink.write left).calls, Unsuccessful call := by
  induction sink, left using Sink.write.induct with
  | case1 sink left empty =>
    rw [Sink.write, dif_pos empty, Sink.flush]
    split
    · exact iff_of_true ⟨_, rfl⟩ ⟨_, List.mem_cons_self, .flush _⟩
    · refine iff_of_false ?_ ?_
      · rintro ⟨failure, failed⟩
        cases failed
      · rintro ⟨call, member, failed⟩
        cases List.mem_singleton.mp member
        cases failed
  | case2 sink left remains nothing =>
    rw [Sink.write, dif_neg remains, dif_pos nothing, Sink.refuse]
    split
    · exact iff_of_true ⟨_, rfl⟩ ⟨_, List.mem_cons_self, .write _ .ended⟩
    · split
      · exact iff_of_true ⟨_, rfl⟩ ⟨_, List.mem_cons_self, .write _ (.failed _)⟩
      · exact iff_of_true ⟨_, rfl⟩ ⟨_, List.mem_cons_self, .write _ (.failed _)⟩
  | case3 sink left remains positive count ih =>
    rw [Sink.write, dif_neg remains, dif_neg positive]
    simp only [List.mem_cons, exists_eq_or_imp, unsuccessful_write_iff, movesNothing_ok_iff]
    exact ih.trans (or_iff_right positive).symm

theorem send_failed_iff [Runtime] (message : Message) (sink : Sink) :
    (∃ failure, (sink.send message.encode).outcome = .error (.failed failure)) ↔
      ∃ call ∈ (sink.send message.encode).calls, Unsuccessful call := by
  rw [Sink.send]
  cases message.encode.outcome with
  | error rejection =>
    refine iff_of_false ?_ ?_
    · rintro ⟨failure, failed⟩
      cases failed
    · rintro ⟨call, member, -⟩
      cases member
  | ok frame => exact write_failed_iff sink frame

/-! ## Rejections -/

/-- The operation does not end because a login is refused. -/
def Loginless (outcome : Except Rejection α) : Prop := outcome ≠ .error .loginRefused

theorem loginless_ok (result : α) : Loginless (.ok result) := by
  intro refused
  cases refused

theorem loginless_error {rejection : Rejection} (other : rejection ≠ .loginRefused) :
    Loginless (.error rejection : Except Rejection α) := by
  intro refused
  exact other (Except.error.inj refused)

theorem loginless_malformed (defect : Malformed) :
    Loginless (.error (.malformed defect) : Except Rejection α) :=
  loginless_error Rejection.noConfusion

theorem loginless_bind {outcome : Except Rejection α} {next : α → Except Rejection β}
    (first : Loginless outcome) (later : ∀ result, Loginless (next result)) :
    Loginless (outcome >>= next) := by
  intro refused
  rcases Report.bind_eq_error_iff.mp refused with refused | ⟨result, -, refused⟩
  · exact first refused
  · exact later result refused

theorem loginless_report_bind {report : Report α} {next : α → Report β}
    (first : Loginless report.outcome) (later : ∀ result, Loginless (next result).outcome) :
    Loginless (report >>= next).outcome := by
  rw [Report.outcome_bind]
  cases ended : report.outcome with
  | ok result => exact later result
  | error rejection => exact fun refused => first (ended.trans (by cases refused; rfl))

theorem loginless_readKind (type : UInt8) : Loginless (Address.readKind type).outcome := by
  unfold Address.readKind
  split
  · exact loginless_ok _
  · exact loginless_error Rejection.noConfusion

theorem loginless_frameLength (type next : UInt8) :
    Loginless (Address.frameLength type next).outcome :=
  loginless_report_bind (loginless_readKind type) fun _ => loginless_ok _

theorem loginless_ofFrame {kind : Address.Kind} {next : UInt8}
    (frame : Block (kind.frameLength next)) : Loginless (Address.ofFrame kind next frame) := by
  unfold Address.ofFrame Address.ofBody
  split
  · exact loginless_ok _
  · split
    · exact loginless_ok _
    · exact loginless_malformed _
  · exact loginless_ok _

theorem loginless_decode (bytes : List UInt8) : Loginless (Address.decode bytes).outcome := by
  unfold Address.decode
  split
  · exact loginless_malformed _
  · refine loginless_report_bind (loginless_readKind _) fun kind => ?_
    dsimp only
    split
    · exact loginless_ofFrame _
    · exact loginless_malformed _

theorem loginless_toBytes (address : Address) : Loginless address.toBytes := by
  simp only [Address.toBytes]
  -- A host is spelled as its kind wants it, or it is the address that is malformed.
  split <;> split <;> first | exact loginless_ok _ | exact loginless_malformed _

theorem loginless_writeOver (address : Address) (buffer : List UInt8) :
    Loginless (address.writeOver buffer).1 := by
  by_cases room : address.encodedLength ≤ buffer.length
  · rw [Address.writeOver_of_room room]
    cases written : address.toBytes with
    | ok bytes => exact loginless_ok _
    | error rejection =>
      intro refused
      cases refused
      exact loginless_toBytes address written
  · rw [Address.writeOver_of_short (Nat.lt_of_not_le room)]
    exact loginless_error Rejection.noConfusion

theorem loginless_writeBehind (address : Address) (buffer : List UInt8) :
    Loginless (address.writeBehind buffer).1 := by
  rw [Address.writeBehind_eq]
  cases written : address.toBytes with
  | ok bytes => exact loginless_ok _
  | error rejection =>
    intro refused
    cases refused
    exact loginless_toBytes address written

theorem loginless_exchange (code : UInt8) (address : Address) :
    Loginless (Exchange.toBytes code address) :=
  loginless_bind (loginless_toBytes address) fun _ => loginless_ok _

theorem loginless_ofByte (byte : UInt8) : Loginless (ReplyCode.ofByte byte) := by
  intro refused
  cases (replyCode_ofByte_eq_error_iff.mp refused).2

theorem loginless_payloadLength (payload : List UInt8) :
    Loginless (Datagram.payloadLength payload) := by
  unfold Datagram.payloadLength
  split
  · exact loginless_ok _
  · exact loginless_malformed _

theorem loginless_datagram (datagram : Datagram) : Loginless datagram.toBytes :=
  loginless_bind (loginless_payloadLength _) fun _ =>
    loginless_bind (loginless_bind (loginless_toBytes _) fun _ => loginless_ok _) fun _ =>
      loginless_ok _

theorem loginless_fieldBytes (field : LoginField) (text : String) :
    Loginless (Credential.fieldBytes field text) := by
  simp only [Credential.fieldBytes]
  split
  · exact loginless_ok _
  · exact loginless_malformed _

theorem loginless_credential (login : Credential) : Loginless login.toBytes :=
  loginless_bind (loginless_fieldBytes _ _) fun _ =>
    loginless_bind (loginless_fieldBytes _ _) fun _ => loginless_ok _

theorem loginless_offer (offer : Offer) : Loginless offer.message.outcome := by
  unfold Offer.message
  split
  · exact loginless_error Rejection.noConfusion
  · split
    · exact loginless_malformed _
    · exact loginless_ok _

theorem loginless_encode (message : Message) : Loginless message.encode.outcome := by
  cases message with
  | offer methods => exact loginless_offer methods
  | selection method => exact loginless_ok _
  | credential login =>
    exact (Report.outcome_ofOutcome_log login.toBytes _).symm ▸ loginless_credential login
  | status answer => exact loginless_ok _
  | request asked =>
    exact (Report.outcome_ofOutcome_log asked.toBytes _).symm ▸ loginless_exchange _ _
  | reply given =>
    exact (Report.outcome_ofOutcome_log given.toBytes _).symm ▸ loginless_exchange _ _
  | datagram relayed =>
    exact (MessageFrames.datagram_outcome_message relayed).symm ▸ loginless_datagram relayed

theorem loginless_decodePacket (framing : Framing) (packet : List UInt8) :
    Loginless (framing.decodePacket packet).outcome := by
  unfold Framing.decodePacket
  split
  · refine loginless_report_bind (loginless_frameLength _ _) fun length => ?_
    refine loginless_report_bind (loginless_decode _) fun address => ?_
    dsimp only
    split
    · exact loginless_ok _
    · exact loginless_malformed _
  · exact loginless_malformed _

theorem loginless_encodePacket (framing : Framing) (datagram : Datagram) :
    Loginless (framing.encodePacket datagram) := by
  simp only [Framing.encodePacket]
  split
  · exact loginless_datagram datagram
  · exact loginless_malformed _

theorem loginless_refused {kind : Message.Kind} {frame : List UInt8}
    {outcome : Except Rejection Message} (taken : Takes kind.decoder frame outcome) :
    Loginless outcome := by
  rintro rfl
  rcases takes_error_iff.mp taken with head | content
  · cases head
  · cases content with
    | code refused form => cases refused

/-- A message is rejected by what encodes it and not by the sink. -/
theorem rejected_of_send [Runtime] {message : Report (List UInt8)} {sink : Sink}
    {rejection : Rejection} (ended : (sink.send message).outcome = .error (.rejected rejection)) :
    message.outcome = .error rejection := by
  cases encoded : message.outcome with
  | ok frame =>
    obtain ⟨ending, -, outcome, -⟩ := SinkWriting.transcript_send sink encoded
    rw [outcome] at ended
    cases ending <;> cases ended
  | error refused =>
    rw [Sink.send, encoded] at ended
    cases ended
    rfl

/-- Some operation of the codec ends with the rejection. -/
inductive Raised [Runtime] (rejection : Rejection) : Prop where
  | reading {kind : Message.Kind} {source : Source}
      (ended : (kind.decoder.run source).outcome = .error (.rejected rejection))
  | writing {message : Message} {sink : Sink}
      (ended : (sink.send message.encode).outcome = .error (.rejected rejection))
  | addressLength {type next : UInt8}
      (ended : (Address.frameLength type next).outcome = .error rejection)
  | addressRead {bytes : List UInt8} (ended : (Address.decode bytes).outcome = .error rejection)
  | addressBytes {address : Address} (ended : address.toBytes = .error rejection)
  | addressOver {address : Address} {buffer : List UInt8}
      (ended : (address.writeOver buffer).1 = .error rejection)
  | addressBehind {address : Address} {buffer : List UInt8}
      (ended : (address.writeBehind buffer).1 = .error rejection)
  | credentialBytes {login : Credential} (ended : login.toBytes = .error rejection)
  | requestBytes {asked : Request} (ended : asked.toBytes = .error rejection)
  | replyBytes {given : Reply} (ended : given.toBytes = .error rejection)
  | replyCode {byte : UInt8} (ended : ReplyCode.ofByte byte = .error rejection)
  | datagramBytes {datagram : Datagram} (ended : datagram.toBytes = .error rejection)
  | framed {fragment : UInt8} {address : Address} {payload : List UInt8}
      (ended : Datagram.framed fragment address payload = .error rejection)
  | packetRead {framing : Framing} {packet : List UInt8}
      (ended : (framing.decodePacket packet).outcome = .error rejection)
  | packetBytes {framing : Framing} {datagram : Datagram}
      (ended : framing.encodePacket datagram = .error rejection)

/-- No operation refuses a login. -/
theorem not_raised_loginRefused [Runtime] : ¬ Raised .loginRefused := by
  intro raised
  cases raised with
  | @reading kind source ended =>
    have taken : Takes kind.decoder _ (.error .loginRefused) := takes_consumed ended
    exact loginless_refused taken rfl
  | writing ended => exact loginless_encode _ (rejected_of_send ended)
  | addressLength ended => exact loginless_frameLength _ _ ended
  | addressRead ended => exact loginless_decode _ ended
  | addressBytes ended => exact loginless_toBytes _ ended
  | addressOver ended => exact loginless_writeOver _ _ ended
  | addressBehind ended => exact loginless_writeBehind _ _ ended
  | credentialBytes ended => exact loginless_credential _ ended
  | requestBytes ended => exact loginless_exchange _ _ ended
  | replyBytes ended => exact loginless_exchange _ _ ended
  | replyCode ended => exact loginless_ofByte _ ended
  | datagramBytes ended => exact loginless_datagram _ ended
  | framed ended =>
    exact loginless_bind (loginless_payloadLength _) (fun _ => loginless_ok _) ended
  | packetRead ended => exact loginless_decodePacket _ _ ended
  | packetBytes ended => exact loginless_encodePacket _ _ ended

/-! ## Errors -/

/-- **Failures of the stream are told apart from all else, and passed on as they are.** A reader
fails with the stream just when one of its calls gets nothing. What it consumed are the bytes of
the calls in front of that one, and what the call met is what the reader gets to know; it is the
last call, unless the runtime makes it once more, and under a runtime that passes failures on it
always is. An error as a failure of a transport is the failure of the stream, or invalid data in
its own words. A writer fails with the stream just when one of its calls does. No operation
refuses a login. -/
theorem failures_of_streams_are_told_apart [Runtime] :
    (∀ (kind : Message.Kind) (source : Source),
      let reception := kind.decoder.run source
      ((∃ failure, reception.outcome = .error (.failed failure)) ↔
        ∃ call ∈ reception.calls, MovesNothing call.answer) ∧
      ∀ earlier wanted answer later,
        reception.calls = earlier ++ ⟨wanted, answer⟩ :: later → MovesNothing answer →
        reception.consumed = takenBy earlier ∧
        reception.rest.bytes = source.bytes.drop (takenBy earlier) ∧
        (answer = .ok 0 → later = [] ∧ reception.outcome = .error (.failed Failure.earlyEnd)) ∧
        ∀ failure, answer = .error failure →
          (if Runtime.repeats failure then
            later = [⟨wanted, .ok 0⟩] ∧ reception.outcome = .error (.failed Failure.earlyEnd)
          else later = [] ∧ reception.outcome = .error (.failed failure)) ∧
          (Runtime.PassesOn → later = [] ∧ reception.outcome = .error (.failed failure))) ∧
    (∀ error : CodecError,
      (error.isFailure = true ↔ ∃ failure, error = .failed failure) ∧
      (∀ failure, error = .failed failure → error.toFailure = failure) ∧
      (error.isFailure = false →
        error.toFailure.kind = .invalidData ∧ error.toFailure.message = error.message)) ∧
    (∀ (message : Message) (sink : Sink),
      let delivery := sink.send message.encode
      (∃ failure, delivery.outcome = .error (.failed failure)) ↔
        ∃ call ∈ delivery.calls, Unsuccessful call) ∧
    (∀ rejection, Raised rejection → rejection ≠ .loginRefused) := by
  refine ⟨?readers, ?errors, send_failed_iff, ?logins⟩
  case readers =>
    intro kind source reception
    have made : Calls reception.calls (streamFailure reception.outcome) :=
      calls_run kind.decoder source
    constructor
    · simp only [← made.failed_iff, streamFailure_eq_some_iff]
    · intro earlier wanted answer later split nothing
      rw [split] at made
      have behind := made.suffix
      have consumed : reception.consumed = takenBy earlier := by
        rw [consumed_eq, split, takenBy_append, behind.takenBy_eq_zero nothing, Nat.add_zero]
      refine ⟨consumed, consumed ▸ run_rest kind.decoder source, ?_, ?_⟩
      · rintro rfl
        simpa only [streamFailure_eq_some_iff] using behind.of_ended
      · rintro failure rfl
        constructor
        · simpa only [streamFailure_eq_some_iff] using behind.of_failed
        · intro passesOn
          simpa only [streamFailure_eq_some_iff] using behind.of_failed_passedOn passesOn
  case errors =>
    intro error
    cases error with
    | failed failure => simp [CodecError.isFailure, CodecError.toFailure]
    | rejected rejection =>
      simp [CodecError.isFailure, CodecError.toFailure, Failure.message, CodecError.message]
  case logins =>
    rintro rejection raised rfl
    exact not_raised_loginRefused raised

/-- A status of which one byte comes in front of a failure, and one in front of the end; a status
to a sink that takes nothing, and an unknown address type. -/
theorem failures_of_two_streams_are_told_apart :
    let _ : Runtime := .direct
    let failure : Failure := ⟨.connectionReset, some "reset"⟩
    let failed := Message.Kind.status.decoder.run ⟨[[1]], some failure⟩
    let ended := Message.Kind.status.decoder.run ⟨[[1]], none⟩
    let delivery := Sink.send ⟨none, some 0, none, none⟩ (Message.status ⟨1, 0⟩).encode
    (failed.calls = [⟨2, .ok 1⟩, ⟨1, .error failure⟩] ∧
      failed.outcome = .error (.failed failure) ∧ failed.consumed = 1) ∧
    (ended.calls = [⟨2, .ok 1⟩, ⟨1, .ok 0⟩] ∧
      ended.outcome = .error (.failed ⟨.unexpectedEof, some "early eof"⟩) ∧ ended.consumed = 1) ∧
    (CodecError.failed failure).toFailure = failure ∧
    (CodecError.rejected (.badAddressType 9)).toFailure.message = "Bad address type: 9" ∧
    delivery.calls = [.write 2 (.ok 0)] ∧
    (∃ met, delivery.outcome = .error (.failed met)) ∧
    Raised (.badAddressType 9) ∧ Rejection.badAddressType 9 ≠ .loginRefused := by
  intro _ failure failed ended delivery
  obtain ⟨readers, errors, writers, logins⟩ := failures_of_streams_are_told_apart
  have calls : failed.calls = [⟨2, .ok 1⟩, ⟨1, .error failure⟩] := by decide +kernel
  have callsToEnd : ended.calls = [⟨2, .ok 1⟩, ⟨1, .ok 0⟩] := by decide +kernel
  have writes : delivery.calls = [.write 2 (.ok 0)] := by cbv
  obtain ⟨-, met⟩ := readers .status ⟨[[1]], some failure⟩
  obtain ⟨consumed, -, -, passed⟩ := met [⟨2, .ok 1⟩] 1 (.error failure) [] calls (.failed failure)
  obtain ⟨-, carried⟩ := (passed failure rfl).2 Runtime.direct_passesOn
  obtain ⟨-, met⟩ := readers .status ⟨[[1]], none⟩
  obtain ⟨consumedToEnd, -, early, -⟩ := met [⟨2, .ok 1⟩] 1 (.ok 0) [] callsToEnd .ended
  obtain ⟨-, kept, -⟩ := errors (.failed failure)
  obtain ⟨-, -, worded⟩ := errors (.rejected (.badAddressType 9))
  have refused : Raised (.badAddressType 9) := @Raised.addressLength _ _ 9 0 rfl
  refine ⟨⟨calls, carried, consumed⟩, ⟨callsToEnd, (early rfl).2, consumedToEnd⟩,
    kept failure rfl, (worded rfl).2.trans (by decide), writes,
    (writers (.status ⟨1, 0⟩) _).mpr ⟨.write 2 (.ok 0), ?_, .write 2 .ended⟩, refused,
    logins _ refused⟩
  rw [writes]
  exact List.mem_singleton_self _

/-- Where interrupted calls are made again, the failure of such a call is neither the last thing
that the reader meets nor what it gets to know. -/
theorem interrupted_reading_is_made_again :
    let _ : Runtime := .persistent
    let failure : Failure := ⟨.interrupted, some "eintr"⟩
    let reception := Message.Kind.selection.decoder.run ⟨[[5]], some failure⟩
    reception.calls = [⟨2, .ok 1⟩, ⟨1, .error failure⟩, ⟨1, .ok 0⟩] ∧
      reception.outcome = .error (.failed ⟨.unexpectedEof, some "early eof"⟩) ∧
      reception.outcome ≠ .error (.failed failure) := by
  decide +kernel

end Socks.Proofs.FailureReporting

import Socks.Proofs.FrameRefusals

/-!
The grammar of requests and replies, as the outcomes that it gives to the byte strings
behind which a stream is closed. The cases of `Verdict` stand in the order in which they
take precedence: each says of the byte string what the cases before it leave open. A
reader gives the outcome of the grammar and no other one; so there is always one, and
the reserved byte and whatever is behind the address have no part in it.
-/
namespace Socks.Proofs.ExchangeGrammar

open Text Wire Transport
open AddressCodec StreamReading FrameReading MessageFrames ReadDemand FrameRefusals
open Socks (Address)

/-- The code and the address of a request or a reply. -/
inductive Carries : Message → UInt8 → Address → Prop where
  | request (asked : Request) : Carries (.request asked) asked.command.toByte asked.address
  | reply (given : Reply) : Carries (.reply given) given.code.toByte given.address

/-- What the grammar of a kind makes of the bytes of a closed stream. -/
inductive Verdict (kind : Message.Kind) : List UInt8 → Except CodecError Message → Prop where
  | headMissing {bytes : List UInt8} (short : bytes.length < 5) :
      Verdict kind bytes (.error (.failed Failure.earlyEnd))
  | version {version code reserved type next : UInt8} {later : List UInt8}
      (wrong : version ≠ Protocol.version) :
      Verdict kind (version :: code :: reserved :: type :: next :: later)
        (.error (.rejected (.badVersion Protocol.version version)))
  | addressType {code reserved type next : UInt8} {later : List UInt8}
      (unknown : type ∉ ([1, 3, 4] : List UInt8)) :
      Verdict kind (Protocol.version :: code :: reserved :: type :: next :: later)
        (.error (.rejected (.badAddressType type)))
  | restMissing {code reserved type next : UInt8} {later : List UInt8} {length : Nat}
      (announces : (Address.frameLength type next).outcome = .ok length)
      (short : (Protocol.version :: code :: reserved :: type :: next :: later).length < 3 + length) :
      Verdict kind (Protocol.version :: code :: reserved :: type :: next :: later)
        (.error (.failed Failure.earlyEnd))
  | name {code reserved : UInt8} {encoded past : List UInt8} (illegible : IllegibleDomain encoded) :
      Verdict kind (Protocol.version :: code :: reserved :: encoded ++ past)
        (.error (.rejected (.malformed .domainNotUtf8)))
  | code {code reserved : UInt8} {encoded past : List UInt8} {address : Address}
      {rejection : Rejection} (form : WireForm encoded address)
      (unknown : RefusedCode kind code rejection) :
      Verdict kind (Protocol.version :: code :: reserved :: encoded ++ past)
        (.error (.rejected rejection))
  | accepted {code reserved : UInt8} {encoded past : List UInt8} {address : Address}
      {message : Message} (form : WireForm encoded address) (expected : message.kind = kind)
      (carries : Carries message code address) :
      Verdict kind (Protocol.version :: code :: reserved :: encoded ++ past) (.ok message)

variable {kind : Message.Kind} {frame bytes : List UInt8}

section Carried

variable {message : Message} {code : UInt8} {address : Address}

theorem exists_carries (exchanged : Exchanged message.kind) :
    ∃ code address, Carries message code address := by
  cases message with
  | request asked => exact ⟨_, _, .request asked⟩
  | reply given => exact ⟨_, _, .reply given⟩
  | _ => simp [Exchanged, Message.kind] at exchanged

theorem Carries.faithful_iff (carries : Carries message code address) :
    Faithful message ↔ Obtainable address := by
  cases carries <;> exact Iff.rfl

theorem Carries.outcome_encode (carries : Carries message code address) :
    message.encode.outcome = Exchange.toBytes code address := by
  cases carries <;> exact Report.outcome_ofOutcome_log ..

end Carried

theorem clearReserved_exchanged (exchanged : Exchanged kind) :
    clearReserved kind frame = frame.set 2 Protocol.reserved := by
  rcases exchanged with rfl | rfl <;> rfl

/-- A message is taken from its code, any reserved byte and the wire form of its address. -/
theorem takes_accepted_iff (exchanged : Exchanged kind) {message : Message} :
    Takes kind.decoder frame (.ok message) ↔ message.kind = kind ∧
      ∃ code address reserved encoded, Carries message code address ∧ WireForm encoded address ∧
        frame = Protocol.version :: code :: reserved :: encoded := by
  rw [takes_iff]
  constructor
  · rintro ⟨rfl, faithful, encoded⟩
    obtain ⟨code, address, carries⟩ := exists_carries exchanged
    rw [carries.faithful_iff] at faithful
    rw [carries.outcome_encode, clearReserved_exchanged exchanged] at encoded
    obtain ⟨reserved, wire, shape, form⟩ := wireForm_of_exchange faithful encoded
    exact ⟨rfl, code, address, reserved, wire, carries, form, shape⟩
  · rintro ⟨rfl, code, address, reserved, encoded, carries, form, rfl⟩
    have taken : Takes Exchange.decoder (Protocol.version :: code :: reserved :: encoded)
        (.ok (code, address)) := takes_exchange_iff.mpr ⟨reserved, encoded, rfl, form⟩
    obtain ⟨obtainable, written⟩ := takes_exchange_iff_toBytes.mp taken
    refine ⟨rfl, carries.faithful_iff.mpr obtainable, carries.outcome_encode.trans ?_⟩
    rwa [clearReserved_exchanged exchanged]

/-- What is taken whole is judged so, whatever is behind it. -/
theorem verdict_of_takes (exchanged : Exchanged kind) {outcome : Except Rejection Message}
    (taken : Takes kind.decoder frame outcome) (past : List UInt8) :
    Verdict kind (frame ++ past) (outcome.mapError .rejected) := by
  cases outcome with
  | ok message =>
    obtain ⟨expected, code, address, reserved, encoded, carries, form, rfl⟩ :=
      (takes_accepted_iff exchanged).mp taken
    exact .accepted form expected carries
  | error rejection =>
    rcases takes_error_iff.mp taken with refused | refused
    · obtain ⟨version, code, reserved, type, next, rfl, ⟨wrong, rfl⟩ | ⟨rfl, unknown, rfl⟩⟩ :=
        (refusedHead_exchanged_iff exchanged).mp refused
      · exact .version wrong
      · exact .addressType unknown
    · obtain ⟨code, reserved, encoded, rfl, ⟨address, form, unknown⟩ | ⟨illegible, rfl⟩⟩ :=
        (refusedContent_exchanged_iff exchanged).mp refused
      · exact .code form unknown
      · exact .name illegible

/-- What is taken is a head that is refused, or it is read up to the end of its address. -/
theorem shape_of_takes (exchanged : Exchanged kind) {outcome : Except Rejection Message}
    (taken : Takes kind.decoder frame outcome) :
    (∃ rejection, RefusedHead kind frame rejection) ∨
      ∃ code reserved encoded, frame = Protocol.version :: code :: reserved :: encoded ∧
        Whole encoded := by
  cases outcome with
  | ok message =>
    obtain ⟨-, code, address, reserved, encoded, -, form, rfl⟩ :=
      (takes_accepted_iff exchanged).mp taken
    exact .inr ⟨code, reserved, encoded, rfl, announced_of_wireForm form⟩
  | error rejection =>
    rcases takes_error_iff.mp taken with refused | refused
    · exact .inl ⟨rejection, refused⟩
    · obtain ⟨code, reserved, encoded, rfl, ⟨address, form, -⟩ | ⟨illegible, -⟩⟩ :=
        (refusedContent_exchanged_iff exchanged).mp refused
      · exact .inr ⟨code, reserved, encoded, rfl, announced_of_wireForm form⟩
      · exact .inr ⟨code, reserved, encoded, rfl, whole_of_illegibleDomain illegible⟩

/-- The proper prefixes of what is taken are those that the grammar finds too short. -/
theorem verdict_of_part (exchanged : Exchanged kind) {outcome : Except Rejection Message}
    {missing : List UInt8} (lacking : missing ≠ [])
    (taken : Takes kind.decoder (bytes ++ missing) outcome) :
    Verdict kind bytes (.error (.failed Failure.earlyEnd)) := by
  by_cases short : bytes.length < 5
  · exact .headMissing short
  have positive := List.length_pos_iff.mpr lacking
  have five := exchanged.headLength_eq
  rcases shape_of_takes exchanged taken with ⟨rejection, refused⟩ |
    ⟨code, reserved, encoded, shape, type, next, body, rfl, announces⟩
  · have size := length_of_refusedHead refused
    rw [List.length_append] at size
    omega
  · match bytes with
    | version :: other :: filler :: kindByte :: count :: later =>
      have size := congrArg List.length shape
      simp only [List.cons_append, List.cons.injEq] at shape
      obtain ⟨rfl, rfl, rfl, rfl, rfl, rfl⟩ := shape
      refine .restMissing announces ?_
      simp only [List.length_cons, List.length_append] at size ⊢
      omega
    | [] | [_] | [_, _] | [_, _, _] | [_, _, _, _] => simp at short

/-- What the grammar finds too short does not start with anything that is taken. -/
theorem not_takes_of_verdict (exchanged : Exchanged kind) {outcome : Except Rejection Message}
    {behind : List UInt8} (taken : Takes kind.decoder frame outcome) :
    ¬ Verdict kind (frame ++ behind) (.error (.failed Failure.earlyEnd)) := by
  generalize whole : frame ++ behind = bytes
  intro verdict
  have five := exchanged.headLength_eq
  have shape := shape_of_takes exchanged taken
  cases verdict with
  | headMissing short =>
    have size := congrArg List.length whole
    rw [List.length_append] at size
    rcases shape with ⟨rejection, refused⟩ | ⟨code, reserved, encoded, rfl, type, next, body, rfl, -⟩
    · have head := length_of_refusedHead refused
      omega
    · simp only [List.length_cons] at size
      omega
  | restMissing announces short =>
    rcases shape with ⟨rejection, refused⟩ | ⟨code, reserved, encoded, rfl, type, next, body, rfl, known⟩
    · obtain ⟨version, code, reserved, type, next, rfl, judged⟩ :=
        (refusedHead_exchanged_iff exchanged).mp refused
      simp only [List.cons_append, List.cons.injEq] at whole
      obtain ⟨rfl, rfl, rfl, rfl, rfl, -⟩ := whole
      rcases judged with ⟨wrong, -⟩ | ⟨-, unknown, -⟩
      · exact wrong rfl
      · rw [frameLength_eq_error_iff.mpr ⟨unknown, rfl⟩] at announces
        cases announces
    · simp only [List.cons_append, List.cons.injEq] at whole
      obtain ⟨-, rfl, rfl, rfl, rfl, rfl⟩ := whole
      have same := Except.ok.inj (known.symm.trans announces)
      simp only [List.length_cons, List.length_append] at same short
      omega

/-- The grammar judges a closed stream by the frame in front of it, or finds it too short. -/
theorem verdict_iff (exchanged : Exchanged kind) {reached : Except CodecError Message} :
    Verdict kind bytes reached ↔
      (∃ frame behind outcome, bytes = frame ++ behind ∧ Takes kind.decoder frame outcome ∧
        reached = outcome.mapError .rejected) ∨
      (∃ missing outcome, missing ≠ [] ∧ Takes kind.decoder (bytes ++ missing) outcome ∧
        reached = .error (.failed Failure.earlyEnd)) := by
  constructor
  · have part (short : Verdict kind bytes (.error (.failed Failure.earlyEnd))) :
        ∃ missing outcome, missing ≠ [] ∧ Takes kind.decoder (bytes ++ missing) outcome := by
      rcases front_or_part kind.decoder bytes with ⟨frame, behind, outcome, rfl, taken⟩ | found
      · exact absurd short (not_takes_of_verdict exchanged taken)
      · exact found
    intro verdict
    cases verdict with
    | headMissing short =>
      obtain ⟨missing, outcome, lacking, taken⟩ := part (.headMissing short)
      exact .inr ⟨missing, outcome, lacking, taken, rfl⟩
    | restMissing announces short =>
      obtain ⟨missing, outcome, lacking, taken⟩ := part (.restMissing announces short)
      exact .inr ⟨missing, outcome, lacking, taken, rfl⟩
    | @version version code reserved type next later wrong =>
      have refused : RefusedHead kind [version, code, reserved, type, next]
          (.badVersion Protocol.version version) :=
        (refusedHead_exchanged_iff exchanged).mpr ⟨_, _, _, _, _, rfl, .inl ⟨wrong, rfl⟩⟩
      exact .inl ⟨_, later, .error _, rfl, takes_error_iff.mpr (.inl refused), rfl⟩
    | @addressType code reserved type next later unknown =>
      have refused : RefusedHead kind [Protocol.version, code, reserved, type, next]
          (.badAddressType type) := .addressType (.inl ⟨exchanged, rfl⟩) unknown
      exact .inl ⟨_, later, .error _, rfl, takes_error_iff.mpr (.inl refused), rfl⟩
    | name illegible =>
      refine .inl ⟨_, _, .error _, rfl, takes_error_iff.mpr (.inr ?_), rfl⟩
      exact .exchangedName exchanged illegible
    | code form unknown =>
      exact .inl ⟨_, _, .error _, rfl, takes_error_iff.mpr (.inr (.code unknown form)), rfl⟩
    | accepted form expected carries =>
      refine .inl ⟨_, _, .ok _, rfl, (takes_accepted_iff exchanged).mpr ⟨expected, ?_⟩, rfl⟩
      exact ⟨_, _, _, _, carries, form, rfl⟩
  · rintro (⟨frame, behind, outcome, rfl, taken, rfl⟩ | ⟨missing, outcome, lacking, taken, rfl⟩)
    · exact verdict_of_takes exchanged taken behind
    · exact verdict_of_part exchanged lacking taken

/-! ## What has no influence -/

/-- The reserved byte is not looked at, be the bytes complete or not. -/
theorem verdict_set_reserved {reached : Except CodecError Message} {reserved : UInt8}
    (verdict : Verdict kind bytes reached) : Verdict kind (bytes.set 2 reserved) reached := by
  cases verdict with
  | headMissing short => exact .headMissing (by rwa [List.length_set])
  | version wrong => exact .version wrong
  | addressType unknown => exact .addressType unknown
  | restMissing announces short => exact .restMissing announces short
  | name illegible => exact .name illegible
  | code form unknown => exact .code form unknown
  | accepted form expected carries => exact .accepted form expected carries

/-- Behind the end of the address nothing is looked at. -/
theorem verdict_behind (exchanged : Exchanged kind) {version code reserved : UInt8}
    {encoded past other : List UInt8} {reached : Except CodecError Message} (whole : Whole encoded)
    (verdict : Verdict kind (version :: code :: reserved :: encoded ++ past) reached) :
    Verdict kind (version :: code :: reserved :: encoded ++ other) reached := by
  rw [verdict_iff exchanged] at verdict ⊢
  rcases verdict with ⟨frame, behind, outcome, shape, taken, rfl⟩ |
    ⟨missing, outcome, lacking, taken, rfl⟩
  · rcases shape_of_takes exchanged taken with ⟨rejection, refused⟩ |
      ⟨code, reserved, wire, rfl, wholeWire⟩
    · obtain ⟨_, _, _, _, _, rfl, -⟩ := (refusedHead_exchanged_iff exchanged).mp refused
      obtain ⟨type, next, body, rfl, -⟩ := whole
      simp only [List.cons_append, List.cons.injEq] at shape
      obtain ⟨rfl, rfl, rfl, rfl, rfl, -⟩ := shape
      exact .inl ⟨_, body ++ other, outcome, rfl, taken, rfl⟩
    · simp only [List.cons_append, List.cons.injEq] at shape
      obtain ⟨rfl, rfl, rfl, same⟩ := shape
      obtain ⟨rfl, -⟩ := whole_append_inj whole wholeWire same
      exact .inl ⟨_, other, outcome, rfl, taken, rfl⟩
  · exfalso
    have positive := List.length_pos_iff.mpr lacking
    rcases shape_of_takes exchanged taken with ⟨rejection, refused⟩ |
      ⟨_, _, wire, shape, wholeWire⟩
    · have size := length_of_refusedHead refused
      have five := exchanged.headLength_eq
      obtain ⟨type, next, body, rfl, -⟩ := whole
      simp only [List.length_cons, List.length_append] at size
      omega
    · simp only [List.cons_append, List.cons.injEq] at shape
      rw [List.append_assoc, ← List.append_nil wire] at shape
      obtain ⟨-, gone⟩ := whole_append_inj whole wholeWire shape.2.2.2
      exact lacking (List.append_eq_nil_iff.mp gone).2

/-! ## Readers -/

/-- **Readers of requests and replies give the outcome of the grammar, and no other one.**
On a stream that is closed behind its bytes, in whatever chunks they come, the outcome is
the one that the grammar gives to them. It is the same with any other reserved byte, and
behind a whole address with any other bytes. -/
theorem outcomes_are_those_of_the_grammar [Runtime] (kind : Message.Kind)
    (exchanged : Exchanged kind) (source : Source) (bytes : List UInt8)
    (delivers : Delivers source bytes)
    (closed : source.ending = none) :
    let outcome := (kind.decoder.run source).outcome
    (∀ reached, outcome = reached ↔ Verdict kind bytes reached) ∧
    (∀ reserved other, Delivers other (bytes.set 2 reserved) → other.ending = none →
      (kind.decoder.run other).outcome = outcome) ∧
    (∀ version code reserved encoded past behind other,
      bytes = version :: code :: reserved :: encoded ++ past → Whole encoded →
      Delivers other (version :: code :: reserved :: encoded ++ behind) → other.ending = none →
      (kind.decoder.run other).outcome = outcome) := by
  intro outcome
  have judged {source : Source} {bytes : List UInt8} (delivers : Delivers source bytes)
      (closed : source.ending = none) (reached : Except CodecError Message) :
      (kind.decoder.run source).outcome = reached ↔ Verdict kind bytes reached := by
    rw [verdict_iff exchanged, run_outcome_iff, delivers.stretch_eq, delivers.limit_eq, closed]
    rfl
  have verdict : Verdict kind bytes outcome := (judged delivers closed outcome).mp rfl
  refine ⟨judged delivers closed, ?_, ?_⟩
  · intro reserved other deliversOther closedOther
    exact (judged deliversOther closedOther outcome).mpr (verdict_set_reserved verdict)
  · rintro version code reserved encoded past behind other rfl whole deliversOther closedOther
    exact (judged deliversOther closedOther outcome).mpr (verdict_behind exchanged whole verdict)

/-- A request in two chunks, with a byte behind it; the same with another reserved byte, and
with other bytes behind it; and one that ends inside its address. -/
theorem outcome_of_request_is_that_of_the_grammar :
    let _ : Runtime := .direct
    let source : Source := ⟨[[5, 1, 7], [1, 127, 0, 0, 1, 0, 80, 9]], none⟩
    let part : Source := ⟨[[5, 1, 7, 1], [127, 0]], none⟩
    let request : Message := .request ⟨.connect, .ofIPv4 ⟨127, 0, 0, 1⟩ 80⟩
    Exchanged .request ∧ Delivers source [5, 1, 7, 1, 127, 0, 0, 1, 0, 80, 9] ∧
      (Message.Kind.request.decoder.run source).outcome = .ok request ∧
      (Message.Kind.request.decoder.run (.ofBytes [5, 1, 0, 1, 127, 0, 0, 1, 0, 80, 9])).outcome =
        .ok request ∧
      (Message.Kind.request.decoder.run (.ofBytes [5, 1, 7, 1, 127, 0, 0, 1, 0, 80])).outcome =
        .ok request ∧
      (Message.Kind.request.decoder.run part).outcome =
        .error (.failed ⟨.unexpectedEof, some "early eof"⟩) := by
  intro _ source part request
  have delivers : Delivers source [5, 1, 7, 1, 127, 0, 0, 1, 0, 80, 9] := ⟨by decide, rfl⟩
  have form : WireForm [1, 127, 0, 0, 1, 0, 80] (.ofIPv4 ⟨127, 0, 0, 1⟩ 80) :=
    .ipv4 ⟨127, 0, 0, 1⟩ 80
  obtain ⟨judged, reserved, past⟩ :=
    outcomes_are_those_of_the_grammar .request (.inl rfl) source _ delivers rfl
  have accepted : (Message.Kind.request.decoder.run source).outcome = .ok request :=
    (judged _).mpr (.accepted form rfl (.request _))
  obtain ⟨judgedPart, -⟩ := outcomes_are_those_of_the_grammar .request (.inl rfl) part
    [5, 1, 7, 1, 127, 0] ⟨by decide, rfl⟩ rfl
  have short : Verdict .request [5, 1, 7, 1, 127, 0] (.error (.failed Failure.earlyEnd)) :=
    @Verdict.restMissing .request 1 7 1 127 [0] 7 rfl (by decide)
  refine ⟨.inl rfl, delivers, accepted, accepted ▸ reserved 0 _ ⟨by decide, rfl⟩ rfl, ?_,
    (judgedPart _).mpr short⟩
  exact accepted ▸ past 5 1 7 _ [9] [] _ rfl (announced_of_wireForm form) ⟨by decide, rfl⟩ rfl

end Socks.Proofs.ExchangeGrammar

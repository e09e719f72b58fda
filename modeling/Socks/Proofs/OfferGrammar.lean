import Socks.Proofs.FrameRefusals
import Socks.Proofs.MessageRoundTrip

/-!
Offers of methods, from the list that a client makes to the one that a server gets. An offer
holds the bytes of the methods, so a method that is spelled by its byte and one that is spelled
by its name are the same in it; what is kept is the order and every repetition. On the wire one
byte counts the methods, and `verdict` says what the bytes of a closed stream come to, in the
order in which one fault takes precedence over another: a wrong version and a count of zero are
found in the head, before it matters whether the methods are there.
-/
namespace Socks.Proofs.OfferGrammar

open Transport
open AddressCodec StreamReading FrameReading MessageFrames MessageRoundTrip FrameRefusals

/-! ## Methods of an offer -/

theorem contains_iff {offer : Offer} {method : Method} :
    offer.contains method = true ↔ method.toByte ∈ offer.bytes := by
  unfold Offer.contains
  exact List.contains_iff_mem

/-- An offer gives the methods back by the names of their bytes. -/
theorem methods_ofMethods (methods : List Method) :
    (Offer.ofMethods methods).methods = methods.map fun method => Method.ofByte method.toByte := by
  unfold Offer.methods Offer.ofMethods
  rw [List.map_map]
  rfl

/-- A method is offered just when one of the listed methods has its byte. -/
theorem contains_ofMethods_iff {methods : List Method} {method : Method} :
    (Offer.ofMethods methods).contains method = true ↔
      ∃ offered ∈ methods, offered.toByte = method.toByte := by
  rw [contains_iff]
  exact List.mem_map

/-! ## The grammar -/

/-- What the bytes of a closed stream come to. -/
def verdict : List UInt8 → Except CodecError Offer
  | version :: count :: later =>
    if version ≠ Protocol.version then
      .error (.rejected (.badVersion Protocol.version version))
    else if count = 0 then .error (.rejected .noMethods)
    else if later.length < count.toNat then .error (.failed Failure.earlyEnd)
    else .ok ⟨later.take count.toNat⟩
  | _ => .error (.failed Failure.earlyEnd)

/-- The two bytes of a head are refused, so that it does not matter what is behind them. -/
def Refused (version count : UInt8) : Prop := version ≠ Protocol.version ∨ count = 0

theorem verdict_of_version {version count : UInt8} {later : List UInt8}
    (wrong : version ≠ Protocol.version) :
    verdict (version :: count :: later) =
      .error (.rejected (.badVersion Protocol.version version)) :=
  if_pos wrong

theorem verdict_of_zero (later : List UInt8) :
    verdict (Protocol.version :: 0 :: later) = .error (.rejected .noMethods) := rfl

theorem verdict_of_missing {count : UInt8} {later : List UInt8} (nonzero : count ≠ 0)
    (short : later.length < count.toNat) :
    verdict (Protocol.version :: count :: later) = .error (.failed Failure.earlyEnd) := by
  simp only [verdict, ne_eq, not_true, if_false, if_neg nonzero, if_pos short]

theorem verdict_of_enough {count : UInt8} {later : List UInt8} (nonzero : count ≠ 0)
    (enough : ¬ later.length < count.toNat) :
    verdict (Protocol.version :: count :: later) = .ok ⟨later.take count.toNat⟩ := by
  simp only [verdict, ne_eq, not_true, if_false, if_neg nonzero, if_neg enough]

/-! ## What is taken -/

/-- A refused head is taken alone, for the reason that the grammar gives. -/
theorem takes_refused {version count : UInt8} (refused : Refused version count) :
    ∃ rejection, Takes Offer.decoder [version, count] (.error rejection) ∧
      ∀ later, verdict (version :: count :: later) = .error (.rejected rejection) := by
  by_cases wrong : version ≠ Protocol.version
  · have head : RefusedHead .offer [version, count] (.badVersion Protocol.version version) :=
      .version rfl wrong rfl
    exact ⟨_, takes_map_error_iff.mp (takes_error_iff.mpr (.inl head)),
      fun _ => verdict_of_version wrong⟩
  · obtain rfl : count = 0 := refused.resolve_left wrong
    obtain rfl := not_not.mp wrong
    exact ⟨_, takes_map_error_iff.mp (takes_error_iff.mpr (.inl .noMethods)), verdict_of_zero⟩

/-- As many methods as are counted are taken with their head. -/
theorem takes_counted {count : UInt8} {methods : List UInt8} (nonzero : count ≠ 0)
    (counted : methods.length = count.toNat) :
    Takes Offer.decoder (Protocol.version :: count :: methods) (.ok ⟨methods⟩) := by
  obtain ⟨short, rfl⟩ := eq_toNat_iff.mp counted
  apply takes_offer_iff.mpr
  apply offer_message_eq_ok_iff.mpr
  refine ⟨?_, short, rfl⟩
  rintro rfl
  exact nonzero rfl

theorem refused_or_counting (version count : UInt8) :
    Refused version count ∨ version = Protocol.version ∧ count ≠ 0 := by
  by_cases refused : Refused version count
  · exact .inl refused
  · obtain ⟨right, nonzero⟩ := not_or.mp refused
    exact .inr ⟨not_not.mp right, nonzero⟩

/-- Every two bytes are the head of some frame. -/
theorem exists_takes_head (version count : UInt8) :
    ∃ later outcome, Takes Offer.decoder (version :: count :: later) outcome := by
  rcases refused_or_counting version count with refused | ⟨rfl, nonzero⟩
  · obtain ⟨rejection, taken, -⟩ := takes_refused refused
    exact ⟨[], _, taken⟩
  · have counted : (List.replicate count.toNat (0 : UInt8)).length = count.toNat :=
      List.length_replicate
    exact ⟨_, _, takes_counted nonzero counted⟩

/-- The grammar gives the outcome of the frame in front of the bytes, or finds them to be too
small a part of one. -/
theorem verdict_of_front_or_part (bytes : List UInt8) :
    (∃ frame behind outcome, bytes = frame ++ behind ∧ Takes Offer.decoder frame outcome ∧
      verdict bytes = outcome.mapError .rejected) ∨
    (∃ missing outcome, missing ≠ [] ∧ Takes Offer.decoder (bytes ++ missing) outcome ∧
      verdict bytes = .error (.failed Failure.earlyEnd)) := by
  match bytes with
  | [] =>
    obtain ⟨later, outcome, taken⟩ := exists_takes_head 0 0
    exact .inr ⟨0 :: 0 :: later, outcome, List.cons_ne_nil _ _, taken, rfl⟩
  | [version] =>
    obtain ⟨later, outcome, taken⟩ := exists_takes_head version 0
    exact .inr ⟨0 :: later, outcome, List.cons_ne_nil _ _, taken, rfl⟩
  | version :: count :: later =>
    rcases refused_or_counting version count with refused | ⟨rfl, nonzero⟩
    · obtain ⟨rejection, taken, judged⟩ := takes_refused refused
      exact .inl ⟨[version, count], later, _, rfl, taken, judged later⟩
    by_cases short : later.length < count.toNat
    · -- Any methods in place of the missing ones complete the frame.
      let zeros : List UInt8 := List.replicate (count.toNat - later.length) 0
      have size : zeros.length = count.toNat - later.length := List.length_replicate
      have positive : 0 < zeros.length := by omega
      have counted : (later ++ zeros).length = count.toNat := by
        rw [List.length_append, size]
        omega
      refine .inr ⟨zeros, _, List.length_pos_iff.mp positive, takes_counted nonzero counted, ?_⟩
      exact verdict_of_missing nonzero short
    · have counted : (later.take count.toNat).length = count.toNat :=
        List.length_take_of_le (Nat.le_of_not_lt short)
      refine .inl ⟨_, later.drop count.toNat, _, ?_, takes_counted nonzero counted, ?_⟩
      · rw [List.cons_append, List.cons_append, List.take_append_drop]
      · exact verdict_of_enough nonzero short

/-! ## Offers between client and server -/

/-- On a stream that is closed behind its bytes, a reader gives the outcome of the grammar. -/
theorem outcome_eq_verdict [Runtime] {source : Source} {bytes : List UInt8}
    (delivers : Delivers source bytes) (closed : source.ending = none) :
    (Offer.decoder.run source).outcome = verdict bytes := by
  apply run_outcome_iff.mpr
  rw [delivers.stretch_eq, delivers.limit_eq, closed]
  exact verdict_of_front_or_part bytes

/-- A refused head is all that a reader takes, and what is behind it makes no difference, nor
does the end of the stream. -/
theorem run_of_refused [Runtime] {version count : UInt8} {later : List UInt8} {source : Source}
    (refused : Refused version count) (delivers : Delivers source (version :: count :: later)) :
    (Offer.decoder.run source).outcome = verdict [version, count] ∧
      (Offer.decoder.run source).consumed = 2 := by
  obtain ⟨rejection, taken, judged⟩ := takes_refused refused
  have meets : stretch source = [version, count] ++ later := delivers.stretch_eq
  obtain ⟨outcome, consumed, -⟩ := run_of_stretch taken meets
  exact ⟨outcome.trans (judged []).symm, consumed⟩

/-- An offer of one to 255 methods has a frame, from which it is read whatever is behind. -/
theorem exists_frame_of_methods {methods : List Method} (offered : 1 ≤ methods.length)
    (few : methods.length ≤ 255) :
    ∃ frame, (Offer.ofMethods methods).message.outcome = .ok frame ∧
      Takes Offer.decoder frame (.ok (Offer.ofMethods methods)) := by
  have size : (Offer.ofMethods methods).bytes.length = methods.length := List.length_map _
  have encoded := offer_message_eq_ok_iff.mpr
    ⟨List.length_pos_iff.mp (size ▸ offered), size ▸ few, rfl⟩
  exact ⟨_, encoded, takes_offer_iff.mpr encoded⟩

/-- **An offer keeps its methods from the client's list to the server's.** It holds the bytes of
the listed methods, in order and with repetitions, gives them back by name, and contains a
method just when one with the same byte is listed. If there are one to 255 of them, every sink
with enough room gets the same frame, and a reader that meets this frame gets the offer and
leaves what is behind it, whatever ends the stream. The outcome of reading from a closed stream
is the one of the grammar, and a refused head is judged without any byte behind it. -/
theorem offers_keep_their_methods [Runtime] :
    (∀ methods : List Method,
      let offer := Offer.ofMethods methods
      offer.bytes = methods.map Method.toByte ∧
      offer.methods = methods.map (fun method => Method.ofByte method.toByte) ∧
      ∀ method, offer.contains method = true ↔
        ∃ offered ∈ methods, offered.toByte = method.toByte) ∧
    (∀ methods : List Method, 1 ≤ methods.length → methods.length ≤ 255 →
      let offer := Offer.ofMethods methods
      ∃ frame, offer.message.outcome = .ok frame ∧
        (∀ sink, Accepting sink frame.length →
          (sink.send offer.message).outcome = .ok () ∧
          (sink.send offer.message).written = frame) ∧
        ∀ tail source, Delivers source (frame ++ tail) →
          let reception := Offer.decoder.run source
          reception.outcome = .ok offer ∧ reception.consumed = frame.length ∧
            reception.rest.bytes = tail) ∧
    (∀ bytes source, Delivers source bytes → source.ending = none →
      (Offer.decoder.run source).outcome = verdict bytes) ∧
    (∀ version count later source, Refused version count →
      Delivers source (version :: count :: later) →
      (Offer.decoder.run source).outcome = verdict [version, count] ∧
        (Offer.decoder.run source).consumed = 2) := by
  refine ⟨?_, ?_, ?_, ?_⟩
  · intro methods
    exact ⟨rfl, methods_ofMethods methods, fun _ => contains_ofMethods_iff⟩
  · intro methods offered few offer
    obtain ⟨frame, encoded, taken⟩ := exists_frame_of_methods offered few
    refine ⟨frame, encoded, fun sink accepting => accepting.send encoded, ?_⟩
    intro tail source delivers reception
    obtain ⟨outcome, consumed, -⟩ := run_of_stretch taken delivers.stretch_eq
    refine ⟨outcome, consumed, ?_⟩
    rw [run_rest, consumed, delivers.whole, List.drop_left]
  · intro bytes source delivers closed
    exact outcome_eq_verdict delivers closed
  · intro version count later source refused delivers
    exact run_of_refused refused delivers

/-- An offer that spells one method in two ways and repeats another, through a sink that takes
three bytes at a time to a stream that fails behind one more byte; an offer that lacks a method;
and a head of another version in front of a failure. -/
theorem repeated_methods_are_kept :
    let _ : Runtime := .direct
    let methods : List Method := [.other 2, .none, .password, .none]
    let offer := Offer.ofMethods methods
    let sink : Sink := ⟨some 3, some 6, none, none⟩
    let failure : Failure := ⟨.connectionReset, none⟩
    let whole := Offer.decoder.run ⟨[[5], [4, 2, 0], [2, 0, 9]], some failure⟩
    let part := Offer.decoder.run ⟨[[5, 2], [0]], none⟩
    let foreign := Offer.decoder.run ⟨[[4], [0]], some failure⟩
    offer.bytes = [2, 0, 2, 0] ∧ offer.methods = [.password, .none, .password, .none] ∧
      offer.contains .password = true ∧ offer.contains (.other 1) = false ∧
      (sink.send offer.message).written = [5, 4, 2, 0, 2, 0] ∧
      whole.outcome = .ok offer ∧ whole.rest.bytes = [9] ∧
      part.outcome = .error (.failed ⟨.unexpectedEof, some "early eof"⟩) ∧
      foreign.outcome = .error (.rejected (.badVersion 5 4)) ∧ foreign.consumed = 2 := by
  intro _ methods offer sink failure whole part foreign
  obtain ⟨lists, frames, judged, refused⟩ := offers_keep_their_methods
  obtain ⟨bytes, named, holds⟩ := lists methods
  have offered : offer.contains .password = true :=
    (holds .password).mpr ⟨.other 2, List.mem_cons_self, rfl⟩
  have missing : offer.contains (.other 1) = false := by
    rw [Bool.eq_false_iff, ne_eq, holds]
    simp [methods, Method.toByte, Protocol.methodNone, Protocol.methodPassword]
  obtain ⟨frame, encoded, written, read⟩ := frames methods (by decide) (by decide)
  obtain rfl : frame = [5, 4, 2, 0, 2, 0] := (Except.ok.inj encoded).symm
  have accepting : Accepting sink 6 := by
    refine ⟨by decide, ?_, rfl⟩
    rintro _ ⟨⟩
    exact Nat.le_refl 6
  obtain ⟨outcome, -, rest⟩ := read [9] ⟨[[5], [4, 2, 0], [2, 0, 9]], some failure⟩ ⟨by decide, rfl⟩
  have early := judged [5, 2, 0] ⟨[[5, 2], [0]], none⟩ ⟨by decide, rfl⟩ rfl
  obtain ⟨rejected, consumed⟩ :=
    refused 4 0 [] ⟨[[4], [0]], some failure⟩ (.inl (by decide)) ⟨by decide, rfl⟩
  exact ⟨bytes, named, offered, missing, (written sink accepting).2, outcome, rest, early, rejected,
    consumed⟩

end Socks.Proofs.OfferGrammar

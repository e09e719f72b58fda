import Socks.Proofs.FrameRefusals

/-!
The stream behind a message that is refused. A reader that refuses a message has read
either only the head of it, because the head is what is wrong, or all of it; it never
stops between. So whoever answers a refusal finds the stream at a known place, and the
next reader makes of what is left what it would make of it alone.
-/
namespace Socks.Proofs.StreamAlignment

open Text Wire Transport
open AddressCodec StreamReading FrameReading ReadDemand FrameRefusals

/-- The rejections that are found out before the length of the message is known. -/
def FoundInHead : Rejection → Prop
  | .badVersion .. | .noMethods | .badAddressType _ => True
  | _ => False

variable {kind : Message.Kind} {frame : List UInt8} {rejection : Rejection}

theorem foundInHead_of_refusedHead (refused : RefusedHead kind frame rejection) :
    FoundInHead rejection := by
  cases refused <;> trivial

theorem not_foundInHead_of_refusedContent (refused : RefusedContent kind frame rejection) :
    ¬ FoundInHead rejection := by
  intro found
  cases refused with
  | code known form => cases known <;> exact found
  | _ => exact found

/-- **A refusal leaves the stream at a known place.** A frame that is refused, for its head
or for its content, is consumed and nothing behind it, and whatever is read next is read
as from a stream that holds only what is behind it. A rejection that is found in the head
has consumed exactly the head, and any other one the whole message. -/
theorem refusals_leave_the_stream_aligned [Runtime] (kind : Message.Kind) :
    (∀ frame rejection tail source,
      RefusedHead kind frame rejection ∨ RefusedContent kind frame rejection →
      Delivers source (frame ++ tail) →
      let reception := kind.decoder.run source
      reception.outcome = .error (.rejected rejection) ∧ reception.consumed = frame.length ∧
      reception.rest.bytes = tail ∧
      ∀ (next : Message.Kind) alone, Delivers alone tail → alone.ending = source.ending →
        let behind := next.decoder.run reception.rest
        let fresh := next.decoder.run alone
        behind.outcome = fresh.outcome ∧ behind.consumed = fresh.consumed ∧
          behind.events = fresh.events) ∧
    (∀ source rejection, (kind.decoder.run source).outcome = .error (.rejected rejection) →
      let consumed := (kind.decoder.run source).consumed
      let frame := source.bytes.take consumed
      (FoundInHead rejection ∧ RefusedHead kind frame rejection ∧ consumed = headLength kind) ∨
      (¬ FoundInHead rejection ∧ RefusedContent kind frame rejection ∧
        consumed = announced kind frame)) := by
  constructor
  · intro frame rejection tail source refused delivers reception
    obtain ⟨ended, consumed, behind, limits⟩ :=
      run_of_stretch (takes_error_iff.mpr refused) delivers.stretch_eq
    have rest : reception.rest.bytes = tail := by
      rw [run_rest, consumed, delivers.whole, List.drop_left]
    refine ⟨ended, consumed, rest, ?_⟩
    intro next alone left ending
    apply run_congr
    · rw [behind, left.stretch_eq]
    · rw [limits, delivers.limit_eq, left.limit_eq, ending]
  · intro source rejection ended consumed frame
    have taken : Takes kind.decoder frame (.error rejection) := takes_consumed ended
    have size : frame.length = consumed := length_take_consumed kind.decoder source
    rcases takes_error_iff.mp taken with refused | refused
    · exact .inl ⟨foundInHead_of_refusedHead refused, refused,
        size.symm.trans (length_of_refusedHead refused)⟩
    · exact .inr ⟨not_foundInHead_of_refusedContent refused, refused,
        size.symm.trans (length_of_refusedContent refused)⟩

/-- A request with an unknown command for a name that is a text, in three chunks, and a
selection behind it. -/
theorem refused_command_leaves_the_stream_aligned :
    let _ : Runtime := .direct
    let frame : List UInt8 := [5, 9, 0, 3, 2, 104, 105, 0, 80]
    let source : Source := ⟨[[5, 9], [0, 3, 2, 104, 105, 0], [80, 5, 2]], none⟩
    let reception := Message.Kind.request.decoder.run source
    RefusedContent .request frame (.unsupportedCommand 9) ∧
      reception.outcome = .error (.rejected (.unsupportedCommand 9)) ∧
      reception.consumed = frame.length ∧
      (Message.Kind.selection.decoder.run reception.rest).outcome =
        (Message.Kind.selection.decoder.run (.ofBytes [5, 2])).outcome ∧
      RefusedContent .request (source.bytes.take reception.consumed) (.unsupportedCommand 9) := by
  intro _ frame source reception
  have form : WireForm [3, 2, 104, 105, 0, 80] (.ofDomain "hi" 80) := by
    exact .domain "hi" 80 (by decide)
  have refused : RefusedContent .request frame (.unsupportedCommand 9) :=
    .code (.command (by decide)) form
  have delivers : Delivers source (frame ++ [5, 2]) := ⟨by decide, rfl⟩
  obtain ⟨meets, reads⟩ := refusals_leave_the_stream_aligned .request
  obtain ⟨ended, consumed, -, aligned⟩ := meets frame _ [5, 2] source (.inr refused) delivers
  obtain ⟨same, -⟩ := aligned .selection (.ofBytes [5, 2]) ⟨by decide, rfl⟩ rfl
  rcases reads source _ ended with ⟨found, -⟩ | ⟨-, content, -⟩
  · cases found
  · exact ⟨refused, ended, consumed, same, content⟩

end Socks.Proofs.StreamAlignment

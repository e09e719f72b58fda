import Socks.Proofs.MessageFrames

/-!
Reading a message and writing it again. What a reader took from a source is a frame
of the message it got, so writing the message gives these bytes back, up to the
reserved byte of requests and replies; and what a writer wrote is a frame, so reading
it gives the message back, whatever follows on the stream.
-/
namespace Socks.Proofs.MessageRoundTrip

open Transport
open StreamReading FrameReading MessageFrames

/-! ## Sinks that take everything -/

/-- A sink takes so many bytes, in whatever portions, and is flushed then. -/
structure Accepting (sink : Sink) (length : Nat) : Prop where
  /-- A call takes something. -/
  portion : sink.portion ≠ some 0
  /-- There is room for all bytes. -/
  room : ∀ room, sink.room = some room → length ≤ room
  /-- Flushing succeeds. -/
  flush : sink.flushFailure = none

theorem accepting_unlimited (length : Nat) : Accepting .unlimited length := by
  refine ⟨?_, ?_, rfl⟩
  · rintro ⟨⟩
  · rintro _ ⟨⟩

section Accepting

variable {sink : Sink} {length : Nat}

/-- An accepting sink takes something as long as something is left. -/
theorem Accepting.taken_pos (accepting : Accepting sink length) (remains : 0 < length) :
    0 < sink.taken length := by
  obtain ⟨portion, room, failure, flushFailure⟩ := sink
  have within : 0 < Sink.atMost portion length := by
    cases portion with
    | none => exact remains
    | some portion =>
      have positive : portion ≠ 0 := fun zero => accepting.portion (congrArg _ zero)
      exact Nat.lt_min.mpr ⟨Nat.pos_of_ne_zero positive, remains⟩
  cases room with
  | none => exact within
  | some room =>
    exact Nat.lt_min.mpr ⟨Nat.lt_of_lt_of_le remains (accepting.room room rfl), within⟩

/-- It accepts what is left behind a part. -/
theorem Accepting.after (accepting : Accepting sink length) (count : Nat) :
    Accepting (sink.after count) (length - count) := by
  refine ⟨accepting.portion, fun room left => ?_, accepting.flush⟩
  obtain ⟨before, there, rfl⟩ := Option.map_eq_some_iff.mp left
  exact Nat.sub_le_sub_right (accepting.room before there) count

/-- So all bytes are written. -/
theorem Accepting.write [Runtime] {bytes : List UInt8} (accepting : Accepting sink bytes.length) :
    (sink.write bytes).outcome = .ok () ∧ (sink.write bytes).written = bytes := by
  induction sink, bytes using Sink.write.induct with
  | case1 sink bytes empty =>
    rw [Sink.write, dif_pos empty, Sink.flush, accepting.flush, List.eq_nil_of_length_eq_zero empty]
    exact ⟨rfl, rfl⟩
  | case2 sink bytes remains nothing =>
    exact absurd nothing (Nat.ne_of_gt (accepting.taken_pos (Nat.pos_of_ne_zero remains)))
  | case3 sink bytes remains positive count ih =>
    have behind := accepting.after count
    rw [← List.length_drop] at behind
    obtain ⟨outcome, written⟩ := ih behind
    rw [Sink.write, dif_neg remains, dif_neg positive]
    refine ⟨outcome, ?_⟩
    simp only [count] at written
    simp only [written, List.take_append_drop]

/-- A message with an encoding is written whole. -/
theorem Accepting.send [Runtime] {message : Report (List UInt8)} {frame : List UInt8}
    (accepting : Accepting sink frame.length) (encoded : message.outcome = .ok frame) :
    (sink.send message).outcome = .ok () ∧ (sink.send message).written = frame := by
  rw [Sink.send, encoded]
  exact accepting.write

end Accepting

/-- A value without an encoding leaves the sink as it was. -/
theorem send_error [Runtime] {message : Report (List UInt8)} {rejection : Rejection} (sink : Sink)
    (rejected : message.outcome = .error rejection) :
    (sink.send message).outcome = .error (.rejected rejection) ∧
      (sink.send message).written = [] := by
  rw [Sink.send, rejected]
  exact ⟨rfl, rfl⟩

theorem unlimited_send_ok [Runtime] {message : Report (List UInt8)} {frame : List UInt8}
    (encoded : message.outcome = .ok frame) :
    (Sink.unlimited.send message).outcome = .ok () ∧
      (Sink.unlimited.send message).written = frame :=
  (accepting_unlimited frame.length).send encoded

/-! ## Round trips -/

/-- The bytes that reading a message of a kind takes from a source. -/
def taken [Runtime] (kind : Message.Kind) (source : Source) : List UInt8 :=
  source.bytes.take (kind.decoder.run source).consumed

/-- A message that was read is written as what was taken, with the reserved byte
cleared. -/
theorem encode_of_read [Runtime] {kind : Message.Kind} {source : Source} {message : Message}
    (read : (kind.decoder.run source).outcome = .ok message) :
    message.encode.outcome = .ok (clearReserved kind (taken kind source)) := by
  obtain ⟨-, -, encoded⟩ := takes_iff.mp (takes_consumed (read.trans rfl))
  exact encoded

/-- **Writing undoes reading.** Whatever a reader of some kind gets from a source, a
sink that takes everything gets from it exactly the bytes that the reader took, but
zero in place of the reserved byte of a request or a reply. So no reader ever gets a
message that cannot be written, and two frames that are read as the same message
differ at most in that byte. -/
theorem writing_undoes_reading [Runtime] (kind : Message.Kind) (source : Source) (message : Message)
    (read : (kind.decoder.run source).outcome = .ok message) :
    (Sink.unlimited.send message.encode).outcome = .ok () ∧
      (Sink.unlimited.send message.encode).written = clearReserved kind (taken kind source) ∧
      ∀ other, (kind.decoder.run other).outcome = .ok message →
        clearReserved kind (taken kind other) = clearReserved kind (taken kind source) := by
  have encoded := encode_of_read read
  obtain ⟨outcome, written⟩ := unlimited_send_ok encoded
  refine ⟨outcome, written, fun other readOther => ?_⟩
  exact Except.ok.inj ((encode_of_read readOther).symm.trans encoded)

/-- Two requests in one byte each and in one chunk, with different reserved bytes. -/
theorem writing_undoes_reading_request :
    let _ : Runtime := .direct
    let source : Source := ⟨[[5], [1], [9], [3], [1], [97], [0], [80]], none⟩
    let other : Source := ⟨[[5, 1, 7, 3, 1, 97, 0, 80, 5, 1]], some ⟨.connectionReset, none⟩⟩
    let message := Message.request ⟨.connect, .ofDomain "a" 80⟩
    (Sink.unlimited.send message.encode).outcome = .ok () ∧
      (Sink.unlimited.send message.encode).written =
        clearReserved .request (taken .request source) ∧
      clearReserved .request (taken .request other) =
        clearReserved .request (taken .request source) := by
  intro _ source other message
  have read : (Message.Kind.request.decoder.run source).outcome = .ok message := by decide +kernel
  have readOther : (Message.Kind.request.decoder.run other).outcome = .ok message := by
    decide +kernel
  obtain ⟨outcome, written, same⟩ := writing_undoes_reading .request source message read
  exact ⟨outcome, written, same other readOther⟩

/-- A faithful message is read from the front of a stream that starts with its frame. -/
theorem read_of_encode [Runtime] {message : Message} {frame : List UInt8}
    (faithful : Faithful message) (encoded : message.encode.outcome = .ok frame)
    (tail : List UInt8) :
    let reception := message.kind.decoder.run (.ofBytes (frame ++ tail))
    reception.outcome = .ok message ∧ reception.rest.bytes = tail :=
  run_append (takes_encoded faithful encoded) tail

end Socks.Proofs.MessageRoundTrip

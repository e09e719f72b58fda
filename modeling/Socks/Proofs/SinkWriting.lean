import Socks.Message

/-!
What a message does to a sink. `Transcript` says which calls offer all of some bytes until
nothing is left, and how they end, apart from any sink; whatever a sink takes, writing to it
makes the calls of a transcript. A transcript behind some of its calls is the transcript of
what these left, so each call can be judged by what it offers and what is still to come.
Whether a call that failed is made again is for the runtime to decide; under one that passes
failures on, a call that fails is the last one.
-/
namespace Socks.Proofs.SinkWriting

open Transport

/-- The number of bytes that a call got rid of. -/
def accepted : WriteCall → Nat
  | .write _ (.ok count) => count
  | .write _ (.error _) | .flush _ => 0

/-- The number of bytes that calls got rid of. -/
def acceptedBy : List WriteCall → Nat
  | [] => 0
  | call :: later => accepted call + acceptedBy later

theorem acceptedBy_append (first second : List WriteCall) :
    acceptedBy (first ++ second) = acceptedBy first + acceptedBy second := by
  induction first with
  | nil => rw [List.nil_append, acceptedBy, Nat.zero_add]
  | cons call later ih => rw [List.cons_append, acceptedBy, acceptedBy, ih, Nat.add_assoc]

/-- The calls that offer some bytes until nothing is left of them, and how they end. -/
inductive Transcript [Runtime] : List UInt8 → List WriteCall → Except Failure Unit → Prop where
  /-- Nothing is left, and what was taken is flushed. -/
  | flushed (answer : Except Failure Unit) : Transcript [] [.flush answer] answer
  /-- Some of what is left is taken. -/
  | taken {left : List UInt8} {count : Nat} {calls : List WriteCall} {ending : Except Failure Unit}
      (positive : 0 < count) (inside : count ≤ left.length)
      (later : Transcript (left.drop count) calls ending) :
      Transcript left (.write left.length (.ok count) :: calls) ending
  /-- Nothing of what is left is taken. -/
  | refused {left : List UInt8} (remains : left ≠ []) :
      Transcript left [.write left.length (.ok 0)] (.error Failure.nothingTaken)
  /-- The call fails, and the failure is passed on. -/
  | failed {left : List UInt8} {failure : Failure} (remains : left ≠ [])
      (final : Runtime.repeats failure = false) :
      Transcript left [.write left.length (.error failure)] (.error failure)
  /-- The call fails and is made again. -/
  | repeated {left : List UInt8} {failure : Failure} {calls : List WriteCall}
      {ending : Except Failure Unit} (remains : left ≠ []) (again : Runtime.repeats failure = true)
      (later : Transcript left calls ending) :
      Transcript left (.write left.length (.error failure) :: calls) ending

/-! ## Writing -/

/-- A sink that takes nothing ends the transcript, after another call if the first one is
made again. -/
theorem transcript_refuse [Runtime] (sink : Sink) {left : List UInt8} (remains : left ≠ []) :
    ∃ ending, Transcript left (sink.refuse left.length).calls ending ∧
      (sink.refuse left.length).outcome = ending.mapError .failed ∧
      (sink.refuse left.length).written = [] ∧
      acceptedBy (sink.refuse left.length).calls = 0 := by
  rw [Sink.refuse]
  split
  · exact ⟨_, .refused remains, rfl, rfl, rfl⟩
  · rename_i failure met
    split
    · rename_i again
      exact ⟨_, .repeated remains again (.refused remains), rfl, rfl, rfl⟩
    · rename_i final
      exact ⟨_, .failed remains (Bool.eq_false_iff.mpr final), rfl, rfl, rfl⟩

theorem transcript_flush [Runtime] (sink : Sink) :
    ∃ ending, Transcript [] sink.flush.calls ending ∧
      sink.flush.outcome = ending.mapError .failed ∧ sink.flush.written = [] := by
  rw [Sink.flush]
  split
  · exact ⟨_, .flushed _, rfl, rfl⟩
  · exact ⟨_, .flushed _, rfl, rfl⟩

/-- **Writing to a sink makes the calls of a transcript,** and what the sink gets is what
they got rid of, from the front. -/
theorem transcript_write [Runtime] (sink : Sink) (left : List UInt8) :
    ∃ ending, Transcript left (sink.write left).calls ending ∧
      (sink.write left).outcome = ending.mapError .failed ∧
      (sink.write left).written = left.take (acceptedBy (sink.write left).calls) := by
  induction sink, left using Sink.write.induct with
  | case1 sink left empty =>
    obtain rfl := List.eq_nil_of_length_eq_zero empty
    obtain ⟨ending, transcript, outcome, written⟩ := transcript_flush sink
    rw [Sink.write, dif_pos empty]
    refine ⟨ending, transcript, outcome, ?_⟩
    rw [written, List.take_nil]
  | case2 sink left remains nothing =>
    obtain ⟨ending, transcript, outcome, written, accepts⟩ :=
      transcript_refuse sink (List.length_pos_iff.mp (Nat.pos_of_ne_zero remains))
    rw [Sink.write, dif_neg remains, dif_pos nothing]
    refine ⟨ending, transcript, outcome, ?_⟩
    rw [written, accepts, List.take_zero]
  | case3 sink left remains positive count ih =>
    obtain ⟨ending, transcript, outcome, written⟩ := ih
    rw [Sink.write, dif_neg remains, dif_neg positive]
    refine ⟨ending, ?_, outcome, ?_⟩
    · exact .taken (Nat.pos_of_ne_zero positive) (sink.taken_le _) transcript
    · simp only [acceptedBy, accepted]
      rw [List.take_add, ← written]

/-- The frame of a message is written so. -/
theorem transcript_send [Runtime] (sink : Sink) {message : Report (List UInt8)} {frame : List UInt8}
    (encoded : message.outcome = .ok frame) :
    ∃ ending, Transcript frame (sink.send message).calls ending ∧
      (sink.send message).outcome = ending.mapError .failed ∧
      (sink.send message).written = frame.take (acceptedBy (sink.send message).calls) := by
  rw [Sink.send, encoded]
  exact transcript_write sink frame

/-! ## Transcripts -/

section Transcripts

variable [Runtime] {left : List UInt8} {calls before after : List WriteCall}
  {ending : Except Failure Unit}

private theorem Transcript.tail {call next : WriteCall}
    (transcript : Transcript left (call :: next :: after) ending) :
    Transcript (left.drop (accepted call)) (next :: after) ending := by
  cases transcript with
  | taken positive inside later => exact later
  | repeated remains again later => exact later

/-- Behind some calls of a transcript stands the transcript of what they left. -/
theorem Transcript.suffix {call : WriteCall}
    (transcript : Transcript left (before ++ call :: after) ending) :
    Transcript (left.drop (acceptedBy before)) (call :: after) ending := by
  induction before generalizing left with
  | nil => exact transcript
  | cons first between ih =>
    obtain ⟨next, rest, shape⟩ : ∃ next rest, between ++ call :: after = next :: rest :=
      List.exists_cons_of_ne_nil (List.append_ne_nil_of_right_ne_nil _ (List.cons_ne_nil _ _))
    rw [List.cons_append, shape] at transcript
    have behind := transcript.tail
    rw [← shape] at behind
    rw [acceptedBy, ← List.drop_drop]
    exact ih behind

/-- A call offers all that is left, and something is left then. -/
theorem Transcript.offer {offered : Nat} {answer : Except Failure Nat}
    (transcript : Transcript left (.write offered answer :: after) ending) :
    offered = left.length ∧ 0 < offered := by
  cases transcript with
  | taken positive inside later => exact ⟨rfl, Nat.lt_of_lt_of_le positive inside⟩
  | refused remains => exact ⟨rfl, List.length_pos_iff.mpr remains⟩
  | failed remains final => exact ⟨rfl, List.length_pos_iff.mpr remains⟩
  | repeated remains again later => exact ⟨rfl, List.length_pos_iff.mpr remains⟩

/-- Flushing is the last call. It is made when nothing is left, and decides how all ends. -/
theorem Transcript.flush {answer : Except Failure Unit}
    (transcript : Transcript left (.flush answer :: after) ending) :
    left = [] ∧ after = [] ∧ ending = answer := by
  cases transcript
  exact ⟨rfl, rfl, rfl⟩

/-- A call of which nothing is taken decides how all ends. -/
theorem Transcript.refusal {offered : Nat}
    (transcript : Transcript left (.write offered (.ok 0) :: after) ending) :
    ending = .error Failure.nothingTaken := by
  cases transcript with
  | taken positive inside later => exact absurd positive (Nat.lt_irrefl 0)
  | refused remains => rfl

/-- Wherever a flushing stands among the calls, it decides how all ends. -/
theorem Transcript.ending_of_flush {answer : Except Failure Unit}
    (transcript : Transcript left calls ending) (member : .flush answer ∈ calls) :
    ending = answer := by
  obtain ⟨before, after, rfl⟩ := List.append_of_mem member
  exact transcript.suffix.flush.2.2

/-- So does a call of which nothing is taken. -/
theorem Transcript.ending_of_refusal {offered : Nat} (transcript : Transcript left calls ending)
    (member : .write offered (.ok 0) ∈ calls) : ending = .error Failure.nothingTaken := by
  obtain ⟨before, after, rfl⟩ := List.append_of_mem member
  exact transcript.suffix.refusal

/-- A call that fails is the last one and decides how all ends, unless it is made again; then
another one follows. -/
theorem Transcript.failure {offered : Nat} {failure : Failure}
    (transcript : Transcript left (.write offered (.error failure) :: after) ending) :
    if Runtime.repeats failure then ∃ answer later, after = .write offered answer :: later
    else after = [] ∧ ending = .error failure := by
  cases transcript with
  | failed remains final =>
    rw [if_neg (Bool.eq_false_iff.mp final)]
    exact ⟨rfl, rfl⟩
  | repeated remains again later =>
    rw [if_pos again]
    cases later with
    | flushed answer => exact absurd rfl remains
    | taken | refused | failed | repeated => exact ⟨_, _, rfl⟩

/-- Under a runtime that passes failures on, a call that fails decides how all ends. -/
theorem Transcript.ending_of_failure (passesOn : Runtime.PassesOn) {offered : Nat}
    {failure : Failure} (transcript : Transcript left calls ending)
    (member : .write offered (.error failure) ∈ calls) : ending = .error failure := by
  obtain ⟨before, after, rfl⟩ := List.append_of_mem member
  have last := transcript.suffix.failure
  rw [if_neg (passesOn.not_repeats failure)] at last
  exact last.2

theorem Transcript.accepted_le (transcript : Transcript left calls ending) :
    acceptedBy calls ≤ left.length := by
  induction transcript with
  | flushed answer => exact Nat.le_refl 0
  | taken positive inside later ih =>
    rw [List.length_drop] at ih
    simp only [acceptedBy, accepted]
    omega
  | refused remains => exact Nat.zero_le _
  | failed remains final => exact Nat.zero_le _
  | repeated remains again later ih => rwa [acceptedBy, accepted, Nat.zero_add]

/-- What is accepted whole is flushed. -/
theorem Transcript.exists_flush (transcript : Transcript left calls ending)
    (all : acceptedBy calls = left.length) : ∃ answer, .flush answer ∈ calls := by
  induction transcript with
  | flushed answer => exact ⟨answer, List.mem_cons_self⟩
  | taken positive inside later ih =>
    simp only [acceptedBy, accepted] at all
    obtain ⟨answer, member⟩ := ih (by rw [List.length_drop]; omega)
    exact ⟨answer, List.mem_cons_of_mem _ member⟩
  | refused remains => exact absurd (List.eq_nil_of_length_eq_zero all.symm) remains
  | failed remains final => exact absurd (List.eq_nil_of_length_eq_zero all.symm) remains
  | repeated remains again later ih =>
    rw [acceptedBy, accepted, Nat.zero_add] at all
    obtain ⟨answer, member⟩ := ih all
    exact ⟨answer, List.mem_cons_of_mem _ member⟩

/-- Only what is accepted whole is flushed, and only once that is so. -/
theorem Transcript.flush_iff (transcript : Transcript left calls ending) :
    (∃ answer, .flush answer ∈ calls) ↔ acceptedBy calls = left.length := by
  constructor
  · rintro ⟨answer, member⟩
    obtain ⟨before, after, rfl⟩ := List.append_of_mem member
    obtain ⟨nothing, rfl, -⟩ := transcript.suffix.flush
    apply Nat.le_antisymm transcript.accepted_le
    rw [acceptedBy_append]
    exact Nat.le_trans (List.drop_eq_nil_iff.mp nothing) (Nat.le_add_right ..)
  · exact transcript.exists_flush

/-- All ends well just when the flushing does. -/
theorem Transcript.ending_ok_iff (transcript : Transcript left calls ending) :
    ending = .ok () ↔ .flush (.ok ()) ∈ calls := by
  constructor
  · intro well
    induction transcript with
    | flushed answer => rw [well]; exact List.mem_cons_self
    | taken positive inside later ih => exact List.mem_cons_of_mem _ (ih well)
    | refused remains => cases well
    | failed remains final => cases well
    | repeated remains again later ih => exact List.mem_cons_of_mem _ (ih well)
  · exact transcript.ending_of_flush

end Transcripts

/-! ## Messages -/

/-- **A message is written whole or up to a failure, and flushed only if it is whole.** A value
without an encoding leaves the sink alone. Otherwise every call offers exactly what of the
frame is not yet taken, the sink gets a front of the frame, and the last call may be a
flushing, which is made just when the sink got all of it. All is well just when that succeeds;
a call of which nothing is taken, and a failure of the flushing, is what the writer gets to
know. So is the failure of a call, which is then the last one, unless the runtime makes that
call again; under a runtime that passes failures on, it always is. -/
theorem messages_are_written_whole_or_up_to_a_failure [Runtime] (message : Message)
    (sink : Sink) :
    let delivery := sink.send message.encode
    (∀ rejection, message.encode.outcome = .error rejection →
      delivery.outcome = .error (.rejected rejection) ∧ delivery.written = [] ∧
        delivery.calls = []) ∧
    (∀ frame, message.encode.outcome = .ok frame →
      (∀ before offered answer after,
        delivery.calls = before ++ .write offered answer :: after →
        offered = (frame.drop (acceptedBy before)).length ∧ 0 < offered) ∧
      delivery.written <+: frame ∧ delivery.written.length = acceptedBy delivery.calls ∧
      (∀ before answer after, delivery.calls = before ++ .flush answer :: after → after = []) ∧
      ((∃ answer, .flush answer ∈ delivery.calls) ↔ delivery.written = frame) ∧
      (delivery.outcome = .ok () ↔
        delivery.written = frame ∧ .flush (.ok ()) ∈ delivery.calls) ∧
      (∀ offered, .write offered (.ok 0) ∈ delivery.calls →
        delivery.outcome = .error (.failed Failure.nothingTaken)) ∧
      (∀ failure, .flush (.error failure) ∈ delivery.calls →
        delivery.outcome = .error (.failed failure)) ∧
      (∀ before offered failure after,
        delivery.calls = before ++ .write offered (.error failure) :: after →
        if Runtime.repeats failure then ∃ answer later, after = .write offered answer :: later
        else after = [] ∧ delivery.outcome = .error (.failed failure)) ∧
      (Runtime.PassesOn → ∀ offered failure, .write offered (.error failure) ∈ delivery.calls →
        delivery.outcome = .error (.failed failure))) := by
  intro delivery
  constructor
  · intro rejection rejected
    have untouched : delivery = ⟨.error (.rejected rejection), [], [], message.encode.events⟩ := by
      simp only [delivery, Sink.send, rejected]
    rw [untouched]
    exact ⟨rfl, rfl, rfl⟩
  · intro frame encoded
    obtain ⟨ending, transcript, outcome, written⟩ : ∃ ending,
        Transcript frame delivery.calls ending ∧ delivery.outcome = ending.mapError .failed ∧
          delivery.written = frame.take (acceptedBy delivery.calls) :=
      transcript_send sink encoded
    have front : delivery.written <+: frame := written ▸ List.take_prefix ..
    have size : delivery.written.length = acceptedBy delivery.calls := by
      rw [written]
      exact List.length_take_of_le transcript.accepted_le
    have whole : delivery.written = frame ↔ acceptedBy delivery.calls = frame.length := by
      rw [← size]
      exact ⟨congrArg List.length, front.eq_of_length⟩
    have well : delivery.outcome = .ok () ↔ ending = .ok () := by
      rw [outcome]
      cases ending with
      | ok => exact ⟨fun _ => rfl, fun _ => rfl⟩
      | error failure => constructor <;> intro ends <;> cases ends
    refine ⟨?_, front, size, ?_, ?_, ?_, ?_, ?_, ?_, ?_⟩
    · intro before offered answer after split
      rw [split] at transcript
      exact transcript.suffix.offer
    · intro before answer after split
      rw [split] at transcript
      exact transcript.suffix.flush.2.1
    · rw [whole]
      exact transcript.flush_iff
    · rw [well, transcript.ending_ok_iff, whole, ← transcript.flush_iff]
      exact ⟨fun member => ⟨⟨_, member⟩, member⟩, And.right⟩
    · intro offered member
      rw [outcome, transcript.ending_of_refusal member]
      rfl
    · intro failure member
      rw [outcome, transcript.ending_of_flush member]
      rfl
    · intro before offered failure after split
      rw [split] at transcript
      have last := transcript.suffix.failure
      by_cases again : Runtime.repeats failure
      · rw [if_pos again] at last ⊢
        exact last
      · rw [if_neg again] at last ⊢
        rw [outcome, last.2]
        exact ⟨last.1, rfl⟩
    · intro passesOn offered failure member
      rw [outcome, transcript.ending_of_failure passesOn member]
      rfl

/-- A selection of a method in one byte after the other, flushed without success; a status to a
sink that fails behind its first byte, and to one that takes nothing more; and an offer of
nothing. -/
theorem selection_is_written_whole_and_status_in_part :
    let _ : Runtime := .direct
    let failure : Failure := ⟨.connectionReset, none⟩
    let whole := Sink.send ⟨some 1, none, none, some failure⟩ (Message.selection .password).encode
    let part := Sink.send ⟨none, some 1, some failure, none⟩ (Message.status ⟨1, 0⟩).encode
    let full := Sink.send ⟨none, some 1, none, none⟩ (Message.status ⟨1, 0⟩).encode
    (whole.calls = [.write 2 (.ok 1), .write 1 (.ok 1), .flush (.error failure)] ∧
      whole.written = [5, 2] ∧ whole.outcome = .error (.failed failure)) ∧
    (part.calls = [.write 2 (.ok 1), .write 1 (.error failure)] ∧
      part.written <+: [1, 0] ∧ part.written.length = 1 ∧
      part.outcome = .error (.failed failure)) ∧
    (full.calls = [.write 2 (.ok 1), .write 1 (.ok 0)] ∧
      full.outcome = .error (.failed ⟨.writeZero, some "write zero"⟩)) ∧
    (Sink.unlimited.send (Message.offer ⟨[]⟩).encode).calls = [] := by
  intro _ failure whole part full
  have wholeCalls : whole.calls =
      [.write 2 (.ok 1), .write 1 (.ok 1), .flush (.error failure)] := by cbv
  have partCalls : part.calls = [.write 2 (.ok 1), .write 1 (.error failure)] := by cbv
  have fullCalls : full.calls = [.write 2 (.ok 1), .write 1 (.ok 0)] := by cbv
  obtain ⟨-, selection⟩ := messages_are_written_whole_or_up_to_a_failure (.selection .password)
    ⟨some 1, none, none, some failure⟩
  obtain ⟨-, -, -, -, flushed, -, -, unflushed, -⟩ := selection [5, 2] rfl
  obtain ⟨-, status⟩ := messages_are_written_whole_or_up_to_a_failure (.status ⟨1, 0⟩)
    ⟨none, some 1, some failure, none⟩
  obtain ⟨-, front, size, -, -, -, -, -, -, passed⟩ := status [1, 0] rfl
  obtain ⟨-, status⟩ := messages_are_written_whole_or_up_to_a_failure (.status ⟨1, 0⟩)
    ⟨none, some 1, none, none⟩
  obtain ⟨-, -, -, -, -, -, refused, -⟩ := status [1, 0] rfl
  have flush : .flush (.error failure) ∈ whole.calls := by
    rw [wholeCalls]
    exact List.mem_of_getLast? rfl
  have failed : .write 1 (.error failure) ∈ part.calls := by
    rw [partCalls]
    exact List.mem_of_getLast? rfl
  have stuck : .write 1 (.ok 0) ∈ full.calls := by
    rw [fullCalls]
    exact List.mem_of_getLast? rfl
  obtain ⟨unencoded, -⟩ := messages_are_written_whole_or_up_to_a_failure (.offer ⟨[]⟩) .unlimited
  refine ⟨⟨wholeCalls, flushed.mp ⟨_, flush⟩, unflushed failure flush⟩,
    ⟨partCalls, front, ?_, passed Runtime.direct_passesOn 1 failure failed⟩,
    ⟨fullCalls, refused 1 stuck⟩, (unencoded .noMethods rfl).2.2⟩
  exact size.trans (congrArg acceptedBy partCalls)

/-- Where interrupted calls are made again, the failure of such a call is not what the writer
gets to know. -/
theorem interruption_is_not_passed_on :
    let _ : Runtime := .persistent
    let failure : Failure := ⟨.interrupted, some "eintr"⟩
    let delivery := Sink.send ⟨none, some 1, some failure, none⟩ (Message.status ⟨1, 0⟩).encode
    (Message.status ⟨1, 0⟩).encode.outcome = .ok [1, 0] ∧
      delivery.calls = [.write 2 (.ok 1), .write 1 (.error failure), .write 1 (.ok 0)] ∧
      delivery.outcome = .error (.failed ⟨.writeZero, some "write zero"⟩) ∧
      delivery.outcome ≠ .error (.failed failure) := by
  intro _ failure delivery
  have outcome : delivery.outcome = .error (.failed ⟨.writeZero, some "write zero"⟩) := by cbv
  refine ⟨rfl, by cbv, outcome, ?_⟩
  rw [outcome]
  simp [failure]

end Socks.Proofs.SinkWriting

import Mathlib.Logic.Function.Basic
import Socks.Session
import Socks.Proofs.MessageRoundTrip

/-!
What happens to the messages of a session. A conversation is a session together with
the record of what its parties sent and of what reading gave them. Nothing of the
record is used to send or to read, only to say which kind a party reads next: that of
the oldest message on its way to it. The invariant is that each queue holds the frames
of the messages on their way and nothing else; so each reading finds the frame of the
oldest message in front, takes it whole and leaves the next one in front.
-/
namespace Socks.Proofs.SessionDelivery

open Transport Session
open MessageFrames MessageRoundTrip

/-- A session with the record of what was sent and received. -/
structure Conversation where
  /-- The bytes under way. -/
  session : Session
  /-- The messages that a party sent, the first one first. -/
  sent : Party → List Message
  /-- The messages that a party got by reading, the first one first. -/
  received : Party → List Message

namespace Conversation

/-- Nothing is sent yet. -/
def start : Conversation := ⟨Session.empty, fun _ => [], fun _ => []⟩

/-- The messages on their way to a party: what the other one sent, less as many
messages as the party received. -/
def waiting (conversation : Conversation) (party : Party) : List Message :=
  (conversation.sent (other party)).drop (conversation.received party).length

/-- A party sends a message, which counts as sent if it can be written. -/
def send [Runtime] (conversation : Conversation) (party : Party) (message : Message) :
    Conversation :=
  let progress := conversation.session.step party (.send message)
  { conversation with
    session := progress.session
    sent := match progress.outcome with
      | .ok _ => Function.update conversation.sent party (conversation.sent party ++ [message])
      | .error _ => conversation.sent }

/-- A party reads a message of a kind, and receives what it gets. -/
def receive [Runtime] (conversation : Conversation) (party : Party) (kind : Message.Kind) :
    Conversation :=
  let progress := conversation.session.step party (.receive kind)
  { conversation with
    session := progress.session
    received := match progress.outcome with
      | .ok (.message message) =>
        Function.update conversation.received party (conversation.received party ++ [message])
      | _ => conversation.received }

end Conversation

/-- One move of a party. It sends any faithful message, or it reads a message of the
kind of the oldest one that is on its way to it. -/
inductive Moves [Runtime] (before : Conversation) (party : Party) : Conversation → Prop where
  | send (message : Message) (faithful : Faithful message) :
      Moves before party (before.send party message)
  | receive {oldest : Message} {later : List Message}
      (next : before.waiting party = oldest :: later) :
      Moves before party (before.receive party oldest.kind)

/-- The conversations that any moves of the two parties, in any order, lead to. -/
inductive Reachable [Runtime] : Conversation → Prop where
  | start : Reachable .start
  | move {before after : Conversation} {party : Party} (earlier : Reachable before)
      (moved : Moves before party after) : Reachable after

/-- The bytes are the frames of the messages, one behind the other. -/
inductive Spelled : List Message → List UInt8 → Prop where
  | nil : Spelled [] []
  | cons {message : Message} {frame : List UInt8} {messages : List Message} {bytes : List UInt8}
      (encoded : message.encode.outcome = .ok frame) (later : Spelled messages bytes) :
      Spelled (message :: messages) (frame ++ bytes)

/-- One direction of a conversation: the messages that were received are the first of
those that were sent, and the bytes are the frames of the others. -/
structure Aligned (sent received : List Message) (bytes : List UInt8) : Prop where
  faithful : ∀ message ∈ sent, Faithful message
  ordered : received <+: sent
  queued : Spelled (sent.drop received.length) bytes

/-- Both directions of a conversation are aligned. -/
def Sound (conversation : Conversation) : Prop :=
  ∀ party, Aligned (conversation.sent (other party)) (conversation.received party)
    (conversation.session.incoming party)

/-! ## One direction -/

section Direction

variable {sent received : List Message} {bytes : List UInt8}

private theorem spelled_concat {messages : List Message} {frame : List UInt8} {message : Message}
    (spelled : Spelled messages bytes) (encoded : message.encode.outcome = .ok frame) :
    Spelled (messages ++ [message]) (bytes ++ frame) := by
  induction spelled with
  | nil => simpa using Spelled.cons encoded .nil
  | cons first later ih =>
    rw [List.cons_append, List.append_assoc]
    exact .cons first ih

/-- A frame that is appended belongs to the message that was sent last. -/
theorem aligned_send (aligned : Aligned sent received bytes) {message : Message}
    {frame : List UInt8} (faithful : Faithful message)
    (encoded : message.encode.outcome = .ok frame) :
    Aligned (sent ++ [message]) received (bytes ++ frame) where
  faithful one member := by
    rcases List.mem_append.mp member with member | member
    · exact aligned.faithful one member
    · exact List.mem_singleton.mp member ▸ faithful
  ordered := aligned.ordered.trans (List.prefix_append _ _)
  queued := by
    rw [List.drop_append_of_le_length aligned.ordered.length_le]
    exact spelled_concat aligned.queued encoded

/-- The bytes start with the frame of the oldest message, and behind it they belong to
the messages that are then still on their way. -/
theorem aligned_receive (aligned : Aligned sent received bytes) {oldest : Message}
    {later : List Message} (next : sent.drop received.length = oldest :: later) :
    ∃ frame rest, bytes = frame ++ rest ∧ Faithful oldest ∧ oldest.encode.outcome = .ok frame ∧
      Aligned sent (received ++ [oldest]) rest := by
  have whole : received ++ oldest :: later = sent :=
    next ▸ List.prefix_iff_eq_append.mp aligned.ordered
  have queued := aligned.queued
  rw [next] at queued
  cases queued with
  | @cons _ frame _ rest encoded spelled =>
    refine ⟨frame, rest, rfl, ?_, encoded, aligned.faithful, ?_, ?_⟩
    · exact aligned.faithful oldest (whole ▸ by simp)
    · exact ⟨later, by rw [← whole, List.append_assoc, List.singleton_append]⟩
    · rw [← whole]
      simpa using spelled

end Direction

/-! ## One move -/

/-- Sending appends the frame of a message to the queue of the other party, or fails
and changes nothing. -/
theorem step_send [Runtime] (session : Session) (party : Party) (message : Message) :
    let progress := session.step party (.send message)
    (∃ frame, message.encode.outcome = .ok frame ∧ progress.outcome = .ok .nothing ∧
      progress.session = session.push party frame) ∨
    (∃ rejection, message.encode.outcome = .error rejection ∧
      progress.outcome = .error (.rejected rejection) ∧ progress.session = session) := by
  cases encoded : message.encode.outcome with
  | ok frame =>
    obtain ⟨outcome, written⟩ := unlimited_send_ok encoded
    refine .inl ⟨frame, rfl, ?_, ?_⟩
    · simp only [Session.step, outcome, Except.map]
    · simp only [Session.step, written]
  | error rejection =>
    obtain ⟨outcome, written⟩ := send_error .unlimited encoded
    refine .inr ⟨rejection, rfl, ?_, ?_⟩
    · simp only [Session.step, outcome, Except.map]
    · simp only [Session.step, written, push_nil]

/-- Reading takes the frame in front of a queue and leaves the rest. -/
theorem step_receive [Runtime] {session : Session} {party : Party} {message : Message}
    {frame bytes : List UInt8} (faithful : Faithful message)
    (encoded : message.encode.outcome = .ok frame)
    (front : session.incoming party = frame ++ bytes) :
    let progress := session.step party (.receive message.kind)
    progress.outcome = .ok (.message message) ∧
      progress.session = session.setIncoming party bytes := by
  obtain ⟨outcome, rest⟩ := read_of_encode faithful encoded bytes
  rw [← front] at outcome rest
  refine ⟨?_, ?_⟩
  · simp only [Session.step, outcome, Except.map]
  · simp only [Session.step, rest]

private theorem self_or_other (party someone : Party) :
    someone = party ∨ someone = other party := by
  cases party <;> cases someone <;> simp [other]

theorem sound_start : Sound .start := by
  intro party
  cases party <;> exact ⟨by simp [Conversation.start], List.prefix_rfl, .nil⟩

theorem sound_send [Runtime] {before : Conversation} (sound : Sound before) (party : Party)
    {message : Message} (faithful : Faithful message) : Sound (before.send party message) := by
  rcases step_send before.session party message with
    ⟨frame, encoded, outcome, session⟩ | ⟨rejection, -, outcome, session⟩
  · intro someone
    simp only [Conversation.send, outcome, session]
    -- Only the direction away from the party that sends is touched.
    rcases self_or_other party someone with rfl | rfl
    · rw [Function.update_of_ne (other_ne _), incoming_push]
      exact sound _
    · have aligned := sound (other party)
      rw [other_other] at aligned ⊢
      rw [Function.update_self, incoming_push_other]
      exact aligned_send aligned faithful encoded
  · simp only [Conversation.send, outcome, session]
    exact sound

/-- Reading for the oldest message on its way gets that message. -/
theorem receive_oldest [Runtime] {conversation : Conversation} (sound : Sound conversation)
    {party : Party} {oldest : Message} {later : List Message}
    (next : conversation.waiting party = oldest :: later) :
    let progress := conversation.session.step party (.receive oldest.kind)
    progress.outcome = .ok (.message oldest) ∧ ∃ bytes,
      progress.session = conversation.session.setIncoming party bytes ∧
      Aligned (conversation.sent (other party)) (conversation.received party ++ [oldest]) bytes := by
  obtain ⟨frame, bytes, front, faithful, encoded, aligned⟩ := aligned_receive (sound party) next
  obtain ⟨outcome, session⟩ := step_receive faithful encoded front
  exact ⟨outcome, bytes, session, aligned⟩

theorem sound_receive [Runtime] {before : Conversation} (sound : Sound before) {party : Party}
    {oldest : Message} {later : List Message} (next : before.waiting party = oldest :: later) :
    Sound (before.receive party oldest.kind) := by
  obtain ⟨outcome, bytes, session, aligned⟩ := receive_oldest sound next
  intro someone
  simp only [Conversation.receive, outcome, session]
  rcases self_or_other party someone with rfl | rfl
  · rw [Function.update_self, incoming_setIncoming]
    exact aligned
  · rw [Function.update_of_ne (other_ne party), incoming_setIncoming_other]
    exact sound _

/-! ## All conversations -/

theorem sound_of_reachable [Runtime] {conversation : Conversation}
    (reachable : Reachable conversation) : Sound conversation := by
  induction reachable with
  | start => exact sound_start
  | move earlier moved ih =>
    cases moved with
    | send message faithful => exact sound_send ih _ faithful
    | receive next => exact sound_receive ih next

/-- **No message is lost, doubled, reordered or merged with another.** However the
moves of two parties are interleaved, what a party received is what the other one sent,
in order, up to the messages that are still on their way, and the queue holds exactly
the frames of those. Sending appends exactly the frame of a message or, if it has none,
fails and changes no queue; and reading for the oldest message on its way gets exactly
that message and leaves the frames of the others. -/
theorem messages_arrive_once_and_in_order [Runtime] {conversation : Conversation}
    (reachable : Reachable conversation) (party : Party) :
    let session := conversation.session
    conversation.sent (other party) = conversation.received party ++ conversation.waiting party ∧
    Spelled (conversation.waiting party) (session.incoming party) ∧
    (∀ message, let progress := session.step party (.send message)
      (∃ frame, message.encode.outcome = .ok frame ∧ progress.outcome = .ok .nothing ∧
        progress.session.incoming (other party) = session.incoming (other party) ++ frame ∧
        progress.session.incoming party = session.incoming party) ∨
      (∃ rejection, message.encode.outcome = .error rejection ∧
        progress.outcome = .error (.rejected rejection) ∧ progress.session = session)) ∧
    (∀ oldest later, conversation.waiting party = oldest :: later →
      let progress := session.step party (.receive oldest.kind)
      progress.outcome = .ok (.message oldest) ∧
      Spelled later (progress.session.incoming party) ∧
      progress.session.incoming (other party) = session.incoming (other party)) := by
  intro session
  have sound := sound_of_reachable reachable
  refine ⟨(List.prefix_iff_eq_append.mp (sound party).ordered).symm, (sound party).queued, ?_, ?_⟩
  · intro message
    rcases step_send session party message with
      ⟨frame, encoded, outcome, after⟩ | ⟨rejection, rejected, outcome, after⟩
    · refine .inl ⟨frame, encoded, outcome, ?_, ?_⟩
      · rw [after, incoming_push_other]
      · rw [after, incoming_push]
    · exact .inr ⟨rejection, rejected, outcome, after⟩
  · intro oldest later next
    obtain ⟨outcome, bytes, after, aligned⟩ := receive_oldest sound next
    have left : (conversation.sent (other party)).drop
        (conversation.received party ++ [oldest]).length = later := by
      rw [List.length_append, ← List.drop_drop, ← Conversation.waiting, next]
      rfl
    refine ⟨outcome, ?_, ?_⟩
    · rw [after, incoming_setIncoming, ← left]
      exact aligned.queued
    · rw [after, incoming_setIncoming_other]

/-- Two messages of a client on their way, of which the server reads the first. -/
theorem messages_arrive_once_and_in_order_offer :
    let _ : Runtime := .direct
    let offer := Message.offer ⟨[0, 2]⟩
    let request := Message.request ⟨.connect, .ofDomain "a" 80⟩
    let conversation := (Conversation.start.send .client offer).send .client request
    let progress := conversation.session.step .server (.receive .offer)
    Reachable conversation ∧ conversation.waiting .server = [offer, request] ∧
      progress.outcome = .ok (.message offer) ∧
      Spelled [request] (progress.session.incoming .server) ∧
      progress.session.incoming .client = [] := by
  intro _ offer request conversation progress
  have reachable : Reachable conversation :=
    .move (.move .start (.send offer trivial)) (.send request (.ofDomain "a" 80))
  have next : conversation.waiting .server = [offer, request] := by decide +kernel
  obtain ⟨-, -, -, reading⟩ := messages_arrive_once_and_in_order reachable .server
  exact ⟨reachable, next, reading offer [request] next⟩

end Socks.Proofs.SessionDelivery

import Socks.Message

/-!
Two parties that talk over a connection. Each direction is a queue of bytes that
were sent and not yet read. Sending and reading work on the queues as the codec
works on streams; an empty queue reads as the end of the stream, and bytes that
were read before a rejection stay read.
-/
namespace Socks

open Transport

/-- Programs run on a runtime that makes interrupted calls again. What is proved of them
is proved for every runtime. -/
instance : Runtime := .persistent

/-- The two ends of a connection. -/
inductive Party where
  | client | server
  deriving DecidableEq

/-- The bytes under way. -/
structure Session where
  /-- Sent by the client and not yet read by the server. -/
  toServer : List UInt8
  /-- Sent by the server and not yet read by the client. -/
  toClient : List UInt8
  deriving DecidableEq

/-- What a party does. -/
inductive Action where
  /-- Sends a message. -/
  | send (message : Message)
  /-- Reads a message of a kind. -/
  | receive (kind : Message.Kind)
  /-- Sends bytes as they are. -/
  | sendBytes (bytes : List UInt8)
  /-- Reads all that is there. -/
  | drain

/-- What a party gets from an action. -/
inductive Gain where
  /-- Nothing but that the action is done. -/
  | nothing
  /-- A message. -/
  | message (message : Message)
  /-- Bytes. -/
  | bytes (bytes : List UInt8)

/-- How an action went. -/
structure Progress where
  /-- What the party got, or why it got nothing. -/
  outcome : Except CodecError Gain
  /-- The session afterwards. -/
  session : Session
  /-- The events that were reported. -/
  events : List Event

namespace Session

/-- A session at its start. -/
def empty : Session := ⟨[], []⟩

/-- The bytes that a party can read. -/
def incoming (session : Session) : Party → List UInt8
  | .client => session.toClient
  | .server => session.toServer

/-- The session with other bytes for a party to read. -/
def setIncoming (session : Session) (party : Party) (bytes : List UInt8) : Session :=
  match party with
  | .client => { session with toClient := bytes }
  | .server => { session with toServer := bytes }

/-- The party at the other end. -/
def other : Party → Party
  | .client => .server
  | .server => .client

/-- The session after a party sent some bytes. -/
def push (session : Session) (party : Party) (bytes : List UInt8) : Session :=
  session.setIncoming (other party) (session.incoming (other party) ++ bytes)

/-- One action of a party. -/
def step [Runtime] (session : Session) (party : Party) : Action → Progress
  | .send message =>
    let delivery := Sink.unlimited.send message.encode
    ⟨delivery.outcome.map fun _ => .nothing, session.push party delivery.written,
      delivery.events⟩
  | .receive kind =>
    let reception := kind.decoder.run (Source.ofBytes (session.incoming party))
    ⟨reception.outcome.map .message, session.setIncoming party reception.rest.bytes,
      reception.events⟩
  | .sendBytes bytes => ⟨.ok .nothing, session.push party bytes, []⟩
  | .drain => ⟨.ok (.bytes (session.incoming party)), session.setIncoming party [], []⟩

/-! ## Queues -/

section Queues

variable (session : Session) (party : Party) (bytes : List UInt8)

@[simp] theorem other_other : other (other party) = party := by cases party <;> rfl

@[simp] theorem other_ne : other party ≠ party := by cases party <;> exact Party.noConfusion

@[simp] theorem incoming_setIncoming :
    (session.setIncoming party bytes).incoming party = bytes := by cases party <;> rfl

@[simp] theorem incoming_setIncoming_other :
    (session.setIncoming party bytes).incoming (other party) = session.incoming (other party) := by
  cases party <;> rfl

@[simp] theorem incoming_push :
    (session.push party bytes).incoming party = session.incoming party := by cases party <;> rfl

@[simp] theorem incoming_push_other :
    (session.push party bytes).incoming (other party) =
      session.incoming (other party) ++ bytes := by
  cases party <;> rfl

@[simp] theorem push_nil : session.push party [] = session := by
  cases party <;> simp [push, incoming, setIncoming, other]

end Queues

end Session

end Socks

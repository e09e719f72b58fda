import Socks.Transport.Failure
import Socks.Report

/-!
Where bytes go. A sink takes any part of what it is offered; writing offers all
that is not yet taken, again and again, until nothing is left, and then flushes.
A message is handed over as a report: if the value has no encoding, the sink is
not touched.
-/
namespace Socks.Transport

/-- How a sink behaves. -/
structure Sink where
  /-- Most bytes that one call takes, if there is a limit. -/
  portion : Option Nat
  /-- Bytes that are still taken in all, if there is a limit. -/
  room : Option Nat
  /-- The failure of the first call that takes nothing. -/
  failure : Option Failure
  /-- The failure of flushing. -/
  flushFailure : Option Failure

/-- One call that offers bytes to a sink or flushes it. -/
inductive WriteCall where
  /-- Bytes were offered and some of them taken. -/
  | write (offered : Nat) (answer : Except Failure Nat)
  /-- What was taken was flushed. -/
  | flush (answer : Except Failure Unit)

/-- What came of writing to a sink. -/
structure Delivery where
  /-- Whether all was written. -/
  outcome : Except CodecError Unit
  /-- The bytes that the sink took. -/
  written : List UInt8
  /-- The calls that were made. -/
  calls : List WriteCall
  /-- The events that were reported. -/
  events : List Event

namespace Sink

/-- A sink that takes everything. -/
def unlimited : Sink := ⟨none, none, none, none⟩

/-- A number under an optional limit. -/
def atMost (limit : Option Nat) (count : Nat) : Nat :=
  match limit with
  | some limit => min limit count
  | none => count

/-- How many of the offered bytes the next call takes. -/
def taken (sink : Sink) (offered : Nat) : Nat := atMost sink.room (atMost sink.portion offered)

theorem atMost_le (limit : Option Nat) (count : Nat) : atMost limit count ≤ count := by
  cases limit with
  | none => exact Nat.le_refl count
  | some limit => exact Nat.min_le_right limit count

/-- A call never takes more than it is offered. -/
theorem taken_le (sink : Sink) (offered : Nat) : sink.taken offered ≤ offered :=
  Nat.le_trans (atMost_le _ _) (atMost_le _ _)

/-- The sink after it took some bytes. -/
def after (sink : Sink) (count : Nat) : Sink :=
  { sink with room := sink.room.map (· - count) }

/-- Flushes a sink. -/
def flush (sink : Sink) : Delivery :=
  match sink.flushFailure with
  | some failure => ⟨.error (.failed failure), [], [.flush (.error failure)], []⟩
  | none => ⟨.ok (), [], [.flush (.ok ())], []⟩

/-- A call that takes none of the offered bytes. It ends the writing, with the
failure of the sink or because nothing was taken; a call that the runtime makes again
after a failure takes nothing. -/
def refuse [Runtime] (sink : Sink) (offered : Nat) : Delivery :=
  match sink.failure with
  | none => ⟨.error (.failed Failure.nothingTaken), [], [.write offered (.ok 0)], []⟩
  | some failure =>
    if Runtime.repeats failure then
      ⟨.error (.failed Failure.nothingTaken), [],
        [.write offered (.error failure), .write offered (.ok 0)], []⟩
    else ⟨.error (.failed failure), [], [.write offered (.error failure)], []⟩

/-- Writes bytes until all are taken, as `write_all` does, and flushes. -/
def write [Runtime] (sink : Sink) (bytes : List UInt8) : Delivery :=
  if _ : bytes.length = 0 then sink.flush
  else if _ : sink.taken bytes.length = 0 then sink.refuse bytes.length
  else
    let count := sink.taken bytes.length
    let delivery := (sink.after count).write (bytes.drop count)
    { delivery with
      written := bytes.take count ++ delivery.written
      calls := .write bytes.length (.ok count) :: delivery.calls }
  termination_by bytes.length
  decreasing_by rw [List.length_drop]; omega

/-- Writes the message of a report. -/
def send [Runtime] (sink : Sink) (message : Report (List UInt8)) : Delivery :=
  match message.outcome with
  | .error rejection => ⟨.error (.rejected rejection), [], [], message.events⟩
  | .ok bytes => { sink.write bytes with events := message.events }

end Sink

end Socks.Transport

import Socks.Transport.Source
import Socks.Report

/-!
Reading a message from a stream. A `Decoder` is a program that asks for bytes,
reports events and ends with a message or a rejection; `Decoder.run` carries it
out on a source. Messages of variable length are read in steps: `readPrefix` gets
the bytes from which the length follows, and `readRemainder` gets what is then
missing, so that no byte behind the message is ever asked for.
-/
namespace Socks.Transport

open Wire

/-- A program that reads a message. -/
inductive Decoder (α : Type) where
  /-- The program has ended. -/
  | done (outcome : Except Rejection α)
  /-- The program reports an event. -/
  | log (event : Event) (next : Decoder α)
  /-- The program reads some bytes. -/
  | read (count : Nat) (next : Block count → Decoder α)

namespace Decoder

variable {α β : Type}

/-- Continues where a program ends with a result. -/
def bind : Decoder α → (α → Decoder β) → Decoder β
  | .done (.ok result), follow => follow result
  | .done (.error rejection), _ => .done (.error rejection)
  | .log event next, follow => .log event (next.bind follow)
  | .read count next, follow => .read count fun block => (next block).bind follow

instance : Monad Decoder where
  pure result := .done (.ok result)
  bind := bind

/-- Reports an event. -/
def report (event : Event) : Decoder Unit := .log event (.done (.ok ()))

/-- Ends without a message. -/
def reject (rejection : Rejection) : Decoder α := .done (.error rejection)

/-- Goes on with a result that is already there, or ends. -/
def outcome (outcome : Except Rejection α) : Decoder α := .done outcome

/-- Does what a report says. -/
def ofReport (report : Report α) : Decoder α :=
  report.events.foldr .log (.done report.outcome)

/-! ## Reading in steps -/

/-- Reads the first bytes of a message (`read_prefix`). -/
def readPrefix (count : Nat) : Decoder (Block count) :=
  .read count fun block => .done (.ok block)

/-- Reads what is missing of the first `total` bytes of a message, of which some are
there (`read_remainder`). Bytes that are there already are kept, also when they are more. -/
def readRemainder {count : Nat} (block : Block count) (total : Nat) :
    Decoder (Block (max count total)) :=
  if short : count < total then
    .log (.readingMore (total - count) total) <| .read (total - count) fun more =>
      .done (.ok ((block.append more).cast (by omega)))
  else .done (.ok (block.cast (by omega)))

end Decoder

/-! ## Running -/

/-- What came of reading a message from a source. -/
structure Reception (α : Type) where
  /-- The message, or why there is none. -/
  outcome : Except CodecError α
  /-- The source afterwards. -/
  rest : Source
  /-- The calls that asked for bytes. -/
  calls : List ReadCall
  /-- The events that were reported. -/
  events : List Event

/-- The number of bytes that a call took from the source. -/
def ReadCall.taken (call : ReadCall) : Nat :=
  match call.answer with
  | .ok count => count
  | .error _ => 0

/-- The number of bytes that were taken from the source. -/
def Reception.consumed {α : Type} (reception : Reception α) : Nat :=
  reception.calls.foldr (fun call count => call.taken + count) 0

/-- Carries out a program on a source. A failure of the source ends it. -/
def Decoder.run [Runtime] {α : Type} : Decoder α → Source → Reception α
  | .done outcome, source => ⟨outcome.mapError .rejected, source, [], []⟩
  | .log event next, source =>
    let reception := next.run source
    { reception with events := event :: reception.events }
  | .read count next, source =>
    let reading := source.read count
    match reading.outcome with
    | .error failure => ⟨.error (.failed failure), reading.rest, reading.calls, []⟩
    | .ok block =>
      let reception := (next block).run reading.rest
      { reception with calls := reading.calls ++ reception.calls }

end Socks.Transport

import Socks.Transport.Failure
import Socks.Wire.Block

/-!
Where bytes come from. A source delivers its bytes in chunks, whose borders carry
no meaning, and then ends, with a failure or without. Reading asks for all that is
still missing, again and again, until it has it; so what is read depends on the
bytes alone and not on the chunks.
-/
namespace Socks.Transport

open Wire

/-- The bytes that are still to come. A chunk without bytes is an end of the
stream that a reader can observe before the last chunk. -/
structure Source where
  /-- The bytes in the portions in which they arrive. -/
  chunks : List (List UInt8)
  /-- The failure that is observed once, behind the last chunk. -/
  ending : Option Failure
  deriving DecidableEq

/-- One call that asks a source for bytes. -/
structure ReadCall where
  /-- How many bytes it asked for. -/
  wanted : Nat
  /-- How many it got; none at the end of the stream. -/
  answer : Except Failure Nat

/-- What came of reading `count` bytes. -/
structure Reading (count : Nat) where
  /-- The bytes, or why there are none. -/
  outcome : Except Failure (Block count)
  /-- The source afterwards. -/
  rest : Source
  /-- The calls that were made. -/
  calls : List ReadCall

namespace Source

/-- A source that has some bytes and then ends. -/
def ofBytes (bytes : List UInt8) : Source :=
  ⟨if bytes.isEmpty then [] else [bytes], none⟩

/-- The bytes of all chunks. -/
def bytes (source : Source) : List UInt8 := source.chunks.flatten

/-- Reads bytes where no chunk is left. A call that the runtime makes again after a
failure meets the end. -/
def readEnd [Runtime] (count : Nat) (ending : Option Failure) : Reading count :=
  match ending with
  | none => ⟨.error Failure.earlyEnd, ⟨[], none⟩, [⟨count, .ok 0⟩]⟩
  | some failure =>
    if Runtime.repeats failure then
      ⟨.error Failure.earlyEnd, ⟨[], none⟩,
        [⟨count, .error failure⟩, ⟨count, .ok 0⟩]⟩
    else ⟨.error failure, ⟨[], none⟩, [⟨count, .error failure⟩]⟩

/-- Reads `count` bytes from chunks, as `read_exact` does. One call gets at most what is
left of one chunk. Nothing is asked for when nothing is missing, and the first call that
gets nothing is the last one. -/
def readChunks [Runtime] (ending : Option Failure) (count : Nat) (chunks : List (List UInt8)) :
    Reading count :=
  if complete : count = 0 then ⟨.ok (Block.empty.cast complete.symm), ⟨chunks, ending⟩, []⟩
  else match chunks with
    | [] => readEnd count ending
    | [] :: later => ⟨.error Failure.earlyEnd, ⟨later, ending⟩, [⟨count, .ok 0⟩]⟩
    | chunk :: later =>
      if short : chunk.length < count then
        let reading := readChunks ending (count - chunk.length) later
        let behind := fun (block : Block (count - chunk.length)) =>
          ((⟨chunk, rfl⟩ : Block chunk.length).append block).cast
            (Nat.add_sub_of_le (Nat.le_of_lt short))
        { outcome := reading.outcome.map behind
          rest := reading.rest
          calls := ⟨count, .ok chunk.length⟩ :: reading.calls }
      else
        let left := chunk.drop count
        { outcome := .ok (Block.take chunk count (Nat.le_of_not_lt short))
          rest := ⟨if left.isEmpty then later else left :: later, ending⟩
          calls := [⟨count, .ok count⟩] }
  termination_by structural chunks

/-- Reads `count` bytes. -/
def read [Runtime] (source : Source) (count : Nat) : Reading count :=
  readChunks source.ending count source.chunks

end Source

end Socks.Transport

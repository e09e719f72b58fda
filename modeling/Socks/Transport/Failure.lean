/-!
Failures of the transport under the codec. A failure is passed on unchanged, so
it keeps its kind and the text it came with; one that came without a text shows
the standard text of its kind. What becomes of a call on a stream that failed is
for the runtime under the codec to decide.
-/
namespace Socks.Transport

/-- What kind of operation of the transport failed. -/
inductive FailureKind where
  | notFound | permissionDenied | connectionRefused | connectionReset | hostUnreachable
  | networkUnreachable | connectionAborted | notConnected | addrInUse | addrNotAvailable
  | networkDown | brokenPipe | alreadyExists | wouldBlock | notADirectory | isADirectory
  | directoryNotEmpty | readOnlyFilesystem | staleNetworkFileHandle | invalidInput
  | invalidData | timedOut | writeZero | storageFull | notSeekable | quotaExceeded
  | fileTooLarge | resourceBusy | executableFileBusy | deadlock | crossesDevices
  | tooManyLinks | invalidFilename | argumentListTooLong | interrupted | unsupported
  | unexpectedEof | outOfMemory | other
  deriving DecidableEq

/-- The standard text of a kind. -/
def FailureKind.text : FailureKind → String
  | .notFound => "entity not found"
  | .permissionDenied => "permission denied"
  | .connectionRefused => "connection refused"
  | .connectionReset => "connection reset"
  | .hostUnreachable => "host unreachable"
  | .networkUnreachable => "network unreachable"
  | .connectionAborted => "connection aborted"
  | .notConnected => "not connected"
  | .addrInUse => "address in use"
  | .addrNotAvailable => "address not available"
  | .networkDown => "network down"
  | .brokenPipe => "broken pipe"
  | .alreadyExists => "entity already exists"
  | .wouldBlock => "operation would block"
  | .notADirectory => "not a directory"
  | .isADirectory => "is a directory"
  | .directoryNotEmpty => "directory not empty"
  | .readOnlyFilesystem => "read-only filesystem or storage medium"
  | .staleNetworkFileHandle => "stale network file handle"
  | .invalidInput => "invalid input parameter"
  | .invalidData => "invalid data"
  | .timedOut => "timed out"
  | .writeZero => "write zero"
  | .storageFull => "no storage space"
  | .notSeekable => "seek on unseekable file"
  | .quotaExceeded => "quota exceeded"
  | .fileTooLarge => "file too large"
  | .resourceBusy => "resource busy"
  | .executableFileBusy => "executable file busy"
  | .deadlock => "deadlock"
  | .crossesDevices => "cross-device link or rename"
  | .tooManyLinks => "too many links"
  | .invalidFilename => "invalid filename"
  | .argumentListTooLong => "argument list too long"
  | .interrupted => "operation interrupted"
  | .unsupported => "unsupported"
  | .unexpectedEof => "unexpected end of file"
  | .outOfMemory => "out of memory"
  | .other => "other error"

/-- A failure of the transport. -/
structure Failure where
  /-- Its kind. -/
  kind : FailureKind
  /-- The text it came with, if any. -/
  detail : Option String
  deriving DecidableEq

namespace Failure

/-- The text a failure shows. -/
def message (failure : Failure) : String := failure.detail.getD failure.kind.text

/-- Whether a call was only interrupted, so that it can simply be made again. -/
def isInterruption (failure : Failure) : Bool := failure.kind == .interrupted

/-- The stream ended inside a message. -/
def earlyEnd : Failure := ⟨.unexpectedEof, some "early eof"⟩

@[simp] theorem kind_earlyEnd : earlyEnd.kind = .unexpectedEof := rfl

@[simp] theorem message_earlyEnd : earlyEnd.message = "early eof" := rfl

/-- The receiving side took none of the bytes it was offered. -/
def nothingTaken : Failure := ⟨.writeZero, some "write zero"⟩

@[simp] theorem kind_nothingTaken : nothingTaken.kind = .writeZero := rfl

@[simp] theorem message_nothingTaken : nothingTaken.message = "write zero" := rfl

end Failure

/-! ## The runtime -/

/-- What the runtime under the codec does when a call that `read_exact` or `write_all`
makes on a stream fails. The codec leaves both to it, so this is a parameter of all that
reads and writes. -/
class Runtime where
  /-- Whether the call is made again; otherwise its failure is passed on at once. -/
  repeats : Failure → Bool

namespace Runtime

/-- Every failure is passed on at once. `read_exact` and `write_all` promise this, and the
codec relies on it to carry failures unchanged. -/
def PassesOn [Runtime] : Prop := ∀ failure, repeats failure = false

theorem PassesOn.not_repeats [Runtime] (passesOn : PassesOn) (failure : Failure) :
    ¬ repeats failure = true :=
  Bool.eq_false_iff.mp (passesOn failure)

/-- The runtime that passes every failure on at once. -/
@[reducible] def direct : Runtime := ⟨fun _ => false⟩

/-- The runtime that makes a call again if it was only interrupted. -/
@[reducible] def persistent : Runtime := ⟨Failure.isInterruption⟩

theorem direct_passesOn : @PassesOn direct := fun _ => rfl

end Runtime

end Socks.Transport

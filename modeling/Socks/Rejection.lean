import Socks.Protocol
import Socks.Text.Quoted
import Socks.Transport.Failure

/-!
Why an operation of the codec ends without a result. A `Rejection` blames the
bytes that were received or the value that was to be written, and a
`CodecError` is either a rejection or a failure of the stream, so the two can
never be confused. All wording is in the `message` functions of this module.
-/
namespace Socks

open Text Transport

/-- The families of IP addresses. -/
inductive Family where
  | v4 | v6
  deriving DecidableEq

/-- The name of a family. -/
def Family.name : Family → String
  | .v4 => "IPv4"
  | .v6 => "IPv6"

/-- The texts of a credential. -/
inductive LoginField where
  | username | password
  deriving DecidableEq

/-- The name of a text. -/
def LoginField.name : LoginField → String
  | .username => "username"
  | .password => "password"

/-- What is wrong with the structure of received bytes, or with a value that has
no encoding. -/
inductive Malformed where
  /-- No byte of an address was given. -/
  | emptyAddress
  /-- An address ends before its last byte. -/
  | truncatedAddress (needed available : Nat)
  /-- A domain name is not UTF-8. -/
  | domainNotUtf8
  /-- A host is not a literal of its family. -/
  | badLiteral (family : Family) (host : String)
  /-- A domain name has more bytes than one byte can count. -/
  | domainTooLong (length : Nat)
  /-- A text of a credential has more bytes than one byte can count. -/
  | fieldTooLong (field : LoginField) (length : Nat)
  /-- A text of a credential is not UTF-8. -/
  | fieldNotUtf8 (field : LoginField)
  /-- No reply has this code. -/
  | unknownReplyCode (byte : UInt8)
  /-- More methods are offered than one byte can count. -/
  | tooManyMethods (count : Nat)
  /-- A payload has more bytes than a 16-bit field can count. -/
  | payloadTooLong (length : Nat)
  /-- A packet is shorter than the shortest header. -/
  | packetTooShort (length : Nat)
  /-- The reserved field of a packet is not the length of its payload. -/
  | reservedMismatch (reserved : UInt16) (payload : Nat)
  /-- A defect in the words of the caller. -/
  | described (text : String)
  deriving DecidableEq

/-- The wording of a defect. -/
def Malformed.message : Malformed → String
  | .emptyAddress => "empty address"
  | .truncatedAddress needed available => s!"address needs {needed} bytes, got {available}"
  | .domainNotUtf8 => "invalid UTF-8 in domain name"
  | .badLiteral family host => s!"invalid {family.name} literal: {quoted host}"
  | .domainTooLong length =>
    s!"domain name is {length} bytes, limit is {Protocol.maxDomainLength}"
  | .fieldTooLong field length =>
    s!"{field.name} is {length} bytes, limit is {Protocol.maxCredentialLength}"
  | .fieldNotUtf8 field => s!"invalid UTF-8 in {field.name}"
  | .unknownReplyCode byte => s!"unknown reply code {byte}"
  | .tooManyMethods count => s!"{count} methods offered, limit is {Protocol.maxMethodCount}"
  | .payloadTooLong length =>
    s!"payload is {length} bytes, limit is {Protocol.maxPayloadLength}"
  | .packetTooShort length => s!"UDP packet too short: {length} bytes"
  | .reservedMismatch reserved payload =>
    s!"reserved field {reserved} does not match payload length {payload}"
  | .described text => text

/-- Why bytes are not accepted or a value is not written. -/
inductive Rejection where
  /-- A version byte is not the one the message requires. -/
  | badVersion (expected actual : UInt8)
  /-- The structure is wrong, or the value has no encoding. -/
  | malformed (defect : Malformed)
  /-- No address has this type byte. -/
  | badAddressType (byte : UInt8)
  /-- The buffer to write to is too small. -/
  | shortBuffer (needed available : Nat)
  /-- No authentication method is offered. -/
  | noMethods
  /-- The credential is not accepted; callers use it, the codec never does. -/
  | loginRefused
  /-- The request carries an unknown command. It is raised when the whole
  request has been read, so a reply can still be sent. -/
  | unsupportedCommand (byte : UInt8)
  deriving DecidableEq

/-- The wording of a rejection. -/
def Rejection.message : Rejection → String
  | .badVersion expected actual => s!"Bad version: expected {expected}, got {actual}"
  | .malformed defect => s!"Bad format: {defect.message}"
  | .badAddressType byte => s!"Bad address type: {byte}"
  | .shortBuffer needed available => s!"Short buffer: need {needed} bytes, have {available}"
  | .noMethods => "Bad method: no authentication methods offered"
  | .loginRefused => "Authentication failed"
  | .unsupportedCommand byte => s!"Command not supported: {byte}"

/-- Why an operation on a stream ends without a result (`Socks5Error`). -/
inductive CodecError where
  /-- The bytes or the value are at fault. -/
  | rejected (rejection : Rejection)
  /-- The stream is at fault. -/
  | failed (failure : Failure)
  deriving DecidableEq

namespace CodecError

/-- The wording of an error. -/
def message : CodecError → String
  | .rejected rejection => rejection.message
  | .failed failure => s!"IO error: {failure.message}"

/-- Whether the stream is at fault (`is_io`). -/
def isFailure : CodecError → Bool
  | .rejected _ => false
  | .failed _ => true

/-- The error as a failure of a transport that is made of messages: a failure
of the stream is kept, and a rejection becomes invalid data in its own words. -/
def toFailure : CodecError → Failure
  | .rejected rejection => ⟨.invalidData, some rejection.message⟩
  | .failed failure => failure

end CodecError

end Socks

import Socks.Address
import Socks.Rejection

/-!
The exchange that follows the negotiation: a request with a command and an
address, and the reply with a code and the address that the server uses.
-/
namespace Socks

open Transport

/-- What a client asks for. -/
inductive Command where
  /-- A connection to the address. -/
  | connect
  /-- A connection from the address. -/
  | bind
  /-- A relay for datagrams. -/
  | udpAssociate
  deriving DecidableEq

namespace Command

/-- The command that a byte stands for (`from_byte`). -/
def ofByte? (byte : UInt8) : Option Command :=
  if byte = Protocol.commandConnect then some .connect
  else if byte = Protocol.commandBind then some .bind
  else if byte = Protocol.commandUdpAssociate then some .udpAssociate
  else none

/-- The byte of a command. -/
def toByte : Command → UInt8
  | .connect => Protocol.commandConnect
  | .bind => Protocol.commandBind
  | .udpAssociate => Protocol.commandUdpAssociate

/-- The text of a command. -/
def display : Command → String
  | .connect => "CONNECT"
  | .bind => "BIND"
  | .udpAssociate => "UDP ASSOCIATE"

end Command

/-- How a request went. -/
inductive ReplyCode where
  | succeeded | generalFailure | connectionNotAllowed | networkUnreachable | hostUnreachable
  | connectionRefused | ttlExpired | commandNotSupported | addressTypeNotSupported
  deriving DecidableEq

namespace ReplyCode

/-- The byte of a code. -/
def toByte : ReplyCode → UInt8
  | .succeeded => Protocol.replySucceeded
  | .generalFailure => Protocol.replyGeneralFailure
  | .connectionNotAllowed => Protocol.replyConnectionNotAllowed
  | .networkUnreachable => Protocol.replyNetworkUnreachable
  | .hostUnreachable => Protocol.replyHostUnreachable
  | .connectionRefused => Protocol.replyConnectionRefused
  | .ttlExpired => Protocol.replyTtlExpired
  | .commandNotSupported => Protocol.replyCommandNotSupported
  | .addressTypeNotSupported => Protocol.replyAddressTypeNotSupported

/-- The code that a byte stands for (`try_from`). -/
def ofByte (byte : UInt8) : Except Rejection ReplyCode :=
  if byte = Protocol.replySucceeded then .ok .succeeded
  else if byte = Protocol.replyGeneralFailure then .ok .generalFailure
  else if byte = Protocol.replyConnectionNotAllowed then .ok .connectionNotAllowed
  else if byte = Protocol.replyNetworkUnreachable then .ok .networkUnreachable
  else if byte = Protocol.replyHostUnreachable then .ok .hostUnreachable
  else if byte = Protocol.replyConnectionRefused then .ok .connectionRefused
  else if byte = Protocol.replyTtlExpired then .ok .ttlExpired
  else if byte = Protocol.replyCommandNotSupported then .ok .commandNotSupported
  else if byte = Protocol.replyAddressTypeNotSupported then .ok .addressTypeNotSupported
  else .error (.malformed (.unknownReplyCode byte))

/-- The name of a code. -/
def name : ReplyCode → String
  | .succeeded => "Succeeded"
  | .generalFailure => "GeneralFailure"
  | .connectionNotAllowed => "ConnectionNotAllowed"
  | .networkUnreachable => "NetworkUnreachable"
  | .hostUnreachable => "HostUnreachable"
  | .connectionRefused => "ConnectionRefused"
  | .ttlExpired => "TtlExpired"
  | .commandNotSupported => "CommandNotSupported"
  | .addressTypeNotSupported => "AddressTypeNotSupported"

/-- The code with which a server reports a failed connection. Only the kind of
the failure counts; those without a code of their own are general failures. -/
def ofFailure (failure : Failure) : ReplyCode :=
  match failure.kind with
  | .connectionRefused => .connectionRefused
  | .timedOut => .hostUnreachable
  | .addrNotAvailable => .hostUnreachable
  | .permissionDenied => .connectionNotAllowed
  | _ => .generalFailure

end ReplyCode

/-- The text that requests and replies share: version, code, reserved byte,
address type and address. -/
def displayFrame (code : UInt8) (address : Address) : String :=
  s!"{Protocol.version} {code} {Protocol.reserved} {address.typeByte} {address.display}"

/-- A request of a client. -/
structure Request where
  /-- What is asked for. -/
  command : Command
  /-- The address it is asked for. -/
  address : Address
  deriving DecidableEq

namespace Request

/-- A request without an address of its own. -/
def unaddressed (command : Command) : Request := ⟨command, Address.unspecified⟩

/-- The text of a request. -/
def display (request : Request) : String := displayFrame request.command.toByte request.address

end Request

/-- A reply of a server. -/
structure Reply where
  /-- How the request went. -/
  code : ReplyCode
  /-- The address that the server uses. -/
  address : Address
  deriving DecidableEq

namespace Reply

/-- A reply without an address of its own. -/
def unbound (code : ReplyCode) : Reply := ⟨code, Address.unspecified⟩

/-- The text of a reply. -/
def display (reply : Reply) : String := displayFrame reply.code.toByte reply.address

end Reply

end Socks

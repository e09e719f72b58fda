/-!
The numbers of the SOCKS version 5 wire formats: versions, method, command,
address type and reply bytes, and the limits that one length byte or one
16-bit length field sets. Every other module takes them from here.
-/
namespace Socks.Protocol

/-- The name under which this codec announces itself. -/
def name : String := "socks5-wire"

/-- The release of the codec. -/
def release : String := "0.1.0"

/-! ## Versions -/

/-- First byte of every negotiation, request and reply. -/
def version : UInt8 := 5

/-- First byte of the username and password messages. -/
def loginVersion : UInt8 := 1

/-! ## Authentication methods -/

/-- No authentication is required. -/
def methodNone : UInt8 := 0

/-- Generic security services. -/
def methodGssApi : UInt8 := 1

/-- Username and password. -/
def methodPassword : UInt8 := 2

/-- None of the offered methods is acceptable. -/
def methodNotAcceptable : UInt8 := 255

/-! ## Login status -/

/-- The credential is accepted. -/
def loginSuccess : UInt8 := 0

/-- The credential is rejected; every nonzero byte means so. -/
def loginFailure : UInt8 := 1

/-! ## Commands -/

/-- Open a connection to the given address. -/
def commandConnect : UInt8 := 1

/-- Wait for a connection from the given address. -/
def commandBind : UInt8 := 2

/-- Open a relay for datagrams. -/
def commandUdpAssociate : UInt8 := 3

/-! ## Address types -/

/-- Four octets follow. -/
def addressIPv4 : UInt8 := 1

/-- A length byte and a name follow. -/
def addressDomain : UInt8 := 3

/-- Sixteen octets follow. -/
def addressIPv6 : UInt8 := 4

/-! ## Reply codes -/

/-- The request was carried out. -/
def replySucceeded : UInt8 := 0

/-- The server failed for a reason of its own. -/
def replyGeneralFailure : UInt8 := 1

/-- The rules of the server forbid the connection. -/
def replyConnectionNotAllowed : UInt8 := 2

/-- The network cannot be reached. -/
def replyNetworkUnreachable : UInt8 := 3

/-- The host cannot be reached. -/
def replyHostUnreachable : UInt8 := 4

/-- The host refused the connection. -/
def replyConnectionRefused : UInt8 := 5

/-- The time to live ran out. -/
def replyTtlExpired : UInt8 := 6

/-- The command is not supported. -/
def replyCommandNotSupported : UInt8 := 7

/-- The address type is not supported. -/
def replyAddressTypeNotSupported : UInt8 := 8

/-! ## Reserved byte and limits -/

/-- What is written where a message keeps a byte in reserve. -/
def reserved : UInt8 := 0

/-- Longest domain name: one byte counts its bytes. -/
def maxDomainLength : Nat := 255

/-- Longest username or password: one byte counts its bytes. -/
def maxCredentialLength : Nat := 255

/-- Most methods in one offer: one byte counts them. -/
def maxMethodCount : Nat := 255

/-- Longest datagram payload: a 16-bit field counts its bytes. -/
def maxPayloadLength : Nat := 65535

/-- Bytes that have to be read before the length of a request, a reply or a
datagram header is known: four fixed bytes and the first byte of the address
body, which counts the name of a domain address. -/
def addressedHeadLength : Nat := 5

end Socks.Protocol

import Socks.Address.Codec
import Socks.Transport.Version

/-!
Requests and replies on the wire. Both are a version byte, a code, a reserved byte
and an address. A message is read to its end before its code is judged, so the
next message of the stream can be read also behind a code that is not known.
-/
namespace Socks

open Wire Transport Decoder

namespace Exchange

/-- The bytes of a message with some code and address (`encode_frame`). -/
def toBytes (code : UInt8) (address : Address) : Except Rejection (List UInt8) := do
  let bytes ← address.toBytes
  return Protocol.version :: code :: Protocol.reserved :: bytes

/-- Reads a message up to its end (`decode_frame`). The reserved byte is not looked at. -/
def decoder : Decoder (UInt8 × Address) := do
  let head : Block 5 ← readPrefix Protocol.addressedHeadLength
  let (version, code, _, type, next) := head.five
  checkVersion .frame version
  let length ← ofReport (Address.frameLength type next)
  let frame ← readRemainder head (3 + length)
  let address ← ofReport (Address.decode (frame.bytes.drop 3))
  return (code, address)

end Exchange

namespace Request

/-- The bytes of a request (`to_bytes`). -/
def toBytes (request : Request) : Except Rejection (List UInt8) :=
  Exchange.toBytes request.command.toByte request.address

/-- A request as a message (`encode_request`). -/
def message (request : Request) : Report (List UInt8) := do
  let bytes ← Report.ofOutcome request.toBytes
  Report.log (.requestEncoded request)
  return bytes

/-- Reads a request (`decode_request`). -/
def decoder : Decoder Request := do
  let (byte, address) ← Exchange.decoder
  match Command.ofByte? byte with
  | some command =>
    report (.requestDecoded ⟨command, address⟩)
    return ⟨command, address⟩
  | none =>
    report (.unknownCommand byte address)
    reject (.unsupportedCommand byte)

end Request

namespace Reply

/-- The bytes of a reply (`to_bytes`). -/
def toBytes (reply : Reply) : Except Rejection (List UInt8) :=
  Exchange.toBytes reply.code.toByte reply.address

/-- A reply as a message (`encode_reply`). -/
def message (reply : Reply) : Report (List UInt8) := do
  let bytes ← Report.ofOutcome reply.toBytes
  Report.log (.replyEncoded reply)
  return bytes

/-- Reads a reply (`decode_reply`). -/
def decoder : Decoder Reply := do
  let (byte, address) ← Exchange.decoder
  match ReplyCode.ofByte byte with
  | .ok code =>
    report (.replyDecoded ⟨code, address⟩)
    return ⟨code, address⟩
  | .error rejection =>
    report (.unknownReplyCode byte address)
    reject rejection

end Reply

end Socks

import Socks.Datagram
import Socks.Address.Codec
import Socks.Transport.Decoder

/-!
Datagrams on a stream: the reserved field, the fragment number, the address and
the payload. The reserved field is written as it is stored, and is read as the
length of the payload; so a datagram whose field says something else is written,
and reported, but does not come back as it was.
-/
namespace Socks

open Wire Transport Decoder

namespace Header

/-- The number of bytes a header takes, whether it can be written or not (`encoded_len`). -/
def encodedLength (header : Header) : Nat := 3 + header.address.encodedLength

/-- The bytes of a header (`write_to_buf`). -/
def toBytes (header : Header) : Except Rejection (List UInt8) := do
  let address ← header.address.toBytes
  return BigEndian.bytes header.reserved ++ header.fragment :: address

end Header

namespace Datagram

/-- The bytes of a datagram (`to_bytes`). -/
def toBytes (datagram : Datagram) : Except Rejection (List UInt8) := do
  let _ ← payloadLength datagram.payload
  let header ← datagram.header.toBytes
  return header ++ datagram.payload

/-- A datagram as a message (`encode_datagram`). -/
def message (datagram : Datagram) : Report (List UInt8) := do
  if !datagram.isFramed then
    Report.log (.writingMismatch datagram.header.reserved datagram.payload.length)
  let bytes ← Report.ofOutcome datagram.toBytes
  Report.log (.datagramEncoded datagram.header datagram.payload.length)
  return bytes

/-- Reads a datagram: its header and as many bytes as the reserved field says
(`decode_datagram`). -/
def decoder : Decoder Datagram := do
  let head : Block 5 ← readPrefix Protocol.addressedHeadLength
  let (high, low, fragment, type, next) := head.five
  let length ← ofReport (Address.frameLength type next)
  let reserved := BigEndian.join high low
  let frame ← readRemainder head (3 + length + reserved.toNat)
  let address ← ofReport (Address.decode (frame.slice 3 (3 + length)).bytes)
  let header : Header := ⟨reserved, fragment, address⟩
  let payload := frame.bytes.drop (3 + length)
  report (.datagramDecoded header payload.length)
  return ⟨header, payload⟩

end Datagram

end Socks

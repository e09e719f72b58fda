import Socks.Address
import Socks.Rejection

/-!
Relayed datagrams: a header with a reserved field, a fragment number and an
address, and a payload. On a stream nothing marks the end of a datagram, so there
the reserved field holds the length of the payload; in packets, which end by
themselves, a `Framing` says whether it has to.
-/
namespace Socks

/-- What the reserved field of a packet means (`UdpFraming`). -/
inductive Framing where
  /-- It holds the length of the payload. -/
  | lengthPrefixed
  /-- It is ignored, and the payload runs to the end of the packet. -/
  | datagram
  deriving DecidableEq

/-- What precedes the payload of a datagram (`UdpHeader`). -/
structure Header where
  /-- The reserved field. -/
  reserved : UInt16
  /-- The fragment number, zero for a datagram on its own. -/
  fragment : UInt8
  /-- The address the payload goes to or comes from. -/
  address : Address
  deriving DecidableEq

namespace Header

/-- Whether a datagram is one of several fragments (`is_fragmented`). -/
def isFragmented (header : Header) : Bool := header.fragment != 0

/-- The text of a header. -/
def display (header : Header) : String :=
  let address := header.address
  s!"{header.reserved} {header.fragment} {address.typeByte} {address.display}"

end Header

/-- A header with a payload (`UdpDatagram`). -/
structure Datagram where
  /-- The header. -/
  header : Header
  /-- The bytes that are relayed. -/
  payload : List UInt8
  deriving DecidableEq

namespace Datagram

/-- The length of a payload as a 16-bit field (`payload_len`). -/
def payloadLength (payload : List UInt8) : Except Rejection UInt16 :=
  if payload.length ≤ Protocol.maxPayloadLength then .ok (UInt16.ofNat payload.length)
  else .error (.malformed (.payloadTooLong payload.length))

/-- A datagram whose reserved field holds the length of its payload. -/
def framed (fragment : UInt8) (address : Address) (payload : List UInt8) :
    Except Rejection Datagram := do
  let reserved ← payloadLength payload
  return ⟨⟨reserved, fragment, address⟩, payload⟩

/-- Whether the reserved field of a datagram is the length of its payload. -/
def isFramed (datagram : Datagram) : Bool :=
  datagram.header.reserved.toNat == datagram.payload.length

end Datagram

end Socks

import Socks.Datagram.Codec

/-!
Datagrams in packets, which end by themselves. Under the framing `lengthPrefixed`
the reserved field has to be the length of the payload, on both ways; under the
framing `datagram` it may be anything, and is kept.
-/
namespace Socks.Framing

open Wire

/-- Whether a framing allows a reserved field with a payload of some length. -/
def admits (framing : Framing) (reserved : UInt16) (payload : Nat) : Bool :=
  match framing with
  | .lengthPrefixed => reserved.toNat == payload
  | .datagram => true

/-- The datagram that a packet holds (`decode_packet`). -/
def decodePacket (framing : Framing) (packet : List UInt8) : Report Datagram :=
  if long : Protocol.addressedHeadLength ≤ packet.length then do
    let head : Block 5 := Block.take packet Protocol.addressedHeadLength long
    let (high, low, fragment, type, next) := head.five
    let length ← Address.frameLength type next
    let address ← Address.decode (packet.drop 3)
    let reserved := BigEndian.join high low
    let payload := packet.drop (3 + length)
    if framing.admits reserved payload.length then
      return ⟨⟨reserved, fragment, address⟩, payload⟩
    else
      Report.log (.packetMismatch reserved payload.length)
      Report.reject (.malformed (.reservedMismatch reserved payload.length))
  else Report.reject (.malformed (.packetTooShort packet.length))

/-- The packet that holds a datagram (`encode_packet`). -/
def encodePacket (framing : Framing) (datagram : Datagram) : Except Rejection (List UInt8) :=
  let reserved := datagram.header.reserved
  let length := datagram.payload.length
  if framing.admits reserved length then datagram.toBytes
  else .error (.malformed (.reservedMismatch reserved length))

end Socks.Framing

import Socks.Transport.Decoder
import Socks.Transport.Version

/-!
The negotiation on the wire. An offer is a version byte, a byte that counts the
methods, and the methods; an offer of nothing is neither read nor written. A
selection is a version byte and the method.
-/
namespace Socks

open Wire Transport Decoder

namespace Offer

/-- Reads an offer (`decode_methods`). -/
def decoder : Decoder Offer := do
  let head ← readPrefix 2
  let (version, count) := head.two
  checkVersion .offer version
  if count = 0 then
    report .emptyOfferRejected
    reject .noMethods
  else
    let frame ← readRemainder head (2 + count.toNat)
    let offer : Offer := ⟨frame.bytes.drop 2⟩
    report (.offerDecoded offer)
    return offer

/-- An offer as a message (`encode_methods`). -/
def message (offer : Offer) : Report (List UInt8) :=
  if offer.isEmpty then Report.reject .noMethods
  else if Protocol.maxMethodCount < offer.length then
    Report.reject (.malformed (.tooManyMethods offer.length))
  else do
    Report.log (.offering offer)
    return Protocol.version :: UInt8.ofNat offer.length :: offer.bytes

end Offer

namespace Method

/-- Reads a selection (`decode_method`). -/
def decoder : Decoder Method := do
  let frame ← readPrefix 2
  let (version, byte) := frame.two
  checkVersion .selection version
  let method := ofByte byte
  report (.selectionDecoded method)
  return method

/-- A selection as a message (`encode_method`). -/
def message (method : Method) : Report (List UInt8) := do
  Report.log (.selecting method)
  return [Protocol.version, method.toByte]

end Method

end Socks

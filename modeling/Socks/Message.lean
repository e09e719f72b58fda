import Socks.Login.Codec
import Socks.Negotiation.Codec
import Socks.Exchange.Codec
import Socks.Datagram.Codec
import Socks.Transport.Sink

/-!
The messages of the protocol as one type: seven kinds, each with its own form on
the wire. A stream does not say which kind comes next; the reader has to know.
-/
namespace Socks

open Transport

/-- The kinds of messages. -/
inductive Message.Kind where
  /-- The methods a client offers. -/
  | offer
  /-- The method a server selects. -/
  | selection
  /-- The username and password of a client. -/
  | credential
  /-- The answer to a credential. -/
  | status
  /-- What a client asks for. -/
  | request
  /-- The answer to a request. -/
  | reply
  /-- A relayed datagram. -/
  | datagram
  deriving DecidableEq

/-- A message. -/
inductive Message where
  /-- The methods a client offers. -/
  | offer (offer : Offer)
  /-- The method a server selects. -/
  | selection (method : Method)
  /-- The username and password of a client. -/
  | credential (credential : Credential)
  /-- The answer to a credential. -/
  | status (status : LoginStatus)
  /-- What a client asks for. -/
  | request (request : Request)
  /-- The answer to a request. -/
  | reply (reply : Reply)
  /-- A relayed datagram. -/
  | datagram (datagram : Datagram)
  deriving DecidableEq

namespace Message

/-- The kind of a message. -/
def kind : Message → Kind
  | .offer _ => .offer
  | .selection _ => .selection
  | .credential _ => .credential
  | .status _ => .status
  | .request _ => .request
  | .reply _ => .reply
  | .datagram _ => .datagram

/-- The bytes of a message, with what is reported when it is written. -/
def encode : Message → Report (List UInt8)
  | .offer methods => methods.message
  | .selection method => method.message
  | .credential login => login.message
  | .status answer => answer.message
  | .request asked => asked.message
  | .reply given => given.message
  | .datagram relayed => relayed.message

/-- Reads a message of a kind. -/
def Kind.decoder : Kind → Decoder Message
  | .offer => Message.offer <$> Offer.decoder
  | .selection => Message.selection <$> Method.decoder
  | .credential => Message.credential <$> Credential.decoder
  | .status => Message.status <$> LoginStatus.decoder
  | .request => Message.request <$> Request.decoder
  | .reply => Message.reply <$> Reply.decoder
  | .datagram => Message.datagram <$> Datagram.decoder

end Message

end Socks

import Socks.Negotiation
import Socks.Exchange
import Socks.Datagram

/-!
What the codec reports while it works. Messages that pass are told at the level
`trace`, rejected bytes at the level `debug`. An event holds what happened; its
wording is in `Event.message`. No event can hold a password.
-/
namespace Socks

open Text

/-- How much attention an event asks for. -/
inductive Level where
  | trace | debug
  deriving DecidableEq

/-- The name of a level. -/
def Level.name : Level → String
  | .trace => "TRACE"
  | .debug => "DEBUG"

/-- The messages that start with a version byte. -/
inductive Versioned where
  /-- An offer of methods. -/
  | offer
  /-- The selection of a method. -/
  | selection
  /-- A credential. -/
  | credential
  /-- The answer to a credential. -/
  | status
  /-- A request or a reply. -/
  | frame
  deriving DecidableEq

/-- The name of a message in events. -/
def Versioned.name : Versioned → String
  | .offer => "method negotiation"
  | .selection => "method selection"
  | .credential => "credential"
  | .status => "auth status"
  | .frame => "frame"

/-- The version byte with which a message has to start. -/
def Versioned.version : Versioned → UInt8
  | .offer | .selection | .frame => Protocol.version
  | .credential | .status => Protocol.loginVersion

/-- Something that happened in the codec. -/
inductive Event where
  /-- The length of a message became known and more of it is being read. -/
  | readingMore (more total : Nat)
  /-- A version byte is not the one the message requires. -/
  | versionRejected (message : Versioned) (version : UInt8)
  /-- An offer lists no method. -/
  | emptyOfferRejected
  /-- No address has this type byte. -/
  | addressTypeRejected (byte : UInt8)
  /-- An address ends before its last byte. -/
  | truncatedAddressRejected (available needed : Nat)
  /-- A request carries an unknown command. -/
  | unknownCommand (byte : UInt8) (address : Address)
  /-- A reply carries an unknown code. -/
  | unknownReplyCode (byte : UInt8) (address : Address)
  /-- The reserved field of a received packet is not the length of its payload. -/
  | packetMismatch (reserved : UInt16) (payload : Nat)
  /-- The reserved field of a datagram to be written is not the length of its
  payload. -/
  | writingMismatch (reserved : UInt16) (payload : Nat)
  /-- An offer was read. -/
  | offerDecoded (offer : Offer)
  /-- An offer is being written. -/
  | offering (offer : Offer)
  /-- A selection was read. -/
  | selectionDecoded (method : Method)
  /-- A selection is being written. -/
  | selecting (method : Method)
  /-- A credential was read. -/
  | credentialDecoded (username : String)
  /-- A credential is being written. -/
  | sendingCredential (username : String)
  /-- A status was read. -/
  | statusDecoded (code : UInt8)
  /-- A status is being written. -/
  | sendingStatus (code : UInt8)
  /-- A request was read. -/
  | requestDecoded (request : Request)
  /-- A request is being written. -/
  | requestEncoded (request : Request)
  /-- A reply was read. -/
  | replyDecoded (reply : Reply)
  /-- A reply is being written. -/
  | replyEncoded (reply : Reply)
  /-- A datagram was read. -/
  | datagramDecoded (header : Header) (payload : Nat)
  /-- A datagram is being written. -/
  | datagramEncoded (header : Header) (payload : Nat)
  deriving DecidableEq

namespace Event

/-- The level of an event. -/
def level : Event → Level
  | .versionRejected .. | .emptyOfferRejected | .addressTypeRejected _
  | .truncatedAddressRejected .. | .unknownCommand .. | .unknownReplyCode ..
  | .packetMismatch .. | .writingMismatch .. => .debug
  | _ => .trace

/-- Bytes as events list them: decimal numbers in brackets. -/
def listing (bytes : List UInt8) : String := "[" ++ ", ".intercalate (bytes.map toString) ++ "]"

/-- The wording of an event. -/
def message : Event → String
  | .readingMore more total => s!"Reading {more} more bytes of a {total} byte frame"
  | .versionRejected message version => s!"Rejecting {message.name} with version {version}"
  | .emptyOfferRejected => "Rejecting method negotiation without methods"
  | .addressTypeRejected byte => s!"Rejecting address type {byte}"
  | .truncatedAddressRejected available needed =>
    s!"Rejecting truncated address: {available} of {needed} bytes"
  | .unknownCommand byte address => s!"Unknown command {byte} for {address.display}"
  | .unknownReplyCode byte address => s!"Unknown reply code {byte} for {address.display}"
  | .packetMismatch reserved payload =>
    s!"UDP packet length mismatch: reserved {reserved} but {payload} payload bytes"
  | .writingMismatch reserved payload =>
    s!"Writing UDP datagram with reserved {reserved} and {payload} payload bytes"
  | .offerDecoded offer => s!"Decoded {offer.length} offered methods: {listing offer.bytes}"
  | .offering offer => s!"Offering {offer.length} methods: {listing offer.bytes}"
  | .selectionDecoded method => s!"Server selected method {method.name}"
  | .selecting method => s!"Selecting method {method.name}"
  | .credentialDecoded username => s!"Decoded credential for user {quoted username}"
  | .sendingCredential username => s!"Sending credentials for user {username}"
  | .statusDecoded code => s!"Decoded auth status {code}"
  | .sendingStatus code => s!"Sending auth status {code}"
  | .requestDecoded request =>
    s!"Decoded SOCKS5 request: {request.command.display} to {request.address.display}"
  | .requestEncoded request =>
    s!"Encoded SOCKS5 request: {request.command.display} to {request.address.display}"
  | .replyDecoded reply =>
    s!"Decoded SOCKS5 reply: {reply.code.name} bound to {reply.address.display}"
  | .replyEncoded reply =>
    s!"Encoded SOCKS5 reply: {reply.code.name} bound to {reply.address.display}"
  | .datagramDecoded header payload =>
    s!"Decoded UDP datagram [{header.display}] with {payload} payload bytes"
  | .datagramEncoded header payload =>
    s!"Encoded UDP datagram [{header.display}] with {payload} payload bytes"

/-- An event as a line of a log. -/
def line (event : Event) : String := s!"{event.level.name} {event.message}"

end Event

end Socks

import Socks.Protocol

/-!
Authentication methods, the offer in which a client lists those it accepts, and
the byte with which the server selects one. A method is named by its byte on the
wire; the variant `other` can hold any byte, a named one too.
-/
namespace Socks

/-- An authentication method (`AuthMethod`). -/
inductive Method where
  /-- No authentication. -/
  | none
  /-- Generic security services. -/
  | gssApi
  /-- Username and password. -/
  | password
  /-- No offered method is acceptable. -/
  | notAcceptable
  /-- An assigned or private method. -/
  | other (byte : UInt8)
  deriving DecidableEq

namespace Method

/-- The byte of a method (`to_byte`). -/
def toByte : Method → UInt8
  | .none => Protocol.methodNone
  | .gssApi => Protocol.methodGssApi
  | .password => Protocol.methodPassword
  | .notAcceptable => Protocol.methodNotAcceptable
  | .other byte => byte

/-- The method that a byte stands for, by its name if it has one (`from_byte`). -/
def ofByte (byte : UInt8) : Method :=
  if byte = Protocol.methodNone then .none
  else if byte = Protocol.methodGssApi then .gssApi
  else if byte = Protocol.methodPassword then .password
  else if byte = Protocol.methodNotAcceptable then .notAcceptable
  else .other byte

/-- The name of a method. -/
def name : Method → String
  | .none => "None"
  | .gssApi => "GssApi"
  | .password => "Password"
  | .notAcceptable => "NotAcceptable"
  | .other byte => s!"Other({byte})"

end Method

/-- The methods a client offers (`MethodSet`), in its order and with repetitions. -/
structure Offer where
  /-- The bytes of the methods. -/
  bytes : List UInt8
  deriving DecidableEq

namespace Offer

/-- The offer of some methods (`from_iter`). -/
def ofMethods (methods : List Method) : Offer := ⟨methods.map Method.toByte⟩

/-- The offered methods. -/
def methods (offer : Offer) : List Method := offer.bytes.map Method.ofByte

/-- The number of offered methods. -/
def length (offer : Offer) : Nat := offer.bytes.length

/-- Whether nothing is offered. -/
def isEmpty (offer : Offer) : Bool := offer.bytes.isEmpty

/-- Whether a method is offered. Methods with the same byte are the same here. -/
def contains (offer : Offer) (method : Method) : Bool := offer.bytes.contains method.toByte

end Offer

end Socks

import Socks.Protocol
import Socks.Net.Endpoint

/-!
The addresses that requests, replies and datagram headers carry: a kind, a host
and a port. The host is a text in every kind. A host of an IP kind that is a
literal of its family is kept in the spelling of that family, so two literals of
one IP address give equal addresses; any other host is kept as it is, and is
refused only when the address is to be written.
-/
namespace Socks

open Net

/-- How the host of an address is given (`AddrKind`). -/
inductive Address.Kind where
  /-- An IPv4 literal. -/
  | ipv4
  /-- A domain name. -/
  | domain
  /-- An IPv6 literal. -/
  | ipv6
  deriving DecidableEq

namespace Address.Kind

/-- The kind that a type byte stands for (`from_byte`). -/
def ofByte? (byte : UInt8) : Option Kind :=
  if byte = Protocol.addressIPv4 then some .ipv4
  else if byte = Protocol.addressDomain then some .domain
  else if byte = Protocol.addressIPv6 then some .ipv6
  else none

/-- The type byte of a kind (`to_byte`). -/
def toByte : Kind → UInt8
  | .ipv4 => Protocol.addressIPv4
  | .domain => Protocol.addressDomain
  | .ipv6 => Protocol.addressIPv6

/-- The host as addresses of the kind keep it (`canonical_host`). -/
def canonicalHost (kind : Kind) (host : String) : String :=
  match kind with
  | .ipv4 => ((IPv4.ofText? host).map toString).getD host
  | .domain => host
  | .ipv6 => ((IPv6.ofText? host).map toString).getD host

end Address.Kind

/-- An address. -/
structure Address where
  /-- How the host is given. -/
  kind : Address.Kind
  /-- The host. -/
  host : String
  /-- The port. -/
  port : UInt16
  deriving DecidableEq

namespace Address

/-! ## Construction -/

/-- The address of a host as a text (`new`). -/
def ofHost (kind : Kind) (host : String) (port : UInt16) : Address :=
  ⟨kind, kind.canonicalHost host, port⟩

/-- The address of a domain name (`domain`). -/
def ofDomain (name : String) (port : UInt16) : Address := ofHost .domain name port

/-- The address of an IPv4 address (`ipv4`). -/
def ofIPv4 (ip : IPv4) (port : UInt16) : Address := ⟨.ipv4, toString ip, port⟩

/-- The address of an IPv6 address (`ipv6`). -/
def ofIPv6 (ip : IPv6) (port : UInt16) : Address := ⟨.ipv6, toString ip, port⟩

/-- The address `0.0.0.0:0`, which messages carry that have none to give. -/
def unspecified : Address := ofIPv4 IPv4.unspecified 0

instance : Inhabited Address := ⟨unspecified⟩

/-! ## Views -/

/-- The type byte of an address (`addr_type`). -/
def typeByte (address : Address) : UInt8 := address.kind.toByte

/-- The text of an address: brackets keep the colons of an IPv6 literal apart
from the one before the port. -/
def display (address : Address) : String :=
  match address.kind with
  | .ipv6 => s!"[{address.host}]:{address.port}"
  | _ => s!"{address.host}:{address.port}"

/-! ## Endpoints -/

/-- The address of an endpoint. Flow information and scope have no place in an
address and are dropped. -/
def ofEndpoint : Endpoint → Address
  | .v4 ip port => ofIPv4 ip port
  | .v6 ip port _ _ => ofIPv6 ip port

/-- The endpoint of an address (`to_socket_addr`), unless it names a domain or its host
is not a literal of its family. -/
def toEndpoint? (address : Address) : Option Endpoint :=
  match address.kind with
  | .ipv4 => (IPv4.ofText? address.host).map (.v4 · address.port)
  | .domain => none
  | .ipv6 => (IPv6.ofText? address.host).map (.v6 · address.port 0 0)

end Address

end Socks

import Socks.Net.IPv6

/-!
Endpoints of a transport connection: an IP address with a port, and for IPv6 the
flow information and the scope that a local interface adds to it.
-/
namespace Socks.Net

/-- An IP address with a port. -/
inductive Endpoint where
  /-- An IPv4 address with a port. -/
  | v4 (ip : IPv4) (port : UInt16)
  /-- An IPv6 address with a port, flow information and a scope. -/
  | v6 (ip : IPv6) (port : UInt16) (flow scope : UInt32)
  deriving DecidableEq

/-- The text of an endpoint: brackets keep the colons of an IPv6 address apart
from the one before the port, and a scope other than zero follows the address. -/
def Endpoint.display : Endpoint → String
  | .v4 ip port => s!"{ip}:{port}"
  | .v6 ip port _ scope =>
    if scope = 0 then s!"[{ip}]:{port}" else s!"[{ip}%{scope}]:{port}"

end Socks.Net

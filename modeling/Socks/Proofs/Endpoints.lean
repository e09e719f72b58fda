import Socks.Proofs.AddressCodec

/-!
Addresses and endpoints of a transport connection. An address keeps the text of an IP address
where an endpoint has the IP address itself, so the two can stand for each other just where
the text is a literal, which is also where an address of an IP kind can be written. What an
address has no place for is the flow information and the scope of an IPv6 endpoint.
-/
namespace Socks.Proofs.Endpoints

open Net
open AddressCodec
open Socks (Address)

/-- An endpoint without what an address has no place for. -/
def bare : Endpoint → Endpoint
  | .v4 ip port => .v4 ip port
  | .v6 ip port _ _ => .v6 ip port 0 0

variable {address : Address} {endpoint : Endpoint}

/-! ## From endpoints to addresses -/

theorem toEndpoint?_ofEndpoint (endpoint : Endpoint) :
    (Address.ofEndpoint endpoint).toEndpoint? = some (bare endpoint) := by
  cases endpoint with
  | v4 ip port =>
    simp only [Address.ofEndpoint, Address.ofIPv4, Address.toEndpoint?, bare,
      IPv4Literals.ofText?_toString, Option.map_some]
  | v6 ip port flow scope =>
    simp only [Address.ofEndpoint, Address.ofIPv6, Address.toEndpoint?, bare,
      IPv6Literals.ofText?_toString, Option.map_some]

/-- The address of an endpoint shows the text of the endpoint, up to the scope. -/
theorem display_ofEndpoint (endpoint : Endpoint) :
    (Address.ofEndpoint endpoint).display = (bare endpoint).display := by
  cases endpoint <;> rfl

theorem wireForm_ofEndpoint (endpoint : Endpoint) :
    ∃ frame, WireForm frame (Address.ofEndpoint endpoint) := by
  cases endpoint with
  | v4 ip port => exact ⟨_, .ipv4 ip port⟩
  | v6 ip port flow scope => exact ⟨_, .ipv6 ip port⟩

/-! ## From addresses to endpoints -/

/-- A canonical address has an endpoint just when it is the address of that endpoint. -/
theorem toEndpoint?_eq_some_iff (canonical : Canonical address) :
    address.toEndpoint? = some endpoint ↔
      Address.ofEndpoint endpoint = address ∧ bare endpoint = endpoint := by
  constructor
  · obtain ⟨kind, host, port⟩ := address
    intro found
    cases kind with
    | ipv4 =>
      obtain ⟨ip, read, rfl⟩ := Option.map_eq_some_iff.mp found
      rw [← canonical.spelled_ipv4 read]
      exact ⟨rfl, rfl⟩
    | domain => cases found
    | ipv6 =>
      obtain ⟨ip, read, rfl⟩ := Option.map_eq_some_iff.mp found
      rw [← canonical.spelled_ipv6 read]
      exact ⟨rfl, rfl⟩
  · rintro ⟨rfl, same⟩
    rw [toEndpoint?_ofEndpoint, same]

/-- An address has an endpoint just when it is of an IP kind and can be written. -/
theorem exists_toEndpoint?_iff (address : Address) :
    (∃ endpoint, address.toEndpoint? = some endpoint) ↔
      (address.kind = .ipv4 ∨ address.kind = .ipv6) ∧ ∃ frame, address.toBytes = .ok frame := by
  obtain ⟨kind, host, port⟩ := address
  cases kind with
  | ipv4 =>
    simp only [Address.toEndpoint?, Address.toBytes]
    cases IPv4.ofText? host <;> simp
  | domain => simp [Address.toEndpoint?]
  | ipv6 =>
    simp only [Address.toEndpoint?, Address.toBytes]
    cases IPv6.ofText? host <;> simp

/-- **Endpoints and addresses stand for each other.** The address of an endpoint can be
written, and its endpoint is the one that it came from, but without flow information and
scope. An address that a caller can get hold of has an endpoint just when it is of an IP kind
and can be written; and then it is the address of that endpoint and shows the same text. -/
theorem endpoints_and_addresses_correspond :
    (∀ endpoint, (∃ frame, (Address.ofEndpoint endpoint).toBytes = .ok frame) ∧
      (Address.ofEndpoint endpoint).toEndpoint? = some (bare endpoint)) ∧
    (∀ address, Obtainable address →
      ((∃ endpoint, address.toEndpoint? = some endpoint) ↔
        (address.kind = .ipv4 ∨ address.kind = .ipv6) ∧ ∃ frame, address.toBytes = .ok frame) ∧
      (∀ endpoint, address.toEndpoint? = some endpoint →
        Address.ofEndpoint endpoint = address ∧ endpoint.display = address.display)) := by
  constructor
  · intro endpoint
    obtain ⟨frame, form⟩ := wireForm_ofEndpoint endpoint
    exact ⟨⟨frame, (toBytes_eq_ok_iff (canonical_of_wireForm form)).mpr form⟩,
      toEndpoint?_ofEndpoint endpoint⟩
  · intro address obtainable
    refine ⟨exists_toEndpoint?_iff address, fun endpoint found => ?_⟩
    obtain ⟨rfl, same⟩ := (toEndpoint?_eq_some_iff (obtainable_iff_canonical.mp obtainable)).mp found
    exact ⟨rfl, by rw [display_ofEndpoint, same]⟩

/-- An address given in another spelling than that of its endpoint, and one whose host is a
literal of the other family. -/
theorem literal_and_endpoint_correspond :
    let address := Address.ofHost .ipv6 "2001:DB8:0::1" 443
    let endpoint := Endpoint.v6 ⟨[0x2001, 0xdb8, 0, 0, 0, 0, 0, 1], rfl⟩ 443 0 0
    let other := Address.ofHost .ipv4 "::1" 443
    address.toEndpoint? = some endpoint ∧ Address.ofEndpoint endpoint = address ∧
      endpoint.display = address.display ∧ other.toEndpoint? = none ∧
      ¬ ∃ frame, other.toBytes = .ok frame := by
  intro address endpoint other
  obtain ⟨-, addresses⟩ := endpoints_and_addresses_correspond
  have found : address.toEndpoint? = some endpoint := by decide +kernel
  have unread : other.toEndpoint? = none := by decide +kernel
  obtain ⟨same, text⟩ := (addresses address (.ofHost ..)).2 endpoint found
  refine ⟨found, same, text, unread, fun written => ?_⟩
  obtain ⟨_, read⟩ := (addresses other (.ofHost ..)).1.mpr ⟨.inl rfl, written⟩
  cases unread.symm.trans read

end Socks.Proofs.Endpoints

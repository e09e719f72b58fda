import Socks.Proofs.AddressCodec

/-!
One spelling for every host. A host of an IP kind is kept as its family spells it, which does
not change what it reads as; so two literals of one IP address give the same address, while a
text that is no literal is kept as it is and never becomes equal to one. What two addresses
that can be written have in common is then to be seen from their bytes alone.
-/
namespace Socks.Proofs.HostSpelling

open Net
open AddressCodec
open Socks (Address)

/-! ## Spelling again what was read -/

section Respelling

variable {V : Type} {read : String → Option V} {spell : V → String} {text first second : String}

/-- A text in the spelling of what it reads as. A text that cannot be read stays as it is. -/
def respell (read : String → Option V) (spell : V → String) (text : String) : String :=
  ((read text).map spell).getD text

theorem respell_of_some {value : V} (found : read text = some value) :
    respell read spell text = spell value := by
  rw [respell, found, Option.map_some, Option.getD_some]

theorem respell_of_none (unread : read text = none) : respell read spell text = text := by
  rw [respell, unread, Option.map_none, Option.getD_none]

/-- Another spelling reads as the same. -/
theorem read_respell (inverse : ∀ value, read (spell value) = some value) (text : String) :
    read (respell read spell text) = read text := by
  cases found : read text with
  | none => rw [respell_of_none found, found]
  | some value => rw [respell_of_some found, inverse]

/-- Two texts are spelled the same just when they are the same text or read as the same. -/
theorem respell_eq_iff (inverse : ∀ value, read (spell value) = some value) :
    respell read spell first = respell read spell second ↔
      first = second ∨ ∃ value, read first = some value ∧ read second = some value := by
  constructor
  · intro same
    have reads : read first = read second := by
      rw [← read_respell inverse first, same, read_respell inverse second]
    cases found : read first with
    | none =>
      left
      rwa [respell_of_none found, respell_of_none (reads.symm.trans found)] at same
    | some value => exact .inr ⟨value, rfl, reads.symm.trans found⟩
  · rintro (rfl | ⟨value, foundFirst, foundSecond⟩)
    · rfl
    · rw [respell_of_some foundFirst, respell_of_some foundSecond]

end Respelling

/-! ## Hosts -/

/-- Two texts are literals of one IP address, in the family of the kind. -/
inductive SameLiteral : Address.Kind → String → String → Prop where
  | ipv4 {first second : String} {ip : IPv4} (readFirst : IPv4.ofText? first = some ip)
      (readSecond : IPv4.ofText? second = some ip) : SameLiteral .ipv4 first second
  | ipv6 {first second : String} {ip : IPv6} (readFirst : IPv6.ofText? first = some ip)
      (readSecond : IPv6.ofText? second = some ip) : SameLiteral .ipv6 first second

/-- Addresses keep two hosts as one just when these are the same text or literals of one IP
address. -/
theorem canonicalHost_eq_iff {kind : Address.Kind} {first second : String} :
    kind.canonicalHost first = kind.canonicalHost second ↔
      first = second ∨ SameLiteral kind first second := by
  cases kind with
  | ipv4 =>
    refine (respell_eq_iff IPv4Literals.ofText?_toString).trans (or_congr_right ?_)
    constructor
    · rintro ⟨ip, readFirst, readSecond⟩
      exact .ipv4 readFirst readSecond
    · intro literal
      cases literal with
      | ipv4 readFirst readSecond => exact ⟨_, readFirst, readSecond⟩
  | domain =>
    refine (or_iff_left ?_).symm
    intro literal
    cases literal
  | ipv6 =>
    refine (respell_eq_iff IPv6Literals.ofText?_toString).trans (or_congr_right ?_)
    constructor
    · rintro ⟨ip, readFirst, readSecond⟩
      exact .ipv6 readFirst readSecond
    · intro literal
      cases literal with
      | ipv6 readFirst readSecond => exact ⟨_, readFirst, readSecond⟩

theorem ofHost_eq_iff {kind : Address.Kind} {first second : String} {port other : UInt16} :
    Address.ofHost kind first port = Address.ofHost kind second other ↔
      port = other ∧ (first = second ∨ SameLiteral kind first second) := by
  simp only [Address.ofHost, Address.mk.injEq, true_and, canonicalHost_eq_iff, and_comm]

/-! ## Addresses -/

theorem ofHost_self {address : Address} (canonical : Canonical address) :
    Address.ofHost address.kind address.host address.port = address := by
  rw [Address.ofHost, canonical]

/-- No two addresses have the same bytes. -/
theorem wireForm_injective {frame : List UInt8} {one other : Address}
    (form : WireForm frame one) (again : WireForm frame other) : one = other := by
  have read : (Address.decode frame).outcome = .ok one :=
    decode_eq_ok_iff.mpr ⟨frame, [], (List.append_nil _).symm, form⟩
  have reread : (Address.decode frame).outcome = .ok other :=
    decode_eq_ok_iff.mpr ⟨frame, [], (List.append_nil _).symm, again⟩
  exact Except.ok.inj (read.symm.trans reread)

/-- **Addresses are equal when they mean the same.** An address that a caller can get hold of
is not changed by spelling its host again. Two hosts of one kind, with their ports, give the
same address just when the ports are equal and the hosts are the same text or literals of one
IP address; so two addresses that can be written are equal just when their bytes are. -/
theorem equal_addresses_are_those_that_mean_the_same :
    (∀ address, Obtainable address →
      Address.ofHost address.kind address.host address.port = address) ∧
    (∀ kind first second port other,
      Address.ofHost kind first port = Address.ofHost kind second other ↔
        port = other ∧ (first = second ∨ SameLiteral kind first second)) ∧
    (∀ one other, Obtainable one → Obtainable other → ∀ frame again,
      one.toBytes = .ok frame → other.toBytes = .ok again → (one = other ↔ frame = again)) := by
  refine ⟨fun address obtainable => ofHost_self (obtainable_iff_canonical.mp obtainable),
    fun kind first second port other => ofHost_eq_iff, ?_⟩
  intro one other obtainable obtainableOther frame again written writtenOther
  constructor
  · rintro rfl
    exact Except.ok.inj (written.symm.trans writtenOther)
  · rintro rfl
    exact wireForm_injective
      ((toBytes_eq_ok_iff (obtainable_iff_canonical.mp obtainable)).mp written)
      ((toBytes_eq_ok_iff (obtainable_iff_canonical.mp obtainableOther)).mp writtenOther)

/-- Two literals of one IP address that stands for an IPv4 address, the one behind it, and a
text that is no literal because a number has a leading zero. -/
theorem equal_addresses_of_mapped_literals :
    let dotted := Address.ofHost .ipv6 "::FFFF:1.2.3.4" 80
    let grouped := Address.ofHost .ipv6 "0:0:0:0:0:ffff:102:304" 80
    let behind := Address.ofHost .ipv6 "::ffff:102:305" 80
    let octal := Address.ofHost .ipv4 "01.2.3.4" 80
    dotted = grouped ∧ dotted ≠ behind ∧ octal ≠ Address.ofHost .ipv4 "1.2.3.4" 80 ∧
      Address.ofHost .ipv6 dotted.host 80 = dotted ∧
      Address.ofHost .ipv4 octal.host 80 = octal := by
  intro dotted grouped behind octal
  obtain ⟨respelled, hosts, written⟩ := equal_addresses_are_those_that_mean_the_same
  have readDotted : IPv6.ofText? "::FFFF:1.2.3.4" =
      some ⟨[0, 0, 0, 0, 0, 0xffff, 0x102, 0x304], rfl⟩ := by decide +kernel
  have readGrouped : IPv6.ofText? "0:0:0:0:0:ffff:102:304" =
      some ⟨[0, 0, 0, 0, 0, 0xffff, 0x102, 0x304], rfl⟩ := by decide +kernel
  have same : dotted = grouped :=
    (hosts .ipv6 _ _ 80 80).mpr ⟨rfl, .inr (.ipv6 readDotted readGrouped)⟩
  let head : List UInt8 := [4, 0, 0, 0, 0, 0, 0, 0, 0, 0, 0, 0xff, 0xff, 1, 2, 3]
  have encoded : dotted.toBytes = .ok (head ++ [4, 0, 80]) := by decide +kernel
  have encodedBehind : behind.toBytes = .ok (head ++ [5, 0, 80]) := by decide +kernel
  have other : dotted ≠ behind := by
    intro equal
    have bytes := (written _ _ (.ofHost ..) (.ofHost ..) _ _ encoded encodedBehind).mp equal
    exact absurd bytes (by decide)
  have apart : octal ≠ Address.ofHost .ipv4 "1.2.3.4" 80 := by
    intro equal
    obtain ⟨-, text | literal⟩ := (hosts .ipv4 _ _ 80 80).mp equal
    · exact absurd text (by decide)
    · cases literal with
      | ipv4 readOctal readPlain =>
        have unread : IPv4.ofText? "01.2.3.4" = none := by decide +kernel
        cases unread.symm.trans readOctal
  exact ⟨same, other, apart, respelled dotted (.ofHost ..), respelled octal (.ofHost ..)⟩

end Socks.Proofs.HostSpelling

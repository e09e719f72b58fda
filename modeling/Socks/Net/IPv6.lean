import Socks.Net.IPv4
import Socks.Wire.BigEndian

/-!
IPv6 addresses, how their text is read and how it is written. Reading accepts
every spelling: letters of either case, leading zeros, `::` for one or more zero
groups and a dotted IPv4 address in place of the last two groups before the end
of a side. Writing uses one of them: small letters, no leading zeros, `::` for the
first of the longest runs of at least two zero groups, and the dotted form for
the addresses that stand for an IPv4 address.
-/
namespace Socks.Net

open Socks.Text Socks.Wire

/-- An IPv6 address: eight groups of sixteen bits. -/
structure IPv6 where
  /-- The groups in order. -/
  groups : List UInt16
  /-- There are eight of them. -/
  length_groups : groups.length = 8
  deriving DecidableEq

namespace IPv6

/-- The address with the given groups, if they are eight. -/
def ofGroups? (groups : List UInt16) : Option IPv6 :=
  if eight : groups.length = 8 then some ⟨groups, eight⟩ else none

/-- The octets in wire order. -/
def octets (ip : IPv6) : List UInt8 := ip.groups.flatMap BigEndian.bytes

theorem length_octets (ip : IPv6) : ip.octets.length = 16 := by
  match ip with
  | ⟨[_, _, _, _, _, _, _, _], _⟩ => rfl

/-- The address with the given octets. -/
def ofOctets (octets : Block 16) : IPv6 where
  groups :=
    [BigEndian.join (octets.get 0) (octets.get 1), BigEndian.join (octets.get 2) (octets.get 3),
     BigEndian.join (octets.get 4) (octets.get 5), BigEndian.join (octets.get 6) (octets.get 7),
     BigEndian.join (octets.get 8) (octets.get 9), BigEndian.join (octets.get 10) (octets.get 11),
     BigEndian.join (octets.get 12) (octets.get 13), BigEndian.join (octets.get 14) (octets.get 15)]
  length_groups := rfl

/-! ## Spelling -/

/-- The hexadecimal digits of one group. -/
def groupSpelling (group : UInt16) : List Char := Numeral.spelling 16 group.toNat

/-- Groups with a colon between neighbours. -/
def groupsSpelling (groups : List UInt16) : List Char :=
  [':'].intercalate (groups.map groupSpelling)

/-- The number of zero groups that follow each other from an index on. -/
def zeroRun (groups : List UInt16) (start : Nat) : Nat :=
  ((groups.drop start).takeWhile (· == 0)).length

/-- The index at which the first of the longest runs of zero groups starts. -/
def longestZeroRun (groups : List UInt16) : Nat :=
  (List.range groups.length).foldl
    (fun best start => if zeroRun groups best < zeroRun groups start then start else best) 0

/-- The spelling in groups, with the longest run of zero groups left out if it
has at least two. -/
def compressedSpelling (groups : List UInt16) : List Char :=
  let start := longestZeroRun groups
  let run := zeroRun groups start
  if 1 < run then
    groupsSpelling (groups.take start) ++ ':' :: ':' :: groupsSpelling (groups.drop (start + run))
  else groupsSpelling groups

/-- The spelling of an address. The addresses under `::ffff:0:0/96` stand for
IPv4 addresses and end in their dotted form. -/
def spelling (ip : IPv6) : List Char :=
  match ip.groups with
  | [0, 0, 0, 0, 0, 0xffff, a, b] =>
    ':' :: ':' :: groupSpelling 0xffff ++ ':' ::
      IPv4.spelling ⟨BigEndian.high a, BigEndian.low a, BigEndian.high b, BigEndian.low b⟩
  | groups => compressedSpelling groups

instance : ToString IPv6 where
  toString ip := String.ofList ip.spelling

/-! ## Reading -/

/-- What stands in front of the next part of a side: nothing before the first
part, a colon before every other one. -/
def skipColon? (first : Bool) (text : List Char) : Option (List Char) :=
  if first then some text
  else match text with
    | ':' :: rest => some rest
    | _ => none

/-- Reads one group of one to four hexadecimal digits. -/
def readGroup? (text : List Char) : Option (UInt16 × List Char) := do
  let (digits, rest) ← Numeral.read? 16 4 text
  some (UInt16.ofNat (Numeral.value 16 digits), rest)

/-- What was read of one side of an address. -/
structure Side where
  /-- The groups that were read. -/
  groups : List UInt16
  /-- Whether the last two of them were written as an IPv4 address. -/
  dotted : Bool
  /-- What follows. -/
  rest : List Char

/-- Reads as many groups as there are, and at most `room`. A dotted IPv4 address
fills two groups, is tried first wherever two still fit, and ends the side. -/
def readSide (room : Nat) (first : Bool) (text : List Char) : Side :=
  match room with
  | 0 => ⟨[], false, text⟩
  | more + 1 =>
    match (if more = 0 then none else skipColon? first text >>= IPv4.read?) with
    | some (ip, rest) =>
      ⟨[BigEndian.join ip.first ip.second, BigEndian.join ip.third ip.fourth], true, rest⟩
    | none =>
      match skipColon? first text >>= readGroup? with
      | some (group, rest) =>
        let side := readSide more false rest
        { side with groups := group :: side.groups }
      | none => ⟨[], false, text⟩

/-- Reads an address in front of a text: eight groups, or up to seven on the two
sides of `::`, which stands for the zero groups that are missing. Only the last
side may end in a dotted IPv4 address. -/
def read? (text : List Char) : Option (IPv6 × List Char) :=
  let left := readSide 8 true text
  if left.groups.length = 8 then (ofGroups? left.groups).map (·, left.rest)
  else if left.dotted then none
  else match left.rest with
    | ':' :: ':' :: rest =>
      let right := readSide (7 - left.groups.length) true rest
      let missing := 8 - left.groups.length - right.groups.length
      (ofGroups? (left.groups ++ List.replicate missing 0 ++ right.groups)).map (·, right.rest)
    | _ => none

/-- The address that a text spells, if the whole text spells one. -/
def ofText? (text : String) : Option IPv6 :=
  match read? text.toList with
  | some (ip, []) => some ip
  | _ => none

end IPv6

end Socks.Net

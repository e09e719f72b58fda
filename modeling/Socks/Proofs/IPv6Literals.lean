import Mathlib.Data.List.TakeWhile
import Socks.Net.IPv6
import Socks.Proofs.IPv4Literals

/-!
An IPv6 address is read back from its spelling. The spelling has one of three
forms: eight groups, two sides around a gap that stands for the longest run of zero
groups, or the dotted form of an address that stands for an IPv4 address. A side is
read group by group up to its end, because a colon stands between neighbours and
the text behind a side goes on with the gap or not at all; and the gap is filled
with as many zero groups as the spelling left out.
-/
namespace Socks.Proofs.IPv6Literals

open Socks.Text Socks.Net Socks.Wire NumeralReading

/-! ## The text around a group -/

/-- What may stand behind a group: a colon or nothing. -/
def ColonNext (text : List Char) : Prop := ∀ c ∈ text.head?, c = ':'

/-- What may stand behind a side: the gap or nothing. -/
inductive SideEnd : List Char → Prop where
  | nothing : SideEnd []
  | gap (text : List Char) : SideEnd (':' :: ':' :: text)

/-- The groups of a side behind its first one, each behind its colon. -/
def laterGroups (groups : List UInt16) : List Char :=
  groups.flatMap fun group => ':' :: IPv6.groupSpelling group

variable {groups : List UInt16} {text rest : List Char} {first : Bool} {room : Nat}

theorem groupsSpelling_cons (group : UInt16) (groups : List UInt16) :
    IPv6.groupsSpelling (group :: groups) = IPv6.groupSpelling group ++ laterGroups groups := by
  induction groups generalizing group with
  | nil => simp [IPv6.groupsSpelling, laterGroups]
  | cons next groups ih =>
    have tail := ih next
    simp only [IPv6.groupsSpelling, List.map_cons] at tail ⊢
    rw [List.intercalate_cons_cons, tail]
    simp [laterGroups]

private theorem colonNext_cons (text : List Char) : ColonNext (':' :: text) := by
  simp [ColonNext]

private theorem sideEnd_colonNext (ends : SideEnd rest) : ColonNext rest := by
  cases ends with
  | nothing => simp [ColonNext]
  | gap text => exact colonNext_cons _

private theorem laterGroups_colonNext (groups : List UInt16) (ends : SideEnd rest) :
    ColonNext (laterGroups groups ++ rest) := by
  cases groups with
  | nil => exact sideEnd_colonNext ends
  | cons group groups => exact colonNext_cons _

private theorem colonNext_digitFree {base : Nat} (other : Numeral.isDigit base ':' = false)
    (colon : ColonNext text) : DigitFree base text := by
  intro c head
  rw [colon c head]
  exact other

private theorem dropWhile_head_ne_dot {word : List Char}
    (digits : ∀ c ∈ word, Numeral.isDigit 16 c = true) (colon : ColonNext rest) :
    ((word ++ rest).dropWhile (Numeral.isDigit 10)).head? ≠ some '.' := by
  -- The first character that is no decimal digit is another digit of the word or the
  -- colon behind it.
  intro dot
  rw [List.dropWhile_append] at dot
  split at dot
  · cases rest with
    | nil => simp at dot
    | cons c rest =>
      have same : c = ':' := colon c rfl
      subst same
      simp [show Numeral.isDigit 10 ':' = false by decide] at dot
  · rename_i left
    obtain ⟨c, later, shape⟩ := List.exists_cons_of_ne_nil fun empty =>
      left (List.isEmpty_iff.mpr empty)
    rw [shape] at dot
    have same : c = '.' := by simpa using dot
    have member : c ∈ word := (List.dropWhile_sublist _).subset (by rw [shape]; exact List.mem_cons_self)
    have digit := digits c member
    subst same
    exact absurd digit (by decide)

/-! ## Reading a side -/

private theorem readGroup?_spelling (group : UInt16) (colon : ColonNext rest) :
    IPv6.readGroup? (IPv6.groupSpelling group ++ rest) = some (group, rest) := by
  have bound : group.toNat < 16 ^ 4 := group.toNat_lt
  have value : Numeral.value 16 (Numeral.spelling 16 group.toNat) = group.toNat :=
    value_spelling (by omega) (by omega)
  rw [IPv6.readGroup?, IPv6.groupSpelling, read?_spelling (by omega) (by omega) (by omega) bound
    (colonNext_digitFree (by decide) colon)]
  simp only [Option.bind_eq_bind, Option.bind_some, value, UInt16.ofNat_toNat]

private theorem group_undotted (group : UInt16) (colon : ColonNext rest) :
    IPv4.read? (IPv6.groupSpelling group ++ rest) = none :=
  IPv4Literals.read?_of_undotted (dropWhile_head_ne_dot
    (fun _ member => isDigit_of_mem_spelling (by omega) (by omega) member) colon)

/-- A side goes on with the group that is spelled next. -/
private theorem readSide_group (group : UInt16) (colon : ColonNext rest)
    (skipped : IPv6.skipColon? first text = some (IPv6.groupSpelling group ++ rest)) :
    IPv6.readSide (room + 1) first text =
      { IPv6.readSide room false rest with
        groups := group :: (IPv6.readSide room false rest).groups } := by
  rw [IPv6.readSide, skipped]
  simp only [Option.bind_eq_bind, Option.bind_some, group_undotted group colon,
    readGroup?_spelling group colon, ite_self]

/-- A side ends where neither a group nor an IPv4 address can start. -/
private theorem readSide_stop
    (stuck : ∀ left, IPv6.skipColon? first text = some left → ColonNext left) :
    IPv6.readSide room first text = ⟨[], false, text⟩ := by
  cases room with
  | zero => rfl
  | succ room =>
    have nothing : IPv6.skipColon? first text >>= IPv4.read? = none ∧
        IPv6.skipColon? first text >>= IPv6.readGroup? = none := by
      cases skipped : IPv6.skipColon? first text with
      | none => exact ⟨rfl, rfl⟩
      | some left =>
        have decimal : DigitFree 10 left := colonNext_digitFree (by decide) (stuck left skipped)
        have hexadecimal : DigitFree 16 left := colonNext_digitFree (by decide) (stuck left skipped)
        simp [IPv4.read?, IPv4.readOctet?, IPv6.readGroup?, read?_of_digitFree decimal,
          read?_of_digitFree hexadecimal]
    simp only [IPv6.readSide, nothing, ite_self]

private theorem readSide_end (ends : SideEnd rest) :
    IPv6.readSide room first rest = ⟨[], false, rest⟩ := by
  apply readSide_stop
  intro left skipped
  cases first with
  | true =>
    cases skipped
    exact sideEnd_colonNext ends
  | false =>
    cases ends with
    | nothing => cases skipped
    | gap text =>
      cases skipped
      exact colonNext_cons _

private theorem readSide_laterGroups (fits : groups.length ≤ room) (ends : SideEnd rest) :
    IPv6.readSide room false (laterGroups groups ++ rest) = ⟨groups, false, rest⟩ := by
  induction groups generalizing room with
  | nil => exact readSide_end ends
  | cons group groups ih =>
    obtain ⟨room, rfl⟩ : ∃ more, room = more + 1 := ⟨room - 1, by simp at fits; omega⟩
    rw [readSide_group group (laterGroups_colonNext groups ends)
      (by simp [laterGroups, IPv6.skipColon?]), ih (by simpa using fits)]

/-- A side is read whole when there is room for its groups. -/
theorem readSide_groupsSpelling (fits : groups.length ≤ room) (ends : SideEnd rest) :
    IPv6.readSide room true (IPv6.groupsSpelling groups ++ rest) = ⟨groups, false, rest⟩ := by
  cases groups with
  | nil => exact readSide_end ends
  | cons group groups =>
    obtain ⟨room, rfl⟩ : ∃ more, room = more + 1 := ⟨room - 1, by simp at fits; omega⟩
    rw [readSide_group group (laterGroups_colonNext groups ends)
      (by simp [groupsSpelling_cons, IPv6.skipColon?]), readSide_laterGroups (by simpa using fits) ends]

/-! ## The three forms -/

theorem ofGroups?_groups (ip : IPv6) : IPv6.ofGroups? ip.groups = some ip :=
  dif_pos ip.length_groups

/-- The run of zero groups that is left out is a run of zero groups. -/
theorem groups_around_zeroRun (groups : List UInt16) (start : Nat) :
    groups = groups.take start ++ List.replicate (IPv6.zeroRun groups start) 0 ++
      groups.drop (start + IPv6.zeroRun groups start) := by
  have run : (groups.drop start).takeWhile (· == 0) = List.replicate (IPv6.zeroRun groups start) 0 := by
    apply List.eq_replicate_iff.mpr
    refine ⟨rfl, fun group member => ?_⟩
    simpa using List.mem_takeWhile_imp member
  have behind := List.prefix_iff_eq_append.mp (List.takeWhile_prefix (· == 0) (l := groups.drop start))
  rw [run, List.length_replicate, List.drop_drop] at behind
  rw [List.append_assoc, behind, List.take_append_drop]

private theorem read?_groupsSpelling (ip : IPv6) :
    IPv6.read? (IPv6.groupsSpelling ip.groups) = some (ip, []) := by
  have side : IPv6.readSide 8 true (IPv6.groupsSpelling ip.groups) = ⟨ip.groups, false, []⟩ := by
    simpa using readSide_groupsSpelling (Nat.le_of_eq ip.length_groups) .nothing
  simp only [IPv6.read?, side, ip.length_groups, ↓reduceIte, ofGroups?_groups, Option.map_some]

/-- Two sides around a gap are read as the groups of the sides around as many zero
groups as are missing. -/
private theorem read?_gap (ip : IPv6) {left right : List UInt16} {run : Nat} (positive : 0 < run)
    (shape : ip.groups = left ++ List.replicate run 0 ++ right) :
    IPv6.read? (IPv6.groupsSpelling left ++ ':' :: ':' :: IPv6.groupsSpelling right) =
      some (ip, []) := by
  have eight := ip.length_groups
  rw [shape, List.length_append, List.length_append, List.length_replicate] at eight
  have front : IPv6.readSide 8 true
      (IPv6.groupsSpelling left ++ ':' :: ':' :: IPv6.groupsSpelling right) =
        ⟨left, false, ':' :: ':' :: IPv6.groupsSpelling right⟩ :=
    readSide_groupsSpelling (by omega) (.gap _)
  have back : IPv6.readSide (7 - left.length) true (IPv6.groupsSpelling right) = ⟨right, false, []⟩ := by
    have fits : right.length ≤ 7 - left.length := by omega
    simpa using readSide_groupsSpelling fits .nothing
  have missing : 8 - left.length - right.length = run := by omega
  simp only [IPv6.read?, front]
  rw [if_neg (by omega)]
  simp only [Bool.false_eq_true, ↓reduceIte, back, missing]
  rw [← shape, ofGroups?_groups, Option.map_some]

private theorem read?_compressedSpelling (ip : IPv6) :
    IPv6.read? (IPv6.compressedSpelling ip.groups) = some (ip, []) := by
  simp only [IPv6.compressedSpelling]
  split
  · rename_i long
    exact read?_gap ip (by omega) (groups_around_zeroRun ip.groups _)
  · exact read?_groupsSpelling ip

/-- The dotted form is the gap, the group that marks it and an IPv4 address. -/
private theorem read?_mapped (a b : UInt16) :
    IPv6.read? (':' :: ':' :: IPv6.groupSpelling 0xffff ++ ':' ::
      IPv4.spelling ⟨BigEndian.high a, BigEndian.low a, BigEndian.high b, BigEndian.low b⟩) =
      some (⟨[0, 0, 0, 0, 0, 0xffff, a, b], rfl⟩, []) := by
  have dotted := IPv4Literals.read?_dotted
    ⟨BigEndian.high a, BigEndian.low a, BigEndian.high b, BigEndian.low b⟩ (digitFree_nil 10)
  rw [List.append_nil] at dotted
  simp only [IPv6.read?, List.cons_append, readSide_end (.gap _), List.length_nil, Nat.sub_zero]
  rw [if_neg (by omega), readSide_group 0xffff (colonNext_cons _) rfl, IPv6.readSide]
  simp only [IPv6.skipColon?, Bool.false_eq_true, ↓reduceIte, Option.bind_eq_bind, Option.bind_some,
    dotted, Nat.reduceEqDiff, BigEndian.join_high_low]
  rfl

theorem read?_spelling (ip : IPv6) : IPv6.read? ip.spelling = some (ip, []) := by
  unfold IPv6.spelling
  split
  · rename_i groups a b shape
    have same : ip = ⟨[0, 0, 0, 0, 0, 0xffff, a, b], rfl⟩ := by
      cases ip
      cases shape
      rfl
    rw [read?_mapped, same]
  · exact read?_compressedSpelling ip

/-- An IPv6 address is read back from its text. -/
theorem ofText?_toString (ip : IPv6) : IPv6.ofText? (toString ip) = some ip := by
  simp only [IPv6.ofText?, toString, String.toList_ofList, read?_spelling]

end Socks.Proofs.IPv6Literals

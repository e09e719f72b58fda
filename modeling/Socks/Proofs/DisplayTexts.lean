import Socks.Proofs.MessageFrames

/-!
Texts of requests, replies and datagram headers, which logs tell messages by. A text is some
decimal numbers with a space behind each, then the host, a colon and the port. The host may be
any text, with spaces and colons in it as well, and only an IPv6 literal is put in brackets. So
an address cannot be told from its text alone; but the numbers are read from the left, up to the
space behind each, and the port from the right, back to the last colon, and the type of the
address, which is one of the numbers, says if the brackets belong to the host.
-/
namespace Socks.Proofs.DisplayTexts

open Text
open NumeralReading AddressCodec MessageFrames
open Socks (Address)

/-! ## Parts of a text -/

section Splitting

variable {mark : Char} {front back later rest : List Char}

/-- A text has one part in front of the first mark and one behind it. -/
theorem split_first_unique (one : mark ∉ front) (other : mark ∉ back)
    (same : front ++ mark :: later = back ++ mark :: rest) : front = back ∧ later = rest := by
  induction front generalizing back with
  | nil =>
    cases back with
    | nil => exact ⟨rfl, (List.cons.inj same).2⟩
    | cons c back =>
      obtain ⟨rfl, -⟩ := List.cons.inj same
      exact absurd List.mem_cons_self other
  | cons c front ih =>
    cases back with
    | nil =>
      obtain ⟨rfl, -⟩ := List.cons.inj same
      exact absurd List.mem_cons_self one
    | cons d back =>
      obtain ⟨rfl, behind⟩ := List.cons.inj same
      obtain ⟨rfl, rfl⟩ := ih (fun member => one (List.mem_cons_of_mem _ member))
        (fun member => other (List.mem_cons_of_mem _ member)) behind
      exact ⟨rfl, rfl⟩

/-- The last mark of a text is the first one from behind. -/
theorem split_last_unique (one : mark ∉ later) (other : mark ∉ rest)
    (same : front ++ mark :: later = back ++ mark :: rest) : front = back ∧ later = rest := by
  have reversed := congrArg List.reverse same
  simp only [List.reverse_append, List.reverse_cons, List.append_assoc, List.singleton_append]
    at reversed
  obtain ⟨laters, fronts⟩ := split_first_unique (mt List.mem_reverse.mp one)
    (mt List.mem_reverse.mp other) reversed
  exact ⟨List.reverse_inj.mp fronts, List.reverse_inj.mp laters⟩

end Splitting

theorem spelling_injective : Function.Injective (Numeral.spelling 10) := by
  intro number other same
  have value := congrArg (Numeral.value 10) same
  rwa [value_spelling (by decide) (by decide), value_spelling (by decide) (by decide)] at value

theorem not_mem_spelling {mark : Char} (other : Numeral.isDigit 10 mark = false) (number : Nat) :
    mark ∉ Numeral.spelling 10 number := by
  intro member
  rw [isDigit_of_mem_spelling (by decide) (by decide) member] at other
  cases other

theorem toList_byte (byte : UInt8) : (toString byte).toList = Numeral.spelling 10 byte.toNat :=
  Nat.toList_repr

theorem toList_word (word : UInt16) : (toString word).toList = Numeral.spelling 10 word.toNat :=
  Nat.toList_repr

/-- Decimal numbers with a space behind each, in front of a text. -/
def spaced : List Nat → List Char → List Char
  | [], text => text
  | number :: later, text => Numeral.spelling 10 number ++ ' ' :: spaced later text

/-- So many numbers are read from the left in one way. -/
theorem spaced_inj {numbers others : List Nat} {text other : List Char}
    (same : spaced numbers text = spaced others other) (size : numbers.length = others.length) :
    numbers = others ∧ text = other := by
  induction numbers generalizing others with
  | nil =>
    obtain rfl := List.eq_nil_of_length_eq_zero size.symm
    exact ⟨rfl, same⟩
  | cons number numbers ih =>
    cases others with
    | nil => cases size
    | cons another others =>
      obtain ⟨numerals, behind⟩ := split_first_unique (not_mem_spelling rfl number)
        (not_mem_spelling rfl another) same
      obtain ⟨rfl, rfl⟩ := ih behind (Nat.succ.inj size)
      exact ⟨by rw [spelling_injective numerals], rfl⟩

/-! ## Addresses -/

/-- The host of an address as its text has it. -/
def enclosed (kind : Address.Kind) (host : List Char) : List Char :=
  match kind with
  | .ipv6 => '[' :: host ++ [']']
  | _ => host

theorem enclosed_injective (kind : Address.Kind) : Function.Injective (enclosed kind) := by
  intro host other same
  cases kind with
  | ipv4 | domain => exact same
  | ipv6 => exact (List.append_left_inj _).mp (List.cons.inj same).2

theorem toList_display (address : Address) :
    address.display.toList =
      enclosed address.kind address.host.toList ++ ':' :: Numeral.spelling 10 address.port.toNat := by
  obtain ⟨kind, host, port⟩ := address
  cases kind with
  | ipv4 | domain =>
    change (host ++ ":" ++ toString port).toList = _
    rw [String.toList_append, String.toList_append, toList_word, List.append_assoc]
    rfl
  | ipv6 =>
    change ("[" ++ host ++ "]:" ++ toString port).toList = '[' :: host.toList ++ [']'] ++ _
    simp only [String.toList_append, toList_word, List.append_assoc]
    rfl

/-- Among addresses of one kind the text tells the address. -/
theorem address_of_display {address other : Address} (kinds : address.kind = other.kind)
    (same : address.display = other.display) : address = other := by
  have texts := congrArg String.toList same
  rw [toList_display, toList_display, kinds] at texts
  obtain ⟨hosts, ports⟩ := split_last_unique (not_mem_spelling rfl _) (not_mem_spelling rfl _) texts
  have host : address.host = other.host := String.toList_inj.mp (enclosed_injective _ hosts)
  have port : address.port = other.port := UInt16.toNat_inj.mp (spelling_injective ports)
  cases address
  cases other
  cases kinds
  cases host
  cases port
  rfl

theorem typeByte_inj {address other : Address} (same : address.typeByte = other.typeByte) :
    address.kind = other.kind := by
  have known : Address.Kind.ofByte? address.typeByte = some other.kind := ofByte?_eq_some_iff.mpr same
  exact Option.some.inj ((ofByte?_eq_some_iff.mpr rfl).symm.trans known)

/-! ## Messages -/

theorem command_toByte_injective : Function.Injective Command.toByte := by
  intro command other same
  have known : Command.ofByte? command.toByte = some other := command_ofByte?_eq_some_iff.mpr same
  exact Option.some.inj ((command_ofByte?_eq_some_iff.mpr rfl).symm.trans known)

theorem replyCode_toByte_injective : Function.Injective ReplyCode.toByte := by
  intro code other same
  have known : ReplyCode.ofByte code.toByte = .ok other := replyCode_ofByte_eq_ok_iff.mpr same
  exact Except.ok.inj ((replyCode_ofByte_eq_ok_iff.mpr rfl).symm.trans known)

theorem toList_displayFrame (code : UInt8) (address : Address) :
    (displayFrame code address).toList =
      spaced [Protocol.version.toNat, code.toNat, Protocol.reserved.toNat, address.typeByte.toNat]
        address.display.toList := by
  unfold displayFrame
  simp only [String.toList_append, toList_byte, List.append_assoc]
  rfl

theorem toList_display_header (header : Header) :
    header.display.toList =
      spaced [header.reserved.toNat, header.fragment.toNat, header.address.typeByte.toNat]
        header.address.display.toList := by
  unfold Header.display
  simp only [String.toList_append, toList_word, toList_byte, List.append_assoc]
  rfl

/-- What requests and replies share tells their code and their address. -/
theorem displayFrame_inj {code another : UInt8} {address other : Address}
    (same : displayFrame code address = displayFrame another other) :
    code = another ∧ address = other := by
  have texts := congrArg String.toList same
  rw [toList_displayFrame, toList_displayFrame] at texts
  obtain ⟨numbers, addresses⟩ := spaced_inj texts rfl
  simp only [List.cons.injEq, UInt8.toNat_inj, true_and, and_true] at numbers
  obtain ⟨codes, types⟩ := numbers
  exact ⟨codes, address_of_display (typeByte_inj types) (String.toList_inj.mp addresses)⟩

/-- **A text tells the message.** Two requests with the same text are the same request, and so it
is with replies and with the headers of datagrams, whatever text the host of their address is. -/
theorem texts_identify_messages :
    Function.Injective Request.display ∧ Function.Injective Reply.display ∧
      Function.Injective Header.display := by
  refine ⟨?_, ?_, ?_⟩
  · rintro ⟨command, address⟩ ⟨other, another⟩ same
    obtain ⟨bytes, rfl⟩ := displayFrame_inj same
    obtain rfl : command = other := command_toByte_injective bytes
    rfl
  · rintro ⟨code, address⟩ ⟨other, another⟩ same
    obtain ⟨bytes, rfl⟩ := displayFrame_inj same
    obtain rfl : code = other := replyCode_toByte_injective bytes
    rfl
  · rintro ⟨reserved, fragment, address⟩ ⟨field, number, other⟩ same
    have texts := congrArg String.toList same
    rw [toList_display_header, toList_display_header] at texts
    obtain ⟨numbers, addresses⟩ := spaced_inj texts rfl
    simp only [List.cons.injEq, UInt8.toNat_inj, UInt16.toNat_inj, and_true] at numbers
    obtain ⟨rfl, rfl, types⟩ := numbers
    rw [address_of_display (typeByte_inj types) (String.toList_inj.mp addresses)]

/-- A name that looks like an IPv6 literal in its brackets has the text of that literal, but the
requests, replies and headers for the two have texts of their own. -/
theorem texts_identify_messages_for_a_look_alike :
    let literal := Address.ofHost .ipv6 "::1" 80
    let name := Address.ofDomain "[::1]" 80
    literal.display = name.display ∧
      (Request.mk .connect literal).display ≠ (Request.mk .connect name).display ∧
      (Reply.mk .succeeded literal).display ≠ (Reply.mk .succeeded name).display ∧
      (Header.mk 0 0 literal).display ≠ (Header.mk 0 0 name).display := by
  intro literal name
  obtain ⟨requests, replies, headers⟩ := texts_identify_messages
  have alike : literal.display = name.display := by decide +kernel
  have different : literal ≠ name := by decide +kernel
  exact ⟨alike, fun same => different (Request.mk.inj (requests same)).2,
    fun same => different (Reply.mk.inj (replies same)).2,
    fun same => different (Header.mk.inj (headers same)).2.2⟩

end Socks.Proofs.DisplayTexts

import Socks.Address
import Socks.Report
import Socks.Text.Utf8
import Socks.Wire.BigEndian
import Socks.Wire.Buffer

/-!
Addresses on the wire: a type byte, the host in the form of its kind, and the
port. A domain name is preceded by a byte that counts its bytes, so two bytes
always tell how long an address is.
-/
namespace Socks.Address

open Text Wire Net

/-! ## Lengths -/

/-- The number of bytes between the type byte and the port, in an address of a
kind; `next` is the first of them. Only for a domain does it matter. -/
def Kind.bodyLength (kind : Kind) (next : UInt8) : Nat :=
  match kind with
  | .ipv4 => 4
  | .domain => 1 + next.toNat
  | .ipv6 => 16

/-- The number of bytes of an address with a body of some length. -/
def Kind.frameLength (kind : Kind) (next : UInt8) : Nat := 1 + kind.bodyLength next + 2

/-- The kind that a type byte stands for. -/
def readKind (type : UInt8) : Report Kind :=
  match Kind.ofByte? type with
  | some kind => pure kind
  | none => do
    Report.log (.addressTypeRejected type)
    Report.reject (.badAddressType type)

/-- The number of bytes of an address that starts with two given bytes (`frame_len`). -/
def frameLength (type next : UInt8) : Report Nat := do
  let kind ← readKind type
  return kind.frameLength next

/-- The number of bytes an address takes, whether it can be written or not (`encoded_len`). -/
def encodedLength (address : Address) : Nat :=
  match address.kind with
  | .ipv4 => 1 + 4 + 2
  | .domain => 1 + (1 + (bytes address.host).length) + 2
  | .ipv6 => 1 + 16 + 2

/-! ## Decoding -/

/-- What stands between the type byte and the port. -/
def bodyOf {length : Nat} (frame : Block (1 + length + 2)) : Block length :=
  (frame.slice 1 (1 + length)).cast (Nat.add_sub_cancel_left 1 length)

/-- The port, which the last two bytes hold. -/
def portOf {length : Nat} (frame : Block (1 + length + 2)) : UInt16 :=
  BigEndian.join (frame.get ⟨1 + length, by omega⟩) (frame.get ⟨1 + length + 1, by omega⟩)

/-- The address with a body and a port. -/
def ofBody (kind : Kind) (next : UInt8) (body : Block (kind.bodyLength next)) (port : UInt16) :
    Except Rejection Address :=
  match kind, body with
  | .ipv4, octets => .ok (ofIPv4 (IPv4.ofOctets octets) port)
  | .domain, counted =>
    match ofBytes? (counted.bytes.drop 1) with
    | some name => .ok (ofDomain name port)
    | none => .error (.malformed .domainNotUtf8)
  | .ipv6, octets => .ok (ofIPv6 (IPv6.ofOctets octets) port)

/-- The address that the bytes of one whole address hold. -/
def ofFrame (kind : Kind) (next : UInt8) (frame : Block (kind.frameLength next)) :
    Except Rejection Address :=
  ofBody kind next (bodyOf frame) (portOf frame)

/-- The address in front of a byte string; what follows it is ignored (`decode`). Where the
byte behind the type byte is missing, zero stands in for it. -/
def decode (bytes : List UInt8) : Report Address :=
  match bytes with
  | [] => Report.reject (.malformed .emptyAddress)
  | type :: rest => do
    let next := rest.headD 0
    let kind ← readKind type
    let needed := kind.frameLength next
    if enough : needed ≤ bytes.length then
      Report.ofOutcome (ofFrame kind next (Block.take bytes needed enough))
    else
      Report.log (.truncatedAddressRejected bytes.length needed)
      Report.reject (.malformed (.truncatedAddress needed bytes.length))

/-! ## Encoding -/

/-- The bytes of an address (`encode`). A host of an IP kind has to be a literal of its
family, and a domain name has to fit its length byte. -/
def toBytes (address : Address) : Except Rejection (List UInt8) :=
  let port := BigEndian.bytes address.port
  match address.kind with
  | .ipv4 =>
    match IPv4.ofText? address.host with
    | some ip => .ok (Protocol.addressIPv4 :: ip.octets ++ port)
    | none => .error (.malformed (.badLiteral .v4 address.host))
  | .domain =>
    let name := bytes address.host
    if name.length ≤ Protocol.maxDomainLength then
      .ok (Protocol.addressDomain :: UInt8.ofNat name.length :: name ++ port)
    else .error (.malformed (.domainTooLong name.length))
  | .ipv6 =>
    match IPv6.ofText? address.host with
    | some ip => .ok (Protocol.addressIPv6 :: ip.octets ++ port)
    | none => .error (.malformed (.badLiteral .v6 address.host))

/-- An address that can be written takes as many bytes as it announces. -/
theorem length_of_toBytes {address : Address} {frame : List UInt8}
    (written : address.toBytes = .ok frame) : frame.length = address.encodedLength := by
  obtain ⟨kind, host, port⟩ := address
  cases kind with
  | ipv4 =>
    simp only [toBytes] at written
    split at written
    · cases written
      rfl
    · cases written
  | domain =>
    simp only [toBytes] at written
    split at written
    · cases written
      simp only [encodedLength, BigEndian.bytes, List.length_cons, List.length_append,
        List.length_nil]
      omega
    · cases written
  | ipv6 =>
    simp only [toBytes] at written
    split at written
    · rename_i ip read
      cases written
      simp only [encodedLength, BigEndian.bytes, List.length_cons, List.length_append,
        List.length_nil, ip.length_octets]
    · cases written

/-! ## Writing to a buffer -/

section Buffers

variable {β : Type} [Buffer β]

/-- Writes the type byte and the host. What can be wrong with a host is found before the
first piece is put. -/
def writeHost (kind : Kind) (host : String) : Writing Rejection β Unit :=
  match kind with
  | .ipv4 =>
    match IPv4.ofText? host with
    | some ip => do
      Writing.put [Protocol.addressIPv4]
      Writing.put ip.octets
    | none => throw (.malformed (.badLiteral .v4 host))
  | .domain =>
    let name := bytes host
    if name.length ≤ Protocol.maxDomainLength then do
      Writing.put [Protocol.addressDomain]
      Writing.put [UInt8.ofNat name.length]
      Writing.put name
    else throw (.malformed (.domainTooLong name.length))
  | .ipv6 =>
    match IPv6.ofText? host with
    | some ip => do
      Writing.put [Protocol.addressIPv6]
      Writing.put ip.octets
    | none => throw (.malformed (.badLiteral .v6 host))

/-- Writes an address to a buffer, piece by piece (`write_to_buf`). -/
def write (address : Address) : Writing Rejection β Unit := do
  writeHost address.kind address.host
  Writing.put (BigEndian.bytes address.port)

/-- **The pieces of an address are its bytes.** Either they are put as if they were put at
once, or the address is refused before any of them. -/
theorem write_eq (address : Address) :
    (address.write : Writing Rejection β Unit) =
      match address.toBytes with
      | .ok frame => Writing.put frame
      | .error rejection => throw rejection := by
  obtain ⟨kind, host, port⟩ := address
  cases kind with
  | ipv4 =>
    simp only [write, writeHost, toBytes]
    cases IPv4.ofText? host with
    | none => rfl
    | some ip => simp only [Writing.put_put, List.singleton_append]
  | domain =>
    simp only [write, writeHost, toBytes]
    split
    · simp only [Writing.put_put, List.cons_append, List.nil_append]
    · rfl
  | ipv6 =>
    simp only [write, writeHost, toBytes]
    cases IPv6.ofText? host with
    | none => rfl
    | some ip => simp only [Writing.put_put, List.singleton_append]

/-- What comes of writing an address: its bytes behind what the buffer holds, if they fit,
or the buffer as it was. -/
theorem onto_write (address : Address) (buffer : β) :
    address.write.onto buffer =
      match address.toBytes with
      | .ok frame => (Buffer.put frame buffer).map fun behind => (.ok (), behind)
      | .error rejection => some (.error rejection, buffer) := by
  rw [write_eq]
  cases address.toBytes with
  | ok frame => exact Writing.onto_put frame buffer
  | error rejection => exact Writing.onto_throw rejection buffer

end Buffers

/-- What a growing buffer holds when an address was written behind its bytes. -/
theorem onto_write_list (address : Address) (buffer : List UInt8) :
    address.write.onto buffer =
      match address.toBytes with
      | .ok frame => some (.ok (), buffer ++ frame)
      | .error rejection => some (.error rejection, buffer) := by
  rw [onto_write]
  cases address.toBytes <;> rfl

theorem isSome_onto_write_list (address : Address) (buffer : List UInt8) :
    (address.write.onto buffer).isSome := by
  rw [onto_write_list]
  cases address.toBytes <;> rfl

/-- The window that an address is written to has the length that the address announces, so
an address that can be written fills it, and one that cannot leaves it as it was. -/
theorem onto_write_window (address : Address) {bytes : List UInt8}
    (fits : bytes.length = address.encodedLength) :
    address.write.onto (Window.fresh bytes) =
      match address.toBytes with
      | .ok frame => some (.ok (), ⟨frame, []⟩)
      | .error rejection => some (.error rejection, .fresh bytes) := by
  rw [onto_write]
  cases written : address.toBytes with
  | error rejection => rfl
  | ok frame =>
    have size : bytes.length = frame.length := by rw [fits, length_of_toBytes written]
    have filled : Buffer.put frame (Window.fresh bytes) = some ⟨frame, []⟩ := by
      refine (Window.put_of_le (Nat.le_of_eq size.symm)).trans ?_
      rw [Window.fresh, List.nil_append, ← size, List.drop_length]
    simp only [filled, Option.map_some]

theorem isSome_onto_write_window (address : Address) {bytes : List UInt8}
    (fits : bytes.length = address.encodedLength) :
    (address.write.onto (Window.fresh bytes)).isSome := by
  rw [onto_write_window address fits]
  cases address.toBytes <;> rfl

/-- Writes an address over the start of a buffer (`encode_into`), and returns how many
bytes it took beside the buffer afterwards. The buffer has to have room for the whole
address, and the window over that room is all that is written to. -/
def writeOver (address : Address) (buffer : List UInt8) : Except Rejection Nat × List UInt8 :=
  let needed := address.encodedLength
  if room : needed ≤ buffer.length then
    let (outcome, window) := (address.write.onto (Window.fresh (buffer.take needed))).get
      (isSome_onto_write_window address (List.length_take_of_le room))
    (outcome.map fun _ => needed, window.bytes ++ buffer.drop needed)
  else (.error (.shortBuffer needed buffer.length), buffer)

/-- Writes an address behind what a buffer holds. -/
def writeBehind (address : Address) (buffer : List UInt8) : Except Rejection Unit × List UInt8 :=
  (address.write.onto buffer).get (isSome_onto_write_list address buffer)

theorem writeBehind_eq (address : Address) (buffer : List UInt8) :
    address.writeBehind buffer =
      match address.toBytes with
      | .ok frame => (.ok (), buffer ++ frame)
      | .error rejection => (.error rejection, buffer) := by
  apply Option.get_of_eq_some
  rw [onto_write_list]
  cases address.toBytes <;> rfl

theorem writeOver_of_short {address : Address} {buffer : List UInt8}
    (short : buffer.length < address.encodedLength) :
    address.writeOver buffer = (.error (.shortBuffer address.encodedLength buffer.length), buffer) :=
  dif_neg (Nat.not_le_of_lt short)

theorem writeOver_of_room {address : Address} {buffer : List UInt8}
    (room : address.encodedLength ≤ buffer.length) :
    address.writeOver buffer =
      match address.toBytes with
      | .ok frame => (.ok frame.length, frame ++ buffer.drop frame.length)
      | .error rejection => (.error rejection, buffer) := by
  have ran := onto_write_window address (List.length_take_of_le room)
  simp only [writeOver, dif_pos room]
  cases written : address.toBytes with
  | ok frame =>
    rw [written] at ran
    rw [Option.get_of_eq_some _ ran]
    simp only [Except.map, Window.bytes, List.append_nil, length_of_toBytes written]
  | error rejection =>
    rw [written] at ran
    rw [Option.get_of_eq_some _ ran]
    simp only [Except.map, Window.bytes, Window.fresh, List.nil_append, List.take_append_drop]

end Socks.Address

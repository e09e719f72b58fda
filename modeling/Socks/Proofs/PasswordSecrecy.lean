import Socks.Proofs.CredentialGrammar

/-!
What can be seen of a password from outside. Two credentials that differ in nothing but the
password have one text, are written under the same events, and are refused with the same
words. For readers this is a statement about two runs: `Alike` relates two programs, each with
the bytes that it is fed, if they ask for the same and report the same step by step and refuse
for the same reason, whatever they end with otherwise. On sources that are cut in the same way,
such programs make the same calls and report the same events. A reader of credentials is alike
to itself on two byte strings that differ in the password only, because it looks at the bytes
of the password only when it has read all it asks for.
-/
namespace Socks.Proofs.PasswordSecrecy

open Text Wire Transport
open AddressCodec StreamReading FrameReading MessageFrames FrameRefusals CredentialGrammar

variable {α β : Type}

/-! ## Sources of one shape -/

/-- Two sources come in chunks of the same lengths and end alike. -/
structure SameShape (first second : Source) : Prop where
  lengths : first.chunks.map List.length = second.chunks.map List.length
  ending : first.ending = second.ending

section Shapes

variable {first second : List (List UInt8)}

/-- What is delivered, and what ends it, is a matter of the lengths. -/
theorem stretchOf_sameShape [Runtime] (ending : Option Failure)
    (lengths : first.map List.length = second.map List.length) :
    (stretchOf first).length = (stretchOf second).length ∧
      limitOf ending first = limitOf ending second := by
  induction first generalizing second with
  | nil =>
    cases List.map_eq_nil_iff.mp lengths.symm
    exact ⟨rfl, rfl⟩
  | cons chunk later ih =>
    obtain ⟨other, laterOther, rfl, size, behind⟩ := List.map_eq_cons_iff.mp lengths.symm
    cases chunk with
    | nil =>
      cases List.eq_nil_of_length_eq_zero size
      exact ⟨rfl, rfl⟩
    | cons byte chunk =>
      obtain ⟨byteOther, chunkOther, rfl⟩ := List.exists_cons_of_length_eq_add_one size
      obtain ⟨lengthsBehind, limits⟩ := ih behind.symm
      refine ⟨?_, limits⟩
      rw [stretchOf, stretchOf, List.length_append, List.length_append, size, lengthsBehind]

/-- What is left of a chunk is read next, unless it is empty. -/
private theorem lengths_left {left other : List UInt8} (size : left.length = other.length)
    (lengths : first.map List.length = second.map List.length) :
    (if left.isEmpty then first else left :: first).map List.length =
      (if other.isEmpty then second else other :: second).map List.length := by
  cases left with
  | nil =>
    cases List.eq_nil_of_length_eq_zero size.symm
    exact lengths
  | cons byte rest =>
    obtain ⟨byteOther, restOther, rfl⟩ := List.exists_cons_of_length_eq_add_one size.symm
    exact congrArg₂ List.cons size lengths

/-- Readings from chunks of the same lengths make the same calls and leave the same shape. -/
theorem readChunks_sameShape [Runtime] (ending : Option Failure) (count : Nat)
    (lengths : first.map List.length = second.map List.length) :
    let one := Source.readChunks ending count first
    let other := Source.readChunks ending count second
    one.calls = other.calls ∧ SameShape one.rest other.rest := by
  rcases Nat.eq_zero_or_pos count with rfl | positive
  · rw [readChunks_zero, readChunks_zero]
    exact ⟨rfl, lengths, rfl⟩
  induction first generalizing second count with
  | nil =>
    cases List.map_eq_nil_iff.mp lengths.symm
    exact ⟨rfl, rfl, rfl⟩
  | cons chunk later ih =>
    obtain ⟨other, laterOther, rfl, size, behind⟩ := List.map_eq_cons_iff.mp lengths.symm
    cases chunk with
    | nil =>
      cases List.eq_nil_of_length_eq_zero size
      rw [readChunks_empty positive, readChunks_empty positive]
      exact ⟨rfl, behind.symm, rfl⟩
    | cons byte chunk =>
      obtain ⟨byteOther, chunkOther, rfl⟩ := List.exists_cons_of_length_eq_add_one size
      by_cases short : (byte :: chunk).length < count
      · rw [readChunks_beyond short, readChunks_beyond (size ▸ short)]
        obtain ⟨calls, rest⟩ := ih _ behind.symm (Nat.sub_pos_of_lt short)
        dsimp only
        rw [size, calls]
        exact ⟨rfl, rest⟩
      · have enough := Nat.le_of_not_lt short
        rw [readChunks_within positive enough, readChunks_within positive (size ▸ enough)]
        refine ⟨rfl, lengths_left ?_ behind.symm, rfl⟩
        rw [List.length_drop, List.length_drop, size]

end Shapes

/-! ## Programs that run alike -/

/-- Two programs, each fed with its own bytes, ask for the same and report the same, until
both run out of bytes, or both end, and then both for the same reason if for any. -/
inductive Alike : Decoder α → Decoder α → List UInt8 → List UInt8 → Prop where
  | done {outcome outcomeOther : Except Rejection α} (behind behindOther : List UInt8)
      (refusals : ∀ rejection, outcome = .error rejection ↔ outcomeOther = .error rejection) :
      Alike (.done outcome) (.done outcomeOther) behind behindOther
  | log (event : Event) {next nextOther : Decoder α} {bytes bytesOther : List UInt8}
      (later : Alike next nextOther bytes bytesOther) :
      Alike (.log event next) (.log event nextOther) bytes bytesOther
  | short {count : Nat} {next nextOther : Block count → Decoder α} {bytes bytesOther : List UInt8}
      (missing : bytes.length < count) (missingOther : bytesOther.length < count) :
      Alike (.read count next) (.read count nextOther) bytes bytesOther
  | read {count : Nat} (block blockOther : Block count) {next nextOther : Block count → Decoder α}
      {behind behindOther : List UInt8}
      (later : Alike (next block) (nextOther blockOther) behind behindOther) :
      Alike (.read count next) (.read count nextOther) (block.bytes ++ behind)
        (blockOther.bytes ++ behindOther)

/-- A reading takes the block in front of what is delivered. -/
private theorem read_of_stretch [Runtime] {source : Source} {count : Nat} (block : Block count)
    {behind : List UInt8} (delivered : stretch source = block.bytes ++ behind) :
    (source.read count).outcome = .ok block ∧ stretch (source.read count).rest = behind := by
  have enough : count ≤ (stretch source).length := by
    rw [delivered, List.length_append, block.length_bytes]
    exact Nat.le_add_right ..
  obtain ⟨outcome, rest, -, -⟩ := readChunks_enough source.ending enough
  have front : Block.take (stretch source) count enough = block := by
    refine Block.eq_of_bytes_eq ?_
    rw [Block.bytes_take, delivered, List.take_left' block.length_bytes]
  have back : (stretch source).drop count = behind := by
    rw [delivered, List.drop_left' block.length_bytes]
  exact ⟨outcome.trans (congrArg Except.ok front), rest.trans back⟩

/-- **Programs that are alike cannot be told apart by their calls, their events and their
errors,** on sources that are cut in the same way. -/
theorem run_alike [Runtime] {program other : Decoder α} {source sourceOther : Source}
    (alike : Alike program other (stretch source) (stretch sourceOther))
    (shape : SameShape source sourceOther) :
    (program.run source).calls = (other.run sourceOther).calls ∧
      (program.run source).events = (other.run sourceOther).events ∧
      ∀ reason, (program.run source).outcome = .error reason ↔
        (other.run sourceOther).outcome = .error reason := by
  generalize delivered : stretch source = bytes at alike
  generalize deliveredOther : stretch sourceOther = bytesOther at alike
  induction alike generalizing source sourceOther with
  | @done outcome outcomeOther behind behindOther refusals =>
    refine ⟨rfl, rfl, fun reason => ?_⟩
    cases outcome with
    | ok result =>
      cases outcomeOther with
      | ok resultOther =>
        exact iff_of_false (fun refused => by cases refused) (fun refused => by cases refused)
      | error rejection => cases (refusals rejection).mpr rfl
    | error rejection => rw [(refusals rejection).mp rfl]; rfl
  | log event later ih =>
    obtain ⟨calls, events, errors⟩ := ih shape delivered deliveredOther
    exact ⟨calls, congrArg (event :: ·) events, errors⟩
  | @short count next nextOther bytes bytesOther missing missingOther =>
    subst delivered deliveredOther
    obtain ⟨outcome, -⟩ := readChunks_short source.ending missing
    obtain ⟨outcomeOther, -⟩ := readChunks_short sourceOther.ending missingOther
    obtain ⟨-, limits⟩ := stretchOf_sameShape source.ending shape.lengths
    obtain ⟨calls, -⟩ := readChunks_sameShape source.ending count shape.lengths
    rw [← shape.ending] at outcomeOther
    rw [Decoder.run, Decoder.run, Source.read, Source.read, ← shape.ending]
    simp only [outcome, outcomeOther, limits, calls, implies_true, and_self]
  | @read count block blockOther next nextOther behind behindOther later ih =>
    obtain ⟨outcome, rest⟩ := read_of_stretch block delivered
    obtain ⟨outcomeOther, restOther⟩ := read_of_stretch blockOther deliveredOther
    obtain ⟨calls, shapeBehind⟩ : (source.read count).calls = (sourceOther.read count).calls ∧
        SameShape (source.read count).rest (sourceOther.read count).rest := by
      rw [Source.read, Source.read, ← shape.ending]
      exact readChunks_sameShape source.ending count shape.lengths
    obtain ⟨callsBehind, events, errors⟩ := ih shapeBehind rest restOther
    rw [Decoder.run, Decoder.run]
    simp only [outcome, outcomeOther, calls, callsBehind]
    exact ⟨trivial, events, errors⟩

/-! ## Operations -/

section Operations

variable {bytes bytesOther : List UInt8}

theorem alike_outcome_bind {one other : Except Rejection α} {follow followOther : α → Decoder β}
    (refusals : ∀ rejection, one = .error rejection ↔ other = .error rejection)
    (later : ∀ result resultOther, one = .ok result → other = .ok resultOther →
      Alike (follow result) (followOther resultOther) bytes bytesOther) :
    Alike (.outcome one >>= follow) (.outcome other >>= followOther) bytes bytesOther := by
  cases one with
  | ok result =>
    cases other with
    | ok resultOther => exact later result resultOther rfl rfl
    | error rejection => cases (refusals rejection).mpr rfl
  | error rejection =>
    obtain rfl := (refusals rejection).mp rfl
    exact .done _ _ fun _ => .rfl

theorem alike_checkVersion_bind {message : Versioned} {version : UInt8}
    {follow followOther : Unit → Decoder β}
    (later : Alike (follow ()) (followOther ()) bytes bytesOther) :
    Alike (.checkVersion message version >>= follow) (.checkVersion message version >>= followOther)
      bytes bytesOther := by
  rw [Decoder.checkVersion]
  split
  · exact later
  · exact .log _ (.done _ _ fun _ => .rfl)

/-- The block in front of some bytes that suffice for it. -/
private theorem exists_block {count : Nat} (enough : count ≤ bytes.length) :
    ∃ (block : Block count) (behind : List UInt8), bytes = block.bytes ++ behind :=
  ⟨.take bytes count enough, bytes.drop count, (List.take_append_drop ..).symm⟩

/-- Of byte strings of one length, either both suffice for a reading or neither does. -/
theorem alike_read {count : Nat} {next nextOther : Block count → Decoder α}
    (sizes : bytes.length = bytesOther.length)
    (later : ∀ (block blockOther : Block count) behind behindOther,
      bytes = block.bytes ++ behind → bytesOther = blockOther.bytes ++ behindOther →
      Alike (next block) (nextOther blockOther) behind behindOther) :
    Alike (.read count next) (.read count nextOther) bytes bytesOther := by
  by_cases enough : count ≤ bytes.length
  · obtain ⟨block, behind, rfl⟩ := exists_block enough
    obtain ⟨blockOther, behindOther, rfl⟩ := exists_block (sizes ▸ enough)
    exact .read block blockOther (later _ _ _ _ rfl rfl)
  · exact .short (Nat.lt_of_not_le enough) (sizes ▸ Nat.lt_of_not_le enough)

theorem alike_readPrefix_bind {count : Nat} {follow followOther : Block count → Decoder β}
    (sizes : bytes.length = bytesOther.length)
    (later : ∀ (head headOther : Block count) behind behindOther,
      bytes = head.bytes ++ behind → bytesOther = headOther.bytes ++ behindOther →
      Alike (follow head) (followOther headOther) behind behindOther) :
    Alike (.readPrefix count >>= follow) (.readPrefix count >>= followOther) bytes bytesOther :=
  alike_read sizes later

theorem alike_readRemainder_bind {count total : Nat} {block : Block count}
    {follow followOther : Block (max count total) → Decoder β}
    (sizes : bytes.length = bytesOther.length)
    (later : ∀ (full fullOther : Block (max count total)) middle middleOther behind behindOther,
      full.bytes = block.bytes ++ middle → fullOther.bytes = block.bytes ++ middleOther →
      bytes = middle ++ behind → bytesOther = middleOther ++ behindOther →
      Alike (follow full) (followOther fullOther) behind behindOther) :
    Alike (.readRemainder block total >>= follow) (.readRemainder block total >>= followOther)
      bytes bytesOther := by
  rw [Decoder.readRemainder]
  split
  · refine .log _ (alike_read sizes fun more moreOther behind behindOther shape shapeOther => ?_)
    exact later _ _ more.bytes moreOther.bytes behind behindOther rfl rfl shape shapeOther
  · exact later _ _ [] [] bytes bytesOther (List.append_nil _).symm (List.append_nil _).symm rfl rfl

end Operations

/-! ## Readers of credentials -/

/-- Two streams, or the parts of them that come, carry the same version, username and length
of the password, and passwords of which both spell a text or neither does. -/
def DifferInPassword (stream streamOther : List UInt8) : Prop :=
  ∃ (version count size : UInt8) (name word wordOther past pastOther : List UInt8),
    name.length = count.toNat ∧ word.length = size.toNat ∧ wordOther.length = size.toNat ∧
    (Illegible word ↔ Illegible wordOther) ∧
    stream <+: version :: count :: name ++ size :: word ++ past ∧
    streamOther <+: version :: count :: name ++ size :: wordOther ++ pastOther

theorem DifferInPassword.of_parts {stream streamOther front frontOther : List UInt8}
    (differ : DifferInPassword stream streamOther) (part : front <+: stream)
    (partOther : frontOther <+: streamOther) : DifferInPassword front frontOther := by
  obtain ⟨version, count, size, name, word, wordOther, past, pastOther, counted, sized, sizedOther,
    legible, within, withinOther⟩ := differ
  exact ⟨version, count, size, name, word, wordOther, past, pastOther, counted, sized, sizedOther,
    legible, part.trans within, partOther.trans withinOther⟩

/-- A part of a string that reaches as far as its front has that front. -/
private theorem front_of_part {front middle behind rest : List UInt8}
    (part : middle ++ behind <+: front ++ rest) (size : middle.length = front.length) :
    middle = front ∧ behind <+: rest := by
  obtain ⟨missing, whole⟩ := part
  rw [List.append_assoc] at whole
  obtain ⟨same, left⟩ := List.append_inj whole size
  exact ⟨same, missing, left⟩

/-- The texts are judged when all is read. -/
private theorem alike_texts (version : UInt8) (name : List UInt8) {word wordOther : List UInt8}
    (legible : Illegible word ↔ Illegible wordOther) (behind behindOther : List UInt8) :
    let judge := fun (given : List UInt8) => do
      let username ← Decoder.outcome (Credential.readField .username name)
      let password ← Decoder.outcome (Credential.readField .password given)
      Decoder.report (.credentialDecoded username)
      return ({ version, username, password } : Credential)
    Alike (judge word) (judge wordOther) behind behindOther := by
  refine alike_outcome_bind (fun _ => .rfl) fun username usernameOther one other => ?_
  cases one.symm.trans other
  refine alike_outcome_bind (fun rejection => ?_) fun password passwordOther _ _ => ?_
  · rw [readField_eq_error_iff, readField_eq_error_iff, legible]
  · refine .log _ (.done _ _ fun rejection => ?_)
    constructor <;> intro rejected <;> cases rejected

/-- A credential in the order in which it is read: the head, the username with the second
length byte, the password. -/
private theorem parts_of_credential (version count size : UInt8) (name word past : List UInt8) :
    version :: count :: name ++ size :: word ++ past =
      [version, count] ++ (name ++ [size] ++ (word ++ past)) := by
  simp

private theorem two_of_bytes {block : Block 2} {first second : UInt8}
    (shape : block.bytes = [first, second]) : block.two = (first, second) := by
  obtain rfl : block = ⟨[first, second], rfl⟩ := Block.eq_of_bytes_eq shape
  rfl

/-- The reader of credentials looks at the password only when it has read it. -/
theorem alike_credential {stream streamOther : List UInt8}
    (differ : DifferInPassword stream streamOther) (sizes : stream.length = streamOther.length) :
    Alike Credential.decoder Credential.decoder stream streamOther := by
  obtain ⟨version, count, size, name, word, wordOther, past, pastOther, counted, sized, sizedOther,
    legible, part, partOther⟩ := differ
  rw [parts_of_credential] at part partOther
  -- The heads are the same, so the same version is checked and the same count is followed.
  refine alike_readPrefix_bind sizes fun head headOther behind behindOther shape shapeOther => ?_
  subst shape shapeOther
  obtain ⟨front, left⟩ := front_of_part part head.length_bytes
  obtain ⟨frontOther, leftOther⟩ := front_of_part partOther headOther.length_bytes
  obtain rfl : head = headOther := Block.eq_of_bytes_eq (front.trans frontOther.symm)
  have pair : head.two = (version, count) := two_of_bytes front
  have sizes : behind.length = behindOther.length := by simpa using sizes
  rw [pair]
  dsimp only
  refine alike_checkVersion_bind ?_
  -- The second readings get the same too, and with it the same length of the password.
  refine alike_readRemainder_bind sizes
    fun half halfOther middle middleOther behind behindOther start startOther shape shapeOther => ?_
  subst shape shapeOther
  have missing := length_of_remainder start
  have missingOther := length_of_remainder startOther
  have reach : (name ++ [size]).length = count.toNat + 1 := by
    rw [List.length_append, counted, List.length_singleton]
  obtain ⟨nameSame, last⟩ := front_of_part left (by omega)
  obtain ⟨nameOther, lastOther⟩ := front_of_part leftOther (by omega)
  rw [front, nameSame] at start
  rw [front, nameOther] at startOther
  obtain rfl : half = halfOther := Block.eq_of_bytes_eq (start.trans startOther.symm)
  have sizes : behind.length = behindOther.length := by simpa [nameSame, nameOther] using sizes
  have next : half.get ⟨2 + count.toNat, by omega⟩ = size := get_behind start counted _
  -- Only the last readings differ, and only the texts are looked at then.
  refine alike_readRemainder_bind sizes
    fun full fullOther given givenOther behind behindOther whole wholeOther shape shapeOther => ?_
  subst shape shapeOther
  have missing := length_of_remainder whole
  have missingOther := length_of_remainder wholeOther
  rw [next] at missing missingOther
  obtain ⟨rfl, -⟩ := front_of_part last (by omega)
  obtain ⟨rfl, -⟩ := front_of_part lastOther (by omega)
  rw [start] at whole wholeOther
  obtain ⟨nameThere, wordThere⟩ : (full.bytes.take (2 + count.toNat)).drop 2 = name ∧
      (full.bytes.take (3 + count.toNat + size.toNat)).drop (3 + count.toNat) = given := by
    rw [whole]
    exact fields_of_frame version count size counted sized
  obtain ⟨nameThereOther, wordThereOther⟩ :
      (fullOther.bytes.take (2 + count.toNat)).drop 2 = name ∧
        (fullOther.bytes.take (3 + count.toNat + size.toNat)).drop (3 + count.toNat) =
          givenOther := by
    rw [wholeOther]
    exact fields_of_frame version count size counted sizedOther
  simp only [Block.bytes_slice, next, nameThere, wordThere, nameThereOther, wordThereOther]
  exact alike_texts version name legible behind behindOther

/-! ## Writers of credentials -/

section Writers

variable {login other : Credential}

theorem display_of_username (version : login.version = other.version)
    (username : login.username = other.username) : login.display = other.display := by
  unfold Credential.display
  rw [version, username]

theorem events_message (login : Credential) :
    login.message.events =
      if login.toBytes.isOk then [.sendingCredential login.username] else [] := by
  rw [Credential.message]
  cases login.toBytes <;> rfl

/-- A password that can be counted has no part in whether there are bytes. -/
theorem isOk_toBytes (short : (bytes login.password).length ≤ 255) :
    login.toBytes.isOk = (Credential.fieldBytes .username login.username).isOk := by
  rw [Credential.toBytes, fieldBytes_eq_ok_iff.mpr ⟨short, rfl⟩]
  cases Credential.fieldBytes .username login.username <;> rfl

/-- Too long a password is refused for its length, unless the username is refused. -/
theorem toBytes_of_long_password (long : 255 < (bytes login.password).length) :
    login.toBytes = (do
      let _ ← Credential.fieldBytes .username login.username
      .error (.malformed (.fieldTooLong .password (bytes login.password).length))) := by
  rw [Credential.toBytes, fieldBytes_of_long long]
  rfl

theorem events_of_username (username : login.username = other.username)
    (short : (bytes login.password).length ≤ 255) (shortOther : (bytes other.password).length ≤ 255) :
    login.message.events = other.message.events := by
  rw [events_message, events_message, isOk_toBytes short, isOk_toBytes shortOther, username]

/-- The usernames of two credentials are the same, or both can be counted. -/
def UsernamesAlike (login other : Credential) : Prop :=
  login.username = other.username ∨
    (bytes login.username).length ≤ 255 ∧ (bytes other.username).length ≤ 255

theorem toBytes_of_lengths (usernames : UsernamesAlike login other)
    (long : 255 < (bytes login.password).length)
    (same : (bytes login.password).length = (bytes other.password).length) :
    ∃ rejection, login.toBytes = .error rejection ∧ other.toBytes = .error rejection := by
  rw [toBytes_of_long_password long, toBytes_of_long_password (same ▸ long), same]
  rcases usernames with username | ⟨short, shortOther⟩
  · rw [username]
    cases Credential.fieldBytes .username other.username with
    | ok written => exact ⟨_, rfl, rfl⟩
    | error rejection => exact ⟨rejection, rfl, rfl⟩
  · rw [fieldBytes_eq_ok_iff.mpr ⟨short, rfl⟩, fieldBytes_eq_ok_iff.mpr ⟨shortOther, rfl⟩]
    exact ⟨_, rfl, rfl⟩

theorem events_send [Runtime] (sink : Sink) (message : Report (List UInt8)) :
    (sink.send message).events = message.events := by
  rw [Sink.send]
  split <;> rfl

end Writers

/-! ## Passwords -/

/-- **Passwords leave no trace.** Two credentials that differ in the password have one text, and
writing them reports the same, if both passwords can be counted, whatever the sinks do. Reading
credentials that differ in the password, from streams that are cut in the same way and end in
the same way, wherever that is, makes the same calls, reports the same and is refused for the
same reason. Passwords that are too long by as much are refused with the same words, unless it
is the usernames that are refused, and they differ. -/
theorem passwords_leave_no_trace [Runtime] :
    (∀ login other : Credential, login.version = other.version → login.username = other.username →
      login.display = other.display ∧
      ((bytes login.password).length ≤ 255 → (bytes other.password).length ≤ 255 →
        ∀ sink sinkOther : Sink,
          (sink.send login.message).events = (sinkOther.send other.message).events)) ∧
    (∀ source sourceOther : Source, SameShape source sourceOther →
      DifferInPassword source.bytes sourceOther.bytes →
      let one := Credential.decoder.run source
      let other := Credential.decoder.run sourceOther
      one.events = other.events ∧ one.calls = other.calls ∧
        ∀ reason, one.outcome = .error reason ↔ other.outcome = .error reason) ∧
    (∀ login other : Credential, UsernamesAlike login other →
      255 < (bytes login.password).length →
      (bytes login.password).length = (bytes other.password).length →
      ∃ rejection, login.toBytes = .error rejection ∧ other.toBytes = .error rejection ∧
        ∀ sink sinkOther : Sink,
          (sink.send login.message).outcome = .error (.rejected rejection) ∧
          (sinkOther.send other.message).outcome = .error (.rejected rejection)) := by
  refine ⟨?texts, ?readers, ?lengths⟩
  case texts =>
    intro login other version username
    refine ⟨display_of_username version username, fun short shortOther sink sinkOther => ?_⟩
    rw [events_send, events_send, events_of_username username short shortOther]
  case readers =>
    intro source sourceOther shape differ
    have delivered : DifferInPassword (stretch source) (stretch sourceOther) :=
      differ.of_parts (stretch_prefix_bytes source) (stretch_prefix_bytes sourceOther)
    obtain ⟨sizes, -⟩ := stretchOf_sameShape none shape.lengths
    obtain ⟨calls, events, errors⟩ := run_alike (alike_credential delivered sizes) shape
    exact ⟨events, calls, errors⟩
  case lengths =>
    intro login other usernames long same
    obtain ⟨rejection, refused, refusedOther⟩ := toBytes_of_lengths usernames long same
    refine ⟨rejection, refused, refusedOther, fun sink sinkOther => ?_⟩
    rw [Sink.send, Sink.send, Credential.message, Report.outcome_ofOutcome_log, refused,
      Credential.message, Report.outcome_ofOutcome_log, refusedOther]
    exact ⟨rfl, rfl⟩

/-- Two logins of one user, their bytes in two chunks, and two passwords of 256 bytes. -/
theorem two_passwords_leave_no_trace :
    let _ : Runtime := .direct
    let login : Credential := ⟨1, "a", "bc"⟩
    let other : Credential := ⟨1, "a", "xy"⟩
    let source : Source := ⟨[[1, 1, 97], [2, 98, 99]], none⟩
    let sourceOther : Source := ⟨[[1, 1, 97], [2, 120, 121]], none⟩
    let long : Credential := ⟨1, "a", String.ofList (List.replicate 256 'b')⟩
    let longOther : Credential := ⟨1, "a", String.ofList (List.replicate 256 'x')⟩
    login.display = other.display ∧
      (Sink.unlimited.send login.message).events = (Sink.unlimited.send other.message).events ∧
      (Credential.decoder.run source).events = (Credential.decoder.run sourceOther).events ∧
      (Credential.decoder.run source).calls = (Credential.decoder.run sourceOther).calls ∧
      (bytes long.password).length = 256 ∧
      ∃ rejection, long.toBytes = .error rejection ∧ longOther.toBytes = .error rejection := by
  intro _ login other source sourceOther long longOther
  obtain ⟨texts, readers, lengths⟩ := passwords_leave_no_trace
  obtain ⟨display, events⟩ := texts login other rfl rfl
  have legible : Illegible (bytes "bc") ↔ Illegible (bytes "xy") :=
    iff_of_false (fun illegible => illegible "bc" rfl) (fun illegible => illegible "xy" rfl)
  have differ : DifferInPassword source.bytes sourceOther.bytes :=
    ⟨1, 1, 2, [97], bytes "bc", bytes "xy", [], [], rfl, rfl, rfl, legible, List.prefix_rfl,
      List.prefix_rfl⟩
  obtain ⟨decoded, calls, -⟩ := readers source sourceOther ⟨rfl, rfl⟩ differ
  have size : (bytes long.password).length = 256 := by decide +kernel
  have sizeOther : (bytes longOther.password).length = 256 := by decide +kernel
  obtain ⟨rejection, refused, refusedOther, -⟩ :=
    lengths long longOther (.inl rfl) (by omega) (size.trans sizeOther.symm)
  exact ⟨display, events (by decide) (by decide) _ _, decoded, calls, size, rejection, refused,
    refusedOther⟩

end Socks.Proofs.PasswordSecrecy

import Socks.Proofs.FrameRefusals

/-!
The grammar of credentials, as the outcomes that it gives to the byte strings behind which a
stream is closed. The cases of `Verdict` stand in the order in which they take precedence:
each says of the byte string what the cases before it leave open. The second length byte
stands behind the username, so a stream can end too early at two places behind the head, and
only a credential that is there whole is looked at for its texts, the username first.
-/
namespace Socks.Proofs.CredentialGrammar

open Text Wire Transport
open AddressCodec StreamReading FrameReading MessageFrames FrameRefusals

/-- What the grammar makes of the bytes of a closed stream. -/
inductive Verdict : List UInt8 → Except CodecError Credential → Prop where
  | headMissing {bytes : List UInt8} (short : bytes.length < 2) :
      Verdict bytes (.error (.failed Failure.earlyEnd))
  | version {version count : UInt8} {later : List UInt8} (wrong : version ≠ Protocol.loginVersion) :
      Verdict (version :: count :: later)
        (.error (.rejected (.badVersion Protocol.loginVersion version)))
  | usernameMissing {count : UInt8} {later : List UInt8}
      (short : (Protocol.loginVersion :: count :: later).length < 3 + count.toNat) :
      Verdict (Protocol.loginVersion :: count :: later) (.error (.failed Failure.earlyEnd))
  | passwordMissing {count size : UInt8} {name later : List UInt8}
      (counted : name.length = count.toNat) (short : later.length < size.toNat) :
      Verdict (Protocol.loginVersion :: count :: name ++ size :: later)
        (.error (.failed Failure.earlyEnd))
  | username {count size : UInt8} {name word past : List UInt8}
      (counted : name.length = count.toNat) (sized : word.length = size.toNat)
      (illegible : Illegible name) :
      Verdict (Protocol.loginVersion :: count :: name ++ size :: word ++ past)
        (.error (.rejected (.malformed (.fieldNotUtf8 .username))))
  | password {count size : UInt8} {username : String} {word past : List UInt8}
      (counted : (bytes username).length = count.toNat) (sized : word.length = size.toNat)
      (illegible : Illegible word) :
      Verdict (Protocol.loginVersion :: count :: bytes username ++ size :: word ++ past)
        (.error (.rejected (.malformed (.fieldNotUtf8 .password))))
  | accepted {count size : UInt8} {username password : String} {past : List UInt8}
      (counted : (bytes username).length = count.toNat)
      (sized : (bytes password).length = size.toNat) :
      Verdict (Protocol.loginVersion :: count :: bytes username ++ size :: bytes password ++ past)
        (.ok ⟨Protocol.loginVersion, username, password⟩)

/-! ## What is taken -/

section Taken

variable {version count size : UInt8} {name word : List UInt8}

/-- What the two texts of a credential are read as. -/
def readTexts (name word : List UInt8) : Except Rejection Credential := do
  let username ← Credential.readField .username name
  let password ← Credential.readField .password word
  return ⟨Protocol.loginVersion, username, password⟩

theorem takes_texts (counted : name.length = count.toNat) (sized : word.length = size.toNat) :
    Takes Credential.decoder (Protocol.loginVersion :: count :: name ++ size :: word)
      (readTexts name word) :=
  takes_credential_readings.mpr (.inr ⟨count, size, name, word, counted, sized, rfl, rfl⟩)

theorem takes_version (wrong : version ≠ Protocol.loginVersion) :
    Takes Credential.decoder [version, count]
      (.error (.badVersion Protocol.loginVersion version)) :=
  takes_credential_readings.mpr (.inl ⟨version, count, rfl, wrong, rfl⟩)

theorem readTexts_of_username (illegible : Illegible name) :
    readTexts name word = .error (.malformed (.fieldNotUtf8 .username)) := by
  rw [readTexts, readField_eq_error_iff.mpr ⟨illegible, rfl⟩]
  rfl

theorem readTexts_of_password {username : String} (illegible : Illegible word) :
    readTexts (bytes username) word = .error (.malformed (.fieldNotUtf8 .password)) := by
  rw [readTexts, readField_eq_ok_iff.mpr rfl, readField_eq_error_iff.mpr ⟨illegible, rfl⟩]
  rfl

theorem readTexts_bytes (username password : String) :
    readTexts (bytes username) (bytes password) =
      .ok ⟨Protocol.loginVersion, username, password⟩ := by
  rw [readTexts, readField_eq_ok_iff.mpr rfl, readField_eq_ok_iff.mpr rfl]
  rfl

/-- Of two texts that are there, the grammar finds fault with the username first. -/
theorem verdict_of_texts (counted : name.length = count.toNat) (sized : word.length = size.toNat)
    (past : List UInt8) :
    Verdict (Protocol.loginVersion :: count :: name ++ size :: word ++ past)
      ((readTexts name word).mapError .rejected) := by
  by_cases nameRead : ∃ username, bytes username = name
  · obtain ⟨username, rfl⟩ := nameRead
    by_cases wordRead : ∃ password, bytes password = word
    · obtain ⟨password, rfl⟩ := wordRead
      rw [readTexts_bytes]
      exact .accepted counted sized
    · have illegible : Illegible word := not_exists.mp wordRead
      rw [readTexts_of_password illegible]
      exact .password counted sized illegible
  · have illegible : Illegible name := not_exists.mp nameRead
    rw [readTexts_of_username illegible]
    exact .username counted sized illegible

end Taken

/-! ## The grammar and the reader -/

variable {frame bytes : List UInt8}

/-- What is taken whole is judged so, whatever is behind it. -/
theorem verdict_of_takes {outcome : Except Rejection Credential}
    (taken : Takes Credential.decoder frame outcome) (past : List UInt8) :
    Verdict (frame ++ past) (outcome.mapError .rejected) := by
  rcases takes_credential_readings.mp taken with ⟨version, next, rfl, wrong, rfl⟩ |
    ⟨count, size, name, word, counted, sized, rfl, rfl⟩
  · exact .version wrong
  · exact verdict_of_texts counted sized past

/-- A front of a string that reaches behind a part of it starts with that part. -/
private theorem exists_behind {front word later missing : List UInt8}
    (shape : later ++ missing = front ++ word) (long : front.length ≤ later.length) :
    ∃ rest, later = front ++ rest := by
  obtain ⟨rest, whole⟩ := List.prefix_of_prefix_length_le ⟨word, shape.symm⟩
    (List.prefix_append later missing) long
  exact ⟨rest, whole.symm⟩

/-- The proper prefixes of what is taken are too short: in the head, in the username or the
byte behind it, or in the password. -/
theorem verdict_of_part {outcome : Except Rejection Credential} {missing : List UInt8}
    (lacking : missing ≠ []) (taken : Takes Credential.decoder (bytes ++ missing) outcome) :
    Verdict bytes (.error (.failed Failure.earlyEnd)) := by
  have positive := List.length_pos_iff.mpr lacking
  match bytes with
  | [] | [_] => exact .headMissing (by simp)
  | version :: count :: later =>
    rcases takes_credential_readings.mp taken with ⟨_, _, shape, -⟩ |
      ⟨_, size, name, word, counted, sized, shape, -⟩
    · have total := congrArg List.length shape
      simp only [List.length_append, List.length_cons, List.length_nil] at total
      omega
    · simp only [List.cons_append, List.cons.injEq] at shape
      obtain ⟨rfl, rfl, shape⟩ := shape
      by_cases within : later.length < count.toNat + 1
      · refine .usernameMissing ?_
        simp only [List.length_cons]
        omega
      · have front : later ++ missing = (name ++ [size]) ++ word := by simp [shape]
        have long : (name ++ [size]).length ≤ later.length := by
          simp only [List.length_append, List.length_singleton]
          omega
        obtain ⟨rest, rfl⟩ := exists_behind front long
        have total := congrArg List.length front
        simp only [List.length_append] at total
        rw [List.append_assoc, List.singleton_append]
        exact .passwordMissing counted (by omega)

/-- What the grammar finds too short can be completed. -/
theorem exists_completion (short : Verdict bytes (.error (.failed Failure.earlyEnd))) :
    ∃ missing outcome, missing ≠ [] ∧ Takes Credential.decoder (bytes ++ missing) outcome := by
  cases short with
  | headMissing short => match bytes with
    | [] => exact ⟨[0, 0], _, List.cons_ne_nil _ _, takes_version (by decide)⟩
    | [version] =>
      by_cases right : version = Protocol.loginVersion
      · subst right
        exact ⟨[0, 0], _, List.cons_ne_nil _ _, @takes_texts 0 0 [] [] rfl rfl⟩
      · exact ⟨[0], _, List.cons_ne_nil _ _, takes_version right⟩
    | _ :: _ :: _ =>
      simp only [List.length_cons] at short
      omega
  | @usernameMissing count later short =>
    let zeros : List UInt8 := List.replicate (count.toNat - later.length) 0
    have counted : (later ++ zeros).length = count.toNat := by
      simp only [List.length_cons] at short
      rw [List.length_append, List.length_replicate]
      omega
    have taken := @takes_texts count 0 _ [] counted rfl
    refine ⟨zeros ++ [0], readTexts (later ++ zeros) [], by simp, ?_⟩
    simpa using taken
  | @passwordMissing count size name later counted short =>
    let zeros : List UInt8 := List.replicate (size.toNat - later.length) 0
    have sized : (later ++ zeros).length = size.toNat := by
      rw [List.length_append, List.length_replicate]
      omega
    have lacking : zeros ≠ [] := by
      rw [← List.length_pos_iff, List.length_replicate]
      omega
    have taken := takes_texts counted sized
    refine ⟨zeros, readTexts name (later ++ zeros), lacking, ?_⟩
    simpa using taken

/-- The grammar judges a closed stream by the credential in front of it, or finds it too
short. -/
theorem verdict_iff {reached : Except CodecError Credential} :
    Verdict bytes reached ↔
      (∃ frame behind outcome, bytes = frame ++ behind ∧ Takes Credential.decoder frame outcome ∧
        reached = outcome.mapError .rejected) ∨
      (∃ missing outcome, missing ≠ [] ∧ Takes Credential.decoder (bytes ++ missing) outcome ∧
        reached = .error (.failed Failure.earlyEnd)) := by
  constructor
  · intro verdict
    by_cases short : reached = .error (.failed Failure.earlyEnd)
    · obtain ⟨missing, outcome, lacking, taken⟩ := exists_completion (short ▸ verdict)
      exact .inr ⟨missing, outcome, lacking, taken, short⟩
    · left
      cases verdict with
      | headMissing _ | usernameMissing _ | passwordMissing _ _ => exact absurd rfl short
      | version wrong => exact ⟨_, _, _, rfl, takes_version wrong, rfl⟩
      | username counted sized illegible =>
        refine ⟨_, _, _, rfl, takes_texts counted sized, ?_⟩
        rw [readTexts_of_username illegible]
        rfl
      | password counted sized illegible =>
        refine ⟨_, _, _, rfl, takes_texts counted sized, ?_⟩
        rw [readTexts_of_password illegible]
        rfl
      | accepted counted sized =>
        refine ⟨_, _, _, rfl, takes_texts counted sized, ?_⟩
        rw [readTexts_bytes]
        rfl
  · rintro (⟨frame, behind, outcome, rfl, taken, rfl⟩ | ⟨missing, outcome, lacking, taken, rfl⟩)
    · exact verdict_of_takes taken behind
    · exact verdict_of_part lacking taken

/-- A reader decides on a credential that is there whole without what is behind it. -/
theorem exists_decided (version : UInt8) {count size : UInt8} {name word : List UInt8}
    (counted : name.length = count.toNat) (sized : word.length = size.toNat) :
    ∃ front behind outcome, version :: count :: name ++ size :: word = front ++ behind ∧
      Takes Credential.decoder front outcome := by
  by_cases right : version = Protocol.loginVersion
  · subst right
    exact ⟨_, [], _, (List.append_nil _).symm, takes_texts counted sized⟩
  · exact ⟨[version, count], _, _, rfl, takes_version right⟩

/-! ## The reader -/

/-- **The reader of credentials gives the outcome of the grammar, and no other one.** On a
stream that is closed behind its bytes, in whatever chunks they come, the outcome is the one
that the grammar gives to them, and the error for a text that is not UTF-8 names that text; and
behind a credential that is there whole the outcome is the same with any other bytes. -/
theorem credentials_are_read_by_their_grammar [Runtime] (source : Source) (bytes : List UInt8)
    (delivers : Delivers source bytes) (closed : source.ending = none) :
    let outcome := (Credential.decoder.run source).outcome
    (∀ reached, outcome = reached ↔ Verdict bytes reached) ∧
    (∀ count size name word past,
      bytes = Protocol.loginVersion :: count :: name ++ size :: word ++ past →
      name.length = count.toNat → word.length = size.toNat → Illegible name →
      ∃ error, outcome = .error error ∧
        error.message = "Bad format: invalid UTF-8 in username") ∧
    (∀ count size username word past,
      bytes = Protocol.loginVersion :: count :: Text.bytes username ++ size :: word ++ past →
      (Text.bytes username).length = count.toNat → word.length = size.toNat → Illegible word →
      ∃ error, outcome = .error error ∧
        error.message = "Bad format: invalid UTF-8 in password") ∧
    (∀ version count size name word past behind other,
      bytes = version :: count :: name ++ size :: word ++ past →
      name.length = count.toNat → word.length = size.toNat →
      Delivers other (version :: count :: name ++ size :: word ++ behind) →
      (Credential.decoder.run other).outcome = outcome) := by
  intro outcome
  have judged (reached : Except CodecError Credential) :
      outcome = reached ↔ Verdict bytes reached := by
    have found : outcome = reached ↔ _ := run_outcome_iff
    rw [verdict_iff, found, delivers.stretch_eq, delivers.limit_eq, closed]
    rfl
  refine ⟨judged, ?username, ?password, ?past⟩
  case username =>
    intro count size name word past shape counted sized illegible
    have verdict := @Verdict.username count size name word past counted sized illegible
    exact ⟨_, (judged _).mpr (shape ▸ verdict), by decide⟩
  case password =>
    intro count size username word past shape counted sized illegible
    have verdict := @Verdict.password count size username word past counted sized illegible
    exact ⟨_, (judged _).mpr (shape ▸ verdict), by decide⟩
  case past =>
    intro version count size name word past behind other shape counted sized deliversOther
    obtain ⟨front, later, decided, whole, taken⟩ := exists_decided version counted sized
    rw [whole, List.append_assoc] at shape deliversOther
    have first := run_of_stretch taken (delivers.stretch_eq.trans shape)
    have second := run_of_stretch taken deliversOther.stretch_eq
    exact second.1.trans first.1.symm

/-- A credential in three chunks with a byte behind it, the same without that byte, one whose
password is not there whole, and two in which one text is the byte 255. -/
theorem credential_and_its_part_are_read_by_their_grammar :
    let _ : Runtime := .direct
    let source : Source := ⟨[[1, 1], [97, 1], [98, 9]], none⟩
    let part : Source := ⟨[[1, 1, 97], [2, 98]], none⟩
    let nameless := (Credential.decoder.run ⟨[[1, 1, 255, 1, 255]], none⟩).outcome
    let wordless := (Credential.decoder.run ⟨[[1, 1, 97], [1, 255]], none⟩).outcome
    Delivers source [1, 1, 97, 1, 98, 9] ∧
      (Credential.decoder.run source).outcome = .ok ⟨1, "a", "b"⟩ ∧
      (Credential.decoder.run (.ofBytes [1, 1, 97, 1, 98])).outcome = .ok ⟨1, "a", "b"⟩ ∧
      (Credential.decoder.run part).outcome =
        .error (.failed ⟨.unexpectedEof, some "early eof"⟩) ∧
      (∃ error, nameless = .error error ∧
        error.message = "Bad format: invalid UTF-8 in username") ∧
      (∃ error, wordless = .error error ∧
        error.message = "Bad format: invalid UTF-8 in password") := by
  intro _ source part nameless wordless
  have delivers : Delivers source [1, 1, 97, 1, 98, 9] := ⟨by decide, rfl⟩
  obtain ⟨judged, -, -, past⟩ := credentials_are_read_by_their_grammar source _ delivers rfl
  have whole : Verdict [1, 1, 97, 1, 98, 9] (.ok ⟨1, "a", "b"⟩) :=
    @Verdict.accepted 1 1 "a" "b" [9] rfl rfl
  have accepted : (Credential.decoder.run source).outcome = .ok ⟨1, "a", "b"⟩ := (judged _).mpr whole
  have same := past 1 1 1 [97] [98] [9] [] (.ofBytes [1, 1, 97, 1, 98]) rfl rfl rfl ⟨by decide, rfl⟩
  obtain ⟨judgedPart, -⟩ :=
    credentials_are_read_by_their_grammar part [1, 1, 97, 2, 98] ⟨by decide, rfl⟩ rfl
  have missing : Verdict [1, 1, 97, 2, 98] (.error (.failed Failure.earlyEnd)) :=
    @Verdict.passwordMissing 1 2 [97] [98] rfl (by decide)
  have unread : Illegible [255] := ofBytes?_eq_none_iff.mp (by decide +kernel)
  obtain ⟨-, username, -⟩ := credentials_are_read_by_their_grammar
    ⟨[[1, 1, 255, 1, 255]], none⟩ [1, 1, 255, 1, 255] ⟨by decide, rfl⟩ rfl
  obtain ⟨-, -, password, -⟩ := credentials_are_read_by_their_grammar
    ⟨[[1, 1, 97], [1, 255]], none⟩ [1, 1, 97, 1, 255] ⟨by decide, rfl⟩ rfl
  exact ⟨delivers, accepted, same.trans accepted, (judgedPart _).mpr missing,
    username 1 1 [255] [255] [] rfl rfl rfl unread, password 1 1 "a" [255] [] rfl rfl rfl unread⟩

end Socks.Proofs.CredentialGrammar

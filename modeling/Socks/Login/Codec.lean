import Socks.Login
import Socks.Transport.Version

/-!
Credentials and their answers on the wire. A credential is a version byte and two
texts, each behind a byte that counts its bytes; the second count is known only
when the first text has been read. An answer is a version byte and a code.
-/
namespace Socks

open Text Wire Transport Decoder

namespace Credential

/-- The number of bytes a credential takes (`encoded_len`). -/
def encodedLength (credential : Credential) : Nat :=
  3 + (bytes credential.username).length + (bytes credential.password).length

/-- The bytes of one text, if one byte can count them (`check_len`). -/
def fieldBytes (field : LoginField) (text : String) : Except Rejection (List UInt8) :=
  let bytes := bytes text
  if bytes.length ≤ Protocol.maxCredentialLength then .ok bytes
  else .error (.malformed (.fieldTooLong field bytes.length))

/-- The text that some bytes of a credential spell (`utf8_field`). -/
def readField (field : LoginField) (bytes : List UInt8) : Except Rejection String :=
  match ofBytes? bytes with
  | some text => .ok text
  | none => .error (.malformed (.fieldNotUtf8 field))

/-- The bytes of a credential (`to_bytes`). Too long a text is refused rather than cut. -/
def toBytes (credential : Credential) : Except Rejection (List UInt8) := do
  let username ← fieldBytes .username credential.username
  let password ← fieldBytes .password credential.password
  return credential.version :: UInt8.ofNat username.length :: username ++
    UInt8.ofNat password.length :: password

/-- A credential as a message (`encode_credential`). -/
def message (credential : Credential) : Report (List UInt8) := do
  let bytes ← Report.ofOutcome credential.toBytes
  Report.log (.sendingCredential credential.username)
  return bytes

/-- Reads a credential (`decode_credential`): the version and the first count, then the
username with the second count, then the password. -/
def decoder : Decoder Credential := do
  let head ← readPrefix 2
  let (version, count) := head.two
  checkVersion .credential version
  let usernameLength := count.toNat
  let frame ← readRemainder head (3 + usernameLength)
  let passwordLength := (frame.get ⟨2 + usernameLength, by omega⟩).toNat
  let frame ← readRemainder frame (3 + usernameLength + passwordLength)
  let username ← outcome (readField .username (frame.slice 2 (2 + usernameLength)).bytes)
  let password ← outcome (readField .password
    (frame.slice (3 + usernameLength) (3 + usernameLength + passwordLength)).bytes)
  report (.credentialDecoded username)
  return { version, username, password }

end Credential

namespace LoginStatus

/-- Reads a status (`decode_status`). -/
def decoder : Decoder LoginStatus := do
  let frame ← readPrefix 2
  let (version, code) := frame.two
  checkVersion .status version
  report (.statusDecoded code)
  return ⟨version, code⟩

/-- A status as a message (`encode_status`). -/
def message (status : LoginStatus) : Report (List UInt8) := do
  Report.log (.sendingStatus status.code)
  return [status.version, status.code]

end LoginStatus

end Socks

import Socks.Protocol
import Socks.Text.Utf8
import Socks.Text.Quoted

/-!
The username and password messages: the credential that a client sends and the
status that the server answers. Whether a credential is accepted is for the
caller to decide.
-/
namespace Socks

open Text

/-- A username with a password (`UserPassCredential`). -/
structure Credential where
  /-- The version byte, one unless a caller asks for another. -/
  version : UInt8 := Protocol.loginVersion
  /-- The username. -/
  username : String
  /-- The password. -/
  password : String
  deriving DecidableEq

/-- The text of a credential for messages, which does not show the password. -/
def Credential.display (credential : Credential) : String :=
  let version := toString credential.version
  "UserPassCredential \x7b version: " ++ version ++ ", username: " ++ quoted credential.username
    ++ ", password: \"***\" \x7d"

/-- The answer to a credential (`UserPassStatus`). -/
structure LoginStatus where
  /-- The version byte. -/
  version : UInt8
  /-- Zero for success. -/
  code : UInt8
  deriving DecidableEq

namespace LoginStatus

/-- The credential is accepted. -/
def success : LoginStatus := ⟨Protocol.loginVersion, Protocol.loginSuccess⟩

/-- The credential is not accepted. -/
def failure : LoginStatus := ⟨Protocol.loginVersion, Protocol.loginFailure⟩

/-- Whether a status says that the credential is accepted (`is_success`). -/
def isSuccess (status : LoginStatus) : Bool := status.code == Protocol.loginSuccess

end LoginStatus

end Socks

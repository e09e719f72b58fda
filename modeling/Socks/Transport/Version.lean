import Socks.Transport.Decoder

/-!
The version byte at the start of a message. It is checked as soon as it is there,
before anything else of the message is looked at or read.
-/
namespace Socks.Transport.Decoder

/-- Goes on only if a version byte is the one that a message requires. -/
def checkVersion (message : Versioned) (version : UInt8) : Decoder Unit :=
  if version = message.version then pure ()
  else do
    report (.versionRejected message version)
    reject (.badVersion message.version version)

end Socks.Transport.Decoder

import Socks.Datagram
import Socks.Text.Utf8
import Socks.Text.Quoted
import Socks.Toml.Document

/-!
The settings of the codec, as a configuration file gives them. There is one: how
the reserved field of a packet is read. Other names in the file are ignored, but
the file has to be a TOML document as a whole.
-/
namespace Socks

open Text Toml

/-- The settings of the codec. -/
structure Settings where
  /-- What the reserved field of a packet means. -/
  framing : Framing
  deriving DecidableEq

/-- The framing that a name in a configuration file stands for. -/
def Framing.ofName? (name : String) : Option Framing :=
  if name = "length-prefixed" then some .lengthPrefixed
  else if name = "datagram" then some .datagram
  else none

namespace Settings

/-- Why there are no settings. -/
inductive Error where
  /-- The text is no document, or gives the setting a meaning it cannot have. -/
  | malformed
  /-- The file with this name has no text. -/
  | unreadable (name : String)
  deriving DecidableEq

/-- The wording of an error. -/
def Error.message : Error → String
  | .malformed => "Failed to parse configuration"
  | .unreadable name => s!"Failed to read config file: {quoted name}"

/-- The settings of an empty configuration file. -/
def default : Settings := ⟨.lengthPrefixed⟩

/-- Whether a node holds nothing. -/
def isEmpty : Node → Bool
  | .table _ entries => entries.isEmpty
  | .array items => items.isEmpty
  | _ => false

/-- The framing that a node names, either as a string, or as the only name of a
table, where it must stand for something empty. -/
def framing? : Node → Option Framing
  | .text name => Framing.ofName? name
  | .table _ [(name, content)] => if isEmpty content then Framing.ofName? name else none
  | _ => none

/-- The settings that the table of a document gives. -/
def ofEntries? (entries : Entries) : Option Settings :=
  match entries.find? "udp_framing" with
  | none => some default
  | some node => (framing? node).map Settings.mk

/-- The settings that a text gives (`parse_config`). -/
def parse (text : String) : Except Error Settings :=
  match Document.ofText? text >>= ofEntries? with
  | some settings => .ok settings
  | none => .error .malformed

/-- The settings in the file with a name (`load_config`), of which the content is given
if it can be read. -/
def load (name : String) (content : Option (List UInt8)) : Except Error Settings :=
  match content >>= ofBytes? with
  | some text => parse text
  | none => .error (.unreadable name)

end Settings

end Socks

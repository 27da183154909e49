import CafeSession.Shell.DoubleQuotes
import CafeSession.Autostart.CommandLine

namespace CafeSession.Capplet

open CafeSession.Shell CafeSession.Autostart CafeSession.Autostart.DesktopFile

namespace AppDialog

/-- `csm_util_text_is_blank`, of bytes. -/
def textIsBlank (text : Bytes) : Bool :=
  text.all (fun byte => byte = space || (tab ≤ byte && byte ≤ 13))

end AppDialog

variable {file : DesktopFile} {quotes : Quotes} {path rest : Bytes}

/-- The code stands somewhere in the text. -/
def mentions (code : UInt8) : Bytes → Bool
  | [] => false
  | byte :: rest => (byte = percent && rest.head? = some code) || mentions code rest

/-- The code is one of the path's, or none that stands for a text. -/
def Known (path : Bytes) (code : UInt8) : Prop :=
  mentions code path = true ∨ code = doubleQuote ∨ code = backslash

open AppDialog

/-- A desktop file without texts, in which every code stands for nothing. -/
def bare : DesktopFile := ⟨⟨[]⟩, none, [], .application, none⟩

end CafeSession.Capplet

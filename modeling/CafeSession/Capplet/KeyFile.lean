import Mathlib.Algebra.Order.Ring.Int
import Mathlib.Data.List.DropRight

/-! # Desktop files

The Desktop Entry group of a key file, with the accessors that the capplet
calls on it.  Values are the unescaped strings. -/

namespace CafeSession.Capplet

/-- A path as `g_build_filename` makes it from a directory and a file name. -/
structure Path where
  dir : String
  basename : String
deriving DecidableEq, Repr

structure KeyFile where
  entries : List (String × String)
deriving DecidableEq, Repr

namespace KeyFile

def empty : KeyFile := ⟨[]⟩

def getString (keyFile : KeyFile) (key : String) : Option String :=
  (keyFile.entries.find? (fun entry => entry.1 = key)).map Prod.snd

def setString (keyFile : KeyFile) (key value : String) : KeyFile :=
  if keyFile.entries.any (fun entry => entry.1 = key) then
    ⟨keyFile.entries.map (fun entry => if entry.1 = key then (key, value) else entry)⟩
  else
    ⟨keyFile.entries ++ [(key, value)]⟩

/-- `g_ascii_isspace`. -/
def isAsciiSpace (char : Char) : Bool :=
  char = ' ' || char = '\t' || char = '\n' || char = '\x0c' || char = '\r'

/-- `g_key_file_get_boolean` of a value, which passes over white space at its end. -/
def parseBoolean (value : String) : Option Bool :=
  match String.ofList (value.toList.rdropWhile isAsciiSpace) with
  | "true" | "1" => some true
  | "false" | "0" => some false
  | _ => none

/-- `gsp_key_file_get_boolean`: a missing or malformed value gives the default. -/
def getBoolean (keyFile : KeyFile) (key : String) (default : Bool) : Bool :=
  ((keyFile.getString key).bind parseBoolean).getD default

def setBoolean (keyFile : KeyFile) (key : String) (value : Bool) : KeyFile :=
  keyFile.setString key (if value then "true" else "false")

/-- `isspace` of the C locale. -/
def isSpace (char : Char) : Bool := isAsciiSpace char || char = '\x0b'

/-- `strtol` in base ten, and what follows the number; where there is none, nothing
has been read. -/
def strtol (text : List Char) : Int × List Char :=
  let start := text.dropWhile isSpace
  let digits := if start.head? = some '-' ∨ start.head? = some '+' then start.tail else start
  let magnitude : Int := Nat.ofDigitChars 10 (digits.takeWhile Char.isDigit) 0
  if digits.takeWhile Char.isDigit = [] then (0, text)
  else (if start.head? = some '-' then -magnitude else magnitude, digits.dropWhile Char.isDigit)

/-- `g_key_file_get_integer` of a value; after the number there may be white space. -/
def parseInteger (value : String) : Option Int :=
  let (number, rest) := strtol value.toList
  if value = "" ∨ (rest.head?).any (fun char => !isAsciiSpace char) then none
  else if -(2 ^ 31) ≤ number ∧ number < 2 ^ 31 then some number
  else none

def keyDelay : String := "X-CAFE-Autostart-Delay"
def keyEnabled : String := "X-CAFE-Autostart-enabled"

/-- `gsp_key_file_get_delay`, stored in a `guint`. -/
def getDelay (keyFile : KeyFile) : UInt32 :=
  UInt32.ofInt (((keyFile.getString keyDelay).bind parseInteger).getD 0)

def setDelay (keyFile : KeyFile) (delay : UInt32) : KeyFile :=
  keyFile.setString keyDelay (toString delay.toInt32.toInt)

/-- `key[locale]` in the first of the user's languages that has it, else `key`. -/
def getLocaleString (languages : List String) (keyFile : KeyFile) (key : String) : Option String :=
  match languages.findSome? (fun language => keyFile.getString (key ++ "[" ++ language ++ "]")) with
  | some value => some value
  | none => keyFile.getString key

/-- `gsp_key_file_set_locale_string`: the first language without an encoding. -/
def setLocaleString (languages : List String) (keyFile : KeyFile) (key : String)
    (value : Option String) : KeyFile :=
  match languages.find? (fun language => !language.toList.contains '.') with
  | some locale => keyFile.setString (key ++ "[" ++ locale ++ "]") (value.getD "")
  | none => keyFile.setString key (value.getD "")

/-- `gsp_key_file_ensure_C_key`. -/
def ensureCKey (languages : List String) (keyFile : KeyFile) (key : String) : KeyFile :=
  if (keyFile.getString key).getD "" = "" then
    match keyFile.getLocaleString languages key with
    | some value => keyFile.setString key value
    | none => keyFile
  else
    keyFile

/-- `g_key_file_get_string_list`; a separator at the end starts no further item. -/
def getStringList (keyFile : KeyFile) (key : String) : Option (List String) :=
  (keyFile.getString key).map (fun value =>
    let items := value.splitOn ";"
    if items.getLast? = some "" then items.dropLast else items)

/-- `gsp_key_file_populate`. -/
def populate : KeyFile :=
  (empty.setString "Type" "Application").setString "Exec" "/bin/false"

/-- `gsp_app_can_launch`. -/
def canLaunch (keyFile : KeyFile) : Bool :=
  ((keyFile.getStringList "OnlyShowIn").all (fun desktops => desktops.contains "CAFE")) &&
    !((keyFile.getStringList "NotShowIn").any (fun desktops => desktops.contains "CAFE"))

end KeyFile

/-- `csm_util_text_is_blank`. -/
def textIsBlank (text : Option String) : Bool :=
  (text.getD "").toList.all Char.isWhitespace

/-- `_gsp_str_equal`: NULL and the empty string are equal. -/
def strEqual (a b : Option String) : Bool :=
  a.getD "" = b.getD ""

end CafeSession.Capplet

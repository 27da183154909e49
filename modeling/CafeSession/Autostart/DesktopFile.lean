import Mathlib.Data.List.DropRight
import CafeSession.Files.Entries
import CafeSession.Shell.Words
import CafeSession.Autostart.Process

/-! # Desktop files and their Exec lines

`EggDesktopFile` as far as a launch reads it.  Strings are their bytes; a key
file is its Desktop Entry group, with the unescaped values. -/

namespace CafeSession.Autostart

open CafeSession.Files CafeSession.Shell

abbrev percent : UInt8 := 37

/-- The bytes of an ASCII text. -/
def ascii (text : String) : Bytes :=
  text.toList.map (fun char => UInt8.ofNat char.toNat)

structure KeyFile where
  entries : List (String × Bytes)
deriving DecidableEq

namespace KeyFile

def empty : KeyFile := ⟨[]⟩

def getString (keyFile : KeyFile) (key : String) : Option Bytes :=
  (keyFile.entries.find? (fun entry => entry.1 = key)).map Prod.snd

def setString (keyFile : KeyFile) (key : String) (value : Bytes) : KeyFile :=
  if keyFile.entries.any (fun entry => entry.1 = key) then
    ⟨keyFile.entries.map (fun entry => if entry.1 = key then (key, value) else entry)⟩
  else
    ⟨keyFile.entries ++ [(key, value)]⟩

/-- `g_ascii_isspace`. -/
def isAsciiSpace (byte : UInt8) : Bool :=
  byte = 32 || byte = 9 || byte = 10 || byte = 12 || byte = 13

/-- `g_key_file_get_boolean` of a value, which passes over white space at its end;
`none` is its error. -/
def parseBoolean (value : Bytes) : Option Bool :=
  let text := value.rdropWhile isAsciiSpace
  if text = ascii "true" ∨ text = ascii "1" then some true
  else if text = ascii "false" ∨ text = ascii "0" then some false
  else none

theorem entries_setString (keyFile : KeyFile) (key : String) (value : Bytes) :
    (keyFile.setString key value).entries = stored key value keyFile.entries := by
  unfold setString stored
  split_ifs <;> rfl

theorem getString_setString (keyFile : KeyFile) (key : String) (value : Bytes) :
    (keyFile.setString key value).getString key = some value := by
  change lookup key (keyFile.setString key value).entries = some value
  rw [entries_setString, lookup_stored]

theorem getString_setString_of_ne (keyFile : KeyFile) {key other : String} (value : Bytes)
    (different : other ≠ key) :
    (keyFile.setString key value).getString other = keyFile.getString other := by
  change lookup other (keyFile.setString key value).entries = lookup other keyFile.entries
  rw [entries_setString, lookup_stored_of_ne different]

end KeyFile

/-- The functions of other libraries that a launch calls. -/
structure Libraries where
  /-- `g_shell_parse_argv`; `none` is its error -/
  parseArgv : Bytes → Option (List Bytes)
  /-- `g_filename_to_uri` -/
  filenameToUri : Bytes → Option Bytes
  /-- `g_ascii_strtod` reads the whole text, as a number above 1.1 -/
  versionAbove : Bytes → Bool
  /-- `csm_util_generate_startup_id` -/
  generateStartupId : Bytes

inductive DesktopFileType where
  | application
  | link
  | directory
  | unrecognized
deriving DecidableEq

structure DesktopFile where
  keyFile : KeyFile
  source : Option Bytes
  name : Bytes
  type : DesktopFileType
  icon : Option Bytes
deriving DecidableEq

/-- `g_path_is_absolute`. -/
def isAbsolute (path : Bytes) : Bool :=
  path.head? = some 47

namespace DesktopFile

/-- The icon name without an image extension, which it should not have. -/
def iconName (icon : Bytes) : Bytes :=
  if isAbsolute icon then icon
  else if [".png", ".xpm", ".svg"].any (fun extension => (ascii extension).isSuffixOf icon) then
    icon.take (icon.length - 4)
  else icon

/-- `egg_desktop_file_new_from_key_file`, for a key file with the Desktop Entry
group.  The code for documents is not kept: no documents come with a launch. -/
def new (libraries : Libraries) (keyFile : KeyFile) (source : Option Bytes) : Option DesktopFile :=
  if (keyFile.getString "Version").any libraries.versionAbove then none
  else
    (keyFile.getString "Name").bind (fun name =>
      (keyFile.getString "Type").bind (fun type =>
        let file (type : DesktopFileType) : DesktopFile := {
          keyFile := keyFile
          source := source.bind (fun source =>
            if isAbsolute source then libraries.filenameToUri source else some source)
          name := name
          type := type
          icon := (keyFile.getString "Icon").map iconName }
        if type = ascii "Application" then
          (keyFile.getString "Exec").map (fun _ => file .application)
        else if type = ascii "Link" then
          (keyFile.getString "URL").map (fun _ => file .link)
        else if type = ascii "Directory" then some (file .directory)
        else some (file .unrecognized)))

end DesktopFile

/-- The quotes that the Exec line is in. -/
inductive Quotes where
  | none
  | single
  | double
deriving DecidableEq

/-- `append_quoted_word`. -/
def appendQuotedWord (quotes : Quotes) (text : Bytes) : Bytes :=
  match quotes with
  | .none => quote text
  | .single => escape text
  | .double => doubleQuote :: quote text ++ [doubleQuote]

namespace DesktopFile

/-- `do_percent_subst`: what is appended, and the documents that are left. -/
def percentSubst (file : DesktopFile) (code : UInt8) (quotes : Quotes) (documents : List Bytes) :
    Bytes × List Bytes :=
  let word (text : Bytes) : Bytes := appendQuotedWord quotes text
  if code = percent then ([percent], documents)
  else if [code] = ascii "F" ∨ [code] = ascii "U" then
    (documents.flatMap (fun document => space :: word document), [])
  else if [code] = ascii "f" ∨ [code] = ascii "u" then
    match documents with
    | document :: documents => (space :: word document, documents)
    | [] => ([], [])
  else if [code] = ascii "i" then
    ((file.icon.map (fun icon => ascii "--icon " ++ word icon)).getD [], documents)
  else if [code] = ascii "c" then (word file.name, documents)
  else if [code] = ascii "k" then ((file.source.map word).getD [], documents)
  else ([], documents)

/-- The loop of `parse_exec`. -/
def substitute (file : DesktopFile) : Quotes → Bool → List Bytes → Bytes → Bytes
  | _, _, _, [] => []
  | quotes, true, documents, byte :: rest => byte :: file.substitute quotes false documents rest
  | quotes, false, documents, byte :: rest =>
      if byte = backslash then
        byte :: file.substitute quotes (quotes ≠ .single) documents rest
      else if byte = singleQuote then
        byte :: file.substitute
          (match quotes with | .none => .single | .single => .none | .double => .double)
          false documents rest
      else if byte = doubleQuote then
        byte :: file.substitute
          (match quotes with | .none => .double | .double => .none | .single => .single)
          false documents rest
      else if byte = percent then
        match rest with
        | [] => [byte]
        | code :: rest =>
            let (appended, documents) := file.percentSubst code quotes documents
            appended ++ file.substitute quotes false documents rest
      else
        byte :: file.substitute quotes false documents rest

/-- `parse_exec`. -/
def parseExec (file : DesktopFile) (documents : List Bytes) : Option Bytes :=
  (file.keyFile.getString "Exec").bind (fun exec =>
    let command := file.substitute .none false documents exec
    match file.keyFile.getString "Terminal" with
    | none => some command
    | some value =>
        (KeyFile.parseBoolean value).map (fun useTerminal =>
          if useTerminal then ascii "xdg-terminal " ++ appendQuotedWord .none command
          else command))

end DesktopFile

/-- A process that is spawned: its arguments, and `DESKTOP_AUTOSTART_ID`. -/
structure Spawn where
  argv : List Bytes
  autostartId : Bytes
deriving DecidableEq

namespace DesktopFile

/-- `egg_desktop_file_launchv`.  One process takes all documents there may be. -/
def launchv (libraries : Libraries) (file : DesktopFile) (documents : List Bytes)
    (autostartId : Bytes) : Option Spawn :=
  ((file.parseExec documents).bind libraries.parseArgv).map (fun argv => ⟨argv, autostartId⟩)

/-- The key file that `parse_link` makes up. -/
def openLinkKeyFile : KeyFile :=
  ((KeyFile.empty.setString "Name" (ascii "xdg-open")).setString "Type"
    (ascii "Application")).setString "Exec" (ascii "xdg-open %u")

/-- `egg_desktop_file_launch` without documents. -/
def launch (libraries : Libraries) (file : DesktopFile) (autostartId : Bytes) : Option Spawn :=
  match file.type with
  | .application => file.launchv libraries [] autostartId
  | .link =>
      (file.keyFile.getString "URL").bind (fun url =>
        (new libraries openLinkKeyFile none).bind (fun opener =>
          -- `%u` takes URIs: a path is translated, and left out when it cannot be
          let documents := if isAbsolute url then (libraries.filenameToUri url).toList else [url]
          opener.launchv libraries documents autostartId))
  | .directory | .unrecognized => none

end DesktopFile

/-- A `CsmAutostartApp` once its desktop file is loaded. -/
structure App where
  desktopFile : DesktopFile
  launchType : LaunchType
  startupId : Bytes

namespace App

/-- `load_desktop_file`. -/
def loadDesktopFile (libraries : Libraries) (file : DesktopFile) : App :=
  match file.keyFile.getString "X-CAFE-DBus-Name" with
  | some dbusName => ⟨file, .activate, dbusName⟩
  | none => ⟨file, .spawn,
      (file.keyFile.getString "X-CAFE-Autostart-startup-id").getD libraries.generateStartupId⟩

/-- `csm_autostart_app_start`: the process it spawns, if it does. -/
def start (libraries : Libraries) (app : App) : Option Spawn :=
  match app.launchType with
  | .spawn => app.desktopFile.launch libraries app.startupId
  | .activate => none

end App

end CafeSession.Autostart

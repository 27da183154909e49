import CafeSession.Autostart.DesktopFile

namespace CafeSession.Autostart

open CafeSession.Shell

structure SmProp where
  name : String
  type : String
  vals : List Bytes
deriving DecidableEq

structure XsmpClient where
  props : List SmProp
  startupId : Bytes
deriving DecidableEq

inductive RestartStyle where
  | ifRunning
  | anyway
  | immediately
  | never
deriving DecidableEq

/-- `g_ascii_isalnum`. -/
def isAlnum (byte : UInt8) : Bool :=
  (48 ≤ byte && byte ≤ 57) || (65 ≤ byte && byte ≤ 90) || (97 ≤ byte && byte ≤ 122)

def needsQuotes (value : Bytes) : Bool :=
  value.any (fun byte => !isAlnum byte && byte ∉ ascii "-_=:./")

/-- A value between quotes.  In the C literal for a quote the backslash is an
escape of C, so that it stands for three quotes. -/
def quotedText (value : Bytes) : Bytes :=
  value.flatMap (fun byte =>
    if byte = singleQuote then [singleQuote, singleQuote, singleQuote] else [byte])

/-- One value of `prop_to_command`. -/
def wordOfValue (value : Bytes) : Bytes :=
  if needsQuotes value then
    singleQuote :: quotedText value ++ [singleQuote]
  else
    value

/-- `prop_to_command`, for values that hold no NUL byte, which `strchr` would find. -/
def propToCommand : List Bytes → Bytes
  | [] => []
  | value :: values =>
      wordOfValue value ++ values.flatMap (fun value => space :: wordOfValue value)

namespace XsmpClient

def findProperty (client : XsmpClient) (name : String) : Option SmProp :=
  client.props.find? (fun prop => prop.name = name)

/-- `xsmp_get_restart_style_hint`. -/
def getRestartStyleHint (client : XsmpClient) : RestartStyle :=
  match client.findProperty "RestartStyleHint" with
  | none => .ifRunning
  | some prop =>
      if prop.type ≠ "CARD8" then .ifRunning
      else
        let hint := (prop.vals.headD []).headD 0
        if hint = 1 then .anyway
        else if hint = 2 then .immediately
        else if hint = 3 then .never
        else .ifRunning

/-- `xsmp_get_restart_command` and `xsmp_get_discard_command`. -/
def getCommand (client : XsmpClient) (name : String) : Option Bytes :=
  ((client.findProperty name).filter (fun prop => prop.type = "LISTofARRAY8")).map
    (fun prop => propToCommand prop.vals)

def getRestartCommand (client : XsmpClient) : Option Bytes :=
  client.getCommand "RestartCommand"

def getDiscardCommand (client : XsmpClient) : Option Bytes :=
  client.getCommand "DiscardCommand"

/-- `set_desktop_file_keys_from_client`. -/
def setDesktopFileKeys (client : XsmpClient) (keyFile : KeyFile) : KeyFile :=
  let name := match client.findProperty "Program" with
    | some prop => prop.vals.headD []
    | none => ascii "Remembered Application"
  let comment := ascii "Client " ++ client.startupId ++ ascii " which was automatically saved"
  ((((keyFile.setString "Name" name).setString "Comment" comment).setString
    "Icon" (ascii "system-run")).setString "Type" (ascii "Application")).setString
      "StartupNotify" (ascii "true")

/-- `create_client_key_file`; the original desktop file, if there is one, is
loaded or gives the text of an error. -/
def createKeyFile (client : XsmpClient) (original : Option (Except String KeyFile)) :
    Except String KeyFile :=
  match original with
  | some loaded => loaded
  | none => .ok (client.setDesktopFileKeys .empty)

/-- `xsmp_save`. -/
def save (client : XsmpClient) (original : Option (Except String KeyFile)) :
    Except String (Option KeyFile) :=
  if client.getRestartStyleHint = .never then .ok none
  else match client.getRestartCommand with
    | none => .ok none
    | some execProgram =>
        (client.createKeyFile original).map (fun keyFile =>
          let saved := (keyFile.setString "X-CAFE-Autostart-startup-id" client.startupId).setString
            "Exec" execProgram
          some (match client.getDiscardCommand with
            | some execDiscard => saved.setString "X-CAFE-Autostart-discard-exec" execDiscard
            | none => saved))

/-- The keys that a save sets in every key file. -/
def savedKeys : List String :=
  ["X-CAFE-Autostart-startup-id", "Exec", "X-CAFE-Autostart-discard-exec"]

/-- What a saved key file has from the client, and from what it was made of. -/
structure Saved (client : XsmpClient) (args : List Bytes) (base keyFile : KeyFile) : Prop where
  exec : keyFile.getString "Exec" = some (propToCommand args)
  startupId : keyFile.getString "X-CAFE-Autostart-startup-id" = some client.startupId
  others : ∀ key, key ∉ savedKeys → keyFile.getString key = base.getString key

variable {client : XsmpClient} {original : Option (Except String KeyFile)}
variable {args : List Bytes} {base keyFile : KeyFile}

theorem getRestartCommand_of_property
    (command : client.findProperty "RestartCommand" =
      some ⟨"RestartCommand", "LISTofARRAY8", args⟩) :
    client.getRestartCommand = some (propToCommand args) := by
  simp [getRestartCommand, getCommand, command, Option.filter]

theorem save_some
    (command : client.findProperty "RestartCommand" = some ⟨"RestartCommand", "LISTofARRAY8", args⟩)
    (saved : client.save original = .ok (some keyFile)) :
    ∃ base, client.createKeyFile original = .ok base ∧ client.Saved args base keyFile := by
  unfold save at saved
  split_ifs at saved
  · cases saved
  rw [getRestartCommand_of_property command] at saved
  cases created : client.createKeyFile original with
  | error message => simp [created, Except.map] at saved
  | ok base =>
      rw [created] at saved
      simp only [Except.map, Except.ok.injEq, Option.some.injEq] at saved
      subst saved
      refine ⟨base, rfl, ?_⟩
      cases client.getDiscardCommand with
      | none =>
          constructor
          case exec => exact KeyFile.getString_setString _ _ _
          case startupId =>
            rw [KeyFile.getString_setString_of_ne _ _ (by decide), KeyFile.getString_setString]
          case others =>
            intro key other
            simp only [savedKeys, List.mem_cons, not_or] at other
            rw [KeyFile.getString_setString_of_ne _ _ other.2.1,
              KeyFile.getString_setString_of_ne _ _ other.1]
      | some execDiscard =>
          constructor
          case exec =>
            rw [KeyFile.getString_setString_of_ne _ _ (by decide), KeyFile.getString_setString]
          case startupId =>
            rw [KeyFile.getString_setString_of_ne _ _ (by decide),
              KeyFile.getString_setString_of_ne _ _ (by decide), KeyFile.getString_setString]
          case others =>
            intro key other
            simp only [savedKeys, List.mem_cons, not_or] at other
            rw [KeyFile.getString_setString_of_ne _ _ other.2.2.1,
              KeyFile.getString_setString_of_ne _ _ other.2.1,
              KeyFile.getString_setString_of_ne _ _ other.1]

theorem save_ok
    (command : client.findProperty "RestartCommand" = some ⟨"RestartCommand", "LISTofARRAY8", args⟩)
    (restarted : client.getRestartStyleHint ≠ .never)
    (created : client.createKeyFile original = .ok base) :
    ∃ keyFile, client.save original = .ok (some keyFile) := by
  simp [save, restarted, getRestartCommand_of_property command, created, Except.map]

end XsmpClient

end CafeSession.Autostart

import CafeSession.Autostart.DesktopFile
import CafeSession.Capplet.KeyFile

namespace CafeSession.Autostart

/-- `egg_desktop_file_can_launch`, of a desktop file of the type; `found` are the
programs that `g_find_program_in_path` finds. -/
def canLaunch (found : String → Bool) (type : DesktopFileType) (keyFile : Capplet.KeyFile)
    (desktopEnvironment : Option String) : Bool :=
  if type ≠ .application ∧ type ≠ .link then false
  else if desktopEnvironment.any (fun name =>
      (keyFile.getStringList "OnlyShowIn").any (fun desktops => !desktops.contains name)) then
    false
  else if desktopEnvironment.any (fun name =>
      (keyFile.getStringList "NotShowIn").any (fun desktops => desktops.contains name)) then
    false
  else if type = .application then (keyFile.getString "TryExec").all found
  else true

/-- `is_disabled`.  A value that is no boolean reads as FALSE. -/
def isDisabled (found : String → Bool) (type : DesktopFileType) (keyFile : Capplet.KeyFile) :
    Bool :=
  if (keyFile.getString "X-CAFE-Autostart-enabled").isSome &&
      !keyFile.getBoolean "X-CAFE-Autostart-enabled" false then true
  else if keyFile.getBoolean "Hidden" false then true
  else !canLaunch found type keyFile (some "CAFE")

/-- The desktop file is of a type that is launched, with the program that it tries. -/
def Installed (found : String → Bool) (type : DesktopFileType) (keyFile : Capplet.KeyFile) :
    Prop :=
  type = .link ∨ type = .application ∧
    ∀ program, keyFile.getString "TryExec" = some program → found program = true

/-- The switch of the desktop file is a boolean, if it has one. -/
def Spelled (keyFile : Capplet.KeyFile) : Prop :=
  ∀ text, keyFile.getString "X-CAFE-Autostart-enabled" = some text →
    (Capplet.KeyFile.parseBoolean text).isSome

variable {found : String → Bool} {type : DesktopFileType} {keyFile : Capplet.KeyFile}

/-- For this desktop the two programs differ in the type and in `TryExec`. -/
theorem canLaunch_iff :
    canLaunch found type keyFile (some "CAFE") = true ↔
      keyFile.canLaunch = true ∧ Installed found type keyFile := by
  have shown : (keyFile.getStringList "OnlyShowIn").any (fun desktops => !desktops.contains "CAFE") =
      !(keyFile.getStringList "OnlyShowIn").all (fun desktops => desktops.contains "CAFE") := by
    cases keyFile.getStringList "OnlyShowIn" <;> rfl
  have tried : (keyFile.getString "TryExec").all found = true ↔
      ∀ program, keyFile.getString "TryExec" = some program → found program = true := by
    cases keyFile.getString "TryExec" <;> simp
  unfold canLaunch Capplet.KeyFile.canLaunch Installed
  rw [Option.any_some, Option.any_some, shown, ← tried]
  cases (keyFile.getStringList "OnlyShowIn").all (fun desktops => desktops.contains "CAFE") <;>
    cases (keyFile.getStringList "NotShowIn").any (fun desktops => desktops.contains "CAFE") <;>
    cases type <;> simp

/-- What the two programs make of the switch differs when it is no boolean. -/
theorem switchedOff_iff :
    ((keyFile.getString "X-CAFE-Autostart-enabled").isSome &&
        !keyFile.getBoolean "X-CAFE-Autostart-enabled" false) = false ↔
      keyFile.getBoolean "X-CAFE-Autostart-enabled" true = true ∧ Spelled keyFile := by
  unfold Spelled Capplet.KeyFile.getBoolean
  cases switch : keyFile.getString "X-CAFE-Autostart-enabled" with
  | none => simp
  | some text =>
      cases parsed : Capplet.KeyFile.parseBoolean text with
      | none => simp [parsed]
      | some value => cases value <;> simp [parsed]

example :
    isDisabled (fun _ => true) .application ⟨[("X-CAFE-Autostart-enabled", "yes")]⟩ = true := by
  decide

theorem not_isDisabled_iff :
    isDisabled found type keyFile = false ↔
      (keyFile.getBoolean "X-CAFE-Autostart-enabled" true = true ∧ Spelled keyFile) ∧
        keyFile.getBoolean "Hidden" false = false ∧
          keyFile.canLaunch = true ∧ Installed found type keyFile := by
  rw [← switchedOff_iff, ← canLaunch_iff]
  unfold isDisabled
  cases (keyFile.getString "X-CAFE-Autostart-enabled").isSome &&
      !keyFile.getBoolean "X-CAFE-Autostart-enabled" false <;>
    cases keyFile.getBoolean "Hidden" false <;> simp

end CafeSession.Autostart

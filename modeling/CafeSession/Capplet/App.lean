import CafeSession.Capplet.KeyFile

/-! # Autostart applications of the capplet

`GspApp`: one desktop file as the capplet shows and edits it.  Edits are saved
to the user's autostart directory by a timer, or when the app is disposed of.
The disk answers for everything read or written; what a function removed or
wrote is its last result. -/

namespace CafeSession.Capplet

/-- What is fixed for the process: the XDG directories and the user's languages. -/
structure Environment where
  userConfigDir : String
  systemDataDirs : List String
  systemConfigDirs : List String
  languages : List String

/-- `g_build_filename (g_get_user_config_dir (), "autostart", NULL)`. -/
def Environment.userAutostartDir (environment : Environment) : String :=
  environment.userConfigDir ++ "/autostart"

/-- The answers of the file system while an event is handled. -/
structure Disk where
  load : Path → Option KeyFile
  present : Path → Bool
  writes : Path → Bool
  removes : Path → Bool
  listing : String → List String

inductive Effect where
  | removed (path : Path)
  | wrote (path : Path) (keyFile : KeyFile)
  | copied (path : Path)
deriving DecidableEq

def Effect.path : Effect → Path
  | .removed path | .wrote path _ | .copied path => path

/-- `g_remove` of a file. -/
def Disk.remove (disk : Disk) (path : Path) : List Effect :=
  if disk.removes path then [.removed path] else []

def gMaxUint : Nat := 4294967295

/-- The bits of `save_mask`. -/
structure SaveMask where
  hidden : Bool := false
  enabled : Bool := false
  name : Bool := false
  exec : Bool := false
  comment : Bool := false
  delay : Bool := false
deriving DecidableEq

def SaveMask.all : SaveMask := ⟨true, true, true, true, true, true⟩

structure App where
  basename : String
  path : Path
  hidden : Bool := false
  enabled : Bool := false
  nodisplay : Bool := false
  name : Option String := none
  exec : Option String := none
  comment : Option String := none
  icon : Option String := none
  delay : UInt32 := 0
  xdgPosition : Nat := gMaxUint
  xdgSystemPosition : Nat := gMaxUint
  /-- `save_timeout` is not 0 -/
  saveTimeout : Bool := false
  /-- the source behind `save_timeout` is attached to the main loop -/
  timerRunning : Bool := false
  saveMask : SaveMask := {}
  oldSystemPath : Option Path := none
  skipNextMonitorEvent : Bool := false
  disposed : Bool := false
deriving DecidableEq

namespace App

/-- `_gsp_app_user_equal_system`, given the directory of the system position. -/
def userEqualSystem (environment : Environment) (disk : Disk) (systemDir : Option String)
    (app : App) : Option Path :=
  systemDir.bind (fun dir =>
    let path : Path := ⟨dir, app.basename⟩
    match disk.load path with
    | none => none
    | some keyFile =>
        if keyFile.getBoolean "Hidden" false = app.hidden ∧
            keyFile.getBoolean KeyFile.keyEnabled true = app.enabled ∧
            strEqual (keyFile.getLocaleString environment.languages "Name") app.name ∧
            strEqual (keyFile.getLocaleString environment.languages "Comment") app.comment ∧
            strEqual (keyFile.getString "Exec") app.exec ∧
            strEqual (keyFile.getLocaleString environment.languages "Icon") app.icon ∧
            keyFile.getDelay = app.delay then
          some path
        else
          none)

/-- The key file that a save writes: the one it starts from, with the edited keys set. -/
def editedKeyFile (environment : Environment) (disk : Disk) (app : App) : KeyFile :=
  let languages := environment.languages
  let usePath := app.oldSystemPath.getD app.path
  let keyFile := (disk.load usePath).getD KeyFile.populate
  let keyFile := if app.saveMask.hidden then keyFile.setBoolean "Hidden" app.hidden else keyFile
  let keyFile := if app.saveMask.enabled then keyFile.setBoolean KeyFile.keyEnabled app.enabled
    else keyFile
  let keyFile := if app.saveMask.name then
      (keyFile.setLocaleString languages "Name" app.name).ensureCKey languages "Name"
    else keyFile
  let keyFile := if app.saveMask.comment then
      (keyFile.setLocaleString languages "Comment" app.comment).ensureCKey languages "Comment"
    else keyFile
  let keyFile := if app.saveMask.exec then keyFile.setString "Exec" (app.exec.getD "") else keyFile
  if app.saveMask.delay then keyFile.setDelay app.delay else keyFile

/-- `_gsp_app_save_done_success`. -/
def saveDoneSuccess (app : App) : App :=
  { app with saveMask := {}, oldSystemPath := none }

/-- `_gsp_app_save`.  The first exit, for an app that needs no user file, leaves
`save_timeout` as it is. -/
def save (environment : Environment) (disk : Disk) (systemDir : Option String) (app : App) :
    App × List Effect :=
  match app.userEqualSystem environment disk systemDir with
  | some systemPath =>
      (saveDoneSuccess { app with
        path := systemPath
        xdgPosition := app.xdgSystemPosition },
        if disk.present app.path then disk.remove app.path else [])
  | none =>
      if disk.writes app.path then
        ({ saveDoneSuccess { app with skipNextMonitorEvent := true } with saveTimeout := false },
          [.wrote app.path (app.editedKeyFile environment disk)])
      else
        ({ app with saveTimeout := false }, [])

/-- The save as the callback of its timer, which does not come again. -/
def saveOnTimeout (environment : Environment) (disk : Disk) (systemDir : Option String)
    (app : App) : App × List Effect :=
  let (app, effects) := app.save environment disk systemDir
  ({ app with timerRunning := false }, effects)

/-- `gsp_app_dispose`. -/
def dispose (environment : Environment) (disk : Disk) (systemDir : Option String) (app : App) :
    App × List Effect :=
  if app.saveTimeout then
    let (app, effects) :=
      { app with saveTimeout := false, timerRunning := false }.save environment disk systemDir
    ({ app with disposed := true }, effects)
  else
    ({ app with disposed := true }, [])

/-- `_gsp_app_queue_save`. -/
def queueSave (environment : Environment) (app : App) : App :=
  let app := if app.xdgPosition ≠ 0 then
      { app with
        xdgPosition := 0
        oldSystemPath := some (app.oldSystemPath.getD app.path)
        path := ⟨environment.userAutostartDir, app.basename⟩ }
    else app
  { app with saveTimeout := true, timerRunning := true }

/-- `gsp_app_set_enabled`. -/
def setEnabled (environment : Environment) (enabled : Bool) (app : App) : App :=
  if enabled = app.enabled then app
  else
    queueSave environment { app with
      enabled := enabled
      saveMask := { app.saveMask with enabled := true } }

/-- `gsp_app_update`. -/
def update (environment : Environment) (name comment exec : Option String) (delay : UInt32)
    (app : App) : App :=
  let changed : SaveMask := {
    name := !strEqual name app.name
    comment := !strEqual comment app.comment
    exec := !strEqual exec app.exec
    delay := delay ≠ app.delay }
  let edited := { app with
    name := if changed.name then name else app.name
    comment := if changed.comment then comment else app.comment
    exec := if changed.exec then exec else app.exec
    delay := delay
    saveMask := { app.saveMask with
      name := app.saveMask.name || changed.name
      comment := app.saveMask.comment || changed.comment
      exec := app.saveMask.exec || changed.exec
      delay := app.saveMask.delay || changed.delay } }
  if changed.name || changed.comment || changed.exec || changed.delay then
    edited.queueSave environment
  else
    app

/-- `gsp_app_delete`; `true` when it emits `removed`. -/
def delete (environment : Environment) (disk : Disk) (app : App) : App × Bool × List Effect :=
  let hide (app : App) : App :=
    { app with hidden := true, saveMask := { app.saveMask with hidden := true } }
  if app.xdgPosition = 0 ∧ app.xdgSystemPosition = gMaxUint then
    (hide { app with saveTimeout := false, timerRunning := false }, true,
      if disk.present app.path then disk.remove app.path else [])
  else
    ((hide app).queueSave environment, false, [])

/-- The end of `gsp_app_copy_desktop_file`: the copy is shown and enabled. -/
def showCopy (environment : Environment) (app : App) : App :=
  let shown := if app.hidden then
      { app with hidden := false, saveMask := { app.saveMask with hidden := true } }
    else app
  let shown := if !app.enabled then
      { shown with enabled := true, saveMask := { shown.saveMask with enabled := true } }
    else shown
  if app.hidden || !app.enabled then shown.queueSave environment else app

/-- The part of `gsp_app_new` that reads the desktop file into the app. -/
def readFrom (environment : Environment) (path : Path) (keyFile : KeyFile) (app : App) : App :=
  let name := keyFile.getLocaleString environment.languages "Name"
  let exec := keyFile.getString "Exec"
  { app with
    path := path
    hidden := keyFile.getBoolean "Hidden" false
    enabled := keyFile.getBoolean KeyFile.keyEnabled true
    nodisplay := keyFile.getBoolean "NoDisplay" false
    name := if textIsBlank name then exec else name
    exec := exec
    comment := keyFile.getLocaleString environment.languages "Comment"
    icon := keyFile.getLocaleString environment.languages "Icon"
    delay := keyFile.getDelay }

/-- The end of `gsp_app_new`, after its assertion. -/
def placeAt (xdgPosition : Nat) (app : App) : App :=
  { app with
    xdgSystemPosition := if xdgPosition > 0 then xdgPosition else app.xdgSystemPosition
    xdgPosition := xdgPosition
    saveTimeout := false
    oldSystemPath := none
    skipNextMonitorEvent := false }

end App

end CafeSession.Capplet

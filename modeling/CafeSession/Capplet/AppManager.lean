import CafeSession.Capplet.App
import CafeSession.Transition.System

/-! # The autostart application manager of the capplet

`GspAppManager` with the apps it lists, as a system whose events are the edits
made in the dialog, the save timers, the file monitors and the disposal of the
apps.  An app is named by its place in `objects`, where it stays after the
manager has dropped it.  Apps are disposed of one by one, once nothing lists
them: after their removal from the list, or at the end. -/

namespace CafeSession.Capplet

open CafeSession.Transition

structure XdgDir where
  dir : String
  index : Nat
deriving DecidableEq

structure AppManager where
  objects : List App := []
  apps : List Nat := []
  dirs : List XdgDir := []
  /-- the manager has been disposed of -/
  closing : Bool := false
  /-- an assertion has failed -/
  aborted : Bool := false
  /-- what was removed and written, newest first -/
  effects : List Effect := []
deriving DecidableEq

/-- `csm_util_get_autostart_dirs`. -/
def Environment.autostartDirs (environment : Environment) : List String :=
  environment.userAutostartDir ::
    (environment.systemDataDirs.map (fun dir => dir ++ "/cafe/autostart") ++
      environment.systemConfigDirs.map (fun dir => dir ++ "/autostart"))

/-- `g_str_has_suffix (name, ".desktop")`. -/
def isDesktopFile (name : String) : Bool :=
  ".desktop".toList.isSuffixOf name.toList

/-- A file name cut at its last slashes; `g_path_get_basename` is its last part. -/
def Path.ofFilename (filename : String) : Path :=
  let backwards := filename.toList.reverse
  { dir := String.ofList ((backwards.dropWhile (fun c => c != '/')).dropWhile
      (fun c => c == '/')).reverse
    basename := String.ofList (backwards.takeWhile (fun c => c != '/')).reverse }

/-- `g_build_filename` with one element more: it loses its leading slashes but
not the trailing ones, and an empty one adds nothing. -/
def buildBelow (dir element : String) : String :=
  let inner := element.toList.dropWhile (fun c => c == '/')
  if inner = [] then dir ++ element else dir ++ "/" ++ String.ofList inner

namespace AppManager

/-- `gsp_app_manager_get_dir`. -/
def getDir (manager : AppManager) (index : Nat) : Option String :=
  (manager.dirs.find? (fun dir => index = dir.index)).map XdgDir.dir

/-- `gsp_app_manager_get_dir_index`. -/
def getDirIndex (manager : AppManager) (dir : String) : Option Nat :=
  (manager.dirs.find? (fun other => dir = other.dir)).map XdgDir.index

def hasBasename (manager : AppManager) (basename : String) (id : Nat) : Bool :=
  match manager.objects[id]? with
  | some app => app.basename = basename
  | none => false

/-- `gsp_app_manager_find_app_with_basename`. -/
def findAppWithBasename (manager : AppManager) (basename : String) : Option Nat :=
  manager.apps.find? (manager.hasBasename basename)

/-- `gsp_app_manager_add`. -/
def add (manager : AppManager) (id : Nat) : AppManager :=
  { manager with apps := id :: manager.apps }

/-- `_gsp_app_manager_app_removed`. -/
def appRemoved (manager : AppManager) (id : Nat) : AppManager :=
  { manager with apps := manager.apps.erase id }

def modifyApp (manager : AppManager) (id : Nat) (change : App → App) : AppManager :=
  { manager with objects := manager.objects.modify id change }

/-- Store an app and record what was done to the disk for it. -/
def finish (manager : AppManager) (id : Nat) (result : App × List Effect) : AppManager :=
  { manager with
    objects := manager.objects.set id result.1
    effects := result.2 ++ manager.effects }

def systemDir (manager : AppManager) (app : App) : Option String :=
  manager.getDir app.xdgSystemPosition

section New

variable (environment : Environment) (disk : Disk)

/-- `gsp_app_new` once the desktop file is known to be wanted: read it into the
app found, or into a new object. -/
def loadApp (manager : AppManager) (path : Path) (xdgPosition : Nat) (found : Option (Nat × App)) :
    AppManager × Option Nat :=
  match disk.load path with
  | none => (manager, none)
  | some keyFile =>
      if !keyFile.canLaunch then (manager, none)
      else match found with
        | none =>
            let app : App := { basename := path.basename, path := path }
            let app := (app.readFrom environment path keyFile).placeAt xdgPosition
            ({ manager with objects := manager.objects ++ [app] }, some manager.objects.length)
        | some (id, app) =>
            if 0 < xdgPosition ∧ app.xdgSystemPosition < xdgPosition then
              ({ manager with aborted := true }, none)
            else
              let app := (app.readFrom environment path keyFile).placeAt xdgPosition
              ({ manager with objects := manager.objects.set id app }, some id)

/-- `gsp_app_new`. -/
def appNew (manager : AppManager) (path : Path) (xdgPosition : Nat) : AppManager × Option Nat :=
  match (manager.findAppWithBasename path.basename).bind
      (fun id => (manager.objects[id]?).map (fun app => (id, app))) with
  | none => manager.loadApp environment disk path xdgPosition none
  | some (id, app) =>
      if app.xdgPosition = xdgPosition ∧ app.skipNextMonitorEvent then
        (manager.modifyApp id (fun app => { app with skipNextMonitorEvent := false }), none)
      else if app.xdgPosition < xdgPosition ∨ app.saveTimeout then
        (manager.modifyApp id (fun app =>
          { app with xdgSystemPosition := min xdgPosition app.xdgSystemPosition }), none)
      else
        manager.loadApp environment disk path xdgPosition (some (id, app))

/-- `gsp_app_reload_at`. -/
def reloadAt (manager : AppManager) (id : Nat) (path : Path) (xdgPosition : Nat) : AppManager :=
  ((manager.modifyApp id (fun app => { app with xdgPosition := gMaxUint })).appNew environment disk
    path xdgPosition).1

/-- `_gsp_app_manager_fill_from_dir`, file by file. -/
def fillFromDir (index : Nat) (dir : String) : List String → AppManager → AppManager
  | [], manager => manager
  | name :: names, manager =>
      if isDesktopFile name then
        match manager.appNew environment disk ⟨dir, name⟩ index with
        | (manager, some id) => fillFromDir index dir names (manager.add id)
        | (manager, none) => fillFromDir index dir names manager
      else
        fillFromDir index dir names manager

/-- The loop of `gsp_app_manager_fill`; a directory listed twice keeps its first index. -/
def fillDirs : List (String × Nat) → AppManager → AppManager
  | [], manager => manager
  | (dir, index) :: dirs, manager =>
      if (manager.getDirIndex dir).isSome then
        fillDirs dirs manager
      else
        fillDirs dirs (fillFromDir environment disk index dir (disk.listing dir)
          { manager with dirs := ⟨dir, index⟩ :: manager.dirs })

/-- `gsp_app_manager_fill`. -/
def fill (manager : AppManager) : AppManager :=
  if manager.apps ≠ [] then manager
  else fillDirs environment disk environment.autostartDirs.zipIdx manager

/-- `_gsp_app_manager_find_dir_with_basename`; `none` is the result -1. -/
def findDirWithBasename (manager : AppManager) (basename : String) (minimumIndex : Nat) :
    Option Nat :=
  let readable := manager.dirs.filter (fun dir =>
    decide (minimumIndex < dir.index) && disk.present ⟨dir.dir, basename⟩ &&
      (disk.load ⟨dir.dir, basename⟩).isSome)
  (readable.map XdgDir.index).min?

/-- `_gsp_app_manager_handle_delete`. -/
def handleDelete (manager : AppManager) (id : Nat) (app : App) (basename : String) (index : Nat) :
    AppManager :=
  let position := app.xdgPosition
  let systemPosition := app.xdgSystemPosition
  if systemPosition < index then
    manager
  else if index < position then
    if index = 0 then manager else { manager with aborted := true }
  else if position = index ∧ (systemPosition = index ∨ systemPosition = gMaxUint) then
    manager.appRemoved id
  else if systemPosition = index then
    manager.modifyApp id (fun app => { app with
      xdgSystemPosition := (manager.findDirWithBasename disk basename index).getD gMaxUint })
  else if position = index then
    match manager.getDir systemPosition with
    | some dir => manager.reloadAt environment disk id ⟨dir, basename⟩ systemPosition
    | none => manager.appRemoved id
  else
    { manager with aborted := true }

/-- `gsp_app_manager_xdg_dir_monitor`, for a file that was changed or created. -/
def monitorChanged (manager : AppManager) (path : Path) : AppManager :=
  if isDesktopFile path.basename then
    let old := manager.findAppWithBasename path.basename
    match manager.getDirIndex path.dir with
    | none => manager
    | some index =>
        match old, manager.appNew environment disk path index with
        | none, (manager, some id) => manager.add id
        | _, (manager, _) => manager
  else
    manager

/-- The same for a file that was deleted. -/
def monitorDeleted (manager : AppManager) (path : Path) : AppManager :=
  if isDesktopFile path.basename then
    match manager.getDirIndex path.dir, manager.findAppWithBasename path.basename with
    | some index, some id =>
        match manager.objects[id]? with
        | some app => manager.handleDelete environment disk id app path.basename index
        | none => manager
    | _, _ => manager
  else
    manager

/-- The tries of `_gsp_find_free_basename`: the plain name, then `-1`, `-2` and
so on; the last of them is given up unseen. -/
def findFree (manager : AppManager) (base suffix : String) : Nat → Nat → Option String
  | 0, _ => none
  | fuel + 1, tried =>
      let file := Path.ofFilename (base ++ suffix ++ ".desktop")
      if (manager.findAppWithBasename file.basename).isSome ∧ disk.present file then
        findFree manager base ("-" ++ toString tried) fuel (tried + 1)
      else
        some file.basename

/-- `base_path`.  The suggestion may be a path: the files that are looked for
are then below the autostart directory. -/
def basePath (suggested : String) : String :=
  buildBelow environment.userAutostartDir
    (if isDesktopFile suggested then
      String.ofList (suggested.toList.take (suggested.length - ".desktop".length))
    else suggested)

/-- `_gsp_find_free_basename`. -/
def findFreeBasename (manager : AppManager) (suggested : String) : Option String :=
  manager.findFree disk (basePath environment suggested) "" 9999 1

/-- `gsp_app_create`, with the first word of the parsed command line. -/
def createApp (manager : AppManager) (name comment : Option String) (exec : String) (delay : UInt32)
    (argv0 : Option String) : AppManager :=
  if textIsBlank (some exec) then manager
  else match argv0.bind (manager.findFreeBasename environment disk) with
    | none => manager
    | some basename =>
        let app : App := {
          basename := basename
          path := ⟨environment.userAutostartDir, basename⟩
          enabled := true
          name := if textIsBlank name then some exec else name
          exec := some exec
          comment := comment
          delay := delay
          xdgPosition := 0
          saveMask := SaveMask.all }
        { manager with objects := manager.objects ++ [app.queueSave environment] }.add
          manager.objects.length

/-- `gsp_app_copy_desktop_file`; `copied` is the answer of `g_file_copy`. -/
def copyDesktopFile (manager : AppManager) (sourceBasename : String) (copied : Bool) : AppManager :=
  match manager.findFreeBasename environment disk sourceBasename with
  | none => manager
  | some basename =>
      let path : Path := ⟨environment.userAutostartDir, basename⟩
      if !copied then manager
      else
        match ({ manager with effects := .copied path :: manager.effects }).appNew environment
            disk path 0 with
        | (manager, none) => { manager with effects := disk.remove path ++ manager.effects }
        | (manager, some id) => (manager.modifyApp id (App.showCopy environment)).add id

end New

end AppManager

inductive Event where
  | fill (disk : Disk)
  | update (id : Nat) (name comment exec : Option String) (delay : UInt32)
  | setEnabled (id : Nat) (enabled : Bool)
  | delete (id : Nat) (disk : Disk)
  | saveTimeout (id : Nat) (disk : Disk)
  | create (name comment : Option String) (exec : String) (delay : UInt32)
      (argv0 : Option String) (disk : Disk)
  | copyDesktopFile (sourceBasename : String) (copied : Bool) (disk : Disk)
  | changed (path : Path) (disk : Disk)
  | deleted (path : Path) (disk : Disk)
  | managerDisposed
  | disposed (id : Nat) (disk : Disk)

namespace AppManager

/-- An app that an event is about: it has not been disposed of. -/
def live (manager : AppManager) (id : Nat) : Option App :=
  (manager.objects[id]?).filter (fun app => !app.disposed)

def step (environment : Environment) (manager : AppManager) (event : Event) : Option AppManager :=
  if manager.aborted then none
  else match event with
  | .disposed id disk =>
      if id ∈ manager.apps then none
      else (manager.live id).map (fun app =>
        manager.finish id (app.dispose environment disk (manager.systemDir app)))
  | .saveTimeout id disk =>
      (manager.live id).bind (fun app =>
        if app.timerRunning then
          some (manager.finish id (app.saveOnTimeout environment disk (manager.systemDir app)))
        else none)
  | .managerDisposed => some { manager with apps := [], closing := true }
  | .fill disk => if manager.closing then none else some (manager.fill environment disk)
  | .update id name comment exec delay =>
      if manager.closing then none
      else (manager.live id).map (fun app =>
        manager.finish id (app.update environment name comment exec delay, []))
  | .setEnabled id enabled =>
      if manager.closing then none
      else (manager.live id).map (fun app =>
        manager.finish id (app.setEnabled environment enabled, []))
  | .delete id disk =>
      if manager.closing then none
      else (manager.live id).map (fun app =>
        let (app, removed, effects) := app.delete environment disk
        let manager := manager.finish id (app, effects)
        if removed then manager.appRemoved id else manager)
  | .create name comment exec delay argv0 disk =>
      if manager.closing then none
      else some (manager.createApp environment disk name comment exec delay argv0)
  | .copyDesktopFile sourceBasename copied disk =>
      if manager.closing then none
      else some (manager.copyDesktopFile environment disk sourceBasename copied)
  | .changed path disk =>
      if manager.closing then none else some (manager.monitorChanged environment disk path)
  | .deleted path disk =>
      if manager.closing then none else some (manager.monitorDeleted environment disk path)

end AppManager

def appManagerSystem (environment : Environment) : System AppManager Event where
  initial manager := manager = {}
  step := AppManager.step environment

end CafeSession.Capplet

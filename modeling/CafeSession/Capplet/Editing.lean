import CafeSession.Capplet.Agreement
import CafeSession.Capplet.Basenames
import CafeSession.Capplet.Fields

/-! # An app that is edited and saved

One app of the capplet, with the files that its saves read and change.  Beside
it stand the file that was in force when the app was loaded, and the fields
that have been edited since. -/

namespace CafeSession.Capplet

open CafeSession.Overlay CafeSession.Transition

variable {environment : Environment}

abbrev Files := Path → Option (Option KeyFile)

/-- What was done to the disk; no edit copies a file. -/
def Effect.apply (files : Files) : Effect → Files
  | .removed path => Function.update files path none
  | .wrote path keyFile => Function.update files path (some (some keyFile))
  | .copied _ => files

/-- The answers of the disk while writing and removing go well or not. -/
def Files.toDisk (files : Files) (writes removes : Bool) : Disk where
  load path := (files path).join
  present path := (files path).isSome
  writes _ := writes
  removes _ := removes
  listing _ := []

/-- The desktop file of a basename in the first directory that has it. -/
def Files.inForce (environment : Environment) (files : Files) (basename : String) :
    Option KeyFile :=
  (environment.firstFile (fun path => (files path).isSome) basename).bind
    (fun path => (files path).join)

structure Editing where
  files : Files
  app : App
  /-- the app has been removed or disposed of -/
  closed : Bool
  /-- the last event was a save that went well -/
  saved : Bool
  original : KeyFile
  edited : SaveMask

inductive Edit where
  | update (name comment exec : Option String) (delay : UInt32)
  | setEnabled (enabled : Bool)
  | delete (removes : Bool)
  /-- `_gsp_app_save` from its timer -/
  | save (writes removes : Bool)
  /-- `gsp_app_dispose`, which saves what is queued -/
  | dispose (writes removes : Bool)
deriving DecidableEq

def SaveMask.or (one other : SaveMask) : SaveMask where
  hidden := one.hidden || other.hidden
  enabled := one.enabled || other.enabled
  name := one.name || other.name
  exec := one.exec || other.exec
  comment := one.comment || other.comment
  delay := one.delay || other.delay

@[simp] theorem SaveMask.has_or (one other : SaveMask) (field : Field) :
    (one.or other).has field = (one.has field || other.has field) := by
  cases field <;> rfl

@[simp] theorem SaveMask.has_empty (field : Field) : ({} : SaveMask).has field = false := by
  cases field <;> rfl

/-- The fields to which an edit gives a value of its own. -/
def Edit.fields (app : App) : Edit → SaveMask
  | .update name comment exec delay => {
      name := !strEqual name app.name
      comment := !strEqual comment app.comment
      exec := !strEqual exec app.exec
      delay := delay ≠ app.delay }
  | .setEnabled enabled => { enabled := enabled ≠ app.enabled }
  | .delete _ => { hidden := true }
  | .save _ _ | .dispose _ _ => {}

namespace Editing

variable (environment)

/-- The path of a system file that has all the fields of the app. -/
def equalSystem (state : Editing) : Option Path :=
  state.app.userEqualSystem environment (state.files.toDisk false false)
    (environment.dirOf state.app.xdgSystemPosition)

/-- A save goes well if it removes the file of the user, or writes it. -/
def succeeds (state : Editing) (writes removes : Bool) : Bool :=
  match state.equalSystem environment with
  | some _ => (state.files state.app.path).isNone || removes
  | none => writes

/-- The state after an operation on the app and the disk. -/
def finish (state : Editing) (edit : Edit) (result : App × List Effect) : Editing :=
  { state with
    app := result.1
    files := result.2.foldl Effect.apply state.files
    saved := false
    edited := state.edited.or (edit.fields state.app) }

def step (state : Editing) (edit : Edit) : Option Editing :=
  let app := state.app
  let systemDir := environment.dirOf app.xdgSystemPosition
  if state.closed then none
  else match edit with
  | .update name comment exec delay =>
      some (state.finish edit (app.update environment name comment exec delay, []))
  | .setEnabled enabled => some (state.finish edit (app.setEnabled environment enabled, []))
  | .delete removes =>
      let (app, removed, effects) := app.delete environment (state.files.toDisk false removes)
      some { state.finish edit (app, effects) with closed := removed }
  | .save writes removes =>
      if app.timerRunning then
        some { state.finish edit
            (app.saveOnTimeout environment (state.files.toDisk writes removes) systemDir) with
          saved := state.succeeds environment writes removes }
      else none
  | .dispose writes removes =>
      some { state.finish edit
          (app.dispose environment (state.files.toDisk writes removes) systemDir) with
        closed := true
        saved := app.saveTimeout && state.succeeds environment writes removes }

end Editing

/-- At the start the app has been loaded from the autostart directories.  An
original that cannot be parsed has no keys. -/
def editingSystem (environment : Environment) : System Editing Edit where
  initial state :=
    environment.autostartDirs.length ≤ gMaxUint ∧
      (∃ contents : Contents, state.files = contents.files ∧
        (({} : AppManager).fill environment contents.toDisk).view state.app.basename =
          some state.app) ∧
      state.closed = false ∧ state.saved = false ∧ state.edited = {} ∧
      state.original = (state.files.inForce environment state.app.basename).getD KeyFile.empty
  step := Editing.step environment

namespace Editing

/-- After a save that went well, the file in force has the edited fields as the
app has them, and every other key as it was. -/
def SavedRight (environment : Environment) (state : Editing) : Prop :=
  state.saved = true → ∃ keyFile,
    state.files.inForce environment state.app.basename = some keyFile ∧
      OnlyEdited environment.languages state.edited {} state.original state.app keyFile

/-- A save that finds a system file with the fields of the app finds the other
keys there as they were. -/
def SystemAgrees (environment : Environment) (state : Editing) : Prop :=
  ∀ path keyFile, state.equalSystem environment = some path →
    state.files path = some (some keyFile) →
      ∀ key, (∀ field, state.edited.has field = true → key ∉ field.keys environment.languages) →
        keyFile.getString key = state.original.getString key

/-- A save that finds none writes no text that an old translation hides. -/
def TextsUnhidden (environment : Environment) (state : Editing) : Prop :=
  state.equalSystem environment = none → ∀ field, state.app.saveMask.has field = true →
    field.Unhidden environment.languages state.original state.app

def SavesRight (environment : Environment) (writes : Bool) (state : Editing) : Prop :=
  state.SystemAgrees environment ∧ (writes = true → state.TextsUnhidden environment)

/-- The condition on a step.  No save comes from a timer that has already fired. -/
def Unshadowed (environment : Environment) (state : Editing) : Edit → Prop
  | .save writes _ => state.SavesRight environment writes
  | .dispose writes _ => state.app.saveTimeout = true →
      state.app.timerRunning = true ∧ state.SavesRight environment writes
  | _ => True

/-- The next save starts from a file that has only what was edited before. -/
structure Editable (environment : Environment) (state : Editing) : Prop where
  desktop : isDesktopFile state.app.basename = true
  under : 0 < state.app.xdgSystemPosition
  first : ∀ index dir, 0 < index → index < state.app.xdgSystemPosition →
    environment.dirOf index = some dir → state.files ⟨dir, state.app.basename⟩ = none
  placed : state.app.xdgPosition = 0 ∧
      state.app.path = ⟨environment.userAutostartDir, state.app.basename⟩ ∨
    state.app.xdgPosition ≠ 0 ∧ state.app.oldSystemPath = none ∧ state.app.timerRunning = false
  within : ∀ field, state.app.saveMask.has field = true → state.edited.has field = true
  basis : ∃ keyFile,
    state.files (state.app.oldSystemPath.getD state.app.path) = some (some keyFile) ∧
      OnlyEdited environment.languages state.edited state.app.saveMask state.original state.app
        keyFile

end Editing

theorem dirOf_user : environment.dirOf 0 = some environment.userAutostartDir := by
  simp [Environment.dirOf, Environment.autostartDirs, Option.filter_some]

theorem update_user {files : Files} {file : Option (Option KeyFile)} {index : Nat} {dir : String}
    {basename : String} (under : 0 < index) (placed : environment.dirOf index = some dir) :
    Function.update files ⟨environment.userAutostartDir, basename⟩ file ⟨dir, basename⟩ =
      files ⟨dir, basename⟩ := by
  apply Function.update_of_ne
  intro same
  have user : dir = environment.userAutostartDir := congrArg Path.dir same
  rw [user] at placed
  have := Environment.dirOf_injective placed dirOf_user
  omega

theorem inForce_user {files : Files} {basename : String} {keyFile : KeyFile}
    (desktop : isDesktopFile basename = true)
    (there : files ⟨environment.userAutostartDir, basename⟩ = some (some keyFile)) :
    files.inForce environment basename = some keyFile := by
  have first : environment.firstFile (fun path => (files path).isSome) basename =
      some ⟨environment.userAutostartDir, basename⟩ := by
    rw [Environment.firstFile, if_pos desktop, Environment.autostartDirs, List.find?_cons]
    simp [there]
  rw [Files.inForce, first, Option.bind_some, there]
  rfl

/-- Without it the file at the system position is. -/
theorem inForce_system {files : Files} {basename dir : String} {index : Nat} {keyFile : KeyFile}
    (desktop : isDesktopFile basename = true) (placed : environment.dirOf index = some dir)
    (there : files ⟨dir, basename⟩ = some (some keyFile))
    (before : ∀ other < index, ∀ dir', environment.dirOf other = some dir' →
      files ⟨dir', basename⟩ = none) :
    files.inForce environment basename = some keyFile := by
  have first : environment.firstFile (fun path => (files path).isSome) basename =
      some ⟨dir, basename⟩ := by
    have found := @find_of_dirOf environment (fun dir => (files ⟨dir, basename⟩).isSome) index dir
      placed (by simp [there])
      (fun other earlier dir' placed' => by simp [before other earlier dir' placed'])
    rw [Environment.firstFile, if_pos desktop, found]
    rfl
  rw [Files.inForce, first, Option.bind_some, there]
  rfl

namespace App

variable {app : App} {disk : Disk} {systemDir : Option String}

theorem userEqualSystem_some {path : Path}
    (equal : app.userEqualSystem environment disk systemDir = some path) :
    ∃ dir keyFile, systemDir = some dir ∧ path = ⟨dir, app.basename⟩ ∧
      disk.load path = some keyFile ∧
        ∀ field : Field, field.Reads environment.languages app keyFile := by
  obtain ⟨dir, known, equal⟩ := Option.bind_eq_some_iff.mp equal
  dsimp only at equal
  cases loaded : disk.load ⟨dir, app.basename⟩ with
  | none => simp [loaded] at equal
  | some keyFile =>
      simp only [loaded, Option.ite_none_right_eq_some, Option.some.injEq] at equal
      obtain ⟨⟨hidden, enabled, name, comment, exec, _, delay⟩, rfl⟩ := equal
      refine ⟨dir, keyFile, known, rfl, loaded, fun field => ?_⟩
      cases field
      · exact hidden
      · exact enabled
      · exact name
      · exact comment
      · exact exec
      · exact delay

/-- The app after a save that finds an equal system file. -/
def reverted (path : Path) (app : App) : App :=
  saveDoneSuccess { app with
    path := path
    xdgPosition := app.xdgSystemPosition }

/-- The app after a save that writes. -/
def written (app : App) : App :=
  { saveDoneSuccess { app with skipNextMonitorEvent := true } with saveTimeout := false }

theorem save_reverted {path : Path}
    (equal : app.userEqualSystem environment disk systemDir = some path) :
    app.save environment disk systemDir =
      (app.reverted path, if disk.present app.path then disk.remove app.path else []) := by
  simp [save, equal, reverted]

theorem save_written (unequal : app.userEqualSystem environment disk systemDir = none)
    (writes : disk.writes app.path = true) : app.save environment disk systemDir =
      (app.written, [.wrote app.path (app.editedKeyFile environment disk)]) := by
  simp [save, unequal, writes, written]

theorem save_failed (unequal : app.userEqualSystem environment disk systemDir = none)
    (fails : disk.writes app.path = false) :
    app.save environment disk systemDir = ({ app with saveTimeout := false }, []) := by
  simp [save, unequal, fails]

end App

namespace Editing

variable {state : Editing}

/-- The app is in the user's directory, where its save writes. -/
def AtHome (environment : Environment) (state : Editing) : Prop :=
  state.app.xdgPosition = 0 ∧
    state.app.path = ⟨environment.userAutostartDir, state.app.basename⟩

theorem Editable.atHome (editable : state.Editable environment)
    (running : state.app.timerRunning = true) : state.AtHome environment := by
  rcases editable.placed with home | ⟨_, _, idle⟩
  · exact home
  · simp [running] at idle

theorem equalSystem_some {path : Path} (equal : state.equalSystem environment = some path) :
    ∃ dir keyFile, environment.dirOf state.app.xdgSystemPosition = some dir ∧
      path = ⟨dir, state.app.basename⟩ ∧ state.files path = some (some keyFile) ∧
        ∀ field : Field, field.Reads environment.languages state.app keyFile := by
  obtain ⟨dir, keyFile, placed, here, loaded, reads⟩ := App.userEqualSystem_some equal
  exact ⟨dir, keyFile, placed, here, Option.join_eq_some_iff.mp loaded, reads⟩

theorem SystemAgrees.of_unequal {state : Editing} (unequal : state.equalSystem environment = none) :
    state.SystemAgrees environment := by
  intro path keyFile equal
  simp [unequal] at equal

theorem AtHome.system_kept (home : state.AtHome environment) {files : Files}
    (removed : files = state.files ∨ files = Function.update state.files state.app.path none)
    {index : Nat} {dir : String} (under : 0 < index) (placed : environment.dirOf index = some dir) :
    files ⟨dir, state.app.basename⟩ = state.files ⟨dir, state.app.basename⟩ := by
  rcases removed with rfl | rfl
  · rfl
  · rw [home.2]
    exact update_user under placed

/-- A save that finds an equal system file leaves that as the one to start from. -/
theorem Editable.reverted (editable : state.Editable environment)
    (home : state.AtHome environment) (agrees : state.SystemAgrees environment)
    {path : Path} (equal : state.equalSystem environment = some path)
    {files : Files} (removed : files = state.files ∨
      files = Function.update state.files state.app.path none) (well : Bool) :
    ({ state with
        files := files
        app := { state.app.reverted path with timerRunning := false }
        saved := well } : Editing).Editable environment := by
  obtain ⟨dir, keyFile, placed, rfl, there, reads⟩ := equalSystem_some equal
  refine ⟨editable.desktop, editable.under, ?_, .inr ⟨editable.under.ne', rfl, rfl⟩, ?_, keyFile,
    (home.system_kept removed editable.under placed).trans there, agrees _ keyFile equal there,
    fun field _ _ => reads field⟩
  · intro index dir' under before placed'
    exact (home.system_kept removed under placed').trans
      (editable.first index dir' under before placed')
  · intro field pending
    exact absurd pending (by simp [App.reverted, App.saveDoneSuccess])

theorem Editable.inForce_reverted (editable : state.Editable environment)
    (home : state.AtHome environment) {path : Path} {keyFile : KeyFile}
    (equal : state.equalSystem environment = some path)
    (there : state.files path = some (some keyFile)) {files : Files}
    (removed : files = state.files ∨ files = Function.update state.files state.app.path none)
    (gone : files state.app.path = none) :
    files.inForce environment state.app.basename = some keyFile := by
  obtain ⟨dir, _, placed, rfl, _⟩ := equalSystem_some equal
  have kept := (home.system_kept removed editable.under placed).trans there
  refine inForce_system editable.desktop placed kept (fun other before dir' placed' => ?_)
  rcases Nat.eq_zero_or_pos other with rfl | under
  · obtain rfl := Option.some.inj (dirOf_user.symm.trans placed')
    rwa [home.2] at gone
  · exact (home.system_kept removed under placed').trans
      (editable.first other dir' under before placed')

/-- What a save writes has the edits, where nothing hides them. -/
theorem Editable.editedKeyFile_iff (editable : state.Editable environment)
    (writes removes : Bool) :
    OnlyEdited environment.languages state.edited {} state.original state.app
        (state.app.editedKeyFile environment (state.files.toDisk writes removes)) ↔
      ∀ field, state.app.saveMask.has field = true →
        field.Unhidden environment.languages state.original state.app := by
  obtain ⟨before, there, basis⟩ := editable.basis
  have start : ((state.files.toDisk writes removes).load
      (state.app.oldSystemPath.getD state.app.path)).getD KeyFile.populate = before := by
    simp [Files.toDisk, there]
  rw [App.editedKeyFile_eq, start]
  exact basis.write_iff editable.within

/-- A save that writes leaves the file of the user as the one to start from. -/
theorem Editable.written (editable : state.Editable environment)
    (home : state.AtHome environment) {keyFile : KeyFile}
    (only : OnlyEdited environment.languages state.edited {} state.original state.app keyFile)
    (well : Bool) :
    ({ state with
        files := Function.update state.files state.app.path (some (some keyFile))
        app := { state.app.written with timerRunning := false }
        saved := well } : Editing).Editable environment := by
  obtain ⟨zero, home⟩ := home
  have here : Function.update state.files state.app.path (some (some keyFile)) state.app.path =
    some (some keyFile) := Function.update_self ..
  refine ⟨editable.desktop, editable.under, ?_, .inl ⟨zero, home⟩, ?_, keyFile, here, only.others,
    fun field isEdited pending => only.values field isEdited (by simp)⟩
  · intro index dir under earlier placed
    rw [home]
    exact (update_user under placed).trans (editable.first index dir under earlier placed)
  · intro field pending
    exact absurd pending (by simp [App.written, App.saveDoneSuccess])

theorem Editable.failed (editable : state.Editable environment)
    (home : state.AtHome environment) (well : Bool) :
    ({ state with
        app := { state.app with saveTimeout := false, timerRunning := false }
        saved := well } : Editing).Editable environment := by
  obtain ⟨keyFile, there, basis⟩ := editable.basis
  exact ⟨editable.desktop, editable.under, editable.first, .inl home,
    editable.within, keyFile, there, basis.others, basis.values⟩

/-- The state after a save, from the timer. -/
def afterSave (environment : Environment) (state : Editing) (writes removes : Bool) : Editing :=
  let result := state.app.save environment (state.files.toDisk writes removes)
    (environment.dirOf state.app.xdgSystemPosition)
  { state with
    files := result.2.foldl Effect.apply state.files
    app := { result.1 with timerRunning := false }
    saved := state.succeeds environment writes removes }

theorem afterSave_reverted {path : Path} (equal : state.equalSystem environment = some path)
    (writes removes : Bool) : ∃ files : Files,
      state.afterSave environment writes removes = { state with
        files := files
        app := { state.app.reverted path with timerRunning := false }
        saved := state.succeeds environment writes removes } ∧
      (files = state.files ∨ files = Function.update state.files state.app.path none) ∧
      (state.succeeds environment writes removes = true → files state.app.path = none) := by
  have isEqual : state.app.userEqualSystem environment (state.files.toDisk writes removes)
    (environment.dirOf state.app.xdgSystemPosition) = some path := equal
  have result (effects : List Effect)
      (done : (if (state.files.toDisk writes removes).present state.app.path then
        (state.files.toDisk writes removes).remove state.app.path else []) = effects) :
      state.afterSave environment writes removes = { state with
        files := effects.foldl Effect.apply state.files
        app := { state.app.reverted path with timerRunning := false }
        saved := state.succeeds environment writes removes } := by
    simp only [afterSave, App.save_reverted isEqual, done]
  cases there : state.files state.app.path with
  | none =>
      refine ⟨_, result [] (by simp [Files.toDisk, there]), .inl rfl, fun _ => there⟩
  | some file =>
      cases removes with
      | true =>
          refine ⟨_, result [.removed state.app.path] ?_, .inr rfl, fun _ => ?_⟩
          · simp [Files.toDisk, there, Disk.remove]
          · exact Function.update_self ..
      | false =>
          refine ⟨_, result [] ?_, .inl rfl, fun well => ?_⟩
          · simp [Files.toDisk, Disk.remove]
          · simp [succeeds, equal, there] at well

theorem afterSave_written (unequal : state.equalSystem environment = none) (removes : Bool) :
    state.afterSave environment true removes = { state with
      files := Function.update state.files state.app.path (some (some
        (state.app.editedKeyFile environment (state.files.toDisk true removes))))
      app := { state.app.written with timerRunning := false }
      saved := true } := by
  have isNone : state.app.userEqualSystem environment (state.files.toDisk true removes)
    (environment.dirOf state.app.xdgSystemPosition) = none := unequal
  simp only [afterSave, App.save_written isNone rfl, succeeds, unequal, List.foldl_cons,
    List.foldl_nil, Effect.apply]

theorem afterSave_failed (unequal : state.equalSystem environment = none) (removes : Bool) :
    state.afterSave environment false removes = { state with
      app := { state.app with saveTimeout := false, timerRunning := false }
      saved := false } := by
  have isNone : state.app.userEqualSystem environment (state.files.toDisk false removes)
    (environment.dirOf state.app.xdgSystemPosition) = none := unequal
  simp only [afterSave, App.save_failed isNone rfl, succeeds, unequal, List.foldl_nil]

/-- A save that goes well is right just when it finds the other keys as they
were, and writes no text that is hidden. -/
theorem Editable.savedRight_iff (editable : state.Editable environment)
    (home : state.AtHome environment) {writes removes : Bool}
    (well : state.succeeds environment writes removes = true) :
    (state.afterSave environment writes removes).SavedRight environment ↔
      state.SystemAgrees environment ∧ state.TextsUnhidden environment := by
  cases equal : state.equalSystem environment with
  | some path =>
      obtain ⟨files, result, removed, gone⟩ := afterSave_reverted equal writes removes
      obtain ⟨_, keyFile, _, _, there, reads⟩ := equalSystem_some equal
      have inForce := editable.inForce_reverted home equal there removed (gone well)
      rw [result]
      constructor
      · intro right
        obtain ⟨found, here, only⟩ := right well
        obtain rfl : keyFile = found := Option.some.inj (inForce.symm.trans here)
        refine ⟨fun other otherFile same there' => ?_, fun unequal => ?_⟩
        · obtain rfl := Option.some.inj (equal.symm.trans same)
          obtain rfl : keyFile = otherFile := by simpa using there.symm.trans there'
          exact only.others
        · simp [equal] at unequal
      · intro ⟨agrees, _⟩ _
        exact ⟨keyFile, inForce, agrees path keyFile equal there, fun field _ _ => reads field⟩
  | none =>
      obtain rfl : writes = true := by simpa [succeeds, equal] using well
      have inForce (keyFile : KeyFile) : Files.inForce environment
          (Function.update state.files state.app.path (some (some keyFile))) state.app.basename =
            some keyFile := by
        rw [home.2]
        exact inForce_user editable.desktop (Function.update_self ..)
      have written := editable.editedKeyFile_iff true removes
      rw [afterSave_written equal]
      constructor
      · intro right
        obtain ⟨found, here, only⟩ := right rfl
        obtain rfl := Option.some.inj ((inForce _).symm.trans here)
        exact ⟨.of_unequal equal, fun _ => written.mp ⟨only.others, only.values⟩⟩
      · intro ⟨_, unhidden⟩ _
        have only := written.mpr (unhidden equal)
        exact ⟨_, inForce _, only.others, only.values⟩

/-- The step lemma for a save. -/
theorem Editable.afterSave (editable : state.Editable environment)
    (home : state.AtHome environment) {writes : Bool} (right : state.SavesRight environment writes)
    (removes : Bool) :
    (state.afterSave environment writes removes).Editable environment ∧
      (state.afterSave environment writes removes).SavedRight environment := by
  obtain ⟨agrees, unhidden⟩ := right
  constructor
  · cases equal : state.equalSystem environment with
    | some path =>
        obtain ⟨files, result, removed, _⟩ := afterSave_reverted equal writes removes
        rw [result]
        exact editable.reverted home agrees equal removed _
    | none =>
        cases writes with
        | true =>
            rw [afterSave_written equal]
            exact editable.written home
              ((editable.editedKeyFile_iff true removes).mpr (unhidden rfl equal)) true
        | false =>
            rw [afterSave_failed equal]
            exact editable.failed home false
  · intro well
    have texts : state.TextsUnhidden environment := fun unequal =>
      unhidden (by simpa [Editing.afterSave, succeeds, unequal] using well) unequal
    exact (editable.savedRight_iff home well).mpr ⟨agrees, texts⟩ well

/-- An app with new values for some of its fields. -/
structure Edits (languages : List String) (fields : SaveMask) (app edited : App) : Prop where
  basename : edited.basename = app.basename
  path : edited.path = app.path
  xdgPosition : edited.xdgPosition = app.xdgPosition
  xdgSystemPosition : edited.xdgSystemPosition = app.xdgSystemPosition
  oldSystemPath : edited.oldSystemPath = app.oldSystemPath
  mask : ∀ field, edited.saveMask.has field = (app.saveMask.has field || fields.has field)
  values : ∀ (field : Field) keyFile, fields.has field = false →
    (field.Reads languages edited keyFile ↔ field.Reads languages app keyFile)

section Queue

variable (environment) (app : App)

@[simp] theorem queueSave_xdgSystemPosition :
    (app.queueSave environment).xdgSystemPosition = app.xdgSystemPosition := by
  rw [App.queueSave]
  split_ifs <;> rfl

@[simp] theorem queueSave_saveMask : (app.queueSave environment).saveMask = app.saveMask := by
  rw [App.queueSave]
  split_ifs <;> rfl

theorem queueSave_reads (languages : List String) (field : Field) (keyFile : KeyFile) :
    field.Reads languages (app.queueSave environment) keyFile ↔
      field.Reads languages app keyFile := by
  rw [App.queueSave]
  split_ifs <;> exact Iff.rfl

end Queue

theorem queueSave_start {app : App}
    (placed : app.xdgPosition = 0 ∧ app.path = ⟨environment.userAutostartDir, app.basename⟩ ∨
      app.xdgPosition ≠ 0 ∧ app.oldSystemPath = none) :
    (app.queueSave environment).xdgPosition = 0 ∧
      (app.queueSave environment).path = ⟨environment.userAutostartDir, app.basename⟩ ∧
      (app.queueSave environment).oldSystemPath.getD (app.queueSave environment).path =
        app.oldSystemPath.getD app.path := by
  rcases placed with ⟨zero, home⟩ | ⟨away, _⟩
  · simp [App.queueSave, zero, home]
  · simp [App.queueSave, away]

/-- The step lemma for an edit that queues a save. -/
theorem Editable.queued (editable : state.Editable environment) {fields : SaveMask} {edited : App}
    (edits : Edits environment.languages fields state.app edited) :
    ({ state with
        app := edited.queueSave environment
        saved := false
        edited := state.edited.or fields } : Editing).Editable environment := by
  obtain ⟨keyFile, there, basis⟩ := editable.basis
  have placed : edited.xdgPosition = 0 ∧
        edited.path = ⟨environment.userAutostartDir, edited.basename⟩ ∨
      edited.xdgPosition ≠ 0 ∧ edited.oldSystemPath = none := by
    rw [edits.xdgPosition, edits.path, edits.basename, edits.oldSystemPath]
    rcases editable.placed with home | ⟨away, fresh, _⟩
    · exact .inl home
    · exact .inr ⟨away, fresh⟩
  obtain ⟨zero, home, start⟩ := queueSave_start placed
  rw [edits.oldSystemPath, edits.path] at start
  constructor
  case desktop => simpa [edits.basename] using editable.desktop
  case under => simpa [edits.xdgSystemPosition] using editable.under
  case first => simpa [edits.xdgSystemPosition, edits.basename] using editable.first
  case placed => exact .inl ⟨zero, by rw [home, App.queueSave_basename]⟩
  case within =>
    intro field pending
    rw [queueSave_saveMask, edits.mask, Bool.or_eq_true] at pending
    rw [SaveMask.has_or, Bool.or_eq_true]
    exact pending.imp (editable.within field) id
  case basis =>
    refine ⟨keyFile, by rw [start]; exact there, fun key untouched => ?_, fun field isEdited idle => ?_⟩
    · refine basis.others key (fun field before => untouched field ?_)
      rw [SaveMask.has_or, before, Bool.true_or]
    · rw [queueSave_saveMask, edits.mask, Bool.or_eq_false_iff] at idle
      rw [SaveMask.has_or, idle.2, Bool.or_false] at isEdited
      rw [queueSave_reads, edits.values field keyFile idle.2]
      exact basis.values field isEdited idle.1

theorem Editable.unedited (editable : state.Editable environment) {fields : SaveMask}
    (none : ∀ field, fields.has field = false) :
    ({ state with saved := false, edited := state.edited.or fields } : Editing).Editable
      environment := by
  obtain ⟨keyFile, there, basis⟩ := editable.basis
  have same (field : Field) : (state.edited.or fields).has field = state.edited.has field := by
    rw [SaveMask.has_or, none, Bool.or_false]
  refine ⟨editable.desktop, editable.under, editable.first, editable.placed, ?_, keyFile, there,
    ?_, ?_⟩
  · intro field pending
    rw [same]
    exact editable.within field pending
  · intro key untouched
    exact basis.others key (fun field before => untouched field (by rw [same, before]))
  · intro field isEdited idle
    rw [same] at isEdited
    exact basis.values field isEdited idle

/-- The app with the new values that an update brings. -/
def updated (app : App) (name comment exec : Option String) (delay : UInt32) : App :=
  let changed := Edit.fields app (.update name comment exec delay)
  { app with
    name := if changed.name then name else app.name
    comment := if changed.comment then comment else app.comment
    exec := if changed.exec then exec else app.exec
    delay := delay
    saveMask := { app.saveMask with
      name := app.saveMask.name || changed.name
      comment := app.saveMask.comment || changed.comment
      exec := app.saveMask.exec || changed.exec
      delay := app.saveMask.delay || changed.delay } }

theorem edits_updated (languages : List String) (app : App) (name comment exec : Option String)
    (delay : UInt32) : Edits languages (Edit.fields app (.update name comment exec delay)) app
      (updated app name comment exec delay) := by
  refine ⟨rfl, rfl, rfl, rfl, rfl, fun field => ?_, fun field keyFile unchanged => ?_⟩
  · cases field <;> simp [updated, Edit.fields, SaveMask.has]
  · cases field with
    | hidden => exact Iff.rfl
    | enabled => exact Iff.rfl
    | name =>
        have same : (Edit.fields app (.update name comment exec delay)).name = false := unchanged
        simp [updated, Field.Reads, same]
    | comment =>
        have same : (Edit.fields app (.update name comment exec delay)).comment = false := unchanged
        simp [updated, Field.Reads, same]
    | exec =>
        have same : (Edit.fields app (.update name comment exec delay)).exec = false := unchanged
        simp [updated, Field.Reads, same]
    | delay =>
        have same : delay = app.delay := by simpa [SaveMask.has, Edit.fields] using unchanged
        simp [updated, Field.Reads, same]

theorem Editable.update (editable : state.Editable environment) (name comment exec : Option String)
    (delay : UInt32) :
    (state.finish (.update name comment exec delay)
      (state.app.update environment name comment exec delay, [])).Editable environment := by
  have result : state.app.update environment name comment exec delay =
      let changed := Edit.fields state.app (.update name comment exec delay)
      if changed.name || changed.comment || changed.exec || changed.delay then
        (updated state.app name comment exec delay).queueSave environment
      else state.app := rfl
  dsimp only at result
  split_ifs at result with changed
  · rw [finish, result]
    exact editable.queued (edits_updated _ state.app name comment exec delay)
  · rw [finish, result]
    refine editable.unedited (fun field => ?_)
    simp only [Bool.or_eq_true, not_or, Bool.not_eq_true] at changed
    cases field
    · rfl
    · rfl
    · exact changed.1.1.1
    · exact changed.1.1.2
    · exact changed.1.2
    · exact changed.2

theorem Editable.setEnabled (editable : state.Editable environment) (enabled : Bool) :
    (state.finish (.setEnabled enabled)
      (state.app.setEnabled environment enabled, [])).Editable environment := by
  rw [finish, App.setEnabled]
  split_ifs with same
  · refine editable.unedited (fun field => ?_)
    cases field <;> simp [SaveMask.has, Edit.fields, same]
  · refine editable.queued ⟨rfl, rfl, rfl, rfl, rfl, fun field => ?_, fun field keyFile kept => ?_⟩
    · cases field <;> simp [SaveMask.has, Edit.fields, same]
    · cases field <;> simp_all [SaveMask.has, Edit.fields, Field.Reads]

/-- An app that is only the user's is removed, and another is hidden. -/
theorem Editable.delete (editable : state.Editable environment) (disk : Disk)
    (stays : (state.app.delete environment disk).2.1 = false) (removes : Bool) :
    (state.finish (.delete removes) ((state.app.delete environment disk).1,
      (state.app.delete environment disk).2.2)).Editable environment := by
  rw [App.delete] at stays ⊢
  split_ifs at stays ⊢ with own
  refine editable.queued ⟨rfl, rfl, rfl, rfl, rfl, fun field => ?_, fun field keyFile kept => ?_⟩
  · cases field <;> simp [SaveMask.has, Edit.fields]
  · cases field <;> simp_all [SaveMask.has, Edit.fields, Field.Reads]

/-- No directory before that of the first file has one. -/
theorem absent_before {such : Path → Bool} {basename dir : String} {index : Nat}
    (desktop : isDesktopFile basename = true)
    (first : environment.firstFile such basename = some ⟨dir, basename⟩)
    (placed : environment.dirOf index = some dir) :
    ∀ other < index, ∀ dir', environment.dirOf other = some dir' →
      such ⟨dir', basename⟩ = false := by
  intro other earlier dir' placed'
  rw [Environment.firstFile, if_pos desktop] at first
  obtain ⟨found, search, same⟩ := Option.map_eq_some_iff.mp first
  obtain rfl : found = dir := congrArg Path.dir same
  obtain ⟨_, place, inside, there, before⟩ := List.find?_eq_some_iff_getElem.mp search
  obtain ⟨found', _⟩ := Environment.dirOf_iff.mp placed'
  obtain ⟨inside', there'⟩ := List.getElem?_eq_some_iff.mp found'
  have notEarlier : index ≤ place := by
    by_contra before
    have member := Environment.mem_take_of_getElem?
      (List.getElem?_eq_some_iff.mpr ⟨inside, there⟩) (Nat.lt_of_not_le before)
    exact (Environment.dirOf_iff.mp placed).2 member
  have absent := before other (by omega)
  rw [there'] at absent
  simpa using absent

/-- The system position is the first below the user's directory, or the shown one. -/
theorem places_of_shows {layers : Layers KeyFile} {limit : Nat} {chosen : Choice KeyFile}
    (shows : layers.Shows limit (some chosen)) (wide : 0 < limit) :
    0 < chosen.systemPosition ∧
      (chosen.position = 0 ∧ (∀ index, 0 < index → index < chosen.systemPosition →
          layers index = .absent) ∨
        chosen.position = chosen.systemPosition) := by
  cases shows with
  | @top content first usable next =>
      refine ⟨?_, .inl ⟨rfl, fun index under before => next.absent under before⟩⟩
      rcases Set.mem_insert_iff.mp next.1 with limited | occupied
      · exact limited ▸ wide
      · exact occupied.1
  | below under _ _ _ => exact ⟨under, .inr rfl⟩

/-- An app that a scan shows has been read from a file. -/
theorem choice_of_view {contents : Contents} {basename : String} {app : App}
    (bounded : environment.autostartDirs.length ≤ gMaxUint)
    (shown : (({} : AppManager).fill environment contents.toDisk).view basename = some app) :
    ∃ chosen dir, (layersOf environment contents.slots basename).Shows gMaxUint (some chosen) ∧
      isDesktopFile basename = true ∧ environment.dirOf chosen.position = some dir ∧
      contents.files ⟨dir, basename⟩ = some (some chosen.content) ∧
      chosen.content.canLaunch = true ∧ app = App.ofChoice environment basename chosen := by
  obtain ⟨_, scanned⟩ := AppManager.Scanned.fill bounded contents
  obtain ⟨choice, offered, shows⟩ := scanned.shows basename
  rw [AppManager.Offers, shown] at offered
  obtain ⟨chosen, rfl, same⟩ := Option.map_eq_some_iff.mp offered.symm
  have there := shows.chosen
  have desktop : isDesktopFile basename = true := by
    by_contra other
    simp [layersOf, other] at there
  cases placed : environment.dirOf chosen.position with
  | none => simp [layersOf_beyond placed] at there
  | some dir =>
      rw [layersOf_placed desktop placed, Contents.slots, content_slotOf,
        Option.filter_eq_some_iff] at there
      exact ⟨chosen, dir, shows, desktop, placed, Option.join_eq_some_iff.mp there.1, there.2,
        same.symm⟩

theorem ofChoice_path {basename dir : String} {chosen : Choice KeyFile}
    (placed : environment.dirOf chosen.position = some dir) :
    (App.ofChoice environment basename chosen).path = ⟨dir, basename⟩ := by
  have directory : (environment.dirOf chosen.position).getD "" = dir := by
    rw [placed]
    rfl
  rw [← directory]
  rfl

/-- The original is what the app was read from, and it is for this desktop. -/
theorem original_read (initial : (editingSystem environment).initial state)
    (loaded : environment.firstFile (fun path => (state.files path).isSome) state.app.basename =
      some state.app.path) :
    state.original.canLaunch = true ∧
      state.app.hidden = state.original.getBoolean "Hidden" false ∧
      state.app.enabled = state.original.getBoolean KeyFile.keyEnabled true := by
  obtain ⟨bounded, ⟨contents, files, shown⟩, _, _, _, original⟩ := initial
  obtain ⟨chosen, dir, _, _, placed, content, launches, read⟩ := choice_of_view bounded shown
  have path := (congrArg App.path read).trans (ofChoice_path placed)
  have isOriginal : state.original = chosen.content := by
    rw [original, Files.inForce, loaded, Option.bind_some, path, files, content]
    rfl
  rw [isOriginal, read]
  exact ⟨launches, rfl, rfl⟩

theorem Editable.initial (initial : (editingSystem environment).initial state)
    (loaded : environment.firstFile (fun path => (state.files path).isSome) state.app.basename =
      some state.app.path) : state.Editable environment := by
  obtain ⟨bounded, ⟨contents, files, shown⟩, _, _, edited, original⟩ := initial
  obtain ⟨chosen, dir, shows, desktop, placed, content, _, read⟩ := choice_of_view bounded shown
  have position : state.app.xdgPosition = chosen.position := by rw [read]; rfl
  have system : state.app.xdgSystemPosition = chosen.systemPosition := by rw [read]; rfl
  have path := (congrArg App.path read).trans (ofChoice_path placed)
  have noBasis : state.app.oldSystemPath = none := by rw [read]; rfl
  have idle : state.app.timerRunning = false := by rw [read]; rfl
  have clean : state.app.saveMask = {} := by rw [read]; rfl
  rw [← files, ← path] at content
  have isOriginal : state.original = chosen.content := by
    rw [original, Files.inForce, loaded, Option.bind_some, content]
    rfl
  rw [path] at loaded
  have before := absent_before desktop loaded placed
  obtain ⟨under, places⟩ := places_of_shows shows (by decide)
  constructor
  case desktop => exact desktop
  case under => rwa [system]
  case first =>
    intro index dir' below earlier placed'
    rw [system] at earlier
    rcases places with ⟨_, absent⟩ | last
    · have none := absent index below earlier
      rw [layersOf_placed desktop placed', Contents.slots, slotOf_absent_iff] at none
      rw [files, none]
    · simpa using before index (by omega) dir' placed'
  case placed =>
    rcases places with ⟨zero, _⟩ | last
    · rw [zero] at placed
      obtain rfl := Option.some.inj (dirOf_user.symm.trans placed)
      exact .inl ⟨position.trans zero, path⟩
    · exact .inr ⟨by omega, noBasis, idle⟩
  case within =>
    intro field pending
    simp [clean] at pending
  case basis =>
    refine ⟨chosen.content, by rw [noBasis]; exact content, fun key _ => ?_, fun field isEdited => ?_⟩
    · rw [isOriginal]
    · simp [edited] at isEdited

structure Sound (environment : Environment) (state : Editing) : Prop where
  editable : state.closed = false → state.Editable environment
  savedRight : state.SavedRight environment

theorem Editable.flags (editable : state.Editable environment) (closed saved : Bool) :
    ({ state with closed := closed, saved := saved } : Editing).Editable environment :=
  ⟨editable.desktop, editable.under, editable.first, editable.placed, editable.within,
    editable.basis⟩

/-- A queued save that is made when the app is disposed of. -/
theorem Editable.dispose (editable : state.Editable environment) {writes removes : Bool}
    (unshadowed : state.Unshadowed environment (.dispose writes removes))
    (pending : state.app.saveTimeout = true)
    (well : state.succeeds environment writes removes = true) :
    let result := state.app.dispose environment (state.files.toDisk writes removes)
      (environment.dirOf state.app.xdgSystemPosition)
    ∃ keyFile,
      Files.inForce environment (result.2.foldl Effect.apply state.files) result.1.basename =
        some keyFile ∧
      OnlyEdited environment.languages state.edited {} state.original result.1 keyFile := by
  obtain ⟨running, saves⟩ := unshadowed pending
  have home := editable.atHome running
  -- the source of the timer is removed before the save
  let quiet : Editing := { state with
    app := { state.app with saveTimeout := false, timerRunning := false } }
  have quietEditable : quiet.Editable environment := editable.failed home state.saved
  obtain ⟨_, right⟩ := quietEditable.afterSave home saves removes
  obtain ⟨keyFile, inForce, only⟩ := right well
  rw [App.dispose, if_pos pending]
  exact ⟨keyFile, inForce, only.others, only.values⟩

theorem or_empty (mask : SaveMask) : mask.or {} = mask := by
  simp [SaveMask.or]

theorem Sound.step {before after : Editing} {edit : Edit} (sound : before.Sound environment)
    (unshadowed : before.Unshadowed environment edit)
    (stepped : before.step environment edit = some after) : after.Sound environment := by
  cases closed : before.closed with
  | true => simp [Editing.step, closed] at stepped
  | false =>
      have editable := sound.editable closed
      cases edit with
      | update name comment exec delay =>
          simp only [Editing.step, closed, Bool.false_eq_true, if_false, Option.some.injEq] at stepped
          rw [← stepped]
          exact ⟨fun _ => editable.update name comment exec delay, nofun⟩
      | setEnabled enabled =>
          simp only [Editing.step, closed, Bool.false_eq_true, if_false, Option.some.injEq] at stepped
          rw [← stepped]
          exact ⟨fun _ => editable.setEnabled enabled, nofun⟩
      | delete removes =>
          simp only [Editing.step, closed, Bool.false_eq_true, if_false, Option.some.injEq] at stepped
          rw [← stepped]
          exact ⟨fun stays => (editable.delete _ stays removes).flags _ _, nofun⟩
      | save writes removes =>
          obtain ⟨running, rfl⟩ := by simpa [Editing.step, closed] using stepped
          obtain ⟨next, saved⟩ := editable.afterSave (editable.atHome running) unshadowed
            removes
          have result : { before.finish (.save writes removes)
                (before.app.saveOnTimeout environment (before.files.toDisk writes removes)
                  (environment.dirOf before.app.xdgSystemPosition)) with
              saved := before.succeeds environment writes removes } =
                before.afterSave environment writes removes := by
            simp only [finish, Edit.fields, or_empty]
            rfl
          rw [result]
          exact ⟨fun _ => next, saved⟩
      | dispose writes removes =>
          simp only [Editing.step, closed, Bool.false_eq_true, if_false, Option.some.injEq] at stepped
          rw [← stepped]
          refine ⟨nofun, fun saved => ?_⟩
          obtain ⟨pending, well⟩ := Bool.and_eq_true_iff.mp saved
          simp only [finish, Edit.fields, or_empty]
          exact editable.dispose unshadowed pending well

theorem Sound.initial (initial : (editingSystem environment).initial state)
    (loaded : environment.firstFile (fun path => (state.files path).isSome) state.app.basename =
      some state.app.path) : state.Sound environment where
  editable _ := Editable.initial initial loaded
  savedRight saved := by simp [initial.2.2.2.1] at saved

/-- In a run whose saves find the untouched keys as they were, the file in force
after a save has the edits and nothing else. -/
theorem saves_only_edits {start finish : Editing} {edits : List Edit}
    (initial : (editingSystem environment).initial start)
    (loaded : environment.firstFile (fun path => (start.files path).isSome) start.app.basename =
      some start.app.path)
    (run : (editingSystem environment).run start edits = some finish)
    (meets : (editingSystem environment).Meets (Unshadowed environment) start edits) :
    finish.SavedRight environment := by
  exact (meets.invariant (fun before edit after sound unshadowed stepped =>
    Sound.step sound unshadowed stepped) run (Sound.initial initial loaded)).savedRight

section Example

open Watch

def fooOnCondition : KeyFile := ⟨foo.entries ++ [("AutostartCondition", "if-exists foo")]⟩

/-- An app as it has been loaded, from its first file. -/
def loadedFrom (contents : Contents) (original : KeyFile) (app : App) : Editing where
  files := contents.files
  app := app
  closed := false
  saved := false
  original := original
  edited := {}

def onlySystem : Contents := noFiles.write (fooIn "/etc/xdg/autostart") (some fooOnCondition)

def systemFoo : Editing :=
  loadedFrom onlySystem fooOnCondition
    (App.ofChoice twoSystemDirs "foo.desktop" ⟨fooOnCondition, 2, 2⟩)

theorem systemFoo_initial : (editingSystem twoSystemDirs).initial systemFoo :=
  ⟨by decide, ⟨onlySystem, rfl, by decide⟩, rfl, rfl, rfl, rfl⟩

/-- The first save fails, and the next one writes what both edits changed. -/
def renameEdits : List Edit :=
  [.setEnabled false, .save false true, .update (some "Bar") none (some "foo") 0, .save true true]

theorem unequal_savesRight {state : Editing} (unequal : state.equalSystem twoSystemDirs = none)
    (writes : Bool) : state.SavesRight twoSystemDirs writes :=
  ⟨.of_unequal unequal, fun _ _ _ _ => Field.unhidden_of_plain (by decide)⟩

theorem renameEdits_meets :
    (editingSystem twoSystemDirs).Meets (Unshadowed twoSystemDirs) systemFoo renameEdits := by
  refine ⟨trivial, fun disabled stepped => ?_⟩
  cases stepped
  refine ⟨unequal_savesRight (by decide) false, fun failed stepped => ?_⟩
  cases stepped
  refine ⟨trivial, fun renamed stepped => ?_⟩
  cases stepped
  exact ⟨unequal_savesRight (by decide) true, fun _ _ => trivial⟩

theorem rename_keeps_condition : ∃ finish,
    (editingSystem twoSystemDirs).run systemFoo renameEdits = some finish ∧ finish.saved = true ∧
      finish.edited = { enabled := true, name := true } ∧
      (finish.files.inForce twoSystemDirs "foo.desktop").map
        (fun keyFile => keyFile.getString "AutostartCondition") = some (some "if-exists foo") ∧
      finish.SavedRight twoSystemDirs := by
  refine ⟨_, rfl, rfl, by decide, by decide, ?_⟩
  exact saves_only_edits systemFoo_initial (by decide) rfl renameEdits_meets

/-- The user has disabled the app, and gives it a condition. -/
def overridingFoo : KeyFile :=
  ⟨fooOnCondition.entries ++ [(KeyFile.keyEnabled, "false")]⟩

def overriding : Contents :=
  configured.write (fooIn "/home/u/.config/autostart") (some overridingFoo)

def userFoo : Editing :=
  loadedFrom overriding overridingFoo
    (App.ofChoice twoSystemDirs "foo.desktop" ⟨overridingFoo, 0, 2⟩)

/-- The condition goes with the file of the user when the app is enabled. -/
theorem enabling_loses_condition :
    (editingSystem twoSystemDirs).initial userFoo ∧
      twoSystemDirs.firstFile (fun path => (userFoo.files path).isSome) "foo.desktop" =
        some userFoo.app.path ∧
      ∃ finish, (editingSystem twoSystemDirs).run userFoo [.setEnabled true, .save true true] =
          some finish ∧
        finish.saved = true ∧ finish.edited = { enabled := true } ∧
        finish.files.inForce twoSystemDirs "foo.desktop" = some foo ∧
        ¬ finish.SavedRight twoSystemDirs := by
  refine ⟨⟨by decide, ⟨overriding, rfl, by decide⟩, rfl, rfl, rfl, rfl⟩, by decide, _, rfl, rfl,
    by decide, by decide, fun right => ?_⟩
  obtain ⟨keyFile, inForce, only⟩ := right rfl
  obtain rfl : keyFile = foo := Option.some.inj (inForce.symm.trans (by decide))
  have kept := only.others "AutostartCondition" (fun field _ => by cases field <;> decide)
  exact absurd kept (by decide)

end Example

end Editing

end CafeSession.Capplet

import CafeSession.Capplet.AppManager

namespace CafeSession.Capplet

open CafeSession.Transition

variable {environment : Environment} {disk : Disk}

/-- Everything an operation did to the disk, it did in this directory. -/
def Within (dir : String) (effects : List Effect) : Prop :=
  ∀ effect ∈ effects, effect.path.dir = dir

/-- Where the path of an app may be. -/
structure App.Homed (environment : Environment) (app : App) : Prop where
  home : app.xdgPosition = 0 → app.path.dir = environment.userAutostartDir
  timed : app.timerRunning = true →
    app.saveTimeout = true ∧ app.path.dir = environment.userAutostartDir

/-- The directory of the system position, which may have become 0. -/
def SystemDirOf (environment : Environment) (app : App) (systemDir : Option String) : Prop :=
  app.xdgSystemPosition = 0 → ∀ dir, systemDir = some dir → dir = environment.userAutostartDir

namespace App

variable {app : App} {systemDir : Option String}

theorem within_remove {path : Path} {dir : String} (inside : path.dir = dir) :
    Within dir (disk.remove path) := by
  unfold Disk.remove
  split_ifs
  · intro effect member
    rw [List.mem_singleton.mp member]
    exact inside
  · simp [Within]

theorem userEqualSystem_path {path : Path}
    (equal : app.userEqualSystem environment disk systemDir = some path) :
    systemDir = some path.dir := by
  cases known : systemDir with
  | none => simp [userEqualSystem, known] at equal
  | some dir =>
      simp only [userEqualSystem, known, Option.bind_some] at equal
      cases loaded : disk.load ⟨dir, app.basename⟩ with
      | none => simp [loaded] at equal
      | some keyFile =>
          simp only [loaded, Option.ite_none_right_eq_some, Option.some.injEq] at equal
          rw [← equal.2]

/-- A save touches only the path of the app and leaves it homed, except that a
timer still running is not cleared. -/
theorem save_homed (homed : app.Homed environment)
    (system : SystemDirOf environment app systemDir)
    (inside : app.path.dir = environment.userAutostartDir) :
    Within environment.userAutostartDir (app.save environment disk systemDir).2 ∧
      ({ (app.save environment disk systemDir).1 with timerRunning := false }).Homed
        environment := by
  unfold save
  cases equal : app.userEqualSystem environment disk systemDir with
  | some path =>
      have path_dir := userEqualSystem_path equal
      refine ⟨?_, fun zero => system zero path.dir path_dir, by simp⟩
      dsimp only
      split_ifs
      · exact within_remove inside
      · simp [Within]
  | none =>
      dsimp only
      split_ifs
      · refine ⟨fun effect member => ?_, homed.home, by simp⟩
        rw [List.mem_singleton.mp member]
        exact inside
      · exact ⟨by simp [Within], homed.home, by simp⟩

theorem saveOnTimeout_homed (homed : app.Homed environment)
    (system : SystemDirOf environment app systemDir) (running : app.timerRunning = true) :
    Within environment.userAutostartDir (app.saveOnTimeout environment disk systemDir).2 ∧
      ((app.saveOnTimeout environment disk systemDir).1).Homed environment :=
  save_homed homed system (homed.timed running).2

theorem save_timerRunning (idle : app.timerRunning = false) :
    (app.save environment disk systemDir).1.timerRunning = false := by
  unfold save
  cases app.userEqualSystem environment disk systemDir with
  | some path => exact idle
  | none =>
      dsimp only
      split_ifs <;> exact idle

theorem dispose_homed (homed : app.Homed environment)
    (system : SystemDirOf environment app systemDir)
    (live : app.saveTimeout = true → app.timerRunning = true ∨ app.xdgPosition = 0) :
    Within environment.userAutostartDir (app.dispose environment disk systemDir).2 ∧
      ((app.dispose environment disk systemDir).1).Homed environment := by
  unfold dispose
  by_cases pending : app.saveTimeout = true
  · have inside : app.path.dir = environment.userAutostartDir := by
      rcases live pending with running | zero
      · exact (homed.timed running).2
      · exact homed.home zero
    have cleared : ({ app with saveTimeout := false, timerRunning := false }).Homed environment :=
      ⟨homed.home, by simp⟩
    obtain ⟨within, saved⟩ := @save_homed _ disk _ systemDir cleared system inside
    have idle := @save_timerRunning environment disk
      { app with saveTimeout := false, timerRunning := false } systemDir rfl
    rw [if_pos pending]
    exact ⟨within, saved.home, by simp [idle]⟩
  · rw [if_neg pending]
    exact ⟨by simp [Within], homed.home, homed.timed⟩

theorem queueSave_homed (homed : app.Homed environment) :
    (app.queueSave environment).Homed environment := by
  have inside : (app.queueSave environment).path.dir = environment.userAutostartDir := by
    by_cases zero : app.xdgPosition = 0
    · simpa [queueSave, zero] using homed.home zero
    · simp [queueSave, zero]
  exact ⟨fun _ => inside, fun _ => ⟨rfl, inside⟩⟩

theorem setEnabled_homed (homed : app.Homed environment) (enabled : Bool) :
    (app.setEnabled environment enabled).Homed environment := by
  unfold setEnabled
  split_ifs
  · exact homed
  · exact queueSave_homed ⟨homed.home, homed.timed⟩

theorem update_homed (homed : app.Homed environment) (name comment exec : Option String)
    (delay : UInt32) : (app.update environment name comment exec delay).Homed environment := by
  unfold update
  dsimp only
  by_cases changed : (!strEqual name app.name || !strEqual comment app.comment ||
      !strEqual exec app.exec || decide (delay ≠ app.delay)) = true
  · rw [if_pos changed]
    exact queueSave_homed ⟨homed.home, homed.timed⟩
  · rw [if_neg changed]
    exact homed

theorem delete_homed (homed : app.Homed environment) :
    Within environment.userAutostartDir (app.delete environment disk).2.2 ∧
      (app.delete environment disk).1.Homed environment := by
  unfold delete
  dsimp only
  split_ifs with only present
  · exact ⟨within_remove (homed.home only.1), homed.home, by simp⟩
  · exact ⟨by simp [Within], homed.home, by simp⟩
  · exact ⟨by simp [Within], queueSave_homed ⟨homed.home, homed.timed⟩⟩

theorem showCopy_homed (homed : app.Homed environment) :
    (app.showCopy environment).Homed environment := by
  cases hidden : app.hidden <;> cases enabled : app.enabled <;>
    simp only [showCopy, hidden, enabled, Bool.or_true, Bool.or_false, Bool.not_true,
      Bool.not_false, Bool.false_eq_true, ↓reduceIte]
  · exact queueSave_homed ⟨homed.home, homed.timed⟩
  · exact homed
  · exact queueSave_homed ⟨homed.home, homed.timed⟩
  · exact queueSave_homed ⟨homed.home, homed.timed⟩

theorem placeAt_homed {path : Path} {keyFile : KeyFile} {position : Nat}
    (homed : app.Homed environment) (idle : app.saveTimeout = false)
    (home : position = 0 → path.dir = environment.userAutostartDir) :
    ((app.readFrom environment path keyFile).placeAt position).Homed environment := by
  refine ⟨home, fun running => ?_⟩
  have pending := (homed.timed running).1
  rw [idle] at pending
  cases pending

end App

namespace AppManager

variable {manager : AppManager}

/-- The directories, with the user's own at position 0 and nowhere else. -/
structure Ordered (environment : Environment) (dirs : List XdgDir) : Prop where
  home : ∀ dir ∈ dirs, dir.index = 0 → dir.dir = environment.userAutostartDir
  system : ∀ dir ∈ dirs, dir.index ≠ 0 → dir.dir ≠ environment.userAutostartDir

structure Homed (environment : Environment) (manager : AppManager) : Prop where
  objects : ∀ app ∈ manager.objects, app.Homed environment
  dirs : Ordered environment manager.dirs
  effects : Within environment.userAutostartDir manager.effects

theorem getDir_mem {index : Nat} {dir : String} (found : manager.getDir index = some dir) :
    ∃ xdgDir ∈ manager.dirs, xdgDir.index = index ∧ xdgDir.dir = dir := by
  obtain ⟨xdgDir, lookup, rfl⟩ := Option.map_eq_some_iff.mp found
  refine ⟨xdgDir, List.mem_of_find?_eq_some lookup, ?_, rfl⟩
  simpa [eq_comm] using List.find?_some lookup

theorem getDirIndex_mem {index : Nat} {dir : String}
    (found : manager.getDirIndex dir = some index) :
    ∃ xdgDir ∈ manager.dirs, xdgDir.index = index ∧ xdgDir.dir = dir := by
  obtain ⟨xdgDir, lookup, rfl⟩ := Option.map_eq_some_iff.mp found
  refine ⟨xdgDir, List.mem_of_find?_eq_some lookup, rfl, ?_⟩
  simpa [eq_comm] using List.find?_some lookup

theorem Homed.systemDirOf (homed : manager.Homed environment) (app : App) :
    SystemDirOf environment app (manager.systemDir app) := by
  intro zero dir found
  obtain ⟨xdgDir, member, index, rfl⟩ := getDir_mem found
  exact homed.dirs.home xdgDir member (index.trans zero)

theorem Homed.app (homed : manager.Homed environment) {id : Nat} {app : App}
    (found : manager.objects[id]? = some app) : app.Homed environment :=
  homed.objects app (List.mem_of_getElem? found)

theorem Homed.set (homed : manager.Homed environment) (id : Nat) {app : App}
    (appHomed : app.Homed environment) :
    ∀ other ∈ manager.objects.set id app, other.Homed environment := by
  intro other member
  rcases List.mem_or_eq_of_mem_set member with old | rfl
  · exact homed.objects other old
  · exact appHomed

theorem Homed.finish (homed : manager.Homed environment) (id : Nat) {result : App × List Effect}
    (within : Within environment.userAutostartDir result.2)
    (appHomed : result.1.Homed environment) : (manager.finish id result).Homed environment where
  objects := homed.set id appHomed
  dirs := homed.dirs
  effects := by
    intro effect member
    rcases List.mem_append.mp member with new | old
    · exact within effect new
    · exact homed.effects effect old

theorem Homed.modifyApp (homed : manager.Homed environment) (id : Nat) {change : App → App}
    (kept : ∀ app, app.Homed environment → (change app).Homed environment) :
    (manager.modifyApp id change).Homed environment where
  objects := by
    intro app member
    obtain ⟨place, found⟩ := List.mem_iff_getElem?.mp member
    rw [AppManager.modifyApp, List.getElem?_modify] at found
    obtain ⟨old, wasThere, rfl⟩ := Option.map_eq_some_iff.mp found
    have oldHomed := homed.app wasThere
    by_cases same : id = place
    · simpa [same] using kept old oldHomed
    · simpa [same] using oldHomed
  dirs := homed.dirs
  effects := homed.effects

theorem Homed.add (homed : manager.Homed environment) (id : Nat) :
    (manager.add id).Homed environment :=
  ⟨homed.objects, homed.dirs, homed.effects⟩

theorem Homed.appRemoved (homed : manager.Homed environment) (id : Nat) :
    (manager.appRemoved id).Homed environment :=
  ⟨homed.objects, homed.dirs, homed.effects⟩

/-- A path given with its position is in the user's directory at position 0. -/
def Placed (environment : Environment) (path : Path) (position : Nat) : Prop :=
  position = 0 → path.dir = environment.userAutostartDir

theorem Homed.loadApp (homed : manager.Homed environment) {path : Path} {position : Nat}
    {found : Option (Nat × App)} (placed : Placed environment path position)
    (foundHomed : ∀ id app, found = some (id, app) →
      app.Homed environment ∧ app.saveTimeout = false) :
    (manager.loadApp environment disk path position found).1.Homed environment := by
  unfold AppManager.loadApp
  cases disk.load path with
  | none => exact homed
  | some keyFile =>
      dsimp only
      by_cases launches : keyFile.canLaunch = true
      · simp only [launches, Bool.not_true, Bool.false_eq_true, ↓reduceIte]
        cases found with
        | none =>
            refine ⟨fun app member => ?_, homed.dirs, homed.effects⟩
            rcases List.mem_append.mp member with old | new
            · exact homed.objects app old
            · rw [List.mem_singleton.mp new]
              refine App.placeAt_homed ⟨?_, by simp⟩ rfl placed
              intro zero
              simp [gMaxUint] at zero
        | some pair =>
            obtain ⟨id, app⟩ := pair
            obtain ⟨appHomed, idle⟩ := foundHomed id app rfl
            dsimp only
            split_ifs
            · exact ⟨homed.objects, homed.dirs, homed.effects⟩
            · exact ⟨homed.set id (App.placeAt_homed appHomed idle placed), homed.dirs,
                homed.effects⟩
      · simp only [launches, Bool.not_false, ↓reduceIte]
        exact homed

theorem Homed.appNew (homed : manager.Homed environment) {path : Path} {position : Nat}
    (placed : Placed environment path position) :
    (manager.appNew environment disk path position).1.Homed environment := by
  unfold AppManager.appNew
  split
  · exact homed.loadApp placed (by simp)
  · next id app lookup =>
      obtain ⟨place, _, found⟩ := Option.bind_eq_some_iff.mp lookup
      obtain ⟨old, wasThere, same⟩ := Option.map_eq_some_iff.mp found
      cases same
      have appHomed := homed.app wasThere
      split_ifs with skips wanted
      · exact homed.modifyApp id (fun _ homed => ⟨homed.home, homed.timed⟩)
      · exact homed.modifyApp id (fun _ homed => ⟨homed.home, homed.timed⟩)
      · refine homed.loadApp placed (fun id app same => ?_)
        cases same
        exact ⟨appHomed, by simpa using (not_or.mp wanted).2⟩

theorem Homed.reloadAt (homed : manager.Homed environment) (id : Nat) {path : Path}
    {position : Nat} (placed : Placed environment path position) :
    (manager.reloadAt environment disk id path position).Homed environment := by
  apply Homed.appNew
  · refine homed.modifyApp id (fun app homed => ⟨?_, homed.timed⟩)
    intro zero
    simp [gMaxUint] at zero
  · exact placed

theorem appNew_dirs (path : Path) (position : Nat) :
    (manager.appNew environment disk path position).1.dirs = manager.dirs := by
  have loaded : ∀ found,
      (manager.loadApp environment disk path position found).1.dirs = manager.dirs := by
    intro found
    unfold AppManager.loadApp
    split
    · rfl
    · split_ifs
      · rfl
      · split
        · rfl
        · split_ifs <;> rfl
  unfold AppManager.appNew
  split
  · exact loaded _
  · split_ifs
    · rfl
    · rfl
    · exact loaded _

theorem fillFromDir_dirs (index : Nat) (dir : String) (names : List String) :
    (fillFromDir environment disk index dir names manager).dirs = manager.dirs := by
  induction names generalizing manager with
  | nil => rfl
  | cons name names ih =>
      have created := @appNew_dirs environment disk manager ⟨dir, name⟩ index
      unfold fillFromDir
      split_ifs
      · cases result : manager.appNew environment disk ⟨dir, name⟩ index with
        | mk next id =>
            rw [result] at created
            cases id with
            | none => exact ih.trans created
            | some id => exact ih.trans created
      · exact ih

theorem Homed.fillFromDir (homed : manager.Homed environment) {index : Nat} {dir : String}
    (placed : index = 0 → dir = environment.userAutostartDir) (names : List String) :
    (fillFromDir environment disk index dir names manager).Homed environment := by
  induction names generalizing manager with
  | nil => exact homed
  | cons name names ih =>
      have created := @Homed.appNew _ disk _ homed ⟨dir, name⟩ index placed
      unfold AppManager.fillFromDir
      split_ifs
      · cases result : manager.appNew environment disk ⟨dir, name⟩ index with
        | mk next id =>
            rw [result] at created
            cases id with
            | none => exact ih created
            | some id => exact ih (created.add id)
      · exact ih homed

theorem Homed.fillDir (homed : manager.Homed environment) {dir : String} {index : Nat}
    (placed : index = 0 ↔ dir = environment.userAutostartDir) :
    (AppManager.fillFromDir environment disk index dir (disk.listing dir)
      { manager with dirs := ⟨dir, index⟩ :: manager.dirs }).Homed environment := by
  have added : ({ manager with dirs := ⟨dir, index⟩ :: manager.dirs } : AppManager).Homed
      environment := by
    refine ⟨homed.objects, ⟨?_, ?_⟩, homed.effects⟩
    · intro other member zero
      rcases List.mem_cons.mp member with rfl | old
      · exact placed.mp zero
      · exact homed.dirs.home other old zero
    · intro other member nonzero
      rcases List.mem_cons.mp member with rfl | old
      · exact fun same => nonzero (placed.mpr same)
      · exact homed.dirs.system other old nonzero
  exact added.fillFromDir placed.mp _

/-- The user's directory is among those that have been visited. -/
def Visited (environment : Environment) (manager : AppManager) : Prop :=
  ∃ xdgDir ∈ manager.dirs, xdgDir.dir = environment.userAutostartDir

theorem getDirIndex_none {dir : String} (unknown : (manager.getDirIndex dir).isSome = false) :
    ∀ xdgDir ∈ manager.dirs, xdgDir.dir ≠ dir := by
  intro xdgDir member same
  rw [AppManager.getDirIndex, Option.isSome_map, Option.isSome_eq_false_iff,
    Option.isNone_iff_eq_none, List.find?_eq_none] at unknown
  exact unknown xdgDir member (by simp [same])

theorem Homed.fillDirs (homed : manager.Homed environment)
    (visited : Visited environment manager) {dirs : List (String × Nat)}
    (later : ∀ entry ∈ dirs, entry.2 ≠ 0) :
    (AppManager.fillDirs environment disk dirs manager).Homed environment := by
  induction dirs generalizing manager with
  | nil => exact homed
  | cons entry dirs ih =>
      obtain ⟨dir, index⟩ := entry
      have rest : ∀ entry ∈ dirs, entry.2 ≠ 0 := fun entry member => later entry (by simp [member])
      unfold AppManager.fillDirs
      split_ifs with known
      · exact ih homed visited rest
      · have fresh := getDirIndex_none (by simpa using known)
        obtain ⟨user, isDir, isUser⟩ := visited
        apply ih
        · apply homed.fillDir
          constructor
          · intro zero
            exact absurd zero (later (dir, index) (by simp))
          · intro same
            exact absurd (isUser.trans same.symm) (fresh user isDir)
        · refine ⟨user, ?_, isUser⟩
          rw [fillFromDir_dirs]
          exact List.mem_cons_of_mem _ isDir
        · exact rest

theorem Homed.fill (homed : manager.Homed environment) :
    (manager.fill environment disk).Homed environment := by
  unfold AppManager.fill
  split_ifs
  · exact homed
  · have later : ∀ dirs : List String, ∀ entry ∈ dirs.zipIdx 1, entry.2 ≠ 0 := by
      intro dirs entry member
      have := List.le_snd_of_mem_zipIdx member
      omega
    rw [Environment.autostartDirs, List.zipIdx_cons]
    unfold AppManager.fillDirs
    split_ifs with known
    · have visited : Visited environment manager := by
        obtain ⟨index, found⟩ := Option.isSome_iff_exists.mp known
        obtain ⟨xdgDir, member, _, same⟩ := getDirIndex_mem found
        exact ⟨xdgDir, member, same⟩
      exact homed.fillDirs visited (later _)
    · apply Homed.fillDirs
      · exact homed.fillDir (by simp)
      · refine ⟨⟨environment.userAutostartDir, 0⟩, ?_, rfl⟩
        rw [fillFromDir_dirs]
        simp
      · exact later _

theorem Homed.placed (homed : manager.Homed environment) {dir : String} {index : Nat}
    (found : manager.getDir index = some dir) (basename : String) :
    Placed environment ⟨dir, basename⟩ index := by
  intro zero
  obtain ⟨xdgDir, member, sameIndex, sameDir⟩ := getDir_mem found
  rw [← sameDir]
  exact homed.dirs.home xdgDir member (sameIndex.trans zero)

theorem Homed.handleDelete (homed : manager.Homed environment) (id : Nat) (app : App)
    (basename : String) (index : Nat) :
    (manager.handleDelete environment disk id app basename index).Homed environment := by
  have aborted : ({ manager with aborted := true } : AppManager).Homed environment :=
    ⟨homed.objects, homed.dirs, homed.effects⟩
  unfold AppManager.handleDelete
  dsimp only
  split_ifs
  · exact homed
  · exact homed
  · exact aborted
  · exact homed.appRemoved id
  · exact homed.modifyApp id (fun _ homed => ⟨homed.home, homed.timed⟩)
  · split
    · next dir found => exact homed.reloadAt id (homed.placed found basename)
    · exact homed.appRemoved id
  · exact aborted

theorem Homed.monitorDeleted (homed : manager.Homed environment) (path : Path) :
    (manager.monitorDeleted environment disk path).Homed environment := by
  unfold AppManager.monitorDeleted
  split_ifs
  · split
    · split
      · exact homed.handleDelete _ _ _ _
      · exact homed
    · exact homed
  · exact homed

theorem Homed.monitorChanged (homed : manager.Homed environment) (path : Path) :
    (manager.monitorChanged environment disk path).Homed environment := by
  unfold AppManager.monitorChanged
  split_ifs
  · dsimp only
    cases known : manager.getDirIndex path.dir with
    | none => exact homed
    | some index =>
        have created : (manager.appNew environment disk path index).1.Homed environment := by
          apply homed.appNew
          intro zero
          obtain ⟨xdgDir, member, sameIndex, sameDir⟩ := getDirIndex_mem known
          rw [← sameDir]
          exact homed.dirs.home xdgDir member (sameIndex.trans zero)
        cases result : manager.appNew environment disk path index with
        | mk next id =>
            rw [result] at created
            cases manager.findAppWithBasename path.basename with
            | none =>
                cases id with
                | none => simpa only [result] using created
                | some id => simpa only [result] using created.add id
            | some _ => simpa only [result] using created
  · exact homed

theorem Homed.createApp (homed : manager.Homed environment) (name comment : Option String)
    (exec : String) (delay : UInt32) (argv0 : Option String) :
    (manager.createApp environment disk name comment exec delay argv0).Homed environment := by
  unfold AppManager.createApp
  by_cases blank : textIsBlank (some exec) = true
  · rw [if_pos blank]
    exact homed
  · rw [if_neg blank]
    split
    · exact homed
    · refine ⟨fun app member => ?_, homed.dirs, homed.effects⟩
      rcases List.mem_append.mp member with old | new
      · exact homed.objects app old
      · rw [List.mem_singleton.mp new]
        exact App.queueSave_homed ⟨fun _ => rfl, by simp⟩

theorem Homed.copyDesktopFile (homed : manager.Homed environment) (sourceBasename : String)
    (copied : Bool) :
    (manager.copyDesktopFile environment disk sourceBasename copied).Homed environment := by
  unfold AppManager.copyDesktopFile
  split
  · exact homed
  · next basename _ =>
      dsimp only
      split_ifs
      · exact homed
      · let path : Path := ⟨environment.userAutostartDir, basename⟩
        have logged : ({ manager with effects := .copied path :: manager.effects } :
            AppManager).Homed environment := by
          refine ⟨homed.objects, homed.dirs, fun effect member => ?_⟩
          rcases List.mem_cons.mp member with rfl | old
          · rfl
          · exact homed.effects effect old
        have created := @Homed.appNew _ disk _ logged path 0 (fun _ => rfl)
        split
        · next next result =>
            rw [result] at created
            refine ⟨created.objects, created.dirs, fun effect member => ?_⟩
            rcases List.mem_append.mp member with new | old
            · exact App.within_remove rfl effect new
            · exact created.effects effect old
        · next next id result =>
            rw [result] at created
            apply Homed.add
            exact created.modifyApp id (fun _ appHomed => App.showCopy_homed appHomed)

/-- No app is disposed of behind a save timer that fired without clearing
`save_timeout`, unless its path is the user's. -/
def NoStaleTimeout (manager : AppManager) : Event → Prop
  | .disposed id _ => ∀ app, manager.live id = some app → app.saveTimeout = true →
      app.timerRunning = true ∨ app.xdgPosition = 0
  | _ => True

theorem live_getElem? {id : Nat} {app : App} (live : manager.live id = some app) :
    manager.objects[id]? = some app :=
  (Option.filter_eq_some_iff.mp live).1

theorem Homed.step {before after : AppManager} {event : Event} (homed : before.Homed environment)
    (fresh : before.NoStaleTimeout event) (stepped : before.step environment event = some after) :
    after.Homed environment := by
  have running : before.aborted = false := by
    cases aborted : before.aborted with
    | true => simp [AppManager.step, aborted] at stepped
    | false => rfl
  simp only [AppManager.step, running, Bool.false_eq_true, ↓reduceIte] at stepped
  cases event with
  | fill disk =>
      obtain ⟨_, rfl⟩ := by simpa using stepped
      exact homed.fill
  | update id name comment exec delay =>
      obtain ⟨_, app, live, rfl⟩ := by simpa using stepped
      have appHomed := homed.app (live_getElem? live)
      exact homed.finish id (by simp [Within]) (App.update_homed appHomed _ _ _ _)
  | setEnabled id enabled =>
      obtain ⟨_, app, live, rfl⟩ := by simpa using stepped
      have appHomed := homed.app (live_getElem? live)
      exact homed.finish id (by simp [Within]) (App.setEnabled_homed appHomed enabled)
  | delete id disk =>
      obtain ⟨_, app, live, rfl⟩ := by simpa using stepped
      obtain ⟨within, deleted⟩ := @App.delete_homed _ disk _ (homed.app (live_getElem? live))
      have finished := @Homed.finish _ _ homed id
        ((app.delete environment disk).1, (app.delete environment disk).2.2) within deleted
      split_ifs
      · exact finished.appRemoved id
      · exact finished
  | saveTimeout id disk =>
      obtain ⟨app, live, saved⟩ := Option.bind_eq_some_iff.mp stepped
      obtain ⟨fires, rfl⟩ := by simpa using saved
      have appHomed := homed.app (live_getElem? live)
      obtain ⟨within, saved⟩ := @App.saveOnTimeout_homed _ disk _ _ appHomed
        (homed.systemDirOf app) fires
      exact homed.finish id within saved
  | create name comment exec delay argv0 disk =>
      obtain ⟨_, rfl⟩ := by simpa using stepped
      exact homed.createApp _ _ _ _ _
  | copyDesktopFile sourceBasename copied disk =>
      obtain ⟨_, rfl⟩ := by simpa using stepped
      exact homed.copyDesktopFile _ _
  | changed path disk =>
      obtain ⟨_, rfl⟩ := by simpa using stepped
      exact homed.monitorChanged path
  | deleted path disk =>
      obtain ⟨_, rfl⟩ := by simpa using stepped
      exact homed.monitorDeleted path
  | managerDisposed =>
      cases stepped
      exact ⟨homed.objects, homed.dirs, homed.effects⟩
  | disposed id disk =>
      obtain ⟨_, app, live, rfl⟩ := by simpa using stepped
      have appHomed := homed.app (live_getElem? live)
      obtain ⟨within, disposed⟩ := @App.dispose_homed _ disk _ _ appHomed
        (homed.systemDirOf app) (fresh app live)
      exact homed.finish id within disposed

theorem Homed.reached {manager : AppManager}
    (reached : (appManagerSystem environment).ReachableBy NoStaleTimeout manager) :
    manager.Homed environment := by
  apply reached.invariant
  · intro start initial
    cases initial
    exact ⟨by simp, ⟨by simp, by simp⟩, by simp [Within]⟩
  · intro before event after homed fresh stepped
    exact homed.step fresh stepped

/-- What an effect touches lies in the first autostart directory and in none of the others. -/
def TouchesOnlyUserFiles (environment : Environment) (manager : AppManager) : Prop :=
  ∀ effect ∈ manager.effects,
    environment.autostartDirs.head? = some effect.path.dir ∧
      ∀ xdgDir ∈ manager.dirs, xdgDir.index ≠ 0 → effect.path.dir ≠ xdgDir.dir

/-- As long as no app is disposed of behind a stale save timeout, system files
are neither removed nor overwritten. -/
theorem touches_only_user_files {manager : AppManager}
    (reached : (appManagerSystem environment).ReachableBy NoStaleTimeout manager) :
    TouchesOnlyUserFiles environment manager := by
  have homed := Homed.reached reached
  intro effect member
  have inside := homed.effects effect member
  refine ⟨by rw [inside]; rfl, fun xdgDir isDir nonzero => ?_⟩
  rw [inside]
  exact (homed.dirs.system xdgDir isDir nonzero).symm

section Example

def oneSystemDir : Environment where
  userConfigDir := "/home/u/.config"
  systemDataDirs := []
  systemConfigDirs := ["/etc/xdg"]
  languages := ["C"]

/-- One desktop file, in the system directory. -/
def oneSystemFile : Disk where
  load := fun path =>
    if path = ⟨"/etc/xdg/autostart", "foo.desktop"⟩ then
      some ⟨[("Name", "Foo"), ("Exec", "foo")]⟩
    else none
  present := fun path => path = ⟨"/etc/xdg/autostart", "foo.desktop"⟩
  writes := fun _ => true
  removes := fun _ => true
  listing := fun dir => if dir = "/etc/xdg/autostart" then ["foo.desktop"] else []

/-- The app is disabled in the dialog, and its timer fires. -/
def disableEvents : List Event := [.fill oneSystemFile, .setEnabled 0 false,
  .saveTimeout 0 oneSystemFile]

def disabled : AppManager :=
  ((appManagerSystem oneSystemDir).run {} disableEvents).getD {}

theorem disabled_touches :
    disabled.effects ≠ [] ∧ TouchesOnlyUserFiles oneSystemDir disabled := by
  have run : (appManagerSystem oneSystemDir).run {} disableEvents = some disabled := by decide
  have meets : (appManagerSystem oneSystemDir).Meets NoStaleTimeout {} disableEvents := by
    apply System.meets_of_forall
    intro event member manager
    simp only [disableEvents, List.mem_cons, List.not_mem_nil, or_false] at member
    rcases member with rfl | rfl | rfl <;> trivial
  refine ⟨by decide, ?_⟩
  exact touches_only_user_files (System.ReachableBy.of_run (.initial rfl) meets run)

/-- Disabled and enabled again, the app equals its system file when the timer
fires; the disposal then removes that file. -/
def revertEvents : List Event := [.fill oneSystemFile, .setEnabled 0 false, .setEnabled 0 true,
  .saveTimeout 0 oneSystemFile, .managerDisposed, .disposed 0 oneSystemFile]

def reverted : AppManager :=
  ((appManagerSystem oneSystemDir).run {} revertEvents).getD {}

theorem reverted_removes_system_file :
    (appManagerSystem oneSystemDir).run {} revertEvents = some reverted ∧
      ¬ TouchesOnlyUserFiles oneSystemDir reverted := by
  refine ⟨by decide, fun touches => ?_⟩
  have removed := touches (.removed ⟨"/etc/xdg/autostart", "foo.desktop"⟩) (by decide)
  exact absurd removed.1 (by decide)

end Example

end AppManager

end CafeSession.Capplet

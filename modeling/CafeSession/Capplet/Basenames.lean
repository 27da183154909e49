import CafeSession.Capplet.Monitor
import CafeSession.Capplet.UserFiles

namespace CafeSession.Capplet

open CafeSession.Transition

variable {environment : Environment} {disk : Disk}

namespace App

variable (app : App) (systemDir : Option String)

@[simp] theorem queueSave_basename : (app.queueSave environment).basename = app.basename := by
  rw [queueSave]
  split_ifs <;> rfl

theorem save_basename : (app.save environment disk systemDir).1.basename = app.basename := by
  unfold save
  cases app.userEqualSystem environment disk systemDir with
  | some path => rfl
  | none =>
      dsimp only
      split_ifs <;> rfl

theorem dispose_basename : (app.dispose environment disk systemDir).1.basename = app.basename := by
  unfold dispose
  split_ifs
  · exact save_basename _ systemDir
  · rfl

theorem setEnabled_basename (enabled : Bool) :
    (app.setEnabled environment enabled).basename = app.basename := by
  unfold setEnabled
  split_ifs
  · rfl
  · exact queueSave_basename _

theorem update_basename (name comment exec : Option String) (delay : UInt32) :
    (app.update environment name comment exec delay).basename = app.basename := by
  unfold update
  dsimp only
  by_cases changed : (!strEqual name app.name || !strEqual comment app.comment ||
      !strEqual exec app.exec || decide (delay ≠ app.delay)) = true
  · rw [if_pos changed, queueSave_basename]
  · rw [if_neg changed]

theorem delete_basename : (app.delete environment disk).1.basename = app.basename := by
  unfold delete
  dsimp only
  split_ifs
  · rfl
  · rfl
  · exact queueSave_basename _

theorem showCopy_basename : (app.showCopy environment).basename = app.basename := by
  cases hidden : app.hidden <;> cases enabled : app.enabled <;>
    simp [showCopy, hidden, enabled]

end App

namespace AppManager

variable {manager before after : AppManager}

/-- The basenames of the objects, listed or not. -/
def names (manager : AppManager) : List String := manager.objects.map App.basename

theorem basenameOf_eq (manager : AppManager) (id : Nat) :
    manager.basenameOf id = manager.names[id]? := by
  simp [basenameOf, names]

theorem length_names (manager : AppManager) : manager.names.length = manager.objects.length :=
  List.length_map _

/-- The objects keep their basenames, and nothing is added to the list. -/
structure Shrinks (before after : AppManager) : Prop where
  names : before.names <+: after.names
  apps : after.apps.Sublist before.apps

theorem Shrinks.of_eq (names : after.names = before.names) (apps : after.apps = before.apps) :
    before.Shrinks after :=
  ⟨names ▸ List.prefix_refl _, apps ▸ List.Sublist.refl _⟩

theorem Tidy.shrinks (tidy : before.Tidy) (shrinks : before.Shrinks after) : after.Tidy := by
  obtain ⟨added, names⟩ := shrinks.names
  have inside : ∀ id ∈ after.apps, id < before.names.length := by
    intro id member
    rw [length_names]
    exact tidy.known id (shrinks.apps.subset member)
  constructor
  case known =>
    intro id member
    have low := inside id member
    rw [← length_names, ← names, List.length_append]
    omega
  case distinct =>
    have same : after.apps.map after.basenameOf = after.apps.map before.basenameOf := by
      apply List.map_congr_left
      intro id member
      rw [basenameOf_eq, basenameOf_eq, ← names, List.getElem?_append_left (inside id member)]
    rw [same]
    exact tidy.distinct.sublist (shrinks.apps.map before.basenameOf)

theorem names_set {id : Nat} {app changed : App} (known : manager.objects[id]? = some app)
    (named : changed.basename = app.basename) :
    (manager.objects.set id changed).map App.basename = manager.names := by
  apply List.ext_getElem?
  intro place
  by_cases here : place = id
  · subst here
    have inside := (List.getElem?_eq_some_iff.mp known).1
    simp [names, inside, named, (List.getElem?_eq_some_iff.mp known).2]
  · simp [names, List.getElem?_set_ne (Ne.symm here)]

theorem names_modifyApp (id : Nat) {change : App → App}
    (named : ∀ app, (change app).basename = app.basename) :
    (manager.modifyApp id change).names = manager.names := by
  apply List.ext_getElem?
  intro place
  by_cases here : id = place
  · simp [names, modifyApp, here, Function.comp_def, named]
  · simp [names, modifyApp, here]

theorem shrinks_finish {id : Nat} {app : App} {result : App × List Effect}
    (known : manager.objects[id]? = some app) (named : result.1.basename = app.basename) :
    manager.Shrinks (manager.finish id result) :=
  .of_eq (names_set known named) rfl

theorem shrinks_appRemoved (id : Nat) : manager.Shrinks (manager.appRemoved id) :=
  ⟨List.prefix_refl _, List.erase_sublist⟩

theorem findApp_none_iff {basename : String} :
    manager.findAppWithBasename basename = none ↔
      ∀ id ∈ manager.apps, manager.basenameOf id ≠ some basename := by
  simp [findAppWithBasename, List.find?_eq_none, hasBasename_iff]

/-- A new object with a basename that is not listed. -/
theorem Tidy.listNew (tidy : before.Tidy) {basename : String}
    (free : before.findAppWithBasename basename = none)
    (names : after.names = before.names ++ [basename])
    (apps : after.apps = before.objects.length :: before.apps) : after.Tidy := by
  have absent := findApp_none_iff.mp free
  constructor
  case known =>
    intro id member
    rw [← length_names, names, List.length_append, length_names]
    rw [apps] at member
    rcases List.mem_cons.mp member with new | old
    · simp [new]
    · have low := tidy.known id old
      omega
  case distinct =>
    have same : before.apps.map after.basenameOf = before.apps.map before.basenameOf := by
      apply List.map_congr_left
      intro id member
      have low := tidy.known id member
      rw [← length_names] at low
      rw [basenameOf_eq, basenameOf_eq, names, List.getElem?_append_left low]
    have first : after.basenameOf before.objects.length = some basename := by
      rw [basenameOf_eq, names, ← length_names, List.getElem?_concat_length]
    rw [apps, List.map_cons, first, same, List.nodup_cons]
    refine ⟨fun member => ?_, tidy.distinct⟩
    obtain ⟨id, listed, named⟩ := List.mem_map.mp member
    exact absent id listed named

/-- What `gsp_app_new` does to the list and the basenames: nothing, or a new object with a
basename that is not listed. -/
theorem appNew_names (environment : Environment) (disk : Disk) (tidy : manager.Tidy) (path : Path)
    (index : Nat) :
    (manager.appNew environment disk path index).1.apps = manager.apps ∧
      ((manager.appNew environment disk path index).1.names = manager.names ∧
          (manager.findAppWithBasename path.basename = none →
            (manager.appNew environment disk path index).2 = none) ∨
        manager.findAppWithBasename path.basename = none ∧
          (manager.appNew environment disk path index).1.names =
            manager.names ++ [path.basename] ∧
          (manager.appNew environment disk path index).2 = some manager.objects.length) := by
  obtain ⟨dir, basename⟩ := path
  have found : manager.findAppWithBasename basename = (manager.entry basename).map Prod.fst :=
    tidy.find_of_entry
  rw [appNew_entry]
  cases listed : manager.entry basename with
  | none =>
      have free : manager.findAppWithBasename basename = none := by rw [found, listed]; rfl
      cases wanted : disk.wanted ⟨dir, basename⟩ with
      | none =>
          dsimp only
          rw [loadApp_unwanted wanted]
          exact ⟨rfl, .inl ⟨rfl, fun _ => rfl⟩⟩
      | some keyFile =>
          have created : manager.appNew environment disk ⟨dir, basename⟩ index = _ :=
            appNew_created listed wanted
          rw [appNew_entry, listed] at created
          rw [created]
          exact ⟨rfl, .inr ⟨free, by simp [names, append, newApp, App.readFrom, App.placeAt], rfl⟩⟩
  | some known =>
      obtain ⟨id, app⟩ := known
      have taken : manager.findAppWithBasename basename = some id := by rw [found, listed]; rfl
      have known := (tidy.entry_iff.mp listed).2.1
      have never : manager.findAppWithBasename basename ≠ none := by simp [taken]
      dsimp only
      split_ifs
      · exact ⟨rfl, .inl ⟨names_modifyApp id (fun _ => rfl), fun free => absurd free never⟩⟩
      · exact ⟨rfl, .inl ⟨names_modifyApp id (fun _ => rfl), fun free => absurd free never⟩⟩
      cases wanted : disk.wanted ⟨dir, basename⟩ with
      | none =>
          rw [loadApp_unwanted wanted]
          exact ⟨rfl, .inl ⟨rfl, fun _ => rfl⟩⟩
      | some keyFile =>
          obtain ⟨loaded, launches⟩ := wanted_some wanted
          simp only [loadApp, loaded, launches, Bool.not_true, Bool.false_eq_true, if_false]
          split_ifs
          · exact ⟨rfl, .inl ⟨rfl, fun _ => rfl⟩⟩
          · exact ⟨rfl, .inl ⟨names_set known rfl, fun free => absurd free never⟩⟩

theorem Tidy.shrinks_appNew (environment : Environment) (disk : Disk) (tidy : manager.Tidy)
    (path : Path) (index : Nat) :
    manager.Shrinks (manager.appNew environment disk path index).1 := by
  obtain ⟨apps, kept | ⟨_, names, _⟩⟩ := appNew_names environment disk tidy path index
  · exact .of_eq kept.1 apps
  · exact ⟨⟨[path.basename], names.symm⟩, apps ▸ List.Sublist.refl _⟩

/-- An app that is made for a basename that is not listed may be added to the list. -/
theorem Tidy.add_appNew (tidy : manager.Tidy) {path : Path} {index id : Nat} {made : AppManager}
    (free : manager.findAppWithBasename path.basename = none)
    (result : manager.appNew environment disk path index = (made, some id)) :
    (made.add id).Tidy := by
  have spec := appNew_names environment disk tidy path index
  rw [result] at spec
  obtain ⟨apps, ⟨_, nothing⟩ | ⟨_, names, new⟩⟩ := spec
  · exact absurd (nothing free) (by simp)
  · cases new
    exact tidy.listNew free names (congrArg (List.cons manager.objects.length) apps)

/-- The apps listed so far come from earlier directories, or from other files of this one. -/
def Earlier (manager : AppManager) (index : Nat) (names : List String) : Prop :=
  ∀ id ∈ manager.apps, ∀ app, manager.objects[id]? = some app →
    app.xdgPosition < index ∨ app.xdgPosition = index ∧ app.basename ∉ names

theorem Earlier.add_new {index : Nat} {files : List String} (earlier : manager.Earlier index files)
    (app : App) (here : app.xdgPosition = index) (new : app.basename ∉ files) :
    ((manager.append app).add manager.objects.length).Earlier index files := by
  intro id member other known
  change (manager.objects ++ [app])[id]? = some other at known
  rcases Nat.lt_or_ge id manager.objects.length with old | beyond
  · rw [List.getElem?_append_left old] at known
    rcases List.mem_cons.mp member with last | listed
    · omega
    · exact earlier id listed other known
  · rw [List.getElem?_append_right beyond] at known
    have same := List.mem_singleton.mp (List.mem_of_getElem? known)
    rw [same]
    exact .inr ⟨here, new⟩

theorem Earlier.replace {index id : Nat} {files : List String} {app changed : App}
    (earlier : manager.Earlier index files) (known : manager.objects[id]? = some app)
    (position : changed.xdgPosition = app.xdgPosition) (named : changed.basename = app.basename) :
    (manager.replace id changed).Earlier index files := by
  intro place member other found
  by_cases here : place = id
  · subst here
    have inside := (List.getElem?_eq_some_iff.mp known).1
    simp only [AppManager.replace, List.getElem?_set_self inside, Option.some.injEq] at found
    rw [← found, position, named]
    exact earlier place member app known
  · rw [AppManager.replace, List.getElem?_set_ne (Ne.symm here)] at found
    exact earlier place member other found

theorem Tidy.fillFromDir (environment : Environment) (tidy : manager.Tidy) {index : Nat}
    {dir : String} {files : List String}
    (distinct : files.Nodup) (earlier : manager.Earlier index files) :
    (AppManager.fillFromDir environment disk index dir files manager).Tidy ∧
      (AppManager.fillFromDir environment disk index dir files manager).Earlier index [] := by
  induction files generalizing manager with
  | nil => exact ⟨tidy, earlier⟩
  | cons name files ih =>
      obtain ⟨new, distinct⟩ := List.nodup_cons.mp distinct
      have fewer : manager.Earlier index files := by
        intro id member app known
        rcases earlier id member app known with before | ⟨here, other⟩
        · exact .inl before
        · exact .inr ⟨here, fun listed => other (List.mem_cons_of_mem _ listed)⟩
      unfold AppManager.fillFromDir
      by_cases desktop : isDesktopFile name = true
      · rw [if_pos desktop]
        cases listed : manager.entry name with
        | none =>
            have unlisted : manager.view name = none := by rw [view, listed]; rfl
            cases wanted : disk.wanted ⟨dir, name⟩ with
            | none =>
                rw [appNew_entry, listed]
                dsimp only
                rw [loadApp_unwanted wanted]
                exact ih tidy distinct fewer
            | some keyFile =>
                rw [appNew_created listed wanted]
                refine ih (tidy.add unlisted rfl).tidy distinct ?_
                exact fewer.add_new (newApp environment ⟨dir, name⟩ keyFile index) rfl new
        | some found =>
            obtain ⟨id, app⟩ := found
            obtain ⟨member, known, same⟩ := tidy.entry_iff.mp listed
            rcases earlier id member app known with before | ⟨_, other⟩
            · rw [appNew_outranked tidy listed before]
              exact ih (tidy.shrinks (.of_eq (names_set known rfl) rfl)) distinct
                (fewer.replace known rfl rfl)
            · exact absurd (same ▸ List.mem_cons_self) other
      · rw [if_neg desktop]
        exact ih tidy distinct fewer

theorem Tidy.fillDirs (tidy : manager.Tidy) (once : ∀ dir, (disk.listing dir).Nodup)
    {dirs : List String} {start : Nat}
    (earlier : ∀ id ∈ manager.apps, ∀ app, manager.objects[id]? = some app →
      app.xdgPosition < start) :
    (AppManager.fillDirs environment disk (dirs.zipIdx start) manager).Tidy := by
  induction dirs generalizing manager start with
  | nil => exact tidy
  | cons dir dirs ih =>
      rw [List.zipIdx_cons]
      unfold AppManager.fillDirs
      split_ifs with known
      · refine ih tidy fun id member app there => ?_
        have low := earlier id member app there
        omega
      · have added : ({ manager with dirs := ⟨dir, start⟩ :: manager.dirs } : AppManager).Tidy :=
          tidy.shrinks (.of_eq rfl rfl)
        obtain ⟨filled, positions⟩ := added.fillFromDir environment (once dir)
          (fun id member app there => .inl (earlier id member app there))
        refine ih filled fun id member app there => ?_
        rcases positions id member app there with before | ⟨here, _⟩ <;> omega

theorem Tidy.fill (tidy : manager.Tidy) (once : ∀ dir, (disk.listing dir).Nodup) :
    (manager.fill environment disk).Tidy := by
  unfold AppManager.fill
  split_ifs with listed
  · exact tidy
  · have empty := not_not.mp listed
    apply tidy.fillDirs once
    intro id member
    simp [empty] at member

theorem Tidy.monitorChanged (tidy : manager.Tidy) (path : Path) :
    (manager.monitorChanged environment disk path).Tidy := by
  unfold AppManager.monitorChanged
  split_ifs
  · dsimp only
    cases visited : manager.getDirIndex path.dir with
    | none => exact tidy
    | some index =>
        have kept := tidy.shrinks (tidy.shrinks_appNew environment disk path index)
        cases result : manager.appNew environment disk path index with
        | mk made id =>
            rw [result] at kept
            cases found : manager.findAppWithBasename path.basename with
            | none =>
                cases id with
                | none => simpa only [result] using kept
                | some id => simpa only [result] using tidy.add_appNew found result
            | some _ => simpa only [result] using kept
  · exact tidy

theorem Tidy.reloadAt (tidy : manager.Tidy) (id : Nat) (path : Path) (index : Nat) :
    (manager.reloadAt environment disk id path index).Tidy := by
  have moved : (manager.modifyApp id (fun app => { app with xdgPosition := gMaxUint })).Tidy :=
    tidy.shrinks (.of_eq (names_modifyApp id fun _ => rfl) rfl)
  exact moved.shrinks (moved.shrinks_appNew environment disk path index)

theorem Tidy.monitorDeleted (tidy : manager.Tidy) (path : Path) :
    (manager.monitorDeleted environment disk path).Tidy := by
  have handled : ∀ id app index,
      (manager.handleDelete environment disk id app path.basename index).Tidy := by
    intro id app index
    unfold AppManager.handleDelete
    dsimp only
    split_ifs
    · exact tidy
    · exact tidy
    · exact tidy.shrinks (.of_eq rfl rfl)
    · exact tidy.shrinks (shrinks_appRemoved id)
    · exact tidy.shrinks (.of_eq (names_modifyApp id (fun _ => rfl)) rfl)
    · split
      · exact tidy.reloadAt id _ _
      · exact tidy.shrinks (shrinks_appRemoved id)
    · exact tidy.shrinks (.of_eq rfl rfl)
  unfold AppManager.monitorDeleted
  split_ifs
  · split
    · split
      · exact handled _ _ _
      · exact tidy
    · exact tidy
  · exact tidy

/-- A file that is looked for: the plain one, and those with a number. -/
def candidate (base : String) (tried : Nat) : Path :=
  .ofFilename (base ++ (if tried = 0 then "" else "-" ++ toString tried) ++ ".desktop")

/-- The files that are looked for, in their order. -/
def candidates (environment : Environment) (suggested : String) : List Path :=
  (List.range 9999).map (candidate (basePath environment suggested))

/-- No listed app has the basename, and there is no file for it. -/
def Free (environment : Environment) (disk : Disk) (manager : AppManager) (basename : String) :
    Prop :=
  manager.findAppWithBasename basename = none ∧
    disk.present ⟨environment.userAutostartDir, basename⟩ = false

/-- The file is there, and an app with its basename is listed. -/
def ThereAndListed (disk : Disk) (manager : AppManager) (file : Path) : Prop :=
  (manager.findAppWithBasename file.basename).isSome ∧ disk.present file

/-- The search gives a free basename, or nothing when none that it may try is free. -/
structure FindsFree (environment : Environment) (disk : Disk) (manager : AppManager)
    (suggested : String) : Prop where
  free : ∀ basename, manager.findFreeBasename environment disk suggested = some basename →
    manager.Free environment disk basename
  nothing : (∀ file ∈ candidates environment suggested,
      ¬ manager.Free environment disk file.basename) →
    manager.findFreeBasename environment disk suggested = none

/-- Candidates that come before every free one are taken twice over: by an app
and by the file that is looked for. -/
def TakenTwice (environment : Environment) (disk : Disk) (manager : AppManager)
    (suggested : String) : Prop :=
  ∀ taken others, candidates environment suggested = taken ++ others →
    (∀ file ∈ taken, ¬ manager.Free environment disk file.basename) →
      ∀ file ∈ taken, manager.ThereAndListed disk file

instance (file : Path) : Decidable (manager.ThereAndListed disk file) :=
  inferInstanceAs (Decidable (_ ∧ _))

theorem findFree_eq (base : String) (fuel tried : Nat) :
    manager.findFree disk base (if tried = 0 then "" else "-" ++ toString tried) fuel (tried + 1) =
      (((List.range' tried fuel).map (candidate base)).find? (fun file =>
        ¬ manager.ThereAndListed disk file)).map Path.basename := by
  induction fuel generalizing tried with
  | zero => rfl
  | succ fuel ih =>
      have next := ih (tried + 1)
      rw [if_neg (Nat.succ_ne_zero tried)] at next
      rw [findFree, List.range'_succ, List.map_cons, List.find?_cons]
      change (if manager.ThereAndListed disk (candidate base tried) then _
        else some (candidate base tried).basename) = _
      by_cases skipped : manager.ThereAndListed disk (candidate base tried)
      · rw [if_pos skipped, decide_eq_false (not_not.mpr skipped)]
        exact next
      · rw [if_neg skipped, decide_eq_true skipped]
        rfl

theorem findFreeBasename_eq (suggested : String) :
    manager.findFreeBasename environment disk suggested =
      ((candidates environment suggested).find? (fun file =>
        ¬ manager.ThereAndListed disk file)).map Path.basename := by
  rw [findFreeBasename, candidates, List.range_eq_range']
  exact findFree_eq (basePath environment suggested) 9999 0

theorem Free.not_listed {file : Path} (free : manager.Free environment disk file.basename) :
    ¬ manager.ThereAndListed disk file := by
  intro there
  rw [ThereAndListed, free.1] at there
  exact absurd there.1 (by simp)

theorem FindsFree.takenTwice {suggested : String}
    (finds : manager.FindsFree environment disk suggested) :
    manager.TakenTwice environment disk suggested := by
  intro taken others split none_free file member
  by_contra single
  -- the search stops at this file or before it, and so among the taken ones
  have stops : (taken.find? (fun file => ¬ manager.ThereAndListed disk file)).isSome := by
    rw [List.find?_isSome]
    exact ⟨file, member, by simpa using single⟩
  obtain ⟨stop, found⟩ := Option.isSome_iff_exists.mp stops
  apply none_free stop (List.mem_of_find?_eq_some found)
  apply finds.free
  rw [findFreeBasename_eq, split, List.find?_append, found]
  rfl

theorem TakenTwice.findsFree {suggested : String}
    (twice : manager.TakenTwice environment disk suggested) :
    manager.FindsFree environment disk suggested := by
  constructor
  case free =>
    intro basename found
    rw [findFreeBasename_eq] at found
    obtain ⟨file, first, same⟩ := Option.map_eq_some_iff.mp found
    rw [← same]
    obtain ⟨stops, skipped, others, split, passed⟩ := List.find?_eq_some_iff_append.mp first
    by_contra taken
    -- were it taken, it would be one of those taken twice, and these are skipped
    have there := twice (skipped ++ [file]) others (by simpa using split)
    have both := there (fun other member => ?_) file (by simp)
    · simp [both] at stops
    · rcases List.mem_append.mp member with before | here
      · intro free
        exact free.not_listed (by simpa using passed other before)
      · rw [List.mem_singleton.mp here]
        exact taken
  case nothing =>
    intro taken
    rw [findFreeBasename_eq, Option.map_eq_none_iff, List.find?_eq_none]
    intro file member
    have there := twice (candidates environment suggested) [] (by simp) taken file member
    simpa using there

theorem findsFree_iff (suggested : String) :
    manager.FindsFree environment disk suggested ↔
      manager.TakenTwice environment disk suggested :=
  ⟨FindsFree.takenTwice, TakenTwice.findsFree⟩

theorem Tidy.createApp (tidy : manager.Tidy) (name comment : Option String) (exec : String)
    (delay : UInt32) (argv0 : Option String)
    (finds : textIsBlank (some exec) = false → ∀ suggested, argv0 = some suggested →
      manager.FindsFree environment disk suggested) :
    (manager.createApp environment disk name comment exec delay argv0).Tidy := by
  unfold AppManager.createApp
  by_cases blank : textIsBlank (some exec) = true
  · rw [if_pos blank]
    exact tidy
  · rw [if_neg blank]
    cases result : argv0.bind (manager.findFreeBasename environment disk) with
    | none => exact tidy
    | some basename =>
        obtain ⟨suggested, given, found⟩ := Option.bind_eq_some_iff.mp result
        have free := (finds (by simpa using blank) suggested given).free basename found
        exact tidy.listNew free.1 (by simp [names, AppManager.add]) rfl

theorem Tidy.copyDesktopFile (tidy : manager.Tidy) (source : String) (copied : Bool)
    (finds : manager.FindsFree environment disk source) :
    (manager.copyDesktopFile environment disk source copied).Tidy := by
  unfold AppManager.copyDesktopFile
  cases found : manager.findFreeBasename environment disk source with
  | none => exact tidy
  | some basename =>
      have free := (finds.free basename found).1
      dsimp only
      split_ifs
      · exact tidy
      · let path : Path := ⟨environment.userAutostartDir, basename⟩
        have logged : ({ manager with effects := .copied path :: manager.effects } :
            AppManager).Tidy := tidy.shrinks (.of_eq rfl rfl)
        have made := logged.shrinks (logged.shrinks_appNew environment disk path 0)
        split
        · next made' result =>
            rw [result] at made
            exact made.shrinks (.of_eq rfl rfl)
        · next made' id result =>
            have unlisted : ({ manager with effects := .copied path :: manager.effects } :
                AppManager).findAppWithBasename path.basename = none := free
            have added := logged.add_appNew unlisted result
            exact added.shrinks (.of_eq (names_modifyApp id fun app => app.showCopy_basename) rfl)

end AppManager

/-- The suggestion that an event looks for a free basename with. -/
def Event.search : Event → Option (String × Disk)
  | .create _ _ exec _ argv0 disk =>
      if textIsBlank (some exec) then none else argv0.map (fun suggested => (suggested, disk))
  | .copyDesktopFile source _ disk => some (source, disk)
  | _ => none

/-- No directory lists a file twice. -/
def Event.ListsOnce : Event → Prop
  | .fill disk => ∀ dir, (disk.listing dir).Nodup
  | _ => True

namespace AppManager

variable {manager before after : AppManager}

/-- No app is listed twice, and no two with the same basename. -/
def UniqueBasenames (manager : AppManager) : Prop :=
  manager.apps.Nodup ∧ (manager.apps.map manager.basenameOf).Nodup

/-- Each search of the event is such. -/
def Searches (such : Disk → AppManager → String → Prop) (manager : AppManager) (event : Event) :
    Prop :=
  ∀ suggested disk, event.search = some (suggested, disk) → such disk manager suggested

theorem Tidy.step (tidy : before.Tidy) {event : Event}
    (finds : before.Searches (FindsFree environment) event) (once : event.ListsOnce)
    (stepped : before.step environment event = some after) : after.Tidy := by
  unfold AppManager.step at stepped
  split at stepped
  · cases stepped
  have known : ∀ {id : Nat} {app : App}, before.live id = some app →
      before.objects[id]? = some app := fun live => Option.filter_eq_some_iff.mp live |>.1
  cases event with
  | disposed id disk =>
      dsimp only at stepped
      split_ifs at stepped
      obtain ⟨app, live, same⟩ := Option.map_eq_some_iff.mp stepped
      rw [← same]
      exact tidy.shrinks (shrinks_finish (known live) (app.dispose_basename _))
  | saveTimeout id disk =>
      obtain ⟨app, live, saved⟩ := Option.bind_eq_some_iff.mp stepped
      split_ifs at saved
      cases saved
      exact tidy.shrinks (shrinks_finish (known live) (app.save_basename _))
  | managerDisposed =>
      cases stepped
      exact tidy.shrinks ⟨List.prefix_refl _, List.nil_sublist _⟩
  | fill disk =>
      dsimp only at stepped
      split_ifs at stepped
      cases stepped
      exact tidy.fill once
  | update id name comment exec delay =>
      dsimp only at stepped
      split_ifs at stepped
      obtain ⟨app, live, same⟩ := Option.map_eq_some_iff.mp stepped
      rw [← same]
      exact tidy.shrinks (shrinks_finish (known live) (app.update_basename _ _ _ _))
  | setEnabled id enabled =>
      dsimp only at stepped
      split_ifs at stepped
      obtain ⟨app, live, same⟩ := Option.map_eq_some_iff.mp stepped
      rw [← same]
      exact tidy.shrinks (shrinks_finish (known live) (app.setEnabled_basename _))
  | delete id disk =>
      dsimp only at stepped
      split_ifs at stepped
      obtain ⟨app, live, same⟩ := Option.map_eq_some_iff.mp stepped
      have finished : (before.finish id
          ((app.delete environment disk).1, (app.delete environment disk).2.2)).Tidy :=
        tidy.shrinks (shrinks_finish (known live) app.delete_basename)
      rw [← same]
      split_ifs
      · exact finished.shrinks (shrinks_appRemoved id)
      · exact finished
  | create name comment exec delay argv0 disk =>
      dsimp only at stepped
      split_ifs at stepped
      cases stepped
      apply tidy.createApp
      intro filled suggested given
      apply finds suggested disk
      simp [Event.search, filled, given]
  | copyDesktopFile source copied disk =>
      dsimp only at stepped
      split_ifs at stepped
      cases stepped
      exact tidy.copyDesktopFile source copied (finds source disk rfl)
  | changed path disk =>
      dsimp only at stepped
      split_ifs at stepped
      cases stepped
      exact tidy.monitorChanged path
  | deleted path disk =>
      dsimp only at stepped
      split_ifs at stepped
      cases stepped
      exact tidy.monitorDeleted path

/-- Along every run the basenames stay different and the searches find free ones just when
no candidate before the first free one is taken only by an app or only by a file. -/
theorem basenames_unique_iff (environment : Environment) (events : List Event)
    (once : ∀ event ∈ events, event.ListsOnce) :
    (appManagerSystem environment).Always UniqueBasenames {} events ∧
        (appManagerSystem environment).Meets (Searches (FindsFree environment)) {} events ↔
      (appManagerSystem environment).Meets (Searches (TakenTwice environment)) {} events := by
  have same : (appManagerSystem environment).Meets (Searches (FindsFree environment)) {} events ↔
      (appManagerSystem environment).Meets (Searches (TakenTwice environment)) {} events := by
    apply System.meets_congr (fun _ => True) (fun _ _ _ _ _ => trivial) _ trivial
    intro manager event _
    exact forall_congr' fun suggested => forall_congr' fun disk => forall_congr' fun _ =>
      findsFree_iff suggested
  rw [same]
  constructor
  · exact fun both => both.2
  · intro meets
    refine ⟨?_, meets⟩
    have start : (({} : AppManager)).Tidy := ⟨nofun, List.nodup_nil⟩
    have tidy : (appManagerSystem environment).Always Tidy {} events := by
      apply ((same.mpr meets).and_forall once).always _ start
      intro before event after tidy condition stepped
      exact tidy.step condition.1 condition.2 stepped
    exact tidy.imp fun manager tidy => ⟨tidy.nodup, tidy.distinct⟩

section Example

/-- One system file is listed, and an app is created under its name. -/
def createListed : List Event :=
  [.fill oneSystemFile, .create none none "foo" 0 (some "foo") oneSystemFile]

theorem listsOnce_createListed : ∀ event ∈ createListed, event.ListsOnce := by
  intro event member
  simp only [createListed, List.mem_cons, List.not_mem_nil, or_false] at member
  rcases member with fill | create
  · rw [fill]
    intro dir
    simp only [oneSystemFile]
    split_ifs
    · exact List.nodup_singleton _
    · exact List.nodup_nil
  · rw [create]
    trivial

theorem basenames_unique_createListed :
    (appManagerSystem oneSystemDir).Always UniqueBasenames {} createListed ∧
        (appManagerSystem oneSystemDir).Meets (Searches (FindsFree oneSystemDir)) {} createListed ↔
      (appManagerSystem oneSystemDir).Meets (Searches (TakenTwice oneSystemDir)) {}
        createListed :=
  basenames_unique_iff oneSystemDir createListed listsOnce_createListed

theorem candidates_foo : ∃ others, candidates oneSystemDir "foo" =
    [⟨"/home/u/.config/autostart", "foo.desktop"⟩] ++ others := by
  refine ⟨(List.range' 1 9998).map (candidate (basePath oneSystemDir "foo")), ?_⟩
  have plain : candidate (basePath oneSystemDir "foo") 0 =
      ⟨"/home/u/.config/autostart", "foo.desktop"⟩ := by decide
  rw [candidates, List.range_eq_range', ← plain]
  exact congrArg (List.map (candidate (basePath oneSystemDir "foo")))
    (List.range'_succ (s := 0) (n := 9998))

/-- The new app gets the basename of the listed one. -/
theorem created_under_listed_name :
    ¬ ((appManagerSystem oneSystemDir).Always UniqueBasenames {} createListed ∧
      (appManagerSystem oneSystemDir).Meets (Searches (FindsFree oneSystemDir)) {}
        createListed) := by
  intro ⟨_, meets⟩
  have filled : (appManagerSystem oneSystemDir).step {} (.fill oneSystemFile) =
      some ((({} : AppManager)).fill oneSystemDir oneSystemFile) := rfl
  have search : Event.search (.create none none "foo" 0 (some "foo") oneSystemFile) =
      some ("foo", oneSystemFile) := by
    rw [Event.search, if_neg (by decide)]
    rfl
  have finds := (meets.2 _ filled).1 "foo" oneSystemFile search
  obtain ⟨others, tried⟩ := candidates_foo
  have listed : ((({} : AppManager)).fill oneSystemDir oneSystemFile).findAppWithBasename
      "foo.desktop" = some 0 := by decide
  have there := finds.takenTwice _ others tried (fun file member free => ?_)
    _ (List.mem_singleton_self _)
  · exact absurd there.2 (by decide)
  · rw [List.mem_singleton.mp member, Free, listed] at free
    exact absurd free.1 (by simp)

end Example

end AppManager

end CafeSession.Capplet

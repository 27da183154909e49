import CafeSession.Autostart.DesktopFile
import CafeSession.Capplet.Scan
import CafeSession.Serial.Objects

namespace CafeSession.Autostart

open CafeSession.Shell
open CafeSession.Capplet (Contents Path isDesktopFile)

abbrev slash : UInt8 := 47

/-- The bytes of a text. -/
def utf8 (text : String) : Bytes :=
  text.toUTF8.data.toList

def encode (keyFile : Capplet.KeyFile) : KeyFile :=
  ⟨keyFile.entries.map (fun entry => (entry.1, utf8 entry.2))⟩

/-- `g_build_filename`. -/
def buildFilename (path : Path) : Bytes :=
  utf8 path.dir ++ slash :: utf8 path.basename

/-- What follows the last slash. -/
def lastComponent (location : Bytes) : Bytes :=
  (location.reverse.takeWhile (fun byte => byte ≠ slash)).reverse

/-- A `CsmAutostartApp` as a `CsmApp`. -/
structure AutostartApp where
  id : Serial.Key
  path : Path
  app : App

namespace AutostartApp

/-- `csm_autostart_app_get_app_id`. -/
def appId (app : AutostartApp) : Option Bytes :=
  app.app.desktopFile.source.map lastComponent

/-- `csm_autostart_app_new`, with the serial that its constructor takes. -/
def new (libraries : Libraries) (contents : Contents) (serial : UInt32) (path : Path) :
    Option AutostartApp :=
  ((contents.files path).join.bind (fun keyFile =>
    DesktopFile.new libraries (encode keyFile) (some (buildFilename path)))).map (fun file =>
      ⟨Serial.Kind.app.key serial, path, App.loadDesktopFile libraries file⟩)

end AutostartApp

/-- The store of apps, with the counter that their ids come from. -/
structure AppStore where
  serial : UInt32 := 1
  apps : List AutostartApp := []

namespace AppStore

/-- `append_app`. -/
def appendApp (store : AppStore) (app : AutostartApp) : AppStore :=
  if app.id = .objectPath "" then store
  else if store.apps.any (fun dup => dup.id = app.id) then store
  else match app.appId with
    | none => store
    | some appId =>
        if appId = [] then store
        else if store.apps.any (fun dup => dup.appId = some appId) then store
        else { store with apps := store.apps ++ [app] }

section Add

variable (libraries : Libraries) (contents : Contents)

/-- `csm_manager_add_autostart_app` without a service to provide.  The serial is
spent even if the file cannot be read. -/
def addAutostartApp (store : AppStore) (path : Path) : AppStore :=
  let made := { store with serial := Serial.next store.serial }
  match AutostartApp.new libraries contents store.serial path with
  | none => made
  | some app => made.appendApp app

/-- `csm_manager_add_autostart_apps_from_dir`. -/
def addAutostartAppsFromDir (store : AppStore) (dir : String) : AppStore :=
  ((contents.listing dir).filter isDesktopFile).foldl
    (fun store name => store.addAutostartApp libraries contents ⟨dir, name⟩) store

/-- The loop of `load_standard_apps`. -/
def addAutostartApps (store : AppStore) (dirs : List String) : AppStore :=
  dirs.foldl (addAutostartAppsFromDir libraries contents) store

end Add

/-- The file of the app that the store has under a basename. -/
def kept (store : AppStore) (basename : String) : Option Path :=
  (store.apps.find? (fun app => app.path.basename = basename)).map AutostartApp.path

end AppStore

/-- The desktop files in the order in which they are read. -/
def visited (contents : Contents) (dirs : List String) : List Path :=
  dirs.flatMap (fun dir =>
    ((contents.listing dir).filter isDesktopFile).map (fun name => ⟨dir, name⟩))

theorem addAutostartApps_eq (libraries : Libraries) (contents : Contents) (store : AppStore)
    (dirs : List String) :
    store.addAutostartApps libraries contents dirs =
      (visited contents dirs).foldl (AppStore.addAutostartApp libraries contents) store := by
  rw [visited, List.foldl_flatMap, AppStore.addAutostartApps]
  congr 1
  funext store dir
  rw [AppStore.addAutostartAppsFromDir, List.foldl_map]

/-- What `g_filename_to_uri` makes of the name of a file. -/
structure EscapesNames (libraries : Libraries) (escape : Bytes → Bytes) : Prop where
  injective : escape.Injective
  empty : escape [] = []
  uri : ∀ path, isAbsolute path = true → ∃ uri, libraries.filenameToUri path = some uri ∧
    lastComponent uri = escape (lastComponent path)

theorem utf8_injective : utf8.Injective := by
  intro one other same
  have bytes : one.toByteArray = other.toByteArray := ByteArray.ext (Array.toList_inj.mp same)
  exact String.toByteArray_inj.mp bytes

theorem lastComponent_append {front name : Bytes} (plain : slash ∉ name) :
    lastComponent (front ++ slash :: name) = name := by
  have last : ∀ byte ∈ name.reverse, decide (byte ≠ slash) = true := by
    intro byte member
    have different : byte ≠ slash := by
      rintro rfl
      exact plain (List.mem_reverse.mp member)
    exact decide_eq_true different
  rw [lastComponent, List.reverse_append, List.reverse_cons, List.append_assoc,
    List.takeWhile_append_of_pos last]
  simp

variable {libraries : Libraries} {contents : Contents} {escape : Bytes → Bytes}
variable {store : AppStore} {seen : List Path} {path : Path}

theorem DesktopFile.new_source {keyFile : KeyFile} {source : Bytes} {file : DesktopFile}
    (absolute : isAbsolute source = true)
    (made : DesktopFile.new libraries keyFile (some source) = some file) :
    file.source = libraries.filenameToUri source := by
  simp only [DesktopFile.new, Option.bind_some, absolute, if_true] at made
  split at made
  · cases made
  · obtain ⟨name, _, made⟩ := Option.bind_eq_some_iff.mp made
    obtain ⟨type, _, made⟩ := Option.bind_eq_some_iff.mp made
    split_ifs at made
    · obtain ⟨_, _, rfl⟩ := Option.map_eq_some_iff.mp made
      rfl
    · obtain ⟨_, _, rfl⟩ := Option.map_eq_some_iff.mp made
      rfl
    · cases made
      rfl
    · cases made
      rfl

theorem App.desktopFile_loadDesktopFile (file : DesktopFile) :
    (App.loadDesktopFile libraries file).desktopFile = file := by
  unfold App.loadDesktopFile
  split <;> rfl

/-- A desktop file with an absolute name that can be read and parsed. -/
structure Readable (libraries : Libraries) (contents : Contents) (path : Path) : Prop where
  desktop : isDesktopFile path.basename = true
  absolute : isAbsolute (utf8 path.dir) = true
  plain : slash ∉ utf8 path.basename
  parses : ∃ keyFile, contents.files path = some (some keyFile) ∧
    (DesktopFile.new libraries (encode keyFile) (some (buildFilename path))).isSome = true

/-- The app id of a file is its name, escaped. -/
theorem AutostartApp.new_readable (escapes : EscapesNames libraries escape)
    (readable : Readable libraries contents path) (serial : UInt32) :
    ∃ app, AutostartApp.new libraries contents serial path = some app ∧
      app.id = Serial.Kind.app.key serial ∧ app.path = path ∧
      app.appId = some (escape (utf8 path.basename)) := by
  obtain ⟨keyFile, there, parses⟩ := readable.parses
  obtain ⟨file, made⟩ := Option.isSome_iff_exists.mp parses
  refine ⟨⟨Serial.Kind.app.key serial, path, App.loadDesktopFile libraries file⟩, ?_, rfl, rfl, ?_⟩
  · simp [AutostartApp.new, there, made]
  · have absolute : isAbsolute (buildFilename path) = true := by
      have first := readable.absolute
      cases bytes : utf8 path.dir with
      | nil => simp [isAbsolute, bytes] at first
      | cons byte rest => simpa [isAbsolute, buildFilename, bytes] using first
    obtain ⟨uri, escaped, last⟩ := escapes.uri _ absolute
    rw [AutostartApp.appId, App.desktopFile_loadDesktopFile, DesktopFile.new_source absolute made,
      escaped, Option.map_some, last, buildFilename, lastComponent_append readable.plain]

/-- The store after these files have been read. -/
structure AppStore.Holds (escape : Bytes → Bytes) (seen : List Path) (store : AppStore) : Prop where
  serial : store.serial = Serial.after seen.length
  ids : ∀ app ∈ store.apps, ∃ made < seen.length,
    app.id = Serial.Kind.app.key (Serial.after made)
  appIds : ∀ app ∈ store.apps, app.appId = some (escape (utf8 app.path.basename))
  kept : ∀ basename, store.kept basename = seen.find? (fun path => path.basename = basename)

namespace AppStore

theorem kept_append (app : AutostartApp) (basename : String) :
    ({ store with apps := store.apps ++ [app] } : AppStore).kept basename =
      (store.kept basename).or ([app.path].find? (fun path => path.basename = basename)) := by
  simp only [kept, List.find?_append, Option.map_or]
  by_cases named : app.path.basename = basename <;> simp [named]

/-- An app id that is in the store is that of a file of the same name. -/
theorem Holds.dup_iff (holds : store.Holds escape seen) (injective : escape.Injective)
    (basename : String) :
    store.apps.any (fun dup => dup.appId = some (escape (utf8 basename))) = true ↔
      (store.kept basename).isSome = true := by
  rw [AppStore.kept, Option.isSome_map, List.find?_isSome, List.any_eq_true]
  refine exists_congr fun app => and_congr_right fun member => ?_
  rw [holds.appIds app member, decide_eq_true_eq, decide_eq_true_eq, Option.some.injEq,
    injective.eq_iff, utf8_injective.eq_iff]

theorem key_ne_empty (serial : UInt32) : Serial.Kind.app.key serial ≠ .objectPath "" := by
  intro same
  have texts := congrArg String.toList (Serial.Key.objectPath.inj same)
  simp at texts

theorem Holds.fresh (holds : store.Holds escape seen) (few : seen.length < Serial.period) :
    ∀ dup ∈ store.apps, dup.id ≠ Serial.Kind.app.key store.serial := by
  intro dup member same
  obtain ⟨made, earlier, id⟩ := holds.ids dup member
  rw [id, holds.serial, (Serial.Kind.key_injective .app).eq_iff, Serial.after_eq_iff,
    Nat.mod_eq_of_lt (by omega), Nat.mod_eq_of_lt few] at same
  omega

theorem named_of_desktop (desktop : isDesktopFile path.basename = true) :
    utf8 path.basename ≠ [] := by
  intro empty
  have blank : path.basename = "" := utf8_injective empty
  rw [blank] at desktop
  exact absurd desktop (by decide)

theorem Holds.addAutostartApp_eq (holds : store.Holds escape seen)
    (escapes : EscapesNames libraries escape) (readable : Readable libraries contents path)
    (few : seen.length < Serial.period) :
    ∃ app : AutostartApp, app.id = Serial.Kind.app.key (Serial.after seen.length) ∧
      app.path = path ∧ app.appId = some (escape (utf8 path.basename)) ∧
      store.addAutostartApp libraries contents path =
        { serial := Serial.after (seen.length + 1)
          apps := if (store.kept path.basename).isSome then store.apps else store.apps ++ [app] } := by
  obtain ⟨app, made, id, same, appId⟩ :=
    AutostartApp.new_readable escapes readable store.serial
  refine ⟨app, by rw [id, holds.serial], same, appId, ?_⟩
  have unused : store.apps.any (fun dup => dup.id = Serial.Kind.app.key store.serial) = false := by
    rw [List.any_eq_false]
    intro dup member
    simpa using holds.fresh few dup member
  have named : escape (utf8 path.basename) ≠ [] := by
    rw [← escapes.empty]
    exact escapes.injective.ne (named_of_desktop readable.desktop)
  have next : Serial.next store.serial = Serial.after (seen.length + 1) := by
    rw [holds.serial]
    rfl
  have dup_iff := holds.dup_iff escapes.injective path.basename
  simp only [addAutostartApp, made, appendApp, id, key_ne_empty, unused, appId, named, dup_iff,
    next, if_false, Bool.false_eq_true]
  split_ifs <;> rfl

theorem Holds.add (holds : store.Holds escape seen) (escapes : EscapesNames libraries escape)
    (readable : Readable libraries contents path) (few : seen.length < Serial.period) :
    (store.addAutostartApp libraries contents path).Holds escape (seen ++ [path]) := by
  obtain ⟨app, id, rfl, appId, result⟩ := holds.addAutostartApp_eq escapes readable few
  have length : (seen ++ [app.path]).length = seen.length + 1 := by simp
  have kept := holds.kept
  rw [result]
  split_ifs with dup
  · refine ⟨by rw [length], ?_, holds.appIds, fun basename => ?_⟩
    · intro other member
      obtain ⟨made, before, named⟩ := holds.ids other member
      exact ⟨made, by omega, named⟩
    · rw [List.find?_append, ← kept]
      change store.kept basename = _
      by_cases named : app.path.basename = basename
      · obtain ⟨first, found⟩ := Option.isSome_iff_exists.mp (named ▸ dup)
        rw [found, Option.some_or]
      · simp [named]
  · refine ⟨by rw [length], ?_, ?_, fun basename => ?_⟩
    · intro other member
      rcases List.mem_append.mp member with old | new
      · obtain ⟨made, before, named⟩ := holds.ids other old
        exact ⟨made, by omega, named⟩
      · obtain rfl := List.mem_singleton.mp new
        exact ⟨seen.length, by omega, id⟩
    · intro other member
      rcases List.mem_append.mp member with old | new
      · exact holds.appIds other old
      · obtain rfl := List.mem_singleton.mp new
        exact appId
    · rw [List.find?_append, ← kept]
      exact kept_append app basename

theorem Holds.addAll (holds : store.Holds escape seen) (escapes : EscapesNames libraries escape)
    {paths : List Path} (readable : ∀ path ∈ paths, Readable libraries contents path)
    (few : (seen ++ paths).length ≤ Serial.period) :
    (paths.foldl (addAutostartApp libraries contents) store).Holds escape (seen ++ paths) := by
  induction paths generalizing seen store with
  | nil => simpa using holds
  | cons path paths ih =>
      rw [List.length_append, List.length_cons] at few
      have next := holds.add escapes (readable path (by simp)) (by omega)
      have rest := ih next (fun other member => readable other (by simp [member]))
        (by simp only [List.length_append, List.length_cons, List.length_nil]; omega)
      rwa [List.append_assoc] at rest

theorem holds_empty : ({} : AppStore).Holds escape [] :=
  ⟨rfl, nofun, nofun, fun _ => rfl⟩

end AppStore

theorem find_listed {dir basename : String} (desktop : isDesktopFile basename = true) :
    (((contents.listing dir).filter isDesktopFile).map (fun name => (⟨dir, name⟩ : Path))).find?
        (fun path => path.basename = basename) =
      if (contents.files ⟨dir, basename⟩).isSome then some ⟨dir, basename⟩ else none := by
  simp only [List.find?_map, List.find?_filter, Function.comp_def]
  cases search : (contents.listing dir).find? (fun name =>
      decide (isDesktopFile name = true ∧ decide (name = basename) = true)) with
  | none =>
      have absent : ¬ (contents.files ⟨dir, basename⟩).isSome = true := by
        intro present
        have member := (contents.lists dir basename).mpr present
        simpa [desktop] using List.find?_eq_none.mp search basename member
      rw [if_neg absent]
      rfl
  | some name =>
      obtain ⟨_, rfl⟩ := by simpa using List.find?_some search
      rw [if_pos ((contents.lists dir name).mp (List.mem_of_find?_eq_some search))]
      rfl

theorem visited_find {dirs : List String} {basename : String}
    (desktop : isDesktopFile basename = true) :
    (visited contents dirs).find? (fun path => path.basename = basename) =
      (dirs.find? (fun dir => (contents.files ⟨dir, basename⟩).isSome)).map
        (fun dir => ⟨dir, basename⟩) := by
  induction dirs with
  | nil => rfl
  | cons dir dirs ih =>
      have rest : visited contents (dir :: dirs) =
          ((contents.listing dir).filter isDesktopFile).map (fun name => ⟨dir, name⟩) ++
            visited contents dirs := rfl
      rw [rest, List.find?_append, find_listed desktop, ih, List.find?_cons]
      cases (contents.files ⟨dir, basename⟩).isSome <;> rfl

theorem desktop_of_visited {dirs : List String} (member : path ∈ visited contents dirs) :
    path.dir ∈ dirs ∧ path.basename ∈ contents.listing path.dir ∧
      isDesktopFile path.basename = true := by
  obtain ⟨dir, isDir, named⟩ := List.mem_flatMap.mp member
  obtain ⟨name, listed, rfl⟩ := List.mem_map.mp named
  exact ⟨isDir, List.mem_filter.mp listed⟩

end CafeSession.Autostart

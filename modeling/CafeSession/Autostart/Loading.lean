import CafeSession.Autostart.AppStore
import CafeSession.Autostart.CommandLine

namespace CafeSession.Autostart

open CafeSession.Shell
open CafeSession.Capplet (Contents Path isDesktopFile)

/-- The functions of GLib that look for key files and read lists in them. -/
structure KeyFileLibrary where
  /-- `g_key_file_get_string_list` of a value; `none` is its error -/
  stringList : Bytes → Option (List Bytes)
  /-- `g_key_file_load_from_dirs`: the full path, when a file was loaded -/
  loadFromDirs : String → List String → Option Path

/-- What `main.c` asks for before it loads the apps. -/
structure Settings where
  failsafe : Bool
  /-- the session is that of the login window -/
  isLogin : Bool
  autoSave : Bool
  /-- `csm_util_get_saved_session_dir` -/
  savedSessionDir : Option String
  autostartDirs : List String
  appDirs : List String
  defaultSession : List String
  requiredComponents : List String
  provider : String → String
  mobilityStartup : Bool
  mobilityExec : String
  visualStartup : Bool
  visualExec : String

/-- A file that is to be added, unless the service that it is for is provided. -/
structure Attempt where
  path : Path
  provides : Option String

/-- `csm_autostart_app_provides`. -/
def AutostartApp.provides (glib : KeyFileLibrary) (app : AutostartApp) (service : String) : Bool :=
  ((app.app.desktopFile.keyFile.getString "X-CAFE-Provides").bind glib.stringList).any
    (fun provided => provided.any (fun name => name = utf8 service))

section Load

variable (libraries : Libraries) (glib : KeyFileLibrary) (contents : Contents) (settings : Settings)

/-- `csm_util_find_desktop_file_for_app_name`. -/
def findDesktopFileForAppName (name : String) (autostartDirs : Option (List String)) :
    Option Path :=
  let find (desktopFile : String) : Option Path :=
    (glib.loadFromDirs desktopFile settings.appDirs).or
      (autostartDirs.bind (glib.loadFromDirs desktopFile))
  (find (name ++ ".desktop")).or (find ("cafe-" ++ name ++ ".desktop"))

namespace AppStore

/-- `csm_manager_add_autostart_app`. -/
def addAttempt (store : AppStore) (attempt : Attempt) : AppStore :=
  if attempt.provides.any (fun service =>
      store.apps.any (fun dup => dup.provides glib service)) then store
  else store.addAutostartApp libraries contents attempt.path

def addFound (store : AppStore) (path : Option Path) (provides : Option String) : AppStore :=
  match path with
  | some path => store.addAttempt libraries glib contents ⟨path, provides⟩
  | none => store

/-- `maybe_load_saved_session_apps`. -/
def maybeLoadSavedSessionApps (store : AppStore) : AppStore :=
  if !settings.isLogin && settings.autoSave then
    match settings.savedSessionDir with
    | some dir => store.addAutostartAppsFromDir libraries contents dir
    | none => store
  else store

/-- `append_default_apps`. -/
def appendDefaultApps (store : AppStore) : AppStore :=
  settings.defaultSession.foldl (fun store name =>
    if name = "" then store
    else store.addFound libraries glib contents
      (findDesktopFileForAppName glib settings name (some settings.autostartDirs)) none) store

/-- `append_required_apps`. -/
def appendRequiredApps (store : AppStore) : AppStore :=
  settings.requiredComponents.foldl (fun store component =>
    if component = "" then store
    else store.addFound libraries glib contents
      (findDesktopFileForAppName glib settings (settings.provider component) none)
      (some component)) store

/-- The part of `append_accessibility_apps` for one kind of technology. -/
def appendAccessibilityApp (startup : Bool) (exec : String) (store : AppStore) : AppStore :=
  if startup && exec ≠ "" then
    store.addFound libraries glib contents (findDesktopFileForAppName glib settings exec none) none
  else store

/-- `append_accessibility_apps`. -/
def appendAccessibilityApps (store : AppStore) : AppStore :=
  (store.appendAccessibilityApp libraries glib contents settings
    settings.mobilityStartup settings.mobilityExec).appendAccessibilityApp libraries glib contents
      settings settings.visualStartup settings.visualExec

/-- `load_standard_apps`. -/
def loadStandardApps (store : AppStore) : AppStore :=
  let started :=
    if settings.failsafe then store
    else (store.maybeLoadSavedSessionApps libraries contents settings).addAutostartApps
      libraries contents settings.autostartDirs
  ((started.appendDefaultApps libraries glib contents settings).appendRequiredApps libraries glib
    contents settings).appendAccessibilityApps libraries glib contents settings

end AppStore

/-- The files that have been found, for the services they are to provide. -/
def foundAttempts (names : List String) (find : String → Option Path)
    (provides : String → Option String) : List Attempt :=
  (names.filter (fun name => name ≠ "")).filterMap (fun name =>
    (find name).map (fun path => ⟨path, provides name⟩))

namespace Settings

/-- The files of directories, which are for no service. -/
def dirAttempts (dirs : List String) : List Attempt :=
  (visited contents dirs).map (fun path => ⟨path, none⟩)

def savedAttempts : List Attempt :=
  if !settings.isLogin && settings.autoSave then
    dirAttempts contents settings.savedSessionDir.toList
  else []

def requiredAttempts : List Attempt :=
  foundAttempts settings.requiredComponents
    (fun component => findDesktopFileForAppName glib settings (settings.provider component) none)
    some

def accessibilityAttempts (startup : Bool) (exec : String) : List Attempt :=
  if startup then
    foundAttempts [exec] (fun exec => findDesktopFileForAppName glib settings exec none)
      (fun _ => none)
  else []

/-- Everything that `load_standard_apps` tries to add. -/
def attempts : List Attempt :=
  (if settings.failsafe then []
    else settings.savedAttempts contents ++ dirAttempts contents settings.autostartDirs) ++
  foundAttempts settings.defaultSession
    (fun name => findDesktopFileForAppName glib settings name (some settings.autostartDirs))
    (fun _ => none) ++
  settings.requiredAttempts glib ++
  (settings.accessibilityAttempts glib settings.mobilityStartup settings.mobilityExec ++
    settings.accessibilityAttempts glib settings.visualStartup settings.visualExec)

end Settings

/-- A loop over names adds what is found under them. -/
theorem foldl_foundAttempts (names : List String) (find : String → Option Path)
    (provides : String → Option String) (store : AppStore) :
    names.foldl (fun store name =>
        if name = "" then store
        else store.addFound libraries glib contents (find name) (provides name)) store =
      (foundAttempts names find provides).foldl (AppStore.addAttempt libraries glib contents)
        store := by
  induction names generalizing store with
  | nil => rfl
  | cons name names ih =>
      rw [List.foldl_cons, ih]
      by_cases empty : name = ""
      · simp [foundAttempts, empty]
      · cases found : find name with
        | none => simp [foundAttempts, empty, found, AppStore.addFound]
        | some path => simp [foundAttempts, empty, found, AppStore.addFound]

theorem foldl_dirAttempts (dirs : List String) (store : AppStore) :
    store.addAutostartApps libraries contents dirs =
      (Settings.dirAttempts contents dirs).foldl (AppStore.addAttempt libraries glib contents)
        store := by
  rw [addAutostartApps_eq, Settings.dirAttempts, List.foldl_map]
  rfl

theorem loadStandardApps_eq (store : AppStore) :
    store.loadStandardApps libraries glib contents settings =
      (settings.attempts glib contents).foldl (AppStore.addAttempt libraries glib contents)
        store := by
  have saved : ∀ store : AppStore, store.maybeLoadSavedSessionApps libraries contents settings =
      (settings.savedAttempts contents).foldl (AppStore.addAttempt libraries glib contents)
        store := by
    intro store
    unfold AppStore.maybeLoadSavedSessionApps Settings.savedAttempts
    split_ifs
    · cases settings.savedSessionDir with
      | none => rfl
      | some dir => exact foldl_dirAttempts libraries glib contents [dir] store
    · rfl
  have accessible : ∀ (startup : Bool) (exec : String) (store : AppStore),
      store.appendAccessibilityApp libraries glib contents settings startup exec =
        (settings.accessibilityAttempts glib startup exec).foldl
          (AppStore.addAttempt libraries glib contents) store := by
    intro startup exec store
    rw [AppStore.appendAccessibilityApp, Settings.accessibilityAttempts]
    cases startup with
    | false => rfl
    | true =>
        by_cases empty : exec = ""
        · simp [foundAttempts, empty]
        · cases found : findDesktopFileForAppName glib settings exec none with
          | none => simp [foundAttempts, empty, found, AppStore.addFound]
          | some path => simp [foundAttempts, empty, found, AppStore.addFound]
  rw [AppStore.loadStandardApps, AppStore.appendAccessibilityApps, accessible, accessible,
    AppStore.appendRequiredApps, foldl_foundAttempts, AppStore.appendDefaultApps,
    foldl_foundAttempts, Settings.attempts, List.foldl_append, List.foldl_append,
    List.foldl_append, List.foldl_append, Settings.requiredAttempts]
  cases settings.failsafe with
  | true => rfl
  | false =>
      simp only [Bool.false_eq_true, if_false, List.foldl_append]
      rw [saved, foldl_dirAttempts libraries glib]

def readFile (path : Path) : Option DesktopFile :=
  (contents.files path).join.bind (fun keyFile =>
    DesktopFile.new libraries (encode keyFile) (some (buildFilename path)))

/-- The app id that an app made from the file has. -/
def fileAppId (path : Path) : Option Bytes :=
  (readFile libraries contents path).bind (fun file => file.source.map lastComponent)

end Load

variable {libraries : Libraries} {glib : KeyFileLibrary} {contents : Contents}
variable {settings : Settings} {store : AppStore} {path : Path}

theorem AutostartApp.new_eq (serial : UInt32) : AutostartApp.new libraries contents serial path =
    (readFile libraries contents path).map (fun file =>
      ⟨Serial.Kind.app.key serial, path, App.loadDesktopFile libraries file⟩) := rfl

/-- The app that a file is made into. -/
theorem AutostartApp.new_some {serial : UInt32} {app : AutostartApp}
    (made : AutostartApp.new libraries contents serial path = some app) :
    app.id = Serial.Kind.app.key serial ∧ app.path = path ∧
      app.appId = fileAppId libraries contents path := by
  rw [new_eq] at made
  obtain ⟨file, read, rfl⟩ := Option.map_eq_some_iff.mp made
  refine ⟨rfl, rfl, ?_⟩
  rw [appId, App.desktopFile_loadDesktopFile, fileAppId, read, Option.bind_some]

theorem AutostartApp.new_none {serial : UInt32}
    (unreadable : AutostartApp.new libraries contents serial path = none) :
    fileAppId libraries contents path = none := by
  rw [new_eq, Option.map_eq_none_iff] at unreadable
  rw [fileAppId, unreadable, Option.bind_none]

namespace AppStore

/-- The app has a name, and neither its id nor its app id is taken. -/
structure Admits (store : AppStore) (app : AutostartApp) : Prop where
  named : ∃ appId, app.appId = some appId ∧ appId ≠ []
  freshId : ∀ dup ∈ store.apps, dup.id ≠ app.id
  fresh : ∀ dup ∈ store.apps, dup.appId ≠ app.appId

/-- `append_app` takes an app that is admitted, and no other. -/
theorem appendApp_cases (store : AppStore) {app : AutostartApp} (keyed : app.id ≠ .objectPath "")
    (freshId : ∀ dup ∈ store.apps, dup.id ≠ app.id) :
    (store.Admits app ∧ store.appendApp app = { store with apps := store.apps ++ [app] }) ∨
    (store.appendApp app = store ∧ ∀ appId, app.appId = some appId → appId ≠ [] →
      ∃ dup ∈ store.apps, dup.appId = some appId) := by
  have unused : store.apps.any (fun dup => dup.id = app.id) = false := by
    rw [List.any_eq_false]
    intro dup member
    rw [decide_eq_true_eq]
    exact freshId dup member
  unfold appendApp
  rw [if_neg keyed, unused]
  simp only [Bool.false_eq_true, if_false]
  cases named : app.appId with
  | none => exact .inr ⟨rfl, fun appId absurd => by cases absurd⟩
  | some appId =>
      simp only
      split_ifs with empty taken
      · refine .inr ⟨rfl, fun other same proper => ?_⟩
        cases same
        exact absurd empty proper
      · refine .inr ⟨rfl, fun other same _ => ?_⟩
        cases same
        obtain ⟨dup, member, same⟩ := List.any_eq_true.mp taken
        exact ⟨dup, member, of_decide_eq_true same⟩
      · refine .inl ⟨⟨⟨appId, named, empty⟩, freshId, ?_⟩, rfl⟩
        intro dup member same
        refine taken (List.any_eq_true.mpr ⟨dup, member, decide_eq_true ?_⟩)
        rw [same, named]

end AppStore

/-- The app came from one of the attempts, all before which are for other app ids or
for a service that was provided; the service that it is for was not provided by the
apps before it. -/
structure Comes (libraries : Libraries) (glib : KeyFileLibrary) (contents : Contents)
    (attempts : List Attempt) (before : List AutostartApp) (app : AutostartApp)
    (attempt : Attempt) : Prop where
  path : app.path = attempt.path
  read : fileAppId libraries contents attempt.path = app.appId
  first : ∃ earlier later, attempts = earlier ++ attempt :: later ∧
    ∀ other ∈ earlier, fileAppId libraries contents other.path = app.appId →
      ∃ service, other.provides = some service ∧
        ∃ known ∈ before, known.provides glib service = true
  needed : ∀ service, attempt.provides = some service →
    ∀ other ∈ before, other.provides glib service = false

/-- The attempt is one that the store answers: its app id is taken, or what it is
for is provided. -/
def Answered (libraries : Libraries) (glib : KeyFileLibrary) (contents : Contents)
    (apps : List AutostartApp) (attempt : Attempt) : Prop :=
  ∀ appId, fileAppId libraries contents attempt.path = some appId → appId ≠ [] →
    (∃ app ∈ apps, app.appId = some appId) ∨
    ∃ service, attempt.provides = some service ∧ ∃ app ∈ apps, app.provides glib service = true

/-- The store after these attempts. -/
structure Loaded (libraries : Libraries) (glib : KeyFileLibrary) (contents : Contents)
    (attempts : List Attempt) (store : AppStore) : Prop where
  named : ∀ app ∈ store.apps, ∃ appId, app.appId = some appId ∧ appId ≠ []
  appIds : (store.apps.map AutostartApp.appId).Nodup
  ids : (store.apps.map AutostartApp.id).Nodup
  comes : ∀ before app after, store.apps = before ++ app :: after →
    ∃ attempt, Comes libraries glib contents attempts before app attempt
  answered : ∀ attempt ∈ attempts, Answered libraries glib contents store.apps attempt

/-- The ids of the apps come from the serials that the attempts have spent. -/
def Numbered (count : Nat) (store : AppStore) : Prop :=
  ∃ spent ≤ count, store.serial = Serial.after spent ∧
    ∀ app ∈ store.apps, ∃ made < spent, app.id = Serial.Kind.app.key (Serial.after made)

variable {seen : List Attempt} {attempt : Attempt}

theorem Comes.later {before : List AutostartApp} {app : AutostartApp} {other : Attempt}
    (comes : Comes libraries glib contents seen before app other) :
    Comes libraries glib contents (seen ++ [attempt]) before app other := by
  obtain ⟨path, read, ⟨earlier, later, split, first⟩, needed⟩ := comes
  refine ⟨path, read, ⟨earlier, later ++ [attempt], ?_, first⟩, needed⟩
  rw [split, List.append_assoc, List.cons_append]

theorem Answered.more {apps : List AutostartApp} (answered : Answered libraries glib contents apps
    attempt) (added : List AutostartApp) :
    Answered libraries glib contents (apps ++ added) attempt := by
  intro appId read proper
  cases answered appId read proper with
  | inl taken =>
      obtain ⟨app, member, same⟩ := taken
      exact .inl ⟨app, List.mem_append_left added member, same⟩
  | inr provided =>
      obtain ⟨service, asked, app, member, provides⟩ := provided
      exact .inr ⟨service, asked, app, List.mem_append_left added member, provides⟩

/-- An attempt that is answered already adds nothing. -/
theorem Loaded.keep {after : AppStore} (loaded : Loaded libraries glib contents seen store)
    (same : after.apps = store.apps)
    (answered : Answered libraries glib contents store.apps attempt) :
    Loaded libraries glib contents (seen ++ [attempt]) after := by
  obtain ⟨named, appIds, ids, comes, earlier⟩ := loaded
  rw [← same] at named appIds ids comes earlier answered
  refine ⟨named, appIds, ids, ?_, ?_⟩
  · intro before app rest split
    obtain ⟨other, came⟩ := comes before app rest split
    exact ⟨other, came.later⟩
  · intro other member
    cases List.mem_append.mp member with
    | inl old => exact earlier other old
    | inr new =>
        rw [List.mem_singleton.mp new]
        exact answered

/-- An app that is admitted is the first with its app id. -/
theorem Loaded.append {after : AppStore} {app : AutostartApp}
    (loaded : Loaded libraries glib contents seen store) (admits : store.Admits app)
    (added : after.apps = store.apps ++ [app]) (path : app.path = attempt.path)
    (read : fileAppId libraries contents attempt.path = app.appId)
    (needed : ∀ service, attempt.provides = some service →
      ∀ other ∈ store.apps, other.provides glib service = false) :
    Loaded libraries glib contents (seen ++ [attempt]) after := by
  obtain ⟨appId, same, proper⟩ := admits.named
  refine ⟨?_, ?_, ?_, ?_, ?_⟩
  · rw [added]
    intro other member
    cases List.mem_append.mp member with
    | inl old => exact loaded.named other old
    | inr new =>
        rw [List.mem_singleton.mp new]
        exact admits.named
  · rw [added, List.map_append, List.map_singleton, ← List.concat_eq_append]
    refine loaded.appIds.concat ?_
    intro member
    obtain ⟨dup, old, equal⟩ := List.mem_map.mp member
    exact admits.fresh dup old equal
  · rw [added, List.map_append, List.map_singleton, ← List.concat_eq_append]
    refine loaded.ids.concat ?_
    intro member
    obtain ⟨dup, old, equal⟩ := List.mem_map.mp member
    exact admits.freshId dup old equal
  · rw [added]
    intro before other rest split
    rcases rest.eq_nil_or_concat with rfl | ⟨rest, last, rfl⟩
    · obtain ⟨rfl, rfl⟩ := List.append_singleton_inj.mp split
      refine ⟨attempt, path, read, ⟨seen, [], rfl, ?_⟩, needed⟩
      intro earlier member taken
      cases loaded.answered earlier member appId (taken.trans same) proper with
      | inl dup =>
          obtain ⟨dup, old, equal⟩ := dup
          exact absurd (equal.trans same.symm) (admits.fresh dup old)
      | inr provided => exact provided
    · rw [List.concat_eq_append, ← List.cons_append, ← List.append_assoc] at split
      obtain ⟨old, rfl⟩ := List.append_singleton_inj.mp split
      obtain ⟨earlier, came⟩ := loaded.comes before other rest old
      exact ⟨earlier, came.later⟩
  · rw [added]
    intro other member
    cases List.mem_append.mp member with
    | inl old => exact (loaded.answered other old).more [app]
    | inr new =>
        rw [List.mem_singleton.mp new]
        intro otherId found _
        refine .inl ⟨app, List.mem_append_right _ List.mem_cons_self, ?_⟩
        rw [← read, found]

theorem Numbered.fresh {count : Nat} (numbered : Numbered count store)
    (few : count < Serial.period) :
    ∀ dup ∈ store.apps, dup.id ≠ Serial.Kind.app.key store.serial := by
  intro dup member same
  obtain ⟨spent, some, serial, ids⟩ := numbered
  obtain ⟨made, earlier, id⟩ := ids dup member
  rw [id, serial, (Serial.Kind.key_injective .app).eq_iff, Serial.after_eq_iff,
    Nat.mod_eq_of_lt (by omega), Nat.mod_eq_of_lt (by omega)] at same
  omega

theorem Numbered.more {count more : Nat} (numbered : Numbered count store)
    (some : count ≤ more) : Numbered more store := by
  obtain ⟨spent, fits, rest⟩ := numbered
  exact ⟨spent, Nat.le_trans fits some, rest⟩

/-- A serial is spent, and no app or one with that serial is added. -/
theorem Numbered.add {count : Nat} {after : AppStore} {added : List AutostartApp}
    (numbered : Numbered count store) (serial : after.serial = Serial.next store.serial)
    (apps : after.apps = store.apps ++ added)
    (ids : ∀ app ∈ added, app.id = Serial.Kind.app.key store.serial) :
    Numbered (count + 1) after := by
  obtain ⟨spent, fits, now, before⟩ := numbered
  refine ⟨spent + 1, by omega, ?_, ?_⟩
  · rw [serial, now]
    rfl
  · rw [apps]
    intro app member
    cases List.mem_append.mp member with
    | inl old =>
        obtain ⟨made, earlier, id⟩ := before app old
        exact ⟨made, by omega, id⟩
    | inr new =>
        refine ⟨spent, by omega, ?_⟩
        rw [ids app new, now]

/-- One more attempt keeps everything that is known of the store. -/
theorem Loaded.add (loaded : Loaded libraries glib contents seen store)
    (numbered : Numbered seen.length store) (few : seen.length < Serial.period)
    (attempt : Attempt) :
    Loaded libraries glib contents (seen ++ [attempt])
      (store.addAttempt libraries glib contents attempt) ∧
    Numbered (seen.length + 1) (store.addAttempt libraries glib contents attempt) := by
  unfold AppStore.addAttempt
  split_ifs with provided
  · refine ⟨loaded.keep rfl ?_, numbered.more (Nat.le_succ _)⟩
    intro appId _ _
    obtain ⟨service, asked, found⟩ := (Option.any_eq_true _ _).mp provided
    obtain ⟨app, member, provides⟩ := List.any_eq_true.mp found
    exact .inr ⟨service, asked, app, member, provides⟩
  · have needed : ∀ service, attempt.provides = some service →
        ∀ other ∈ store.apps, other.provides glib service = false := by
      intro service asked other member
      rw [asked, Option.any_some, List.any_eq_true, not_exists] at provided
      exact Bool.eq_false_iff.mpr fun provides => provided other ⟨member, provides⟩
    unfold AppStore.addAutostartApp
    cases made : AutostartApp.new libraries contents store.serial attempt.path with
    | none =>
        refine ⟨loaded.keep rfl ?_, numbered.add rfl (List.append_nil _).symm ?_⟩
        · intro appId read _
          cases (AutostartApp.new_none made).symm.trans read
        · intro app absurd
          cases absurd
    | some app =>
        obtain ⟨id, path, named⟩ := AutostartApp.new_some made
        have keyed : app.id ≠ .objectPath "" := by
          rw [id]
          exact AppStore.key_ne_empty store.serial
        have freshId : ∀ dup ∈ store.apps, dup.id ≠ app.id := by
          rw [id]
          exact numbered.fresh few
        cases AppStore.appendApp_cases { store with serial := Serial.next store.serial }
            keyed freshId with
        | inl taken =>
            obtain ⟨admits, added⟩ := taken
            simp only [added]
            refine ⟨loaded.append ⟨admits.named, admits.freshId, admits.fresh⟩ rfl path
              named.symm needed, numbered.add rfl rfl ?_⟩
            intro other member
            rw [List.mem_singleton.mp member, id]
        | inr refused =>
            obtain ⟨kept, dup⟩ := refused
            simp only [kept]
            refine ⟨loaded.keep rfl ?_, numbered.add rfl (List.append_nil _).symm ?_⟩
            · intro appId read proper
              exact .inl (dup appId (named.trans read) proper)
            · intro other absurd
              cases absurd

theorem Loaded.addAll (attempts : List Attempt) : ∀ {seen : List Attempt} {store : AppStore},
    Loaded libraries glib contents seen store → Numbered seen.length store →
    (seen ++ attempts).length ≤ Serial.period →
    Loaded libraries glib contents (seen ++ attempts)
      (attempts.foldl (AppStore.addAttempt libraries glib contents) store) := by
  induction attempts with
  | nil =>
      intro seen store loaded _ _
      rw [List.append_nil]
      exact loaded
  | cons attempt attempts ih =>
      intro seen store loaded numbered few
      have length : (seen ++ attempt :: attempts).length = seen.length + 1 + attempts.length := by
        rw [List.length_append, List.length_cons]
        omega
      obtain ⟨next, counted⟩ := loaded.add numbered (by omega) attempt
      have rest := ih next (by rw [List.length_append]; exact counted)
        (by rw [List.append_assoc]; exact few)
      rw [List.append_assoc] at rest
      exact rest

theorem loaded_empty : Loaded libraries glib contents [] {} := by
  refine ⟨?_, .nil, .nil, ?_, ?_⟩
  · intro app absurd
    cases absurd
  · intro before app after split
    cases List.append_ne_nil_of_right_ne_nil before (List.cons_ne_nil app after) split.symm
  · intro attempt absurd
    cases absurd

theorem numbered_empty : Numbered 0 {} := by
  refine ⟨0, Nat.le_refl 0, rfl, ?_⟩
  intro app absurd
  cases absurd

/-- After the standard apps are loaded, whatever the files are: the store holds one
app at most for an app id, each app is the first in the order of loading that was
not for a service that an app before it provides, and an app that was added for a
required component was added because no app before it provides that component.
Every file that makes an app has its app id in the store, and a required component
whose provider is found and can be read is provided, or has the provider's app id in
the store. -/
theorem session_loaded (few : (settings.attempts glib contents).length ≤ Serial.period) :
    Loaded libraries glib contents (settings.attempts glib contents)
      (AppStore.loadStandardApps libraries glib contents settings {}) ∧
    ∀ component ∈ settings.requiredComponents, component ≠ "" → ∀ path appId,
      findDesktopFileForAppName glib settings (settings.provider component) none = some path →
      fileAppId libraries contents path = some appId → appId ≠ [] →
      (∃ app ∈ (AppStore.loadStandardApps libraries glib contents settings {}).apps,
        app.provides glib component = true) ∨
      ∃ app ∈ (AppStore.loadStandardApps libraries glib contents settings {}).apps,
        app.appId = some appId := by
  have loaded : Loaded libraries glib contents (settings.attempts glib contents)
      (AppStore.loadStandardApps libraries glib contents settings {}) := by
    rw [loadStandardApps_eq]
    exact Loaded.addAll _ loaded_empty numbered_empty few
  refine ⟨loaded, ?_⟩
  intro component required proper path appId found read named
  have asked : (⟨path, some component⟩ : Attempt) ∈ settings.attempts glib contents := by
    have member : (⟨path, some component⟩ : Attempt) ∈ settings.requiredAttempts glib := by
      refine List.mem_filterMap.mpr ⟨component, ?_, ?_⟩
      · exact List.mem_filter.mpr ⟨required, decide_eq_true proper⟩
      · exact Option.map_eq_some_iff.mpr ⟨path, found, rfl⟩
    exact List.mem_append_left _ (List.mem_append_right _ member)
  cases loaded.answered _ asked appId read named with
  | inl taken => exact .inr taken
  | inr provided =>
      obtain ⟨service, same, app, member, provides⟩ := provided
      cases same
      exact .inl ⟨app, member, provides⟩

def autostartedPanel : Path := ⟨"/etc/xdg/autostart", "dock.desktop"⟩

def requiredPanel : Path := ⟨"/usr/share/applications", "cafe-panel.desktop"⟩

/-- A dock that provides the panel is started with the session, and the panel that
is required is installed. -/
def panelFiles : Contents where
  files path :=
    if path = autostartedPanel then
      some (some ⟨[("Type", "Application"), ("Name", "Dock"), ("Exec", "dock"),
        ("X-CAFE-Provides", "panel")]⟩)
    else if path = requiredPanel then
      some (some ⟨[("Type", "Application"), ("Name", "Panel"), ("Exec", "cafe-panel")]⟩)
    else none
  listing dir :=
    if dir = autostartedPanel.dir then [autostartedPanel.basename]
    else if dir = requiredPanel.dir then [requiredPanel.basename]
    else []
  lists dir name := by
    by_cases autostart : dir = autostartedPanel.dir
    · simp [autostart, autostartedPanel, requiredPanel]
    · by_cases installed : dir = requiredPanel.dir
      · simp [installed, autostartedPanel, requiredPanel]
      · simp only [autostartedPanel, requiredPanel] at autostart installed
        simp [autostart, installed, autostartedPanel, requiredPanel]
  distinct dir := by
    split_ifs <;> simp

def panelKeyFiles : KeyFileLibrary where
  stringList value := some [value]
  loadFromDirs desktopFile dirs :=
    (dirs.find? (fun dir => (panelFiles.files ⟨dir, desktopFile⟩).isSome)).map
      (fun dir => ⟨dir, desktopFile⟩)

def panelSettings : Settings where
  failsafe := false
  isLogin := false
  autoSave := false
  savedSessionDir := none
  autostartDirs := ["/etc/xdg/autostart"]
  appDirs := ["/usr/share/applications"]
  defaultSession := []
  requiredComponents := ["panel"]
  provider _ := "panel"
  mobilityStartup := false
  mobilityExec := ""
  visualStartup := false
  visualExec := ""

/-- The dock provides the panel, so that the required one is not loaded. -/
theorem panel_session_loaded :
    Loaded shellLibraries panelKeyFiles panelFiles
      (panelSettings.attempts panelKeyFiles panelFiles)
      (AppStore.loadStandardApps shellLibraries panelKeyFiles panelFiles panelSettings {}) ∧
    (AppStore.loadStandardApps shellLibraries panelKeyFiles panelFiles panelSettings {}).apps.map
      AutostartApp.path = [autostartedPanel] ∧
    findDesktopFileForAppName panelKeyFiles panelSettings "panel" none = some requiredPanel := by
  refine ⟨(session_loaded (by decide +kernel)).1, by decide +kernel, by decide +kernel⟩

end CafeSession.Autostart

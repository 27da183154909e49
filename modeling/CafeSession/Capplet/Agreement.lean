import CafeSession.Autostart.AppStore
import CafeSession.Autostart.CommandLine
import CafeSession.Capplet.Incremental

namespace CafeSession.Capplet

open CafeSession.Overlay CafeSession.Autostart CafeSession.Shell

variable {environment : Environment} {contents : Contents} {libraries : Libraries}
variable {escape : Bytes → Bytes} {basename : String}

namespace Contents

def present (contents : Contents) (path : Path) : Bool :=
  (contents.files path).isSome

/-- The file can be loaded, and neither OnlyShowIn nor NotShowIn excludes it. -/
def usable (contents : Contents) (path : Path) : Bool :=
  ((contents.files path).join.filter KeyFile.canLaunch).isSome

theorem present_of_usable {path : Path} (usable : contents.usable path = true) :
    contents.present path = true := by
  rw [Contents.usable] at usable
  cases file : contents.files path with
  | none => simp [file] at usable
  | some _ => simp [present, file]

end Contents

/-- The file of a basename in the first autostart directory where it is such. -/
def Environment.firstFile (environment : Environment) (such : Path → Bool) (basename : String) :
    Option Path :=
  if isDesktopFile basename then
    (environment.autostartDirs.find? (fun dir => such ⟨dir, basename⟩)).map
      (fun dir => ⟨dir, basename⟩)
  else
    none

/-- The file of the app that is presented under a basename. -/
def AppManager.presented (manager : AppManager) (basename : String) : Option Path :=
  (manager.view basename).map App.path

/-- The capplet presents the file that the session manager keeps, and none when
that one is not for this desktop. -/
def Agree (libraries : Libraries) (environment : Environment) (contents : Contents)
    (basename : String) : Prop :=
  (({} : AppManager).fill environment contents.toDisk).presented basename =
    ((({} : AppStore).addAutostartApps libraries contents environment.autostartDirs).kept
      basename).filter contents.usable

/-- The first file of the basename is for this desktop, or none is. -/
def FirstUsable (environment : Environment) (contents : Contents) (basename : String) : Prop :=
  ∀ path, environment.firstFile contents.present basename = some path →
    contents.usable path = true ∨
      ∀ dir ∈ environment.autostartDirs, contents.usable ⟨dir, basename⟩ = false

/-- The files have names that the system gives, and both programs can parse them. -/
structure Parseable (libraries : Libraries) (environment : Environment) (contents : Contents) :
    Prop where
  absolute : ∀ dir ∈ environment.autostartDirs, isAbsolute (utf8 dir) = true
  plain : ∀ dir, ∀ name ∈ contents.listing dir, slash ∉ utf8 name
  parses : ∀ path ∈ visited contents environment.autostartDirs, ∃ keyFile,
    contents.files path = some (some keyFile) ∧
      (DesktopFile.new libraries (encode keyFile) (some (buildFilename path))).isSome = true

/-- The indices of the directories and the serials of the apps do not come round. -/
structure Counted (environment : Environment) (contents : Contents) : Prop where
  dirs : environment.autostartDirs.length ≤ gMaxUint
  files : (visited contents environment.autostartDirs).length ≤ Serial.period

theorem find_of_dirOf {such : String → Bool} {index : Nat} {dir : String}
    (placed : environment.dirOf index = some dir) (here : such dir = true)
    (before : ∀ other < index, ∀ dir', environment.dirOf other = some dir' → such dir' = false) :
    environment.autostartDirs.find? such = some dir := by
  obtain ⟨found, _⟩ := Environment.dirOf_iff.mp placed
  obtain ⟨inside, there⟩ := List.getElem?_eq_some_iff.mp found
  rw [List.find?_eq_some_iff_getElem]
  refine ⟨here, index, inside, there, fun other earlier => ?_⟩
  have member : environment.autostartDirs[other] ∈ environment.autostartDirs.take index :=
    Environment.mem_take_of_getElem? (List.getElem?_eq_getElem (by omega)) earlier
  obtain ⟨place, first, same⟩ := Environment.mem_take_iff.mp member
  simp [before place first _ same]

theorem content_layersOf (desktop : isDesktopFile basename = true) {index : Nat} {dir : String}
    (placed : environment.dirOf index = some dir) :
    (layersOf environment contents.slots basename index).content.isSome =
      contents.usable ⟨dir, basename⟩ := by
  rw [layersOf_placed desktop placed, Contents.slots, content_slotOf, Contents.usable]

theorem unusable_before {layers : Layers KeyFile} {limit : Nat} {chosen : Choice KeyFile}
    (shows : layers.Shows limit (some chosen)) {other : Nat} (earlier : other < chosen.position) :
    (layers other).content = none := by
  cases shows with
  | top _ _ => exact absurd earlier (Nat.not_lt_zero other)
  | below _ _ _ unusable => exact unusable other earlier

theorem presented_eq (bounded : environment.autostartDirs.length ≤ gMaxUint) (basename : String) :
    (({} : AppManager).fill environment contents.toDisk).presented basename =
      environment.firstFile contents.usable basename := by
  obtain ⟨_, scanned⟩ := AppManager.Scanned.fill bounded contents
  obtain ⟨choice, offered, shows⟩ := scanned.shows basename
  rw [AppManager.presented, offered, Option.map_map, Environment.firstFile]
  by_cases desktop : isDesktopFile basename = true
  · rw [if_pos desktop]
    have usable_eq (index : Nat) (dir : String) (placed : environment.dirOf index = some dir)
        (unusable : (layersOf environment contents.slots basename index).content = none) :
        contents.usable ⟨dir, basename⟩ = false := by
      rw [← content_layersOf desktop placed, unusable, Option.isSome_none]
    cases choice with
    | none =>
        cases shows with
        | nothing unusable =>
            have none : environment.autostartDirs.find?
                (fun dir => contents.usable ⟨dir, basename⟩) = none := by
              rw [List.find?_eq_none]
              intro dir member
              rw [← List.take_length (l := environment.autostartDirs),
                Environment.mem_take_iff] at member
              obtain ⟨index, _, placed⟩ := member
              simp [usable_eq index dir placed (unusable index)]
            rw [none]
            rfl
    | some chosen =>
        have there := shows.chosen
        cases placed : environment.dirOf chosen.position with
        | none => simp [layersOf_beyond placed] at there
        | some dir =>
            have here : contents.usable ⟨dir, basename⟩ = true := by
              rw [← content_layersOf desktop placed, there, Option.isSome_some]
            have first := find_of_dirOf placed here (fun other earlier dir' placed' =>
              usable_eq other dir' placed' (unusable_before shows earlier))
            rw [first]
            simp [App.ofChoice, App.readFrom, placed]
  · rw [if_neg desktop]
    cases choice with
    | none => rfl
    | some chosen =>
        have there := shows.chosen
        simp [layersOf, desktop] at there

theorem kept_eq (escapes : EscapesNames libraries escape)
    (parseable : Parseable libraries environment contents)
    (counted : Counted environment contents) (basename : String) :
    (({} : AppStore).addAutostartApps libraries contents environment.autostartDirs).kept basename =
      environment.firstFile contents.present basename := by
  have readable : ∀ path ∈ visited contents environment.autostartDirs,
      Readable libraries contents path := by
    intro path member
    obtain ⟨isDir, listed, desktop⟩ := desktop_of_visited member
    exact ⟨desktop, parseable.absolute _ isDir, parseable.plain _ _ listed,
      parseable.parses path member⟩
  have holds := AppStore.holds_empty.addAll escapes readable counted.files
  rw [addAutostartApps_eq, holds.kept, List.nil_append, Environment.firstFile]
  by_cases desktop : isDesktopFile basename = true
  · rw [if_pos desktop]
    exact visited_find desktop
  · rw [if_neg desktop, List.find?_eq_none]
    intro path member named
    obtain ⟨_, _, also⟩ := desktop_of_visited member
    rw [decide_eq_true_eq.mp named] at also
    exact desktop also

/-- The first of a wide kind against the first of a narrow kind. -/
theorem find_narrow_iff {Place : Type} {narrow wide : Place → Bool}
    (within : ∀ place, narrow place = true → wide place = true) (places : List Place) :
    places.find? narrow = (places.find? wide).filter narrow ↔
      ∀ first, places.find? wide = some first →
        narrow first = true ∨ ∀ place ∈ places, narrow place = false := by
  induction places with
  | nil => simp
  | cons place places ih =>
      cases isNarrow : narrow place with
      | true => simp [isNarrow, within place isNarrow, Option.filter_some]
      | false => cases isWide : wide place <;> simp [isNarrow, isWide, ih, Option.filter_some]

/-- The programs agree on a file just when the first of its name can be used, or
none can. -/
theorem agree_iff (escapes : EscapesNames libraries escape)
    (parseable : Parseable libraries environment contents)
    (counted : Counted environment contents) (basename : String) :
    Agree libraries environment contents basename ↔
      FirstUsable environment contents basename := by
  rw [Agree, presented_eq counted.dirs, kept_eq escapes parseable counted, FirstUsable]
  by_cases desktop : isDesktopFile basename = true
  · have named : (fun dir => (⟨dir, basename⟩ : Path)).Injective := fun _ _ same => by
      simpa using same
    have narrow := find_narrow_iff
      (fun dir => @Contents.present_of_usable contents ⟨dir, basename⟩) environment.autostartDirs
    simp only [Environment.firstFile, desktop, if_true, Option.filter_map, Function.comp_def,
      (Option.map_injective named).eq_iff, Option.map_eq_some_iff, forall_exists_index, and_imp,
      forall_apply_eq_imp_iff₂]
    exact narrow
  · simp [Environment.firstFile, desktop]

section Example

open Watch

theorem shellLibraries_escapes : EscapesNames shellLibraries id where
  injective := Function.injective_id
  empty := rfl
  uri path absolute := by
    refine ⟨ascii "file://" ++ path, rfl, ?_⟩
    cases path with
    | nil => simp [isAbsolute] at absolute
    | cons byte rest =>
        obtain rfl : byte = slash := by simpa [isAbsolute] using absolute
        simp [lastComponent, List.takeWhile_append]

def player : KeyFile := ⟨[("Type", "Application"), ("Name", "Player"), ("Exec", "player")]⟩

def playerElsewhere : KeyFile := ⟨player.entries ++ [("OnlyShowIn", "KDE")]⟩

def playerIn (dir : String) : Path := ⟨dir, "player.desktop"⟩

/-- A file of the user over one in a system directory. -/
def playerFiles (user : KeyFile) : Contents :=
  (noFiles.write (playerIn "/etc/xdg/autostart") (some player)).write
    (playerIn "/home/u/.config/autostart") (some user)

theorem playerFiles_visited (user : KeyFile) :
    visited (playerFiles user) twoSystemDirs.autostartDirs =
      [playerIn "/home/u/.config/autostart", playerIn "/etc/xdg/autostart"] := rfl

theorem playerFiles_counted (user : KeyFile) : Counted twoSystemDirs (playerFiles user) where
  dirs := by decide
  files := by rw [playerFiles_visited]; decide

theorem playerFiles_parseable {user : KeyFile}
    (parses : (DesktopFile.new shellLibraries (encode user)
      (some (buildFilename (playerIn "/home/u/.config/autostart")))).isSome = true) :
    Parseable shellLibraries twoSystemDirs (playerFiles user) where
  absolute := by decide
  plain dir name member := by
    have there := ((playerFiles user).lists dir name).mp member
    have named : name = "player.desktop" := by
      by_contra different
      simp [playerFiles, Contents.write, noFiles, playerIn, Function.update, different] at there
    subst named
    decide
  parses path member := by
    rw [playerFiles_visited] at member
    rcases List.mem_cons.mp member with rfl | member
    · exact ⟨user, rfl, parses⟩
    · obtain rfl := List.mem_singleton.mp member
      exact ⟨player, rfl, by decide⟩

theorem override_agreed :
    Agree shellLibraries twoSystemDirs (playerFiles player) "player.desktop" := by
  apply (agree_iff shellLibraries_escapes (playerFiles_parseable (by decide))
    (playerFiles_counted player) "player.desktop").mpr
  intro path first
  have user : twoSystemDirs.firstFile (playerFiles player).present "player.desktop" =
      some (playerIn "/home/u/.config/autostart") := by decide
  obtain rfl := Option.some.inj (first.symm.trans user)
  exact .inl (by decide)

theorem playerElsewhere_canLaunch : playerElsewhere.canLaunch = false := by
  have items : "KDE".splitOn ";" = ["KDE"] := by
    rw [String.splitOn, if_neg (by decide)]
    iterate 3 rw [String.splitOnAux, if_neg (by decide), if_neg (by decide)]
    rw [String.splitOnAux, if_pos (by decide)]
    decide
  have desktops : playerElsewhere.getStringList "OnlyShowIn" = some ["KDE"] := by
    change some (if ("KDE".splitOn ";").getLast? = some "" then ("KDE".splitOn ";").dropLast
      else "KDE".splitOn ";") = _
    rw [items]
    rfl
  rw [KeyFile.canLaunch, desktops]
  decide

/-- The capplet presents the system's file in place of the user's. -/
theorem excluded_file_displaced :
    Parseable shellLibraries twoSystemDirs (playerFiles playerElsewhere) ∧
      Counted twoSystemDirs (playerFiles playerElsewhere) ∧
      (({} : AppManager).fill twoSystemDirs (playerFiles playerElsewhere).toDisk).presented
        "player.desktop" = some (playerIn "/etc/xdg/autostart") ∧
      (({} : AppStore).addAutostartApps shellLibraries (playerFiles playerElsewhere)
        twoSystemDirs.autostartDirs).kept "player.desktop" =
          some (playerIn "/home/u/.config/autostart") ∧
      ¬ Agree shellLibraries twoSystemDirs (playerFiles playerElsewhere) "player.desktop" := by
  have parseable : Parseable shellLibraries twoSystemDirs (playerFiles playerElsewhere) :=
    playerFiles_parseable (by decide)
  have counted := playerFiles_counted playerElsewhere
  have user : (playerFiles playerElsewhere).usable (playerIn "/home/u/.config/autostart") = false := by
    change (Option.filter KeyFile.canLaunch (some playerElsewhere)).isSome = false
    rw [Option.filter_some_neg playerElsewhere_canLaunch, Option.isSome_none]
  have data : (playerFiles playerElsewhere).usable (playerIn "/usr/share/cafe/autostart") = false := by
    decide
  have system : (playerFiles playerElsewhere).usable (playerIn "/etc/xdg/autostart") = true := by
    decide
  have dirs : twoSystemDirs.autostartDirs =
    ["/home/u/.config/autostart", "/usr/share/cafe/autostart", "/etc/xdg/autostart"] := rfl
  have presented := @presented_eq twoSystemDirs (playerFiles playerElsewhere) counted.dirs
    "player.desktop"
  have kept := kept_eq shellLibraries_escapes parseable counted "player.desktop"
  have first : twoSystemDirs.firstFile (playerFiles playerElsewhere).present "player.desktop" =
    some (playerIn "/home/u/.config/autostart") := by decide
  have shown : twoSystemDirs.firstFile (playerFiles playerElsewhere).usable "player.desktop" =
      some (playerIn "/etc/xdg/autostart") := by
    rw [playerIn] at user data system
    rw [Environment.firstFile, if_pos (by decide), dirs]
    simp [user, data, system, playerIn]
  refine ⟨parseable, counted, presented.trans shown, kept.trans first, fun agree => ?_⟩
  rw [Agree, presented, kept, shown, first, Option.filter_some_neg user] at agree
  cases agree

end Example

end CafeSession.Capplet

import CafeSession.Capplet.Views
import CafeSession.Capplet.Precedence

namespace CafeSession.Capplet

open CafeSession.Overlay

variable {environment : Environment} {disk : Disk} {manager : AppManager}
variable {basename : String} {chosen : Choice KeyFile} {choice : Option (Choice KeyFile)}

/-- The file in a slot: `none` when there is none, `some none` when it cannot be loaded. -/
def slotOf : Option (Option KeyFile) → Slot KeyFile
  | none => .absent
  | some none => .passedOver
  | some (some keyFile) => if keyFile.canLaunch then .usable keyFile else .passedOver

/-- The desktop file at a path, when it can be loaded and is wanted here. -/
def Disk.wanted (disk : Disk) (path : Path) : Option KeyFile :=
  (disk.load path).filter KeyFile.canLaunch

theorem content_slotOf (file : Option (Option KeyFile)) :
    (slotOf file).content = file.join.filter KeyFile.canLaunch := by
  rcases file with _ | _ | keyFile
  · rfl
  · rfl
  · by_cases launches : keyFile.canLaunch <;>
      simp [slotOf, launches, Slot.content, Option.filter]

/-- The directory of an index; one that is listed again keeps its first index. -/
def Environment.dirOf (environment : Environment) (index : Nat) : Option String :=
  (environment.autostartDirs[index]?).filter
    (fun dir => dir ∉ environment.autostartDirs.take index)

/-- The app that shows a choice: the desktop file as read, at its positions. -/
def App.ofChoice (environment : Environment) (basename : String) (chosen : Choice KeyFile) :
    App :=
  let path : Path := ⟨(environment.dirOf chosen.position).getD "", basename⟩
  let app : App := { basename := basename, path := path }
  { app.readFrom environment path chosen.content with
    xdgPosition := chosen.position
    xdgSystemPosition := chosen.systemPosition }

namespace AppManager

/-- Under the basename the manager shows the choice. -/
def Offers (environment : Environment) (manager : AppManager) (basename : String)
    (choice : Option (Choice KeyFile)) : Prop :=
  manager.view basename = choice.map (App.ofChoice environment basename)

/-- A change of the list after which the choice is shown. -/
abbrev PutsChoice (environment : Environment) (before after : AppManager) (basename : String)
    (choice : Option (Choice KeyFile)) : Prop :=
  before.Puts after basename (choice.map (App.ofChoice environment basename))

theorem entry_of_view {app : App} (shown : manager.view basename = some app) :
    ∃ id, manager.entry basename = some (id, app) := by
  obtain ⟨⟨id, _⟩, listed, rfl⟩ := Option.map_eq_some_iff.mp shown
  exact ⟨id, listed⟩

theorem entry_of_view_none (unlisted : manager.view basename = none) :
    manager.entry basename = none :=
  Option.map_eq_none_iff.mp unlisted

theorem modifyApp_known {id : Nat} {app : App} {change : App → App}
    (known : manager.objects[id]? = some app) :
    manager.modifyApp id change = manager.replace id (change app) := by
  simp [modifyApp, replace, List.modify_eq_set_getElem?, known]

section New

variable {dir : String} {index : Nat}

theorem appNew_entry :
    manager.appNew environment disk ⟨dir, basename⟩ index =
      match manager.entry basename with
      | none => manager.loadApp environment disk ⟨dir, basename⟩ index none
      | some (id, app) =>
          if app.xdgPosition = index ∧ app.skipNextMonitorEvent then
            (manager.modifyApp id (fun app => { app with skipNextMonitorEvent := false }), none)
          else if app.xdgPosition < index ∨ app.saveTimeout then
            (manager.modifyApp id (fun app =>
              { app with xdgSystemPosition := min index app.xdgSystemPosition }), none)
          else
            manager.loadApp environment disk ⟨dir, basename⟩ index (some (id, app)) := rfl

theorem loadApp_unwanted {path : Path} (unwanted : disk.wanted path = none)
    (found : Option (Nat × App)) :
    manager.loadApp environment disk path index found = (manager, none) := by
  unfold loadApp
  cases loaded : disk.load path with
  | none => rfl
  | some keyFile => simp_all [Disk.wanted, Option.filter]

theorem wanted_some {path : Path} {keyFile : KeyFile} (wanted : disk.wanted path = some keyFile) :
    disk.load path = some keyFile ∧ keyFile.canLaunch = true :=
  Option.filter_eq_some_iff.mp wanted

/-- The app that a wanted file makes when none is listed. -/
def newApp (environment : Environment) (path : Path) (keyFile : KeyFile) (index : Nat) : App :=
  let app : App := { basename := path.basename, path := path }
  (app.readFrom environment path keyFile).placeAt index

theorem appNew_created {keyFile : KeyFile} (unlisted : manager.entry basename = none)
    (wanted : disk.wanted ⟨dir, basename⟩ = some keyFile) :
    manager.appNew environment disk ⟨dir, basename⟩ index =
      (manager.append (newApp environment ⟨dir, basename⟩ keyFile index),
        some manager.objects.length) := by
  obtain ⟨loaded, launches⟩ := wanted_some wanted
  simp [appNew_entry, unlisted, loadApp, loaded, launches, newApp, append]

theorem appNew_outranked {id : Nat} {app : App} (tidy : manager.Tidy)
    (listed : manager.entry basename = some (id, app)) (below : app.xdgPosition < index) :
    manager.appNew environment disk ⟨dir, basename⟩ index =
      (manager.replace id { app with xdgSystemPosition := min index app.xdgSystemPosition },
        none) := by
  have known := (tidy.entry_iff.mp listed).2.1
  simp [appNew_entry, listed, below, below.ne, modifyApp_known known]

/-- A file that comes over the listed app, which nobody edits. -/
theorem appNew_loaded {id : Nat} {app : App} (listed : manager.entry basename = some (id, app))
    (idle : app.saveTimeout = false ∧ app.skipNextMonitorEvent = false)
    (outranked : index ≤ app.xdgPosition) :
    manager.appNew environment disk ⟨dir, basename⟩ index =
      manager.loadApp environment disk ⟨dir, basename⟩ index (some (id, app)) := by
  have notBelow : ¬ app.xdgPosition < index := by omega
  simp [appNew_entry, listed, idle.1, idle.2, notBelow]

theorem loadApp_reread {id : Nat} {app : App} {path : Path} {keyFile : KeyFile}
    (wanted : disk.wanted path = some keyFile)
    (asserted : 0 < index → index ≤ app.xdgSystemPosition) :
    manager.loadApp environment disk path index (some (id, app)) =
      (manager.replace id ((app.readFrom environment path keyFile).placeAt index), some id) := by
  obtain ⟨loaded, launches⟩ := wanted_some wanted
  have notFailed : ¬ (0 < index ∧ app.xdgSystemPosition < index) := by
    rintro ⟨under, less⟩
    have := asserted under
    omega
  simp [loadApp, loaded, launches, notFailed, replace]

theorem newApp_eq {keyFile : KeyFile} (placed : environment.dirOf index = some dir) :
    newApp environment ⟨dir, basename⟩ keyFile index =
      App.ofChoice environment basename
        ⟨keyFile, index, if 0 < index then index else gMaxUint⟩ := by
  simp [newApp, App.ofChoice, App.readFrom, App.placeAt, placed]

/-- An app that shows a choice is read again from a file over it. -/
theorem reread_eq {keyFile : KeyFile} (placed : environment.dirOf index = some dir) :
    ((App.ofChoice environment basename chosen).readFrom environment
        ⟨dir, basename⟩ keyFile).placeAt index =
      App.ofChoice environment basename
        ⟨keyFile, index, if 0 < index then index else chosen.systemPosition⟩ := by
  simp [App.ofChoice, App.readFrom, App.placeAt, placed]

theorem ofChoice_idle : (App.ofChoice environment basename chosen).saveTimeout =
    false ∧ (App.ofChoice environment basename chosen).skipNextMonitorEvent =
      false :=
  ⟨rfl, rfl⟩

theorem Tidy.find_of_entry (tidy : manager.Tidy) :
    manager.findAppWithBasename basename = (manager.entry basename).map Prod.fst := by
  unfold entry
  cases search : manager.findAppWithBasename basename with
  | none => rfl
  | some id =>
      have inside := tidy.known id (List.mem_of_find?_eq_some search)
      simp [List.getElem?_eq_getElem inside]

theorem appNew_unlisted (tidy : manager.Tidy) (unlisted : manager.entry basename = none)
    (placed : environment.dirOf index = some dir) :
    (disk.wanted ⟨dir, basename⟩ = none ∧
      manager.appNew environment disk ⟨dir, basename⟩ index = (manager, none)) ∨
    ∃ keyFile created id, disk.wanted ⟨dir, basename⟩ = some keyFile ∧
      manager.appNew environment disk ⟨dir, basename⟩ index = (created, some id) ∧
      manager.PutsChoice environment (created.add id) basename
        (arrive gMaxUint index (some keyFile) none) := by
  have shown : manager.view basename = none := Option.map_eq_none_iff.mpr unlisted
  cases wanted : disk.wanted ⟨dir, basename⟩ with
  | none =>
      refine .inl ⟨rfl, ?_⟩
      rw [appNew_entry, unlisted]
      exact loadApp_unwanted wanted none
  | some keyFile =>
      refine .inr ⟨keyFile, _, _, rfl, appNew_created unlisted wanted, ?_⟩
      have named : (newApp environment ⟨dir, basename⟩ keyFile index).basename = basename := rfl
      have put := tidy.add shown named
      rwa [newApp_eq placed] at put ⊢

theorem appNew_listed (tidy : manager.Tidy)
    (offered : manager.Offers environment basename (some chosen))
    (placed : environment.dirOf index = some dir)
    (asserted : 0 < index → index ≤ chosen.position → index ≤ chosen.systemPosition) :
    manager.PutsChoice environment
        (manager.appNew environment disk ⟨dir, basename⟩ index).1 basename
        (arrive gMaxUint index (disk.wanted ⟨dir, basename⟩) (some chosen)) ∧
      (chosen.position < index →
        (manager.appNew environment disk ⟨dir, basename⟩ index).2 = none) := by
  obtain ⟨id, listed⟩ := entry_of_view offered
  by_cases below : chosen.position < index
  · rw [appNew_outranked tidy listed below]
    refine ⟨?_, fun _ => rfl⟩
    simp only [arrive, below, if_true]
    exact tidy.set listed rfl
  · refine ⟨?_, fun below' => absurd below' below⟩
    rw [appNew_loaded listed ofChoice_idle (Nat.le_of_not_lt below)]
    cases wanted : disk.wanted ⟨dir, basename⟩ with
    | none =>
        rw [loadApp_unwanted wanted]
        simp only [arrive, below, if_false]
        exact tidy.unchanged offered
    | some keyFile =>
        rw [loadApp_reread wanted (fun under => asserted under (Nat.le_of_not_lt below)),
          reread_eq placed]
        simp only [arrive, below, if_false]
        exact tidy.set listed rfl

end New

/-- A created or changed file is taken in as its arrival. -/
theorem monitorChanged_puts {dir : String} {index : Nat} (tidy : manager.Tidy)
    (desktop : isDesktopFile basename = true) (known : manager.getDirIndex dir = some index)
    (placed : environment.dirOf index = some dir)
    (offered : manager.Offers environment basename choice)
    (asserted : ∀ chosen, choice = some chosen → 0 < index → index ≤ chosen.position →
      index ≤ chosen.systemPosition) :
    manager.PutsChoice environment
      (manager.monitorChanged environment disk ⟨dir, basename⟩) basename
      (arrive gMaxUint index (disk.wanted ⟨dir, basename⟩) choice) := by
  simp only [monitorChanged, desktop, known, if_true, tidy.find_of_entry]
  cases choice with
  | none =>
      have unlisted := entry_of_view_none offered
      rw [unlisted]
      rcases appNew_unlisted tidy unlisted placed with
        ⟨unwanted, result⟩ | ⟨keyFile, created, id, wanted, result, put⟩
      · rw [result, unwanted]
        exact tidy.unchanged offered
      · rw [result, wanted]
        exact put
  | some chosen =>
      obtain ⟨id, listed⟩ := entry_of_view offered
      rw [listed]
      exact (appNew_listed tidy offered placed (asserted chosen rfl)).1

section Deletion

variable {index : Nat}

/-- What the directories hold under a basename. -/
def contents (disk : Disk) (manager : AppManager) (basename : String) (index : Nat) :
    Option KeyFile :=
  (manager.getDir index).bind (fun dir => disk.wanted ⟨dir, basename⟩)

/-- A deletion at which no assertion fails, and that leaves a file to promote. -/
structure Removable (disk : Disk) (manager : AppManager) (basename : String) (index : Nat)
    (chosen : Choice KeyFile) : Prop where
  notBefore : 0 < index → chosen.position ≤ index
  notBetween : chosen.position < index → chosen.systemPosition ≤ index
  promoted : chosen.position = index → index < chosen.systemPosition →
    chosen.systemPosition ≠ gMaxUint →
      chosen.systemPosition < gMaxUint ∧
        ∃ keyFile, manager.contents disk basename chosen.systemPosition = some keyFile

theorem reloadAt_promoted {id : Nat} {dir : String} {keyFile : KeyFile} (tidy : manager.Tidy)
    (listed : manager.entry basename =
      some (id, App.ofChoice environment basename chosen))
    (under : 0 < chosen.systemPosition) (inside : chosen.systemPosition < gMaxUint)
    (placed : environment.dirOf chosen.systemPosition = some dir)
    (wanted : disk.wanted ⟨dir, basename⟩ = some keyFile) :
    manager.reloadAt environment disk id ⟨dir, basename⟩ chosen.systemPosition =
      manager.replace id (App.ofChoice environment basename
        ⟨keyFile, chosen.systemPosition, chosen.systemPosition⟩) := by
  obtain ⟨member, known, _⟩ := tidy.entry_iff.mp listed
  let unplaced : App :=
    { App.ofChoice environment basename chosen with xdgPosition := gMaxUint }
  have named : unplaced.basename = basename := rfl
  have put := tidy.set listed named
  have listed' : (manager.replace id unplaced).entry basename = some (id, unplaced) :=
    put.tidy.entry_iff.mpr ⟨member, by simp [replace, tidy.known id member], rfl⟩
  have asserted : 0 < chosen.systemPosition →
    chosen.systemPosition ≤ unplaced.xdgSystemPosition := fun _ => le_rfl
  rw [reloadAt, modifyApp_known known,
    appNew_loaded listed' ⟨rfl, rfl⟩ inside.le, loadApp_reread wanted asserted]
  simp [replace, unplaced, App.ofChoice, App.readFrom, App.placeAt, placed, under]

theorem handleDelete_puts {id : Nat} (tidy : manager.Tidy)
    (dirs : manager.getDir = environment.dirOf)
    (offered : manager.Offers environment basename (some chosen))
    (listed : manager.entry basename =
      some (id, App.ofChoice environment basename chosen))
    (removable : Removable disk manager basename index chosen) :
    manager.PutsChoice environment
      (manager.handleDelete environment disk id
        (App.ofChoice environment basename chosen) basename index) basename
      (leave gMaxUint index ((manager.findDirWithBasename disk basename index).getD gMaxUint)
        (manager.contents disk basename) (some chosen)) := by
  have found := (tidy.entry_iff.mp listed).2.1
  have position : (App.ofChoice environment basename chosen).xdgPosition =
    chosen.position := rfl
  have system : (App.ofChoice environment basename chosen).xdgSystemPosition =
    chosen.systemPosition := rfl
  simp only [handleDelete, leave, position, system]
  by_cases unknown : chosen.systemPosition < index
  · rw [if_pos unknown, if_pos (.inl unknown)]
    exact tidy.unchanged offered
  by_cases before : index < chosen.position
  · have user : index = 0 := by
      by_contra other
      have := removable.notBefore (by omega)
      omega
    rw [if_neg unknown, if_pos before, if_pos user, if_pos (.inr before)]
    exact tidy.unchanged offered
  rw [if_neg unknown, if_neg before, if_neg (not_or.mpr ⟨unknown, before⟩)]
  by_cases last : chosen.position = index ∧
      (chosen.systemPosition = index ∨ chosen.systemPosition = gMaxUint)
  · rw [if_pos last, if_pos last]
    exact tidy.appRemoved listed
  rw [if_neg last, if_neg last]
  by_cases next : chosen.systemPosition = index
  · rw [if_pos next, if_pos next, modifyApp_known found]
    exact tidy.set listed rfl
  rw [if_neg next, if_neg next]
  have here : chosen.position = index := by
    by_contra elsewhere
    have := removable.notBetween (by omega)
    omega
  have notMax : chosen.systemPosition ≠ gMaxUint := fun same => last ⟨here, .inr same⟩
  obtain ⟨inside, keyFile, promoted⟩ := removable.promoted here (by omega) notMax
  obtain ⟨dir, placed, wanted⟩ := Option.bind_eq_some_iff.mp promoted
  rw [if_pos here, placed, promoted]
  dsimp only
  rw [dirs] at placed
  rw [reloadAt_promoted tidy listed (by omega) inside placed wanted]
  exact tidy.set listed rfl

/-- The deletion of a file is taken in as its leaving. -/
theorem monitorDeleted_puts {dir : String} (tidy : manager.Tidy)
    (dirs : manager.getDir = environment.dirOf) (desktop : isDesktopFile basename = true)
    (known : manager.getDirIndex dir = some index)
    (offered : manager.Offers environment basename choice)
    (removable : ∀ chosen, choice = some chosen → Removable disk manager basename index chosen) :
    manager.PutsChoice environment
      (manager.monitorDeleted environment disk ⟨dir, basename⟩) basename
      (leave gMaxUint index ((manager.findDirWithBasename disk basename index).getD gMaxUint)
        (manager.contents disk basename) choice) := by
  simp only [monitorDeleted, desktop, known, if_true, tidy.find_of_entry]
  cases choice with
  | none =>
      rw [entry_of_view_none offered]
      exact tidy.unchanged offered
  | some chosen =>
      obtain ⟨id, listed⟩ := entry_of_view offered
      have found := (tidy.entry_iff.mp listed).2.1
      rw [listed]
      simp only [Option.map_some, found]
      exact handleDelete_puts tidy dirs offered listed (removable chosen rfl)

end Deletion

end AppManager

end CafeSession.Capplet

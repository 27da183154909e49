import Mathlib.Data.Nat.Find
import CafeSession.Capplet.Monitor
import CafeSession.Capplet.UserFiles

namespace CafeSession.Capplet

open CafeSession.Overlay

variable {environment : Environment} {disk : Disk} {manager : AppManager}
variable {basename dir : String} {index : Nat}

namespace Environment

theorem dirOf_iff : environment.dirOf index = some dir ↔
    environment.autostartDirs[index]? = some dir ∧ dir ∉ environment.autostartDirs.take index := by
  simp [dirOf, Option.filter_eq_some_iff]

theorem mem_take_of_getElem? {dirs : List String} {place : Nat} (found : dirs[place]? = some dir)
    (before : place < index) : dir ∈ dirs.take index := by
  have inside : (dirs.take index)[place]? = some dir := by
    rw [List.getElem?_take_of_lt before, found]
  exact List.mem_of_getElem? inside

theorem dirOf_injective {other : Nat} (one : environment.dirOf index = some dir)
    (also : environment.dirOf other = some dir) : index = other := by
  obtain ⟨found, new⟩ := dirOf_iff.mp one
  obtain ⟨found', new'⟩ := dirOf_iff.mp also
  rcases Nat.lt_trichotomy index other with before | same | after
  · exact absurd (mem_take_of_getElem? found before) new'
  · exact same
  · exact absurd (mem_take_of_getElem? found' after) new

theorem dirOf_lt (placed : environment.dirOf index = some dir) :
    index < environment.autostartDirs.length := by
  obtain ⟨found, _⟩ := dirOf_iff.mp placed
  exact (List.getElem?_eq_some_iff.mp found).1

theorem mem_take_iff : dir ∈ environment.autostartDirs.take index ↔
    ∃ place < index, environment.dirOf place = some dir := by
  constructor
  · intro member
    have somewhere : ∃ place : Nat, environment.autostartDirs[place]? = some dir := by
      obtain ⟨place, found⟩ := List.getElem?_of_mem (List.mem_of_mem_take member)
      exact ⟨place, found⟩
    obtain ⟨place, inside, found⟩ := List.mem_take_iff_getElem.mp member
    have first := Nat.find_spec somewhere
    refine ⟨Nat.find somewhere, ?_, dirOf_iff.mpr ⟨first, fun earlier => ?_⟩⟩
    · have := Nat.find_min' somewhere (List.getElem?_eq_some_iff.mpr ⟨_, found⟩)
      omega
    · obtain ⟨other, before, same⟩ := List.mem_take_iff_getElem.mp earlier
      have notEarlier := Nat.find_min somewhere (Nat.lt_of_lt_of_le before (Nat.min_le_left _ _))
      exact notEarlier (List.getElem?_eq_some_iff.mpr ⟨_, same⟩)
  · rintro ⟨place, before, placed⟩
    exact mem_take_of_getElem? (dirOf_iff.mp placed).1 before

end Environment

/-- The files of one basename by the index of their directory. -/
def layersOf (environment : Environment) (slots : Path → Slot KeyFile) (basename : String) :
    Layers KeyFile :=
  fun index =>
    if isDesktopFile basename then
      match environment.dirOf index with
      | none => .absent
      | some dir => slots ⟨dir, basename⟩
    else
      .absent

section Layers

variable {slots : Path → Slot KeyFile}

theorem layersOf_placed (desktop : isDesktopFile basename = true)
    (placed : environment.dirOf index = some dir) :
    layersOf environment slots basename index = slots ⟨dir, basename⟩ := by
  simp [layersOf, desktop, placed]

theorem layersOf_beyond (unplaced : environment.dirOf index = none) :
    layersOf environment slots basename index = .absent := by
  simp [layersOf, unplaced]

theorem layersOf_congr {slots' : Path → Slot KeyFile}
    (same : ∀ dir, slots ⟨dir, basename⟩ = slots' ⟨dir, basename⟩) :
    layersOf environment slots basename = layersOf environment slots' basename := by
  funext index
  simp [layersOf, same]

theorem layersOf_update (desktop : isDesktopFile basename = true)
    (placed : environment.dirOf index = some dir) (slot : Slot KeyFile) :
    layersOf environment (Function.update slots ⟨dir, basename⟩ slot) basename =
      Function.update (layersOf environment slots basename) index slot := by
  funext other
  by_cases same : other = index
  · subst same
    rw [layersOf_placed desktop placed, Function.update_self, Function.update_self]
  · rw [Function.update_of_ne same]
    cases elsewhere : environment.dirOf other with
    | none => rw [layersOf_beyond elsewhere, layersOf_beyond elsewhere]
    | some dir' =>
        have different : dir' ≠ dir := by
          rintro rfl
          exact same (Environment.dirOf_injective elsewhere placed)
        rw [layersOf_placed desktop elsewhere, layersOf_placed desktop elsewhere,
          Function.update_of_ne (by simp [different])]

end Layers

namespace AppManager

/-- The manager shows what these files call for. -/
structure Scanned (environment : Environment) (slots : Path → Slot KeyFile)
    (manager : AppManager) : Prop where
  tidy : manager.Tidy
  running : manager.aborted = false
  opened : manager.closing = false
  shows : ∀ basename, ∃ choice, manager.Offers environment basename choice ∧
    (layersOf environment slots basename).Shows gMaxUint choice

variable {slots slots' : Path → Slot KeyFile}

theorem Scanned.congr (scanned : Scanned environment slots manager)
    (same : ∀ basename, layersOf environment slots basename =
      layersOf environment slots' basename) : Scanned environment slots' manager := by
  refine ⟨scanned.tidy, scanned.running, scanned.opened, fun basename => ?_⟩
  rw [← same]
  exact scanned.shows basename

theorem Scanned.put {after : AppManager} {choice : Option (Choice KeyFile)}
    (scanned : Scanned environment slots manager)
    (put : manager.PutsChoice environment after basename choice)
    (shows : (layersOf environment slots' basename).Shows gMaxUint choice)
    (elsewhere : ∀ path, path.basename ≠ basename → slots' path = slots path) :
    Scanned environment slots' after := by
  refine ⟨put.tidy, put.aborted.trans scanned.running, put.closing.trans scanned.opened, ?_⟩
  intro other
  by_cases same : other = basename
  · subst same
    exact ⟨choice, by simp [Offers, put.view], shows⟩
  · obtain ⟨choice', offered, shows'⟩ := scanned.shows other
    refine ⟨choice', ?_, ?_⟩
    · rw [Offers, put.view, Function.update_of_ne same]
      exact offered
    · rwa [layersOf_congr (fun dir => elsewhere ⟨dir, other⟩ same)]

/-- A file in a directory after all that have been scanned for its name. -/
theorem Scanned.scanFile {slot : Slot KeyFile} (scanned : Scanned environment slots manager)
    (desktop : isDesktopFile basename = true) (placed : environment.dirOf index = some dir)
    (inside : index < gMaxUint) (there : slot ≠ .absent)
    (content : slot.content = disk.wanted ⟨dir, basename⟩)
    (later : ∀ other, index ≤ other → layersOf environment slots basename other = .absent) :
    Scanned environment (Function.update slots ⟨dir, basename⟩ slot)
      (match manager.appNew environment disk ⟨dir, basename⟩ index with
        | (manager, some id) => manager.add id
        | (manager, none) => manager) := by
  obtain ⟨choice, offered, shows⟩ := scanned.shows basename
  have layers : layersOf environment (Function.update slots ⟨dir, basename⟩ slot) basename =
    Function.update (layersOf environment slots basename) index slot :=
      layersOf_update desktop placed slot
  have elsewhere (path : Path) (different : path.basename ≠ basename) :
      Function.update slots ⟨dir, basename⟩ slot path = slots path := by
    apply Function.update_of_ne
    rintro rfl
    exact different rfl
  have before (chosen : Choice KeyFile) (same : choice = some chosen) :
      chosen.position < index := by
    subst same
    by_contra notBefore
    have chosenThere := shows.chosen
    simp [later chosen.position (by omega)] at chosenThere
  have seen : ArrivalSeen gMaxUint
      (Function.update (layersOf environment slots basename) index slot) (fun _ => True)
      (choice.map places) index := by
    refine ⟨fun user _ other under _ present => ?_, fun position system placed same => ?_⟩
    · rw [Function.update_of_ne (by omega)] at present
      exact absurd (later other (by omega)) present
    · obtain ⟨chosen, known, places_eq⟩ := Option.map_eq_some_iff.mp placed
      have := before chosen known
      simp only [places, Prod.mk.injEq] at places_eq
      omega
  obtain ⟨after, agrees, shown⟩ := arrive_shows shows inside
    (fun other _ different => (Function.update_of_ne different _ _).symm)
    (fun _ => by simpa using there) seen
  have after_eq : after = layersOf environment
      (Function.update slots ⟨dir, basename⟩ slot) basename := by
    rw [layers]
    exact funext fun other => agrees other trivial
  rw [after_eq, Function.update_self, content] at shown
  cases choice with
  | none =>
      have unlisted := entry_of_view_none offered
      rcases appNew_unlisted scanned.tidy unlisted placed with
        ⟨unwanted, result⟩ | ⟨keyFile, created, id, wanted, result, put⟩
      · rw [result]
        rw [unwanted] at shown
        exact scanned.put (scanned.tidy.unchanged offered) shown elsewhere
      · rw [result]
        rw [wanted] at shown
        exact scanned.put put shown elsewhere
  | some chosen =>
      have below := before chosen rfl
      obtain ⟨put, unlisted⟩ := @appNew_listed _ disk _ _ _ _ _ scanned.tidy offered placed
        (fun _ notBelow => absurd below (by omega))
      have after := scanned.put put shown elsewhere
      have notNew := unlisted below
      cases result : manager.appNew environment disk ⟨dir, basename⟩ index with
      | mk manager id =>
          rw [result] at after notNew
          simp only at notNew
          subst notNew
          exact after

end AppManager

/-- What the autostart directories hold; a file that cannot be loaded is `some none`. -/
structure Contents where
  files : Path → Option (Option KeyFile)
  listing : String → List String
  lists : ∀ dir name, name ∈ listing dir ↔ (files ⟨dir, name⟩).isSome
  distinct : ∀ dir, (listing dir).Nodup

/-- The answers of the file system to a program that only reads. -/
def Contents.toDisk (contents : Contents) : Disk where
  load path := (contents.files path).join
  present path := (contents.files path).isSome
  writes _ := false
  removes _ := false
  listing := contents.listing

def Contents.slots (contents : Contents) (path : Path) : Slot KeyFile :=
  slotOf (contents.files path)

theorem slotOf_absent_iff (file : Option (Option KeyFile)) : slotOf file = .absent ↔ file = none := by
  rcases file with _ | _ | keyFile
  · simp [slotOf]
  · simp [slotOf]
  · by_cases launches : keyFile.canLaunch <;> simp [slotOf, launches]

namespace AppManager

variable {slots : Path → Slot KeyFile} {contents : Contents}

/-- The part of a directory that has been read. -/
def seenIn (contents : Contents) (slots : Path → Slot KeyFile) (dir : String)
    (names : List String) (path : Path) : Slot KeyFile :=
  if path.dir = dir ∧ path.basename ∈ names then contents.slots path else slots path

theorem Scanned.fillFromDir (scanned : Scanned environment slots manager)
    (placed : environment.dirOf index = some dir) (inside : index < gMaxUint)
    {names : List String} (distinct : names.Nodup)
    (listed : ∀ name ∈ names, (contents.files ⟨dir, name⟩).isSome)
    (later : ∀ name ∈ names, ∀ other dir', index ≤ other → environment.dirOf other = some dir' →
      slots ⟨dir', name⟩ = .absent) :
    Scanned environment (seenIn contents slots dir names)
      (AppManager.fillFromDir environment contents.toDisk index dir names manager) := by
  induction names generalizing manager slots with
  | nil => exact scanned.congr (fun basename => layersOf_congr (fun dir => by simp [seenIn]))
  | cons name names ih =>
      obtain ⟨new, distinct⟩ := List.nodup_cons.mp distinct
      have there : contents.slots ⟨dir, name⟩ ≠ .absent := by
        have isSome := listed name (by simp)
        rw [Contents.slots, ne_eq, slotOf_absent_iff]
        exact Option.isSome_iff_ne_none.mp isSome
      let slots' := Function.update slots ⟨dir, name⟩ (contents.slots ⟨dir, name⟩)
      have whole : seenIn contents slots' dir names = seenIn contents slots dir (name :: names) := by
        funext path
        obtain ⟨dir', name'⟩ := path
        by_cases here : dir' = dir <;> by_cases same : name' = name <;>
          simp [seenIn, slots', here, same, new]
      have later' : ∀ name' ∈ names, ∀ other dir', index ≤ other →
          environment.dirOf other = some dir' → slots' ⟨dir', name'⟩ = .absent := by
        intro name' member other dir' after placed'
        have different : name' ≠ name := by
          rintro rfl
          exact new member
        simp only [slots', ne_eq, Path.mk.injEq, different, and_false, not_false_eq_true,
          Function.update_of_ne]
        exact later name' (by simp [member]) other dir' after placed'
      rw [← whole]
      unfold AppManager.fillFromDir
      by_cases desktop : isDesktopFile name = true
      · have content : (contents.slots ⟨dir, name⟩).content =
            contents.toDisk.wanted ⟨dir, name⟩ := content_slotOf _
        have absent : ∀ other, index ≤ other → layersOf environment slots name other = .absent := by
          intro other after
          cases placed' : environment.dirOf other with
          | none => exact layersOf_beyond placed'
          | some dir' =>
              rw [layersOf_placed desktop placed']
              exact later name (by simp) other dir' after placed'
        have next := scanned.scanFile desktop placed inside there content absent
        simp only [desktop, if_true]
        cases result : manager.appNew environment contents.toDisk ⟨dir, name⟩ index with
        | mk manager' id =>
            rw [result] at next
            cases id with
            | none =>
                exact ih next distinct (fun name member => listed name (by simp [member])) later'
            | some id =>
                exact ih next distinct (fun name member => listed name (by simp [member])) later'
      · have same : Scanned environment slots' manager := by
          refine scanned.congr (fun basename => ?_)
          by_cases named : basename = name
          · funext other
            simp [layersOf, named, desktop]
          · exact layersOf_congr (fun dir' => by simp [slots', named])
        simp only [desktop]
        exact ih same distinct (fun name member => listed name (by simp [member])) later'

/-- The directories up to an index have been visited. -/
def Known (environment : Environment) (limit : Nat) (manager : AppManager) : Prop :=
  ∀ xdgDir, xdgDir ∈ manager.dirs ↔
    xdgDir.index < limit ∧ environment.dirOf xdgDir.index = some xdgDir.dir

theorem Known.getDirIndex_isSome {limit : Nat} (known : manager.Known environment limit) :
    (manager.getDirIndex dir).isSome = true ↔ dir ∈ environment.autostartDirs.take limit := by
  rw [Environment.mem_take_iff]
  constructor
  · intro found
    obtain ⟨index, found⟩ := Option.isSome_iff_exists.mp found
    obtain ⟨xdgDir, member, rfl, rfl⟩ := getDirIndex_mem found
    exact ⟨_, (known xdgDir).mp member⟩
  · rintro ⟨index, before, placed⟩
    by_contra unknown
    have member := (known ⟨dir, index⟩).mpr ⟨before, placed⟩
    exact getDirIndex_none (by simpa using unknown) _ member rfl

theorem Known.getDirIndex_eq (known : manager.Known environment environment.autostartDirs.length) :
    manager.getDirIndex dir = some index ↔ environment.dirOf index = some dir := by
  constructor
  · intro found
    obtain ⟨xdgDir, member, rfl, rfl⟩ := getDirIndex_mem found
    exact ((known xdgDir).mp member).2
  · intro placed
    have member : dir ∈ environment.autostartDirs.take environment.autostartDirs.length :=
      Environment.mem_take_iff.mpr ⟨index, Environment.dirOf_lt placed, placed⟩
    obtain ⟨other, found⟩ := Option.isSome_iff_exists.mp (known.getDirIndex_isSome.mpr member)
    obtain ⟨xdgDir, isDir, rfl, rfl⟩ := getDirIndex_mem found
    rw [found, Environment.dirOf_injective ((known xdgDir).mp isDir).2 placed]

theorem Known.getDir_eq (known : manager.Known environment environment.autostartDirs.length) :
    manager.getDir = environment.dirOf := by
  funext index
  cases placed : environment.dirOf index with
  | none =>
      by_contra found
      obtain ⟨dir, found⟩ := Option.ne_none_iff_exists'.mp found
      obtain ⟨xdgDir, member, rfl, rfl⟩ := getDir_mem found
      simp [((known xdgDir).mp member).2] at placed
  | some dir =>
      have member := (known ⟨dir, index⟩).mpr ⟨Environment.dirOf_lt placed, placed⟩
      cases found : manager.getDir index with
      | none =>
          have none := List.find?_eq_none.mp (Option.map_eq_none_iff.mp found) _ member
          simp at none
      | some other =>
          obtain ⟨xdgDir, isDir, rfl, rfl⟩ := getDir_mem found
          exact ((known xdgDir).mp isDir).2.symm.trans placed

/-- What has been seen of the files once these directories have been read. -/
def seenAmong (contents : Contents) (dirs : List String) (path : Path) : Slot KeyFile :=
  if path.dir ∈ dirs then contents.slots path else .absent

theorem Scanned.fillDirs (bounded : environment.autostartDirs.length ≤ gMaxUint)
    {front rest : List String} (split : environment.autostartDirs = front ++ rest)
    (known : manager.Known environment front.length)
    (scanned : Scanned environment (seenAmong contents front) manager) :
    (AppManager.fillDirs environment contents.toDisk (rest.zipIdx front.length) manager).Known
        environment environment.autostartDirs.length ∧
      Scanned environment (seenAmong contents environment.autostartDirs)
        (AppManager.fillDirs environment contents.toDisk (rest.zipIdx front.length) manager) := by
  induction rest generalizing front manager with
  | nil =>
      rw [List.append_nil] at split
      rw [split]
      exact ⟨known, scanned⟩
  | cons dir rest ih =>
      have split' : environment.autostartDirs = (front ++ [dir]) ++ rest := by simp [split]
      have taken : environment.autostartDirs.take front.length = front := by simp [split]
      have there : environment.autostartDirs[front.length]? = some dir := by simp [split]
      have next : front.length + 1 = (front ++ [dir]).length := by simp
      have member : (manager.getDirIndex dir).isSome = true ↔
          dir ∈ environment.autostartDirs.take front.length := known.getDirIndex_isSome
      rw [taken] at member
      rw [List.zipIdx_cons, AppManager.fillDirs]
      by_cases visited : dir ∈ front
      · have unplaced (other : String) : environment.dirOf front.length ≠ some other := by
          intro placed
          obtain ⟨found, new⟩ := Environment.dirOf_iff.mp placed
          rw [taken] at new
          obtain rfl : dir = other := Option.some.inj (there.symm.trans found)
          exact new visited
        have known' : manager.Known environment (front ++ [dir]).length := by
          intro xdgDir
          rw [known xdgDir, ← next]
          constructor
          · exact fun ⟨before, placed⟩ => ⟨by omega, placed⟩
          · intro ⟨before, placed⟩
            refine ⟨?_, placed⟩
            by_contra notBefore
            have same : xdgDir.index = front.length := by omega
            exact unplaced _ (same ▸ placed)
        have scanned' : Scanned environment (seenAmong contents (front ++ [dir])) manager := by
          refine scanned.congr (fun basename => layersOf_congr (fun dir' => ?_))
          by_cases same : dir' = dir <;> simp [seenAmong, same, visited]
        rw [if_pos (member.mpr visited), next]
        exact ih split' known' scanned'
      · have placed : environment.dirOf front.length = some dir :=
          Environment.dirOf_iff.mpr ⟨there, by rwa [taken]⟩
        let added : AppManager := { manager with dirs := ⟨dir, front.length⟩ :: manager.dirs }
        have scannedAdded : Scanned environment (seenAmong contents front) added :=
          ⟨⟨scanned.tidy.known, scanned.tidy.distinct⟩, scanned.running, scanned.opened,
            scanned.shows⟩
        have inside : front.length < gMaxUint := by
          have := Environment.dirOf_lt placed
          omega
        have read := scannedAdded.fillFromDir placed inside (contents.distinct dir)
          (fun name listed => (contents.lists dir name).mp listed) (by
            intro name _ other dir' after placed'
            have new : dir' ∉ front := by
              intro earlier
              rw [← taken, Environment.mem_take_iff] at earlier
              obtain ⟨place, before, same⟩ := earlier
              have := Environment.dirOf_injective same placed'
              omega
            simp [seenAmong, new])
        have known' : (AppManager.fillFromDir environment contents.toDisk front.length dir
            (contents.listing dir) added).Known environment (front ++ [dir]).length := by
          intro xdgDir
          rw [fillFromDir_dirs, ← next]
          simp only [added, List.mem_cons, known xdgDir]
          constructor
          · rintro (rfl | ⟨before, placed'⟩)
            · exact ⟨by simp, placed⟩
            · exact ⟨by omega, placed'⟩
          · rintro ⟨before, placed'⟩
            rcases Nat.lt_succ_iff_lt_or_eq.mp before with earlier | same
            · exact .inr ⟨earlier, placed'⟩
            · left
              rw [same, placed, Option.some.injEq] at placed'
              cases xdgDir
              simp_all
        have scanned' : Scanned environment (seenAmong contents (front ++ [dir]))
            (AppManager.fillFromDir environment contents.toDisk front.length dir
              (contents.listing dir) added) := by
          refine read.congr (fun basename => layersOf_congr (fun dir' => ?_))
          by_cases same : dir' = dir
          · subst same
            by_cases listed : basename ∈ contents.listing dir'
            · simp [seenIn, seenAmong, listed]
            · have absent : contents.slots ⟨dir', basename⟩ = .absent := by
                rw [contents.lists, Bool.not_eq_true, Option.isSome_eq_false_iff,
                  Option.isNone_iff_eq_none] at listed
                rw [Contents.slots, listed, slotOf]
              simp [seenIn, seenAmong, listed, visited, absent]
          · simp [seenIn, seenAmong, same]
        rw [if_neg (fun found => visited (member.mp found)), next]
        exact ih split' known' scanned'

/-- A fresh scan shows what the files in the autostart directories call for. -/
theorem Scanned.fill (bounded : environment.autostartDirs.length ≤ gMaxUint)
    (contents : Contents) :
    (({} : AppManager).fill environment contents.toDisk).Known environment
        environment.autostartDirs.length ∧
      Scanned environment contents.slots (({} : AppManager).fill environment contents.toDisk) := by
  have empty : Scanned environment (seenAmong contents []) {} := by
    refine ⟨⟨by simp, by simp⟩, rfl, rfl, fun basename => ⟨none, rfl, ?_⟩⟩
    refine .nothing (fun index => ?_)
    have absent : layersOf environment (seenAmong contents []) basename index = .absent := by
      simp only [layersOf, seenAmong]
      split_ifs
      · cases environment.dirOf index <;> simp
      · rfl
    simp [absent]
  have known : ({} : AppManager).Known environment ([] : List String).length := by
    simp [Known]
  obtain ⟨known, scanned⟩ := Scanned.fillDirs bounded (List.nil_append _).symm known empty
  refine ⟨known, scanned.congr (fun basename => ?_)⟩
  funext index
  cases placed : environment.dirOf index with
  | none => rw [layersOf_beyond placed, layersOf_beyond placed]
  | some dir =>
      have member : dir ∈ environment.autostartDirs :=
        List.mem_of_getElem? (Environment.dirOf_iff.mp placed).1
      simp [layersOf, placed, seenAmong, member]

end AppManager

end CafeSession.Capplet

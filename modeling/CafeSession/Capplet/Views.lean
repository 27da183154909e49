import Mathlib.Data.List.Perm.Basic
import Mathlib.Data.List.Nodup
import CafeSession.Capplet.AppManager

namespace CafeSession.Capplet.AppManager

variable {manager : AppManager}

/-- The apps on the manager's list. -/
def shownApps (manager : AppManager) : List App :=
  manager.apps.filterMap (fun id => manager.objects[id]?)

def basenameOf (manager : AppManager) (id : Nat) : Option String :=
  (manager.objects[id]?).map App.basename

/-- The app listed under a basename, with its place. -/
def entry (manager : AppManager) (basename : String) : Option (Nat × App) :=
  (manager.findAppWithBasename basename).bind
    (fun id => (manager.objects[id]?).map (fun app => (id, app)))

def view (manager : AppManager) (basename : String) : Option App :=
  (manager.entry basename).map Prod.snd

/-- The manager with another state of one object. -/
def replace (manager : AppManager) (id : Nat) (app : App) : AppManager :=
  { manager with objects := manager.objects.set id app }

/-- The manager with one more object. -/
def append (manager : AppManager) (app : App) : AppManager :=
  { manager with objects := manager.objects ++ [app] }

structure Tidy (manager : AppManager) : Prop where
  known : ∀ id ∈ manager.apps, id < manager.objects.length
  distinct : (manager.apps.map manager.basenameOf).Nodup

theorem hasBasename_iff {basename : String} {id : Nat} :
    manager.hasBasename basename id = true ↔ manager.basenameOf id = some basename := by
  unfold hasBasename basenameOf
  cases manager.objects[id]? <;> simp

theorem basenameOf_of_getElem? {id : Nat} {app : App} (found : manager.objects[id]? = some app) :
    manager.basenameOf id = some app.basename := by
  simp [basenameOf, found]

theorem Tidy.entry_iff (tidy : manager.Tidy) {basename : String} {id : Nat} {app : App} :
    manager.entry basename = some (id, app) ↔
      id ∈ manager.apps ∧ manager.objects[id]? = some app ∧ app.basename = basename := by
  constructor
  · intro listed
    obtain ⟨found, search, named⟩ := Option.bind_eq_some_iff.mp listed
    obtain ⟨other, known, same⟩ := Option.map_eq_some_iff.mp named
    obtain ⟨rfl, rfl⟩ := Prod.mk.inj same
    have basename_eq := hasBasename_iff.mp (List.find?_some search)
    rw [basenameOf_of_getElem? known, Option.some.injEq] at basename_eq
    exact ⟨List.mem_of_find?_eq_some search, known, basename_eq⟩
  · rintro ⟨member, known, rfl⟩
    have named := basenameOf_of_getElem? known
    cases search : manager.findAppWithBasename app.basename with
    | none =>
        have none := List.find?_eq_none.mp search id member
        exact absurd (hasBasename_iff.mpr named) none
    | some found =>
        have also := hasBasename_iff.mp (List.find?_some search)
        have same : found = id := List.inj_on_of_nodup_map tidy.distinct
          (List.mem_of_find?_eq_some search) member (also.trans named.symm)
        subst same
        simp [entry, search, known]

theorem Tidy.view_iff (tidy : manager.Tidy) {basename : String} {app : App} :
    manager.view basename = some app ↔
      ∃ id ∈ manager.apps, manager.objects[id]? = some app ∧ app.basename = basename := by
  simp [view, tidy.entry_iff]

theorem Tidy.nodup (tidy : manager.Tidy) : manager.apps.Nodup :=
  tidy.distinct.of_map

theorem Tidy.unique (tidy : manager.Tidy) {id other : Nat} (member : id ∈ manager.apps)
    (also : other ∈ manager.apps) (same : manager.basenameOf id = manager.basenameOf other) :
    id = other :=
  List.inj_on_of_nodup_map tidy.distinct member also same

theorem Tidy.shownApps_nodup (tidy : manager.Tidy) : manager.shownApps.Nodup := by
  have names : ∀ apps : List Nat, (∀ id ∈ apps, id < manager.objects.length) →
      (apps.filterMap (fun id => manager.objects[id]?)).map (fun app => some app.basename) =
        apps.map manager.basenameOf := by
    intro apps known
    induction apps with
    | nil => rfl
    | cons id apps ih =>
        obtain ⟨inside, rest⟩ := List.forall_mem_cons.mp known
        simp [basenameOf, inside, ih rest]
  apply List.Nodup.of_map (fun app => some app.basename)
  rw [shownApps, names _ tidy.known]
  exact tidy.distinct

theorem Tidy.mem_shownApps (tidy : manager.Tidy) {app : App} :
    app ∈ manager.shownApps ↔ manager.view app.basename = some app := by
  simp [shownApps, tidy.view_iff]

/-- Two managers that show the same under each basename list the same apps. -/
theorem Tidy.shownApps_perm {other : AppManager} (tidy : manager.Tidy) (also : other.Tidy)
    (same : ∀ basename, manager.view basename = other.view basename) :
    manager.shownApps.Perm other.shownApps := by
  rw [List.perm_ext_iff_of_nodup tidy.shownApps_nodup also.shownApps_nodup]
  intro app
  rw [tidy.mem_shownApps, also.mem_shownApps, same]

/-- A change of the list that replaces what is shown under one basename. -/
structure Puts (before after : AppManager) (basename : String) (shown : Option App) : Prop where
  tidy : after.Tidy
  view : after.view = Function.update before.view basename shown
  dirs : after.dirs = before.dirs
  aborted : after.aborted = before.aborted
  closing : after.closing = before.closing

theorem Puts.of_listed {before after : AppManager} {basename : String} {shown : Option App}
    (tidy : before.Tidy) (tidy' : after.Tidy) (dirs : after.dirs = before.dirs)
    (aborted : after.aborted = before.aborted) (closing : after.closing = before.closing)
    (here : after.view basename = shown)
    (elsewhere : ∀ app, app.basename ≠ basename →
      ((∃ id ∈ after.apps, after.objects[id]? = some app) ↔
        ∃ id ∈ before.apps, before.objects[id]? = some app)) :
    before.Puts after basename shown := by
  refine ⟨tidy', funext fun other => ?_, dirs, aborted, closing⟩
  by_cases same : other = basename
  · simpa [same] using here
  · rw [Function.update_of_ne same]
    ext app
    rw [tidy'.view_iff, tidy.view_iff]
    by_cases named : app.basename = other
    · have := elsewhere app (by rwa [named])
      simpa [named] using this
    · simp [named]

theorem Tidy.unchanged (tidy : manager.Tidy) {basename : String} {shown : Option App}
    (same : manager.view basename = shown) : manager.Puts manager basename shown :=
  ⟨tidy, by rw [← same, Function.update_eq_self], rfl, rfl, rfl⟩

theorem Tidy.set (tidy : manager.Tidy) {basename : String} {id : Nat} {app changed : App}
    (listed : manager.entry basename = some (id, app)) (named : changed.basename = basename) :
    manager.Puts (manager.replace id changed) basename (some changed) := by
  obtain ⟨member, known, same⟩ := tidy.entry_iff.mp listed
  have inside := tidy.known id member
  have names : (manager.replace id changed).basenameOf = manager.basenameOf := by
    funext other
    by_cases here : other = id
    · subst here
      rw [basenameOf_of_getElem? known, same]
      simp [basenameOf, replace, inside, named]
    · simp [basenameOf, replace, List.getElem?_set_ne (Ne.symm here)]
  have tidy' : (manager.replace id changed).Tidy := by
    refine ⟨by simpa [replace] using tidy.known, ?_⟩
    rw [names]
    exact tidy.distinct
  apply Puts.of_listed tidy tidy' rfl rfl rfl
  · exact tidy'.view_iff.mpr ⟨id, member, by simp [replace, inside], named⟩
  · intro other different
    constructor
    · rintro ⟨place, also, found⟩
      by_cases here : place = id
      · subst here
        simp [replace, inside] at found
        simp [← found, named] at different
      · exact ⟨place, also, by rwa [replace, List.getElem?_set_ne (Ne.symm here)] at found⟩
    · rintro ⟨place, also, found⟩
      have here : id ≠ place := by
        rintro rfl
        simp [← Option.some.inj (known.symm.trans found), same] at different
      exact ⟨place, also, by rwa [replace, List.getElem?_set_ne here]⟩

theorem Tidy.add (tidy : manager.Tidy) {basename : String} {app : App}
    (unlisted : manager.view basename = none) (named : app.basename = basename) :
    manager.Puts ((manager.append app).add manager.objects.length) basename (some app) := by
  have old {id : Nat} (member : id ∈ manager.apps) :
      (manager.append app).objects[id]? = manager.objects[id]? :=
    List.getElem?_append_left (tidy.known id member)
  have absent : ∀ id ∈ manager.apps, manager.basenameOf id ≠ some basename := by
    intro id member same
    obtain ⟨other, known, named⟩ := Option.map_eq_some_iff.mp same
    have listed := tidy.view_iff.mpr ⟨id, member, known, named⟩
    simp [unlisted] at listed
  have new : (manager.append app).objects[manager.objects.length]? = some app := by
    simp [append]
  have tidy' : ((manager.append app).add manager.objects.length).Tidy := by
    refine ⟨?_, ?_⟩
    · intro id member
      rcases List.mem_cons.mp member with rfl | member
      · simp [AppManager.add, append]
      · have := tidy.known id member
        simp [AppManager.add, append]
        omega
    · have names : manager.apps.map (manager.append app).basenameOf =
          manager.apps.map manager.basenameOf := by
        apply List.map_congr_left
        intro id member
        rw [basenameOf, basenameOf, old member]
      have first := basenameOf_of_getElem? new
      change ((manager.objects.length :: manager.apps).map (manager.append app).basenameOf).Nodup
      rw [List.map_cons, List.nodup_cons, names, first, named]
      refine ⟨fun member => ?_, tidy.distinct⟩
      obtain ⟨id, also, same⟩ := List.mem_map.mp member
      exact absent id also same
  apply Puts.of_listed tidy tidy' rfl rfl rfl
  · exact tidy'.view_iff.mpr ⟨manager.objects.length, by simp [AppManager.add], new, named⟩
  · intro other different
    constructor
    · rintro ⟨place, member, found⟩
      rcases List.mem_cons.mp member with rfl | member
      · simp [← Option.some.inj (new.symm.trans found), named] at different
      · exact ⟨place, member, (old member).symm.trans found⟩
    · rintro ⟨place, member, found⟩
      exact ⟨place, List.mem_cons_of_mem _ member, (old member).trans found⟩

theorem Tidy.appRemoved (tidy : manager.Tidy) {basename : String} {id : Nat} {app : App}
    (listed : manager.entry basename = some (id, app)) :
    manager.Puts (manager.appRemoved id) basename none := by
  obtain ⟨member, known, same⟩ := tidy.entry_iff.mp listed
  have left (place : Nat) : place ∈ manager.apps.erase id ↔ place ≠ id ∧ place ∈ manager.apps :=
    tidy.nodup.mem_erase_iff
  have tidy' : (manager.appRemoved id).Tidy := by
    refine ⟨fun place also => tidy.known place ((left place).mp also).2, ?_⟩
    exact tidy.distinct.sublist (List.erase_sublist.map manager.basenameOf)
  apply Puts.of_listed tidy tidy' rfl rfl rfl
  · by_contra shown
    obtain ⟨other, shown⟩ := Option.ne_none_iff_exists'.mp shown
    obtain ⟨place, also, found, named⟩ := tidy'.view_iff.mp shown
    obtain ⟨different, also⟩ := (left place).mp also
    have names : manager.basenameOf place = manager.basenameOf id := by
      rw [basenameOf_of_getElem? known, same, ← named]
      exact basenameOf_of_getElem? found
    exact different (tidy.unique also member names)
  · intro other different
    constructor
    · rintro ⟨place, also, found⟩
      exact ⟨place, ((left place).mp also).2, found⟩
    · rintro ⟨place, also, found⟩
      have here : place ≠ id := by
        rintro rfl
        simp [← Option.some.inj (known.symm.trans found), same] at different
      exact ⟨place, (left place).mpr ⟨here, also⟩, found⟩

end CafeSession.Capplet.AppManager

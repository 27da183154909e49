import CafeSession.Capplet.Incremental

namespace CafeSession.Capplet

open CafeSession.Overlay CafeSession.Transition

section Positions

variable {Content : Type*} {limit index : Nat} {content : Option Content}
variable {choice : Option (Choice Content)} {stands stands' usable loadable : Nat → Prop}

/-- The positions leave out no file that stands. -/
structure Covers (stands : Nat → Prop) (chosen : Choice Content) : Prop where
  placed : chosen.position = 0 ∨ chosen.position = chosen.systemPosition
  covered : ∀ index, 0 < index → stands index → chosen.systemPosition ≤ index

/-- A change of a file that brings no position over a file that stands. -/
structure ArrivalCovered (usable stands : Nat → Prop) (position : Option Nat) (index : Nat) :
    Prop where
  /-- an app is only made of a file when no system file stands before it -/
  first : position = none → usable index → ∀ other, 0 < other → stands other →
    0 < index ∧ index ≤ other
  /-- a system file before the shown one can be used, unless it is gone again -/
  before : ∀ shown, position = some shown → 0 < index → index < shown → stands index →
    usable index

/-- A deletion under an app of the user that brings no position over a file that stands. -/
structure DeletionCovered (limit : Nat) (usable loadable stands : Nat → Prop)
    (systemPosition index : Nat) : Prop where
  /-- each later file that stands can be loaded, or comes after one that can -/
  following : systemPosition = index → ∀ other, index < other → stands other →
    ∃ first, index < first ∧ first ≤ other ∧ loadable first
  /-- the user's file leaves a usable one at the system position -/
  promoted : index = 0 → systemPosition ≠ limit → usable systemPosition

theorem arrive_covers (covers : ∀ chosen, choice = some chosen → Covers stands chosen)
    (others : ∀ other, other ≠ index → stands' other → stands other)
    (usable_iff : usable index ↔ content ≠ none)
    (seen : ArrivalCovered usable stands' (choice.map Choice.position) index)
    {after : Choice Content} (arrived : arrive limit index content choice = some after) :
    Covers stands' after := by
  cases choice with
  | none =>
      obtain ⟨found, present, rfl⟩ := Option.map_eq_some_iff.mp arrived
      have before := seen.first rfl (usable_iff.mpr (by simp [present]))
      refine ⟨?_, fun other under there => ?_⟩
      · rcases Nat.eq_zero_or_pos index with user | system
        · exact .inl user
        · exact .inr (by simp [system])
      · obtain ⟨system, earlier⟩ := before other under there
        simpa [system] using earlier
  | some chosen =>
      obtain ⟨placed, covered⟩ := covers chosen rfl
      have still (other : Nat) (under : 0 < other) (different : other ≠ index)
          (there : stands' other) : chosen.systemPosition ≤ other :=
        covered other under (others other different there)
      by_cases below : chosen.position < index
      · simp only [arrive, below, if_true, Option.some.injEq] at arrived
        subst arrived
        have user : chosen.position = 0 ∨ chosen.position = min index chosen.systemPosition := by
          omega
        refine ⟨user, fun other under there => ?_⟩
        by_cases same : other = index
        · exact same ▸ Nat.min_le_left _ _
        · exact (Nat.min_le_right _ _).trans (still other under same there)
      · cases content with
        | some found =>
            simp only [arrive, below, if_false, Option.some.injEq] at arrived
            subst arrived
            rcases Nat.eq_zero_or_pos index with user | system
            · refine ⟨.inl user, fun other under there => ?_⟩
              simpa [user] using still other under (by omega) there
            · refine ⟨.inr (by simp [system]), fun other under there => ?_⟩
              simp only [system, if_true]
              by_cases same : other = index
              · exact same.ge
              · have := still other under same there
                omega
        | none =>
            simp only [arrive, below, if_false, Option.some.injEq] at arrived
            subst arrived
            refine ⟨placed, fun other under there => ?_⟩
            by_cases same : other = index
            · subst same
              by_contra before
              have needed := seen.before chosen.position rfl under (by omega) there
              exact usable_iff.mp needed rfl
            · exact still other under same there

theorem leave_covers {next : Nat} {contents : Nat → Option Content}
    (covers : ∀ chosen, choice = some chosen → Covers stands chosen)
    (others : ∀ other, stands' other → other ≠ index ∧ stands other)
    (found : IsLeast (insert limit {other | index < other ∧ loadable other}) next)
    (seen : ∀ chosen, choice = some chosen → chosen.position = 0 →
      DeletionCovered limit usable loadable stands' chosen.systemPosition index)
    {after : Choice Content} (left : leave limit index next contents choice = some after) :
    Covers stands' after := by
  cases choice with
  | none => cases left
  | some chosen =>
      obtain ⟨placed, covered⟩ := covers chosen rfl
      have still (other : Nat) (under : 0 < other) (there : stands' other) :
          chosen.systemPosition ≤ other :=
        covered other under (others other there).2
      simp only [leave] at left
      split_ifs at left with elsewhere last shadowed
      · cases left
        exact ⟨placed, still⟩
      · cases left
        have user : chosen.position = 0 := by
          rcases placed with user | same
          · exact user
          · exact absurd ⟨same.trans shadowed, .inl shadowed⟩ last
        refine ⟨.inl user, fun other under there => ?_⟩
        have later : index < other := by
          have := still other under there
          have := (others other there).1
          omega
        obtain ⟨first, after, before, loads⟩ :=
          (seen chosen rfl user).following shadowed other later there
        exact (found.2 (.inr ⟨after, loads⟩)).trans before
      · obtain ⟨content, _, rfl⟩ := Option.map_eq_some_iff.mp left
        exact ⟨.inr rfl, still⟩

end Positions

namespace Watch

variable {environment : Environment} {state after : Watch} {contents : Contents}
variable {queue rest : List (Notice Path Change)} {notice : Notice Path Change}
variable {basename : String} {path other : Path} {index : Nat}

/-- The next word about the file may be that it is deleted. -/
def Stands (queue : List (Notice Path Change)) (contents : Contents) (path : Path) : Prop :=
  match nextKind queue path with
  | none => (contents.files path).isSome
  | some kind => kind = .deleted

def StandsAt (environment : Environment) (queue : List (Notice Path Change))
    (contents : Contents) (basename : String) (index : Nat) : Prop :=
  ∃ dir, environment.dirOf index = some dir ∧ Stands queue contents ⟨dir, basename⟩

/-- The file can be loaded and launched as it is on disk. -/
def Usable (environment : Environment) (contents : Contents) (basename : String) (index : Nat) :
    Prop :=
  (layersOf environment contents.slots basename index).content ≠ none

/-- The notice that is delivered brings no position over a file that stands. -/
def Covered (environment : Environment) (state : Watch) (notice : Notice Path Change)
    (rest : List (Notice Path Change)) (index : Nat) : Prop :=
  let basename := notice.key.basename
  let usable := Usable environment state.contents basename
  let stands := StandsAt environment rest state.contents basename
  match notice.kind with
  | .changed =>
      ArrivalCovered usable stands ((state.manager.view basename).map App.xdgPosition) index
  | .deleted =>
      ∀ app, state.manager.view basename = some app → app.xdgPosition = 0 →
        DeletionCovered gMaxUint usable (Loadable environment state.contents basename) stands
          app.xdgSystemPosition index

/-- The condition on a step. -/
def Accounted (environment : Environment) (state : Watch) : WatchEvent → Prop
  | .deliver => ∀ notice rest, state.queue = notice :: rest → ∀ index,
      environment.dirOf index = some notice.key.dir → state.Covered environment notice rest index
  | _ => True

/-- The condition on the start: without a usable file of the user, no system
file that cannot be used lies before one that can. -/
def ScansAll (environment : Environment) (state : Watch) : Prop :=
  ∀ basename first, ¬ Usable environment state.contents basename 0 →
    Usable environment state.contents basename first → ∀ index, 0 < index → index < first →
      layersOf environment state.contents.slots basename index = .absent ∨
        Usable environment state.contents basename index

/-- After the notice of a deletion a file stands no more. -/
def Sound (contents : Contents) : List (Notice Path Change) → Prop
  | [] => True
  | notice :: rest => (notice.kind = .deleted → ¬ Stands rest contents notice.key) ∧
      Sound contents rest

/-- What the manager shows leaves out no file that stands. -/
structure Accounts (environment : Environment) (state : Watch) : Prop where
  bounded : environment.autostartDirs.length ≤ gMaxUint
  known : state.manager.Known environment environment.autostartDirs.length
  tidy : state.manager.Tidy
  running : state.manager.aborted = false
  opened : state.manager.closing = false
  sound : Sound state.contents state.queue
  shows : ∀ basename, isDesktopFile basename = true →
    ∃ choice, state.manager.Offers environment basename choice ∧ ∀ chosen, choice = some chosen →
      Covers (StandsAt environment state.queue state.contents basename) chosen

theorem stands_cons_of_ne (different : path ≠ notice.key) :
    Stands (notice :: rest) contents path ↔ Stands rest contents path := by
  rw [Stands, Stands, nextKind_cons_of_ne different]

theorem stands_write {file : Option KeyFile}
    (there : Stands (queue ++ [⟨path, .changed⟩]) (contents.write path file) other) :
    Stands queue contents other := by
  unfold Stands at there ⊢
  rw [nextKind_append] at there
  cases next : nextKind queue other with
  | some kind => simpa [next] using there
  | none =>
      by_cases same : path = other
      · simp [next, same] at there
      · simpa [next, same, Contents.write, Function.update_of_ne (Ne.symm same)] using there

theorem stands_remove (present : (contents.files path).isSome)
    (there : Stands (queue ++ [⟨path, .deleted⟩]) (contents.remove path) other) :
    Stands queue contents other := by
  unfold Stands at there ⊢
  rw [nextKind_append] at there
  cases next : nextKind queue other with
  | some kind => simpa [next] using there
  | none =>
      by_cases same : path = other
      · exact same ▸ present
      · simpa [next, same, Contents.remove, Function.update_of_ne (Ne.symm same)] using there

/-- Another program's change of the files stands nothing up at once. -/
theorem Sound.append {contents' : Contents} (sound : Sound contents queue)
    (fewer : ∀ queue path, Stands (queue ++ [notice]) contents' path →
      Stands queue contents path)
    (told : notice.kind = .deleted → contents'.files notice.key = none) :
    Sound contents' (queue ++ [notice]) := by
  induction queue with
  | nil =>
      refine ⟨fun deleted there => ?_, trivial⟩
      simp [Stands, nextKind, told deleted] at there
  | cons first rest ih =>
      exact ⟨fun deleted there => sound.1 deleted (fewer rest _ there), ih sound.2⟩

theorem Accounts.changes {contents' : Contents} (accounts : state.Accounts environment)
    (sound : Sound contents' queue)
    (fewer : ∀ path, Stands queue contents' path → Stands state.queue state.contents path) :
    ({ state with contents := contents', queue := queue } : Watch).Accounts environment := by
  refine ⟨accounts.bounded, accounts.known, accounts.tidy, accounts.running, accounts.opened,
    sound, fun basename desktop => ?_⟩
  obtain ⟨choice, offered, covers⟩ := accounts.shows basename desktop
  refine ⟨choice, offered, fun chosen same => ?_⟩
  obtain ⟨placed, covered⟩ := covers chosen same
  refine ⟨placed, fun index under there => covered index under ?_⟩
  obtain ⟨dir, found, stands⟩ := there
  exact ⟨dir, found, fewer _ stands⟩

section Deliver

theorem Accounts.inside (accounts : state.Accounts environment)
    (usable : Usable environment contents basename index) : index < gMaxUint := by
  cases placed : environment.dirOf index with
  | none => simp [Usable, layersOf_beyond placed] at usable
  | some dir => exact Nat.lt_of_lt_of_le (Environment.dirOf_lt placed) accounts.bounded

/-- The notice is taken, and what stands of its basename is still covered. -/
theorem Accounts.taken {manager : AppManager} {choice : Option (Choice KeyFile)}
    (accounts : state.Accounts environment) (queued : state.queue = notice :: rest)
    (put : state.manager.PutsChoice environment manager notice.key.basename choice)
    (covers : ∀ chosen, choice = some chosen →
      Covers (StandsAt environment rest state.contents notice.key.basename) chosen) :
    ({ state with queue := rest, manager := manager } : Watch).Accounts environment := by
  have sound := accounts.sound
  rw [queued] at sound
  refine ⟨accounts.bounded, ?_, put.tidy, put.aborted.trans accounts.running,
    put.closing.trans accounts.opened, sound.2, fun basename desktop => ?_⟩
  · intro xdgDir
    rw [put.dirs]
    exact accounts.known xdgDir
  · by_cases same : basename = notice.key.basename
    · subst same
      exact ⟨choice, by simp [AppManager.Offers, put.view], covers⟩
    · obtain ⟨choice', offered, covers'⟩ := accounts.shows basename desktop
      refine ⟨choice', ?_, fun chosen shown => ?_⟩
      · rw [AppManager.Offers, put.view, Function.update_of_ne same]
        exact offered
      · obtain ⟨placed, covered⟩ := covers' chosen shown
        refine ⟨placed, fun index under there => covered index under ?_⟩
        obtain ⟨dir, found, stands⟩ := there
        have different : (⟨dir, basename⟩ : Path) ≠ notice.key :=
          fun keyed => same (congrArg Path.basename keyed)
        refine ⟨dir, found, ?_⟩
        rw [queued, stands_cons_of_ne different]
        exact stands

/-- What stands in the other directories stood there before the notice was taken. -/
theorem standsAt_other (placed : environment.dirOf index = some notice.key.dir) {other : Nat}
    (different : other ≠ index)
    (there : StandsAt environment rest contents notice.key.basename other) :
    StandsAt environment (notice :: rest) contents notice.key.basename other := by
  obtain ⟨dir, found, stands⟩ := there
  refine ⟨dir, found, ?_⟩
  rw [stands_cons_of_ne]
  · exact stands
  · intro keyed
    rw [← keyed] at placed
    exact different (Environment.dirOf_injective found placed)

theorem Accounts.changed (accounts : state.Accounts environment)
    (queued : state.queue = notice :: rest) (kind : notice.kind = .changed)
    (desktop : isDesktopFile notice.key.basename = true)
    (placed : environment.dirOf index = some notice.key.dir)
    (seen : state.Covered environment notice rest index) :
    ({ state with
        queue := rest
        manager := state.manager.monitorChanged environment state.contents.toDisk notice.key } :
      Watch).Accounts environment := by
  obtain ⟨choice, offered, covers⟩ := accounts.shows notice.key.basename desktop
  rw [queued] at covers
  have known := accounts.known.getDirIndex_eq.mpr placed
  have positions : (state.manager.view notice.key.basename).map App.xdgPosition =
      choice.map Choice.position := by
    rw [offered, Option.map_map]
    rfl
  simp only [Covered, kind, positions] at seen
  refine accounts.taken queued (AppManager.monitorChanged_puts accounts.tidy desktop known placed
    offered ?_) ?_
  · rintro chosen rfl under before
    rcases (covers chosen rfl).placed with user | same <;> omega
  · intro after arrived
    refine arrive_covers covers (fun other => standsAt_other placed) ?_ seen arrived
    rw [Usable, layersOf_placed desktop placed, Contents.slots, content_slotOf]
    rfl

theorem Accounts.deleted (accounts : state.Accounts environment)
    (queued : state.queue = notice :: rest) (kind : notice.kind = .deleted)
    (desktop : isDesktopFile notice.key.basename = true)
    (placed : environment.dirOf index = some notice.key.dir)
    (seen : state.Covered environment notice rest index) :
    ({ state with
        queue := rest
        manager := state.manager.monitorDeleted environment state.contents.toDisk notice.key } :
      Watch).Accounts environment := by
  obtain ⟨choice, offered, covers⟩ := accounts.shows notice.key.basename desktop
  rw [queued] at covers
  have known := accounts.known.getDirIndex_eq.mpr placed
  have dirs := accounts.known.getDir_eq
  have due : StandsAt environment (notice :: rest) state.contents notice.key.basename index := by
    refine ⟨_, placed, ?_⟩
    change Stands (notice :: rest) state.contents notice.key
    rw [Stands, nextKind_cons_self]
    exact kind
  have gone : ¬ Stands rest state.contents notice.key := by
    have sound := accounts.sound
    rw [queued] at sound
    exact sound.1 kind
  have others (other : Nat)
      (there : StandsAt environment rest state.contents notice.key.basename other) :
      other ≠ index ∧
        StandsAt environment (notice :: rest) state.contents notice.key.basename other := by
    have different : other ≠ index := by
      rintro rfl
      obtain ⟨dir, found, stands⟩ := there
      obtain rfl := Option.some.inj (placed.symm.trans found)
      exact gone stands
    exact ⟨different, standsAt_other placed different there⟩
  simp only [Covered, kind] at seen
  have seen' (chosen : Choice KeyFile) (same : choice = some chosen)
      (user : chosen.position = 0) :=
    seen _ (same ▸ offered) user
  refine accounts.taken queued (AppManager.monitorDeleted_puts accounts.tidy dirs desktop known
    offered ?_) ?_
  · rintro chosen rfl
    obtain ⟨shown, covered⟩ := covers chosen rfl
    refine ⟨fun under => ?_, fun before => ?_, fun here before notLast => ?_⟩
    · have := covered index under due
      omega
    · exact covered index (by omega) due
    · have user : chosen.position = 0 := by omega
      have usable := (seen' chosen rfl user).promoted (here.symm.trans user) notLast
      refine ⟨accounts.inside usable, ?_⟩
      rw [← contents_eq desktop dirs]
      exact Option.ne_none_iff_exists'.mp usable
  · intro after left
    exact leave_covers covers others (findDir_least accounts.bounded accounts.known
      state.contents) seen' left

theorem Accounts.ignored (accounts : state.Accounts environment)
    (queued : state.queue = notice :: rest)
    (foreign : ∀ index, isDesktopFile notice.key.basename = true →
      environment.dirOf index ≠ some notice.key.dir) :
    ({ state with queue := rest } : Watch).Accounts environment := by
  have sound := accounts.sound
  rw [queued] at sound
  refine ⟨accounts.bounded, accounts.known, accounts.tidy, accounts.running, accounts.opened,
    sound.2, fun basename desktop => ?_⟩
  obtain ⟨choice, offered, covers⟩ := accounts.shows basename desktop
  refine ⟨choice, offered, fun chosen shown => ?_⟩
  obtain ⟨placed, covered⟩ := covers chosen shown
  refine ⟨placed, fun index under there => covered index under ?_⟩
  obtain ⟨dir, found, stands⟩ := there
  refine ⟨dir, found, ?_⟩
  rw [queued, stands_cons_of_ne]
  · exact stands
  · intro keyed
    rw [← keyed] at foreign
    exact foreign index desktop found

theorem Accounts.deliver (accounts : state.Accounts environment)
    (accounted : state.Accounted environment .deliver)
    (stepped : state.step environment .deliver = some after) : after.Accounts environment := by
  cases queued : state.queue with
  | nil => simp [Watch.step, queued] at stepped
  | cons notice rest =>
      simp only [Watch.step, queued, Option.map_eq_some_iff] at stepped
      obtain ⟨manager, handled, rfl⟩ := stepped
      by_cases foreign : ∀ index, isDesktopFile notice.key.basename = true →
          environment.dirOf index ≠ some notice.key.dir
      · have ignored := @foreign_ignored environment _ state.contents.toDisk _ accounts.known
          foreign
        have same : manager = state.manager := by
          cases kind : notice.kind <;>
            simp_all [delivery, AppManager.step, accounts.running, accounts.opened]
        rw [same]
        exact accounts.ignored queued foreign
      · simp only [not_forall, not_not, ne_eq] at foreign
        obtain ⟨index, desktop, placed⟩ := foreign
        have seen := accounted notice rest queued index placed
        cases kind : notice.kind with
        | changed =>
            have changed := accounts.changed queued kind desktop placed seen
            simp [delivery, kind, AppManager.step, accounts.running, accounts.opened] at handled
            exact handled ▸ changed
        | deleted =>
            have deleted := accounts.deleted queued kind desktop placed seen
            simp [delivery, kind, AppManager.step, accounts.running, accounts.opened] at handled
            exact handled ▸ deleted

end Deliver

theorem Accounts.step {event : WatchEvent} (accounts : state.Accounts environment)
    (accounted : state.Accounted environment event)
    (stepped : state.step environment event = some after) : after.Accounts environment := by
  cases event with
  | write path file =>
      cases stepped
      refine accounts.changes ?_ fun other => stands_write
      exact accounts.sound.append (fun queue other => stands_write) nofun
  | remove path =>
      obtain ⟨present, rfl⟩ := by simpa [Watch.step] using stepped
      refine accounts.changes ?_ fun other => stands_remove present
      refine accounts.sound.append (fun queue other => stands_remove present) fun _ => ?_
      simp [Contents.remove]
  | deliver => exact accounts.deliver accounted stepped

theorem Accounts.initial (initial : (watchSystem environment).initial state)
    (scans : state.ScansAll environment) : state.Accounts environment := by
  obtain ⟨bounded, quiet, scanned⟩ := initial
  obtain ⟨known, fresh⟩ := AppManager.Scanned.fill bounded state.contents
  rw [← scanned] at known fresh
  refine ⟨bounded, known, fresh.tidy, fresh.running, fresh.opened, quiet ▸ trivial, ?_⟩
  intro basename desktop
  obtain ⟨choice, offered, shows⟩ := fresh.shows basename
  refine ⟨choice, offered, fun chosen same => ?_⟩
  subst same
  have present (index : Nat)
      (there : StandsAt environment state.queue state.contents basename index) :
      layersOf environment state.contents.slots basename index ≠ .absent := by
    obtain ⟨dir, found, stands⟩ := there
    rw [layersOf_placed desktop found, Contents.slots, ne_eq, slotOf_absent_iff]
    rw [quiet] at stands
    exact Option.isSome_iff_ne_none.mp stands
  cases shows with
  | top _ next =>
      refine ⟨.inl rfl, fun index under there => ?_⟩
      exact next.2 (.inr ⟨under, present index there⟩)
  | below under _ usable unusable =>
      refine ⟨.inr rfl, fun index above there => ?_⟩
      by_contra before
      have early : index < _ := Nat.lt_of_not_le before
      have user : ¬ Usable environment state.contents basename 0 := by
        rw [Usable, not_not]
        exact unusable 0 under
      have needed := scans basename _ user (by rw [Usable, usable]; simp) index above early
      rcases needed with absent | found
      · exact present index there absent
      · exact found (unusable index early)

/-- In a history whose files are all accounted for no assertion fails. -/
theorem never_aborts {start : Watch} {events : List WatchEvent}
    (initial : (watchSystem environment).initial start) (scans : start.ScansAll environment)
    (accounted : (watchSystem environment).Meets (Accounted environment) start events) :
    (watchSystem environment).Always (fun state => state.manager.aborted = false) start events := by
  have always : (watchSystem environment).Always (Accounts environment) start events := by
    apply accounted.always _ (Accounts.initial initial scans)
    intro before event after accounts accounted stepped
    exact accounts.step accounted stepped
  exact always.imp fun state accounts => accounts.running

section Example

/-- The user's file over one in a system directory. -/
def overriding : Contents := configured.write (fooIn "/home/u/.config/autostart") (some foo)

def userFileEvents : List WatchEvent := [.remove (fooIn "/home/u/.config/autostart"), .deliver]

theorem overriding_scansAll : (startWith overriding).ScansAll twoSystemDirs := by
  intro basename first _ usable index under before
  left
  have few : first < 3 := by
    by_contra many
    have unplaced : twoSystemDirs.dirOf first = none := by
      have short : twoSystemDirs.autostartDirs.length ≤ first := by
        change 3 ≤ first
        omega
      rw [Environment.dirOf, List.getElem?_eq_none short]
      rfl
    exact usable (by rw [layersOf_beyond unplaced]; rfl)
  obtain rfl : index = 1 := by omega
  have placed : twoSystemDirs.dirOf 1 = some "/usr/share/cafe/autostart" := by decide
  by_cases desktop : isDesktopFile basename = true
  · rw [layersOf_placed desktop placed]
    rfl
  · simp [layersOf, desktop]

theorem userFile_accounted : (watchSystem twoSystemDirs).Meets (Accounted twoSystemDirs)
    (startWith overriding) userFileEvents := by
  refine ⟨trivial, fun next stepped => ?_⟩
  cases stepped
  refine ⟨?_, fun _ _ => trivial⟩
  intro notice rest queued index placed
  cases queued
  intro app shown _
  have positions : ((startWith overriding).manager.view "foo.desktop").map
      App.xdgSystemPosition = some 2 := by decide
  have second : app.xdgSystemPosition = 2 :=
    Option.some.inj ((congrArg (Option.map App.xdgSystemPosition) shown).symm.trans positions)
  have user : twoSystemDirs.dirOf 0 = some "/home/u/.config/autostart" := by decide
  obtain rfl := Environment.dirOf_injective placed user
  constructor
  case following =>
    intro same
    omega
  case promoted =>
    intro _ _
    rw [second]
    change (layersOf _ _ "foo.desktop" 2).content ≠ none
    decide

theorem user_file_removed :
    (watchSystem twoSystemDirs).Always (fun state => state.manager.aborted = false)
      (startWith overriding) userFileEvents :=
  never_aborts (startWith_initial overriding) overriding_scansAll userFile_accounted

/-- A file that cannot be loaded, before one that is shown. -/
def passedOver : Contents := configured.write (fooIn "/usr/share/cafe/autostart") none

/-- The user's file over one that cannot be loaded. -/
def unusableBelow : Contents :=
  (noFiles.write (fooIn "/usr/share/cafe/autostart") none).write
    (fooIn "/home/u/.config/autostart") (some foo)

/-- An assertion fails in the history that starts from the contents. -/
def Aborts (contents : Contents) (events : List WatchEvent) : Prop :=
  (watchSystem twoSystemDirs).initial (startWith contents) ∧
    ((watchSystem twoSystemDirs).run (startWith contents) events).map
      (fun finish => finish.manager.aborted) = some true

/-- One history for each assertion that fails. -/
theorem histories_abort :
    Aborts passedOver [.remove (fooIn "/usr/share/cafe/autostart"), .deliver] ∧
      Aborts passedOver [.write (fooIn "/home/u/.config/autostart") (some foo), .deliver,
        .remove (fooIn "/usr/share/cafe/autostart"), .deliver] ∧
      Aborts unusableBelow [.remove (fooIn "/home/u/.config/autostart"), .deliver,
        .write (fooIn "/etc/xdg/autostart") (some foo), .deliver] :=
  ⟨⟨startWith_initial passedOver, by decide⟩, ⟨startWith_initial passedOver, by decide⟩,
    ⟨startWith_initial unusableBelow, by decide⟩⟩

end Example

end Watch

end CafeSession.Capplet

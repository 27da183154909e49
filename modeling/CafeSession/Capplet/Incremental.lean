import CafeSession.Capplet.Scan
import CafeSession.Transition.Notices

namespace CafeSession.Capplet

open CafeSession.Overlay CafeSession.Transition

variable {environment : Environment}

inductive Change where
  | changed
  | deleted
deriving DecidableEq

namespace Contents

variable (contents : Contents) (path : Path)

/-- Another program creates or changes a file; `none` when it cannot be loaded. -/
def write (file : Option KeyFile) : Contents where
  files := Function.update contents.files path (some file)
  listing dir :=
    if dir = path.dir ∧ contents.files path = none then path.basename :: contents.listing dir
    else contents.listing dir
  lists dir name := by
    by_cases same : (⟨dir, name⟩ : Path) = path
    · subst same
      by_cases absent : contents.files ⟨dir, name⟩ = none
      · simp [absent]
      · simp [absent, contents.lists, Option.isSome_iff_ne_none]
    · rw [Function.update_of_ne same, ← contents.lists]
      split_ifs with new
      · have different : name ≠ path.basename := by
          rintro rfl
          exact same (by rw [new.1])
        simp [different]
      · rfl
  distinct dir := by
    split_ifs with new
    · refine List.nodup_cons.mpr ⟨?_, contents.distinct dir⟩
      rw [contents.lists, new.1, new.2]
      simp
    · exact contents.distinct dir

/-- Another program deletes a file. -/
def remove : Contents where
  files := Function.update contents.files path none
  listing dir :=
    if dir = path.dir then (contents.listing dir).erase path.basename else contents.listing dir
  lists dir name := by
    by_cases same : (⟨dir, name⟩ : Path) = path
    · subst same
      simp [(contents.distinct dir).mem_erase_iff]
    · rw [Function.update_of_ne same, ← contents.lists]
      split_ifs with here
      · have different : name ≠ path.basename := by
          rintro rfl
          exact same (by rw [here])
        simp [(contents.distinct dir).mem_erase_iff, different]
      · rfl
  distinct dir := by
    split_ifs
    · exact (contents.distinct dir).erase _
    · exact contents.distinct dir

end Contents

/-- The manager among programs that change the files it shows. -/
structure Watch where
  contents : Contents
  queue : List (Notice Path Change)
  manager : AppManager

inductive WatchEvent where
  | write (path : Path) (file : Option KeyFile)
  | remove (path : Path)
  /-- the first notice of the queue is delivered -/
  | deliver

namespace Watch

/-- The event of the manager that a notice causes. -/
def delivery (state : Watch) (notice : Notice Path Change) : Event :=
  match notice.kind with
  | .changed => .changed notice.key state.contents.toDisk
  | .deleted => .deleted notice.key state.contents.toDisk

def step (environment : Environment) (state : Watch) : WatchEvent → Option Watch
  | .write path file =>
      some { state with
        contents := state.contents.write path file
        queue := state.queue ++ [⟨path, .changed⟩] }
  | .remove path =>
      if (state.contents.files path).isSome then
        some { state with
          contents := state.contents.remove path
          queue := state.queue ++ [⟨path, .deleted⟩] }
      else
        none
  | .deliver =>
      match state.queue with
      | [] => none
      | notice :: rest =>
          (state.manager.step environment (state.delivery notice)).map
            (fun manager => { state with queue := rest, manager := manager })

end Watch

/-- At the start the manager has scanned the directories; their indices are in
the range of the positions. -/
def watchSystem (environment : Environment) : System Watch WatchEvent where
  initial state :=
    environment.autostartDirs.length ≤ gMaxUint ∧ state.queue = [] ∧
      state.manager = ({} : AppManager).fill environment state.contents.toDisk
  step := Watch.step environment

namespace Watch

/-- The list is, up to its order, that of a fresh scan of the same files. -/
def AsScanned (environment : Environment) (state : Watch) : Prop :=
  ∀ scanned : Contents, scanned.files = state.contents.files →
    state.manager.shownApps.Perm
      (({} : AppManager).fill environment scanned.toDisk).shownApps

/-- No assertion has failed, and without pending notices the view is up to date. -/
def UpToDate (environment : Environment) (state : Watch) : Prop :=
  state.manager.aborted = false ∧ (state.queue = [] → state.AsScanned environment)

def SettledAt (environment : Environment) (queue : List (Notice Path Change)) (basename : String)
    (index : Nat) : Prop :=
  ∀ dir, environment.dirOf index = some dir → Settled queue ⟨dir, basename⟩

def Loadable (environment : Environment) (contents : Contents) (basename : String) (index : Nat) :
    Prop :=
  ∃ dir, environment.dirOf index = some dir ∧ (contents.files ⟨dir, basename⟩).join.isSome

/-- The files and the shown positions are such that the notice is taken in well. -/
def TakenIn (environment : Environment) (state : Watch) (notice : Notice Path Change)
    (rest : List (Notice Path Change)) (index : Nat) : Prop :=
  let basename := notice.key.basename
  let now := layersOf environment state.contents.slots basename
  let settled := SettledAt environment rest basename
  match notice.kind with
  | .changed =>
      ArrivalSeen gMaxUint now settled
        ((state.manager.view basename).map (fun app => (app.xdgPosition, app.xdgSystemPosition)))
        index
  | .deleted =>
      ∀ app, state.manager.view basename = some app →
        DeletionSeen gMaxUint now settled (Loadable environment state.contents basename)
          app.xdgPosition app.xdgSystemPosition index

/-- The condition on a step: what is delivered is taken in well. -/
def Foreseen (environment : Environment) (state : Watch) : WatchEvent → Prop
  | .deliver => ∀ notice rest, state.queue = notice :: rest → ∀ index,
      environment.dirOf index = some notice.key.dir → state.TakenIn environment notice rest index
  | _ => True

/-- What a kind of notice tells about the file. -/
def tells (kind : Change) (slot : Slot KeyFile) : Prop :=
  kind = .deleted ↔ slot = .absent

/-- The manager shows what it believes, and is right about what is settled. -/
structure Follows (environment : Environment) (state : Watch) : Prop where
  bounded : environment.autostartDirs.length ≤ gMaxUint
  known : state.manager.Known environment environment.autostartDirs.length
  truthful : Truthful tells state.contents.slots state.queue
  shows : ∃ believed, Believable state.queue believed state.contents.slots ∧
    state.manager.Scanned environment believed

variable {state after : Watch}

theorem slots_write (contents : Contents) (path : Path) (file : Option KeyFile) :
    (contents.write path file).slots =
      Function.update contents.slots path (slotOf (some file)) :=
  Function.comp_update slotOf contents.files path (some file)

theorem slots_remove (contents : Contents) (path : Path) :
    (contents.remove path).slots = Function.update contents.slots path .absent :=
  Function.comp_update slotOf contents.files path none

theorem Follows.initial (initial : (watchSystem environment).initial state) :
    state.Follows environment := by
  obtain ⟨bounded, quiet, scanned⟩ := initial
  obtain ⟨known, shows⟩ := AppManager.Scanned.fill bounded state.contents
  refine ⟨bounded, scanned ▸ known, quiet ▸ trivial, state.contents.slots, ?_, scanned ▸ shows⟩
  exact Believable.refl _ _

/-- Once every notice has been delivered, the view is that of a fresh scan. -/
theorem Follows.upToDate (follows : state.Follows environment) : state.UpToDate environment := by
  obtain ⟨believed, believable, shown⟩ := follows.shows
  refine ⟨shown.running, fun quiet scanned same => ?_⟩
  rw [quiet] at believable
  obtain rfl := believable.caughtUp
  obtain ⟨_, fresh⟩ := AppManager.Scanned.fill follows.bounded scanned
  have slots : scanned.slots = state.contents.slots := by
    funext path
    simp [Contents.slots, same]
  apply shown.tidy.shownApps_perm fresh.tidy
  intro basename
  obtain ⟨choice, offered, shows⟩ := shown.shows basename
  obtain ⟨choice', offered', shows'⟩ := fresh.shows basename
  rw [slots] at shows'
  obtain rfl := shows.unique shows'
  exact offered.trans offered'.symm

section Deliver

variable {notice : Notice Path Change} {rest : List (Notice Path Change)}
variable {believed : Path → Slot KeyFile} {manager : AppManager} {index : Nat}

/-- The notices left say nothing new about the file of the one that is taken. -/
theorem Follows.taken (follows : state.Follows environment) (queued : state.queue = notice :: rest)
    (dirs : manager.dirs = state.manager.dirs) {believed' : Path → Slot KeyFile}
    (believable : Believable rest believed' state.contents.slots)
    (shown : manager.Scanned environment believed') :
    ({ state with queue := rest, manager := manager } : Watch).Follows environment := by
  refine ⟨follows.bounded, ?_, ?_, believed', believable, shown⟩
  · intro xdgDir
    rw [dirs]
    exact follows.known xdgDir
  · have truthful := follows.truthful
    rw [queued] at truthful
    exact truthful.2

theorem Follows.ignored (follows : state.Follows environment) (queued : state.queue = notice :: rest)
    (foreign : ∀ index, isDesktopFile notice.key.basename = true →
      environment.dirOf index ≠ some notice.key.dir) :
    ({ state with queue := rest } : Watch).Follows environment := by
  obtain ⟨believed, believable, shown⟩ := follows.shows
  rw [queued] at believable
  have believable' : Believable rest
      (fun path => if path = notice.key then state.contents.slots path else believed path)
      state.contents.slots :=
    believable.revise (fun path => path = notice.key) rfl (fun _ _ _ => rfl)
  refine follows.taken queued rfl believable' ?_
  refine shown.congr (fun basename => ?_)
  funext index
  by_cases desktop : isDesktopFile basename = true
  · cases placed : environment.dirOf index with
    | none => rw [layersOf_beyond placed, layersOf_beyond placed]
    | some dir =>
        have different : (⟨dir, basename⟩ : Path) ≠ notice.key := by
          intro same
          rw [← same] at foreign
          exact foreign index desktop placed
        rw [layersOf_placed desktop placed, layersOf_placed desktop placed, if_neg different]
  · simp [layersOf, desktop]

/-- A notice after which the manager shows what these layers call for. -/
theorem Follows.revised (follows : state.Follows environment) (queued : state.queue = notice :: rest)
    (believable : Believable (notice :: rest) believed state.contents.slots)
    (shown : state.manager.Scanned environment believed)
    (desktop : isDesktopFile notice.key.basename = true)
    {choice : Option (Choice KeyFile)}
    (put : state.manager.PutsChoice environment manager notice.key.basename choice)
    {layers : Layers KeyFile}
    (right : ∀ other, SettledAt environment rest notice.key.basename other → layers other =
      layersOf environment state.contents.slots notice.key.basename other)
    (shows : layers.Shows gMaxUint choice) :
    ({ state with queue := rest, manager := manager } : Watch).Follows environment := by
  let revised (path : Path) : Slot KeyFile :=
    match state.manager.getDirIndex path.dir with
    | some index => layers index
    | none => state.contents.slots path
  have right' : ∀ path : Path, path.basename = notice.key.basename → Settled rest path →
      revised path = state.contents.slots path := by
    rintro ⟨dir, basename⟩ rfl settled
    cases known : state.manager.getDirIndex dir with
    | none => simp [revised, known]
    | some index =>
        have placed := follows.known.getDirIndex_eq.mp known
        have settledAt : SettledAt environment rest notice.key.basename index := by
          intro dir' placed'
          obtain rfl := Option.some.inj (placed.symm.trans placed')
          exact settled
        simp only [revised, known]
        rw [right index settledAt, layersOf_placed desktop placed]
  have layers_eq : layersOf environment
      (fun path => if path.basename = notice.key.basename then revised path else believed path)
      notice.key.basename = layers := by
    funext index
    cases placed : environment.dirOf index with
    | none =>
        rw [layersOf_beyond placed, right index (by simp [SettledAt, placed]), layersOf_beyond placed]
    | some dir =>
        rw [layersOf_placed desktop placed, if_pos rfl]
        simp only [revised, follows.known.getDirIndex_eq.mpr placed]
  have believable' : Believable rest
      (fun path => if path.basename = notice.key.basename then revised path else believed path)
      state.contents.slots :=
    believable.revise (fun path => path.basename = notice.key.basename) rfl right'
  refine follows.taken queued put.dirs believable' ?_
  exact shown.put put (by rwa [layers_eq]) (fun path different => if_neg different)

/-- What is believed before a notice is taken, at the layers of its basename. -/
theorem believed_other (believable : Believable (notice :: rest) believed state.contents.slots)
    (placed : environment.dirOf index = some notice.key.dir) {other : Nat}
    (settled : SettledAt environment rest notice.key.basename other) (different : other ≠ index) :
    layersOf environment believed notice.key.basename other =
      layersOf environment state.contents.slots notice.key.basename other := by
  by_cases desktop : isDesktopFile notice.key.basename = true
  · cases elsewhere : environment.dirOf other with
    | none => rw [layersOf_beyond elsewhere, layersOf_beyond elsewhere]
    | some dir =>
        rw [layersOf_placed desktop elsewhere, layersOf_placed desktop elsewhere]
        apply believable.other (settled dir elsewhere)
        intro same
        rw [← same] at placed
        exact different (Environment.dirOf_injective elsewhere placed)
  · simp [layersOf, desktop]

theorem Follows.truth (follows : state.Follows environment) (queued : state.queue = notice :: rest)
    (desktop : isDesktopFile notice.key.basename = true)
    (placed : environment.dirOf index = some notice.key.dir)
    (settled : SettledAt environment rest notice.key.basename index) :
    tells notice.kind
      (layersOf environment state.contents.slots notice.key.basename index) := by
  have truthful := follows.truthful
  rw [queued] at truthful
  rw [layersOf_placed desktop placed]
  exact truthful.1 (settled _ placed)

theorem Follows.inside (follows : state.Follows environment) {dir : String}
    (placed : environment.dirOf index = some dir) : index < gMaxUint :=
  Nat.lt_of_lt_of_le (Environment.dirOf_lt placed) follows.bounded

theorem Follows.beyond (follows : state.Follows environment) {basename : String}
    (after : gMaxUint ≤ index) : SettledAt environment rest basename index ∧
      layersOf environment state.contents.slots basename index = .absent := by
  have unplaced : environment.dirOf index = none := by
    by_contra somewhere
    obtain ⟨dir, placed⟩ := Option.ne_none_iff_exists'.mp somewhere
    have := follows.inside placed
    omega
  exact ⟨by simp [SettledAt, unplaced], layersOf_beyond unplaced⟩

theorem places_offered {basename : String} {choice : Option (Choice KeyFile)}
    (offered : manager.Offers environment basename choice) :
    (manager.view basename).map (fun app => (app.xdgPosition, app.xdgSystemPosition)) =
      choice.map places := by
  rw [offered, Option.map_map]
  rfl

theorem isLeast_min? {limit : Nat} {indices : List Nat} (bounded : ∀ other ∈ indices, other ≤ limit) :
    IsLeast (insert limit {other | other ∈ indices}) (indices.min?.getD limit) := by
  cases least : indices.min? with
  | none =>
      rw [List.min?_eq_none_iff] at least
      simp [least]
  | some first =>
      obtain ⟨member, before⟩ := List.min?_eq_some_iff.mp least
      refine ⟨.inr member, fun other inside => ?_⟩
      rcases Set.mem_insert_iff.mp inside with rfl | also
      · exact bounded first member
      · exact before other also

/-- The directory that the search finds is the first with a file that can be loaded. -/
theorem findDir_least {basename : String} (bounded : environment.autostartDirs.length ≤ gMaxUint)
    (known : manager.Known environment environment.autostartDirs.length) (contents : Contents) :
    IsLeast (insert gMaxUint
        {other | index < other ∧ Loadable environment contents basename other})
      ((manager.findDirWithBasename contents.toDisk basename index).getD gMaxUint) := by
  have found (other : Nat) : other ∈ ((manager.dirs.filter (fun dir =>
      decide (index < dir.index) && contents.toDisk.present ⟨dir.dir, basename⟩ &&
        (contents.toDisk.load ⟨dir.dir, basename⟩).isSome)).map XdgDir.index) ↔
      index < other ∧ Loadable environment contents basename other := by
    constructor
    · intro member
      obtain ⟨xdgDir, readable, rfl⟩ := List.mem_map.mp member
      obtain ⟨isDir, holds⟩ := List.mem_filter.mp readable
      simp only [Bool.and_eq_true, decide_eq_true_eq] at holds
      exact ⟨holds.1.1, xdgDir.dir, ((known xdgDir).mp isDir).2, holds.2⟩
    · rintro ⟨later, dir, placed, loads⟩
      have isDir := (known ⟨dir, other⟩).mpr ⟨Environment.dirOf_lt placed, placed⟩
      have present : (contents.files ⟨dir, basename⟩).isSome := by
        cases file : contents.files ⟨dir, basename⟩ <;> simp_all
      refine List.mem_map.mpr ⟨_, List.mem_filter.mpr ⟨isDir, ?_⟩, rfl⟩
      simp only [Contents.toDisk, later, present, loads, decide_true, Bool.and_self]
  have sets := Set.ext fun other => (found other).symm
  refine sets ▸ isLeast_min? (fun other member => ?_)
  obtain ⟨_, dir, placed, _⟩ := (found other).mp member
  have := Environment.dirOf_lt placed
  omega

theorem contents_eq {contents : Contents} {basename : String}
    (desktop : isDesktopFile basename = true) (dirs : manager.getDir = environment.dirOf) :
    (layersOf environment contents.slots basename index).content =
      manager.contents contents.toDisk basename index := by
  cases placed : environment.dirOf index with
  | none => simp [AppManager.contents, dirs, placed, layersOf_beyond placed]
  | some dir =>
      rw [layersOf_placed desktop placed, AppManager.contents, dirs, placed]
      exact content_slotOf _

/-- At a deletion that is taken in well no assertion fails. -/
theorem removable_of_seen {contents : Contents} {basename : String} {slots : Path → Slot KeyFile}
    {chosen : Choice KeyFile} {settled loadable : Nat → Prop}
    (desktop : isDesktopFile basename = true) (dirs : manager.getDir = environment.dirOf)
    (shows : (layersOf environment slots basename).Shows gMaxUint (some chosen))
    (seen : DeletionSeen gMaxUint (layersOf environment contents.slots basename) settled loadable
      chosen.position chosen.systemPosition index) :
    AppManager.Removable contents.toDisk manager basename index chosen := by
  refine ⟨seen.passedOver, ?_, ?_⟩
  · intro before
    cases shows with
    | top => exact seen.underUser before rfl
    | below => exact before.le
  · intro here before notLast
    cases shows with
    | top _ next =>
        have first_le := next.2 (.inl rfl)
        refine ⟨lt_of_le_of_ne first_le notLast, ?_⟩
        rw [← contents_eq desktop dirs]
        exact Option.ne_none_iff_exists'.mp (seen.promoted rfl here.symm notLast)
    | below => simp only at here before; omega

theorem foreign_ignored {disk : Disk} {path : Path}
    (known : manager.Known environment environment.autostartDirs.length)
    (foreign : ∀ index, isDesktopFile path.basename = true → environment.dirOf index ≠ some path.dir) :
    manager.monitorChanged environment disk path = manager ∧
      manager.monitorDeleted environment disk path = manager := by
  by_cases desktop : isDesktopFile path.basename = true
  · cases visited : manager.getDirIndex path.dir with
    | none => simp [AppManager.monitorChanged, AppManager.monitorDeleted, visited]
    | some index => exact absurd (known.getDirIndex_eq.mp visited) (foreign index desktop)
  · simp [AppManager.monitorChanged, AppManager.monitorDeleted, desktop]

theorem Follows.changed (follows : state.Follows environment)
    (queued : state.queue = notice :: rest) (kind : notice.kind = .changed)
    (desktop : isDesktopFile notice.key.basename = true)
    (placed : environment.dirOf index = some notice.key.dir)
    (taken : state.TakenIn environment notice rest index) :
    ({ state with
        queue := rest
        manager := state.manager.monitorChanged environment state.contents.toDisk notice.key } :
      Watch).Follows environment := by
  have known := follows.known.getDirIndex_eq.mpr placed
  obtain ⟨believed, believable, shown⟩ := follows.shows
  rw [queued] at believable
  obtain ⟨choice, offered, shows⟩ := shown.shows notice.key.basename
  simp only [TakenIn, kind, places_offered offered] at taken
  have there : SettledAt environment rest notice.key.basename index →
      layersOf environment state.contents.slots notice.key.basename index ≠ .absent := by
    intro settled absent
    have told := (follows.truth queued desktop placed settled).mpr absent
    simp [kind] at told
  obtain ⟨layers, right, shows'⟩ := arrive_shows shows (follows.inside placed)
    (fun other settled different => believed_other believable placed settled different)
    there taken
  refine follows.revised queued believable shown desktop ?_ right shows'
  rw [contents_eq desktop follows.known.getDir_eq, AppManager.contents, follows.known.getDir_eq,
    placed]
  refine AppManager.monitorChanged_puts shown.tidy desktop known placed offered ?_
  rintro chosen rfl under _
  cases shows with
  | top => simp_all
  | below => simpa using ‹_›

theorem Follows.deleted (follows : state.Follows environment)
    (queued : state.queue = notice :: rest) (kind : notice.kind = .deleted)
    (desktop : isDesktopFile notice.key.basename = true)
    (placed : environment.dirOf index = some notice.key.dir)
    (taken : state.TakenIn environment notice rest index) :
    ({ state with
        queue := rest
        manager := state.manager.monitorDeleted environment state.contents.toDisk notice.key } :
      Watch).Follows environment := by
  have known := follows.known.getDirIndex_eq.mpr placed
  have dirs := follows.known.getDir_eq
  obtain ⟨believed, believable, shown⟩ := follows.shows
  rw [queued] at believable
  obtain ⟨choice, offered, shows⟩ := shown.shows notice.key.basename
  simp only [TakenIn, kind] at taken
  have seen : ∀ chosen, choice = some chosen →
      DeletionSeen gMaxUint (layersOf environment state.contents.slots notice.key.basename)
        (SettledAt environment rest notice.key.basename)
        (Loadable environment state.contents notice.key.basename)
        chosen.position chosen.systemPosition index := by
    rintro chosen rfl
    exact taken _ offered
  have gone : SettledAt environment rest notice.key.basename index →
      layersOf environment state.contents.slots notice.key.basename index = .absent :=
    fun settled => (follows.truth queued desktop placed settled).mp kind
  have there : ∀ other, Loadable environment state.contents notice.key.basename other →
      layersOf environment state.contents.slots notice.key.basename other ≠ .absent := by
    rintro other ⟨dir, placed, loads⟩ absent
    rw [layersOf_placed desktop placed, Contents.slots, slotOf_absent_iff] at absent
    simp [absent] at loads
  obtain ⟨layers, right, shows'⟩ := leave_shows shows (follows.inside placed)
    (fun other settled different => believed_other believable placed settled different)
    gone (fun other after => follows.beyond after)
    (findDir_least follows.bounded follows.known state.contents) there seen
  refine follows.revised queued believable shown desktop ?_ right shows'
  simp only [contents_eq desktop dirs]
  refine AppManager.monitorDeleted_puts shown.tidy dirs desktop known offered ?_
  rintro chosen rfl
  exact removable_of_seen desktop dirs shows (seen chosen rfl)

theorem Follows.deliver (follows : state.Follows environment)
    (foreseen : state.Foreseen environment .deliver)
    (stepped : state.step environment .deliver = some after) : after.Follows environment := by
  cases queued : state.queue with
  | nil => simp [Watch.step, queued] at stepped
  | cons notice rest =>
      obtain ⟨believed, _, shown⟩ := follows.shows
      simp only [Watch.step, queued, Option.map_eq_some_iff] at stepped
      obtain ⟨manager, handled, rfl⟩ := stepped
      by_cases foreign : ∀ index, isDesktopFile notice.key.basename = true →
          environment.dirOf index ≠ some notice.key.dir
      · have ignored := @foreign_ignored environment _ state.contents.toDisk _ follows.known foreign
        have same : manager = state.manager := by
          cases kind : notice.kind <;>
            simp_all [delivery, AppManager.step, shown.running, shown.opened]
        rw [same]
        exact follows.ignored queued foreign
      · simp only [not_forall, not_not, ne_eq] at foreign
        obtain ⟨index, desktop, placed⟩ := foreign
        have taken := foreseen notice rest queued index placed
        cases kind : notice.kind with
        | changed =>
            have changed := follows.changed queued kind desktop placed taken
            simp [delivery, kind, AppManager.step, shown.running, shown.opened] at handled
            exact handled ▸ changed
        | deleted =>
            have deleted := follows.deleted queued kind desktop placed taken
            simp [delivery, kind, AppManager.step, shown.running, shown.opened] at handled
            exact handled ▸ deleted

end Deliver

theorem Follows.step {event : WatchEvent} (follows : state.Follows environment)
    (foreseen : state.Foreseen environment event)
    (stepped : state.step environment event = some after) : after.Follows environment := by
  obtain ⟨believed, believable, shown⟩ := follows.shows
  cases event with
  | write path file =>
      cases stepped
      refine ⟨follows.bounded, follows.known, ?_, believed, ?_, shown⟩
      · have told : tells .changed (slotOf (some file)) := by simp [tells, slotOf_absent_iff]
        rw [slots_write]
        exact follows.truthful.write ⟨path, .changed⟩ told
      · rw [slots_write]
        exact believable.write ⟨path, .changed⟩ _
  | remove path =>
      obtain ⟨_, rfl⟩ := by simpa [Watch.step] using stepped
      refine ⟨follows.bounded, follows.known, ?_, believed, ?_, shown⟩
      · have told : tells .deleted (.absent : Slot KeyFile) := by simp [tells]
        rw [slots_remove]
        exact follows.truthful.write ⟨path, .deleted⟩ told
      · rw [slots_remove]
        exact believable.write ⟨path, .deleted⟩ _
  | deliver => exact follows.deliver foreseen stepped

/-- As long as each notice is taken in well, the view catches up with a fresh scan. -/
theorem view_catches_up
    (reached : (watchSystem environment).ReachableBy (Foreseen environment) state) :
    state.UpToDate environment := by
  apply Follows.upToDate
  apply reached.invariant
  · intro start initial
    exact Follows.initial initial
  · intro before event after follows foreseen stepped
    exact follows.step foreseen stepped

section Example

def twoSystemDirs : Environment where
  userConfigDir := "/home/u/.config"
  systemDataDirs := ["/usr/share"]
  systemConfigDirs := ["/etc/xdg"]
  languages := ["C"]

def noFiles : Contents where
  files := fun _ => none
  listing := fun _ => []
  lists := by simp
  distinct := by simp

def fooIn (dir : String) : Path := ⟨dir, "foo.desktop"⟩

def foo : KeyFile := ⟨[("Name", "Foo"), ("Exec", "foo")]⟩

def startWith (contents : Contents) : Watch where
  contents := contents
  queue := []
  manager := ({} : AppManager).fill twoSystemDirs contents.toDisk

def configured : Contents := noFiles.write (fooIn "/etc/xdg/autostart") (some foo)

theorem startWith_initial (contents : Contents) :
    (watchSystem twoSystemDirs).initial (startWith contents) :=
  ⟨by decide, rfl, rfl⟩

/-- The user gets a file of the same name, which comes over the one that was shown. -/
def overrideEvents : List WatchEvent :=
  [.write (fooIn "/home/u/.config/autostart") (some foo), .deliver]

/-- The states that the override passes. -/
def overridden : Watch :=
  { startWith configured with
    contents := configured.write (fooIn "/home/u/.config/autostart") (some foo)
    queue := [⟨fooIn "/home/u/.config/autostart", .changed⟩] }

theorem override_foreseen : Foreseen twoSystemDirs overridden .deliver := by
  intro notice rest queued index placed
  cases queued
  have shown : (overridden.manager.view "foo.desktop").map
      (fun app => (app.xdgPosition, app.xdgSystemPosition)) = some (2, 2) := by decide
  have user : twoSystemDirs.dirOf 0 = some "/home/u/.config/autostart" := by decide
  obtain rfl := Environment.dirOf_injective placed user
  change ArrivalSeen gMaxUint (layersOf twoSystemDirs overridden.contents.slots "foo.desktop") _
    ((overridden.manager.view "foo.desktop").map _) 0
  rw [shown]
  refine ⟨fun _ _ other under _ present => ?_, fun position _ placed same => ?_⟩
  · match other, under with
    | 1, _ => exact absurd rfl present
    | other + 2, _ => simp
  · cases placed
    cases same

theorem override_catches_up :
    ∃ finish, (watchSystem twoSystemDirs).run (startWith configured) overrideEvents =
        some finish ∧
      finish.queue = [] ∧ finish.UpToDate twoSystemDirs ∧
      finish.manager.shownApps.map (fun app => (app.xdgPosition, app.xdgSystemPosition)) =
        [(0, 2)] := by
  refine ⟨_, rfl, rfl, ?_, by decide⟩
  have meets : (watchSystem twoSystemDirs).Meets (Foreseen twoSystemDirs) (startWith configured)
      overrideEvents := by
    refine ⟨trivial, fun next stepped => ?_⟩
    cases stepped
    exact ⟨override_foreseen, fun _ _ => trivial⟩
  exact view_catches_up (System.ReachableBy.of_run (.initial (startWith_initial configured))
    meets rfl)

/-- The same file in both system directories, deleted from the first. -/
def deletionEvents : List WatchEvent := [.remove (fooIn "/usr/share/cafe/autostart"), .deliver]

def provided : Contents := configured.write (fooIn "/usr/share/cafe/autostart") (some foo)

/-- The app is gone although the other file remains. -/
theorem deletion_hides_other_file :
    (watchSystem twoSystemDirs).initial (startWith provided) ∧
      ∃ finish, (watchSystem twoSystemDirs).run (startWith provided) deletionEvents =
          some finish ∧
        finish.queue = [] ∧ ¬ finish.UpToDate twoSystemDirs := by
  refine ⟨startWith_initial provided, _, rfl, rfl, fun upToDate => ?_⟩
  have same := (upToDate.2 rfl _ rfl).length_eq
  exact absurd same (by decide)

end Example

end Watch

end CafeSession.Capplet

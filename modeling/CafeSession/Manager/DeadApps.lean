import CafeSession.Autostart.Process
import CafeSession.Manager.Passages
import CafeSession.Manager.Timers

namespace CafeSession.Manager

open CafeSession.Transition CafeSession.Autostart

/-- A process whose child watch has not run. -/
def HasProcess (app : Spawning) : Prop :=
  ∃ process ∈ app.started, process.life ≠ .notified

namespace State

/-- A phase before the running phase waits for an app. -/
def Waits (state : State) : Prop :=
  state.phase < .running → state.pendingApps ≠ []

/-- What was recorded on the way, newest first. -/
def news (before after : State) : List Effect :=
  after.log.take (after.log.length - before.log.length)

end State

structure Spawned where
  session : State
  /-- the app with the id and its processes -/
  processes : String → Spawning

inductive ProcessHappening where
  | call (call : Call)
  /-- the process at the index of the app's processes ends -/
  | ends (app : String) (index : Nat)
  /-- the child watch of the process at the index runs -/
  | notifies (app : String) (index : Nat) (status : WaitStatus)

structure SpawnedEvent where
  world : World
  /-- what a start, a restart or a stop of the app with the id is answered -/
  answers : String → Answers
  happening : ProcessHappening

namespace SpawnedEvent

variable (event : SpawnedEvent) (processes : String → Spawning)

/-- The manager sees an app start or run as its process does. -/
def answered : World :=
  { event.world with
      appStarts := fun id => ((processes id).app.start (event.answers id)).2.isOk
      appRunning := fun id => (processes id).app.isRunning }

/-- A call of the manager on one of its apps. -/
def hear (effect : Effect) (processes : String → Spawning) : String → Spawning :=
  let act (app : String) (call : Autostart.Event) :=
    Function.update processes app (((processes app).step call).getD (processes app))
  match effect with
  | .startCalled app _ => act app (.start (event.answers app))
  | .restartCalled app _ => act app (.restart (event.answers app))
  | .appStopped app => act app (.stop (event.answers app))
  | _ => processes

/-- The apps have been called as the manager recorded it. -/
def heard (before after : State) : Spawned :=
  ⟨after, (before.news after).foldr event.hear processes⟩

end SpawnedEvent

namespace Spawned

/-- A child watch runs; only 'exited' is followed. -/
def notify (state : Spawned) (event : SpawnedEvent) (app : String) (index : Nat)
    (status : WaitStatus) : Option Spawned :=
  ((state.processes app).step (.notifies index status)).bind fun notified =>
    let processes := Function.update state.processes app notified
    match ((state.processes app).app.appExited status).2 with
    | some .exited =>
        (state.session.step ⟨event.answered processes, .appExited app⟩).map
          (event.heard processes state.session)
    | _ => some ⟨state.session, processes⟩

def step (state : Spawned) (event : SpawnedEvent) : Option Spawned :=
  match state.session.fault with
  | some _ => none
  | none =>
      match event.happening with
      -- an app emits the signal in a child watch only
      | .call (.appExited _) => none
      | .call call =>
          (state.session.step ⟨event.answered state.processes, call⟩).map
            (event.heard state.processes state.session)
      | .ends app index =>
          ((state.processes app).step (.ends index)).map fun ended =>
            { state with processes := Function.update state.processes app ended }
      | .notifies app index status => state.notify event app index status

/-- The manager when its main loop starts; the event says what the start is answered. -/
def start (event : SpawnedEvent) (launchTypes : String → LaunchType) (apps : List App) : Spawned :=
  let processes := fun id => ⟨.init (launchTypes id), []⟩
  event.heard processes (State.created apps) (State.start (event.answered processes) apps)

def system : System Spawned SpawnedEvent where
  initial state := ∃ event launchTypes apps,
    (apps.map App.id).Nodup ∧ state = start event launchTypes apps
  step := step

/-- Every spawned app that is waited for still has a process, and a startup
phase without an app to wait for is over. -/
structure Alive (state : Spawned) : Prop where
  live : ∀ id ∈ state.session.pendingApps, (state.processes id).app.launchType = .spawn →
    HasProcess (state.processes id)
  waits : state.session.Waits

/-- The last process of a spawned app that is waited for does not die but exits. -/
def ExitsNormally (state : Spawned) (event : SpawnedEvent) : Prop :=
  match event.happening with
  | .notifies app index status =>
      app ∈ state.session.pendingApps → (state.processes app).app.launchType = .spawn →
        (∃ code, status = .exited code) ∨
          ∃ process ∈ (state.processes app).started.eraseIdx index, process.life ≠ .notified
  | _ => True

end Spawned

namespace State

variable {world : World} {request : Call} {state before after : State}

theorem waits_late {phase : Phase} (same : state.phase = phase) (late : .running ≤ phase) :
    state.Waits :=
  fun early => absurd early (Nat.not_lt.mpr (same ▸ late))

theorem Waits.of_same (waits : before.Waits) (phase : after.phase = before.phase)
    (pending : after.pendingApps = before.pendingApps) : after.Waits := by
  unfold Waits
  rw [phase, pending]
  exact waits

theorem waits_startPhase (ended : ∀ other : State, other.phase = state.phase →
    (other.endPhase world).Waits) : (state.startPhase world).Waits := by
  unfold startPhase
  by_cases early : state.phase < .running
  · rw [startPhaseWith_startup early]
    split_ifs with nobody
    · exact ended _ (phase_startApps world _)
    · exact fun _ => nobody
    · exact fun _ => nobody
  unfold startPhaseWith
  cases phase : state.phase with
  | running => exact waits_late phase Phase.running_le_running
  | queryEndSession =>
      have asked := (aside_doPhaseQueryEndSession state.resetPhase).phase
      exact waits_late (asked.trans phase) Phase.running_le_query
  | endSession =>
      have asked := (aside_endSessionOfClients world state.resetPhase).phase
      dsimp only
      split_ifs
      · exact waits_late (asked.trans phase) Phase.running_le_endSession
      · exact ended _ rfl
  | exit => exact ended _ (phase_tellClients _ _)
  | _ => exact absurd (by rw [phase]; decide) early

theorem waits_endPhase (state : State) : (state.endPhase world).Waits := by
  obtain ⟨left, more⟩ : ∃ left, 9 - state.phase.number = left := ⟨_, rfl⟩
  induction left generalizing state with
  | zero =>
      have exit : state.phase = .exit := by
        have bound := Phase.number_le state.phase
        cases phase : state.phase <;> rw [phase] at more <;> first | rfl | cases more
      rw [endPhase_exit exit]
      exact waits_late ((aside_quit state.clearPhase).phase.trans exit) Phase.running_le_exit
  | succ left ih =>
      have further : state.phase ≠ .exit := by
        intro exit
        rw [exit] at more
        cases more
      have onwards : ∀ next : State, next.phase = state.phase.next →
          (next.startPhase world).Waits := by
        intro next phase
        apply waits_startPhase
        intro other same
        apply ih
        rw [same, phase, Phase.number_next further]
        omega
      have saved := (aside_maybeSaveSession world state.advance).phase
      rw [endPhase_eq]
      unfold endPhaseWith
      cases phase : state.phase with
      | running =>
          dsimp only
          split_ifs
          · exact waits_late phase Phase.running_le_running
          · exact onwards _ rfl
      | endSession => exact onwards _ saved
      | exit => exact absurd phase further
      | _ => exact onwards _ rfl

theorem waits_changes (changes : Changes world before after) (waits : before.Waits) :
    after.Waits := by
  induction changes with
  | refl => exact waits
  | @tail middle _ _ last ih =>
      cases last with
      | aside same => exact ih.of_same same.phase same.pendingApps
      | restocked => exact ih.of_same rfl rfl
      | registered id more => exact fun _ => more
      | ended => exact waits_endPhase middle
      | lastRegistered => exact waits_endPhase _
      | resumed => exact waits_startPhase fun other _ => waits_endPhase other

theorem waits_passage (passage : Passage world request before after) (waits : before.Waits) :
    after.Waits := by
  induction passage with
  | changed changes => exact waits_changes changes waits
  | trans _ _ first second => exact second (first waits)
  | @left before middle id changes =>
      have kept : middle.Waits := waits_changes changes (waits.of_same rfl rfl)
      exact kept.of_same rfl rfl
  | joined => exact waits.of_same rfl rfl
  | listed => exact waits.of_same rfl rfl
  | renamed => exact waits.of_same rfl rfl

theorem news_eq {added : List Effect} (logged : after.log = added ++ before.log) :
    before.news after = added := by
  rw [news, logged, List.length_append, Nat.add_sub_cancel, List.take_left]

/-- An app that is waited for has been before, or its start has just been called. -/
def WaitsFor (world : World) (before after : State) (old : String → Prop) : Prop :=
  ∀ id ∈ after.pendingApps, old id ∨
    world.appStarts id = true ∧ ∃ phase, .startCalled id phase ∈ before.news after

theorem Starts.waitsFor (starts : before.Starts world after) :
    WaitsFor world before after (fun id => id ∈ before.pendingApps) := by
  obtain ⟨added, logged, pending⟩ := starts.started
  intro id member
  rw [news_eq logged]
  exact pending id member

/-- The app that has exited is not waited for any more. -/
theorem waitsFor_appRegistered (timed : state.core.Timed) (id : String) :
    WaitsFor world state (state.appRegistered world id)
      (fun other => other ≠ id ∧ other ∈ state.pendingApps) := by
  have followed : state.registeredHandlers = state.pendingApps := timed.followed
  have distinct : state.pendingApps.Nodup := timed.distinct
  unfold appRegistered
  split_ifs with waits
  · dsimp only
    split_ifs with last
    · obtain ⟨added, logged, pending⟩ := (Starts.of_stages
        (@stages_endPhase world { state.unpend id with phaseTimeout := false })).started
      have same : state.news ({ state.unpend id with phaseTimeout := false }.endPhase world) =
          added := news_eq logged
      intro other member
      rcases pending other member with old | new
      · rw [show ({ state.unpend id with phaseTimeout := false } : State).pendingApps = [] from
          last] at old
        cases old
      · exact .inr (same ▸ new)
    · intro other member
      exact .inl (distinct.mem_erase_iff.mp member)
  · intro other member
    refine .inl ⟨?_, member⟩
    rintro rfl
    exact waits (by simpa [followed] using member)

end State

namespace SpawnedEvent

variable {event : SpawnedEvent} {processes : String → Spawning}

/-- What a call on an app keeps: what kind of app it is, and its processes. -/
structure Keeps (before after : Spawning) : Prop where
  launchType : after.app.launchType = before.app.launchType
  started : before.started ⊆ after.started

theorem Keeps.hasProcess {before after : Spawning} (keeps : Keeps before after)
    (has : HasProcess before) : HasProcess after := by
  obtain ⟨process, member, left⟩ := has
  exact ⟨process, keeps.started member, left⟩

theorem Keeps.refl (app : Spawning) : Keeps app app :=
  ⟨rfl, List.Subset.refl _⟩

theorem keeps_started (app : Spawning) (answers : Answers) :
    Keeps app ⟨(app.app.start answers).1, app.spawned answers⟩ where
  launchType := by
    unfold Tracking.start Tracking.startSpawn Tracking.startActivate
    split
    · split <;> rfl
    · rfl
  started := by
    unfold Spawning.spawned
    split
    · exact List.subset_cons_self _ _
    · exact List.Subset.refl _

theorem keeps_hear (effect : Effect) (id : String) :
    Keeps (processes id) (event.hear effect processes id) := by
  have acted : ∀ (app : String) (after : Spawning), Keeps (processes app) after →
      Keeps (processes id) (Function.update processes app after id) := by
    intro app after kept
    by_cases same : id = app
    · rw [same, Function.update_self]
      exact kept
    · rw [Function.update_of_ne same]
      exact .refl _
  unfold hear
  cases effect with
  | startCalled app phase => exact acted app _ (keeps_started _ _)
  | restartCalled app phase => exact acted app _ (keeps_started _ _)
  | appStopped app => exact acted app _ (.refl _)
  | _ => exact .refl _

theorem keeps_heard (news : List Effect) (id : String) :
    Keeps (processes id) (news.foldr event.hear processes id) := by
  induction news with
  | nil => exact .refl _
  | cons effect news ih =>
      have last := @keeps_hear event (news.foldr event.hear processes) effect id
      exact ⟨last.launchType.trans ih.launchType, List.Subset.trans ih.started last.started⟩

/-- The start of a spawned app that succeeds gives it a process. -/
theorem hear_started {id : String} {phase : Phase} (spawn : (processes id).app.launchType = .spawn)
    {pid : Nat} (launched : (event.answers id).launch = .ok pid) :
    HasProcess (event.hear (.startCalled id phase) processes id) := by
  refine ⟨⟨pid, .alive⟩, ?_, nofun⟩
  simp [hear, Spawning.step, Spawning.spawned, spawn, launched]

theorem heard_started {news : List Effect} {id : String} {phase : Phase}
    (called : .startCalled id phase ∈ news) (spawn : (processes id).app.launchType = .spawn)
    {pid : Nat} (launched : (event.answers id).launch = .ok pid) :
    HasProcess (news.foldr event.hear processes id) := by
  induction news with
  | nil => cases called
  | cons effect news ih =>
      rcases List.mem_cons.mp called with rfl | earlier
      · have kept := (@keeps_heard event processes news id).launchType
        exact hear_started (kept.trans spawn) launched
      · exact (keeps_hear effect id).hasProcess (ih earlier)

theorem launched_of_starts {id : String} (spawn : (processes id).app.launchType = .spawn)
    (starts : (event.answered processes).appStarts id = true) :
    ∃ pid, (event.answers id).launch = .ok pid := by
  simp only [answered, Tracking.start, spawn, Tracking.startSpawn] at starts
  cases launched : (event.answers id).launch with
  | ok pid => exact ⟨pid, rfl⟩
  | error message => simp [launched, Except.isOk, Except.toBool] at starts

/-- After a callback the apps that are waited for have their process, if those
that were waited for before have. -/
theorem heard_live {before after : State} {old : String → Prop}
    (waits : State.WaitsFor (event.answered processes) before after old)
    (live : ∀ id, old id → (processes id).app.launchType = .spawn → HasProcess (processes id)) :
    ∀ id ∈ after.pendingApps,
      ((event.heard processes before after).processes id).app.launchType = .spawn →
        HasProcess ((event.heard processes before after).processes id) := by
  intro id pending spawn
  have kept := @keeps_heard event processes (before.news after) id
  have spawned : (processes id).app.launchType = .spawn := kept.launchType.symm.trans spawn
  rcases waits id pending with was | ⟨starts, phase, called⟩
  · exact kept.hasProcess (live id was spawned)
  · obtain ⟨pid, launched⟩ := launched_of_starts spawned starts
    exact heard_started called spawned launched

end SpawnedEvent

namespace Spawned

variable {before after state : Spawned} {event : SpawnedEvent}

theorem alive_heard {processes : String → Spawning} {session : State} {call : Call}
    {old : String → Prop} (performed :
      before.session.step ⟨event.answered processes, call⟩ = some session)
    (waits : State.WaitsFor (event.answered processes) before.session session old)
    (live : ∀ id, old id → (processes id).app.launchType = .spawn → HasProcess (processes id))
    (alive : before.Alive) : (event.heard processes before.session session).Alive where
  live := SpawnedEvent.heard_live waits live
  waits := State.waits_passage (State.passage_perform (State.step_performed performed)) alive.waits

theorem alive_call {session : State} {call : Call} (performed :
      before.session.step ⟨event.answered before.processes, call⟩ = some session)
    (alive : before.Alive) : (event.heard before.processes before.session session).Alive := by
  have passage := State.passage_perform (State.step_performed performed)
  exact alive_heard performed (State.Starts.of_passage passage).waitsFor alive.live alive

/-- A process that ends is still the app's until its child watch has run. -/
theorem alive_ends {app : String} {index : Nat} {ended : Spawning}
    (ends : (before.processes app).step (.ends index) = some ended) (alive : before.Alive) :
    Alive { before with processes := Function.update before.processes app ended } where
  live := by
    intro id pending spawn
    by_cases same : id = app
    · subst same
      dsimp only at spawn ⊢
      rw [Function.update_self] at spawn ⊢
      simp only [Spawning.step] at ends
      split at ends
      · next process found =>
          split_ifs at ends
          cases ends
          refine ⟨{ process with life := .ended }, ?_, fun reaped => ?_⟩
          · obtain ⟨within, _⟩ := List.getElem?_eq_some_iff.mp found
            exact List.mem_set within _
          · cases reaped
      · cases ends
    · dsimp only at spawn ⊢
      rw [Function.update_of_ne same] at spawn ⊢
      exact alive.live id pending spawn
  waits := alive.waits

/-- Once its watch has run, a process is one less. -/
theorem hasProcess_notified {app notified : Spawning} {index : Nat} {status : WaitStatus}
    (notifies : app.step (.notifies index status) = some notified) :
    notified.app.launchType = app.app.launchType ∧
      (HasProcess notified ↔ ∃ process ∈ app.started.eraseIdx index, process.life ≠ .notified) := by
  simp only [Spawning.step] at notifies
  split at notifies
  · next process found =>
      split_ifs at notifies
      cases notifies
      refine ⟨rfl, ?_⟩
      have none_left := not_congr (Spawning.set_notified_iff found)
      simp only [not_forall, exists_prop] at none_left
      exact none_left
  · cases notifies

/-- The app that exits is not waited for, so that its process may be its last. -/
theorem alive_exited {app : String} {index code : Nat}
    (reached : managerSystem.Reachable before.session)
    (notifies : before.notify event app index (.exited code) = some after) (alive : before.Alive) :
    after.Alive := by
  obtain ⟨notified, watched, exited⟩ := Option.bind_eq_some_iff.mp notifies
  obtain ⟨session, performed, rfl⟩ := Option.map_eq_some_iff.mp exited
  have registered := State.step_performed performed
  cases registered
  refine alive_heard performed (State.waitsFor_appRegistered (timed_reached reached) app) ?_ alive
  rintro id ⟨other, pending⟩ spawn
  rw [Function.update_of_ne other] at spawn ⊢
  exact alive.live id pending spawn

/-- Nobody hears of an app that dies. -/
theorem alive_died_iff {app : String} {index : Nat} {status : WaitStatus}
    (died : ∀ code, status ≠ .exited code)
    (notifies : before.notify event app index status = some after) (alive : before.Alive) :
    after.Alive ↔ (app ∈ before.session.pendingApps →
      (before.processes app).app.launchType = .spawn →
        ∃ process ∈ (before.processes app).started.eraseIdx index, process.life ≠ .notified) := by
  obtain ⟨notified, watched, unheard⟩ := Option.bind_eq_some_iff.mp notifies
  obtain ⟨kind, left⟩ := hasProcess_notified watched
  have same : ⟨before.session, Function.update before.processes app notified⟩ = after := by
    cases status with
    | exited code => exact absurd rfl (died code)
    | signaled signal => exact Option.some.inj unheard
    | other => exact Option.some.inj unheard
  subst same
  rw [← left, ← kind]
  constructor
  · intro after pending spawn
    have live := after.live app pending
    simp only [Function.update_self] at live
    exact live spawn
  · intro last
    refine ⟨?_, alive.waits⟩
    intro id pending spawn
    dsimp only at spawn ⊢
    by_cases same : id = app
    · subst same
      rw [Function.update_self] at spawn ⊢
      exact last pending spawn
    · rw [Function.update_of_ne same] at spawn ⊢
      exact alive.live id pending spawn

theorem step_alive_iff (reached : managerSystem.Reachable before.session) (alive : before.Alive)
    (stepped : before.step event = some after) : after.Alive ↔ before.ExitsNormally event := by
  obtain ⟨world, answers, happening⟩ := event
  unfold step at stepped
  split at stepped
  · cases stepped
  cases happening with
  | ends app index =>
      obtain ⟨ended, ends, rfl⟩ := Option.map_eq_some_iff.mp stepped
      exact iff_of_true (alive_ends ends alive) trivial
  | notifies app index status =>
      cases status with
      | exited code =>
          exact iff_of_true (alive_exited reached stepped alive) fun _ _ => .inl ⟨code, rfl⟩
      | signaled signal =>
          have died : ∀ code, WaitStatus.signaled signal ≠ .exited code := nofun
          refine (alive_died_iff died stepped alive).trans ?_
          simp [ExitsNormally]
      | other =>
          have died : ∀ code, WaitStatus.other ≠ .exited code := nofun
          refine (alive_died_iff died stepped alive).trans ?_
          simp [ExitsNormally]
  | call call =>
      cases call with
      | appExited app => cases stepped
      | _ =>
          obtain ⟨session, performed, rfl⟩ := Option.map_eq_some_iff.mp stepped
          exact iff_of_true (alive_call performed alive) trivial

theorem reached_step (reached : managerSystem.Reachable before.session)
    (stepped : before.step event = some after) : managerSystem.Reachable after.session := by
  obtain ⟨world, answers, happening⟩ := event
  unfold step at stepped
  split at stepped
  · cases stepped
  cases happening with
  | ends app index =>
      obtain ⟨ended, ends, rfl⟩ := Option.map_eq_some_iff.mp stepped
      exact reached
  | notifies app index status =>
      obtain ⟨notified, watched, heard⟩ := Option.bind_eq_some_iff.mp stepped
      cases status with
      | exited code =>
          obtain ⟨session, performed, rfl⟩ := Option.map_eq_some_iff.mp heard
          exact .step reached trivial performed
      | signaled signal =>
          cases heard
          exact reached
      | other =>
          cases heard
          exact reached
  | call call =>
      cases call with
      | appExited app => cases stepped
      | _ =>
          obtain ⟨session, performed, rfl⟩ := Option.map_eq_some_iff.mp stepped
          exact .step reached trivial performed

theorem initial_alive (fresh : system.initial state) :
    managerSystem.Reachable state.session ∧ state.Alive := by
  obtain ⟨event, launchTypes, apps, distinct, rfl⟩ := fresh
  refine ⟨.initial ⟨_, apps, distinct, rfl⟩, ?_, ?_⟩
  · have starts := State.Starts.of_stages (@State.stages_startPhase
      (event.answered fun id => ⟨.init (launchTypes id), []⟩) (State.created apps))
    exact SpawnedEvent.heard_live starts.waitsFor nofun
  · exact State.waits_startPhase fun other _ => State.waits_endPhase other

/-- In every state of a run each spawned app that is waited for has a process and
each startup phase waits for an app, exactly when no last process of a waited
for app dies in the run without exiting. -/
theorem pending_apps_alive_iff {start finish : Spawned} {events : List SpawnedEvent}
    (fresh : system.initial start) (run : system.run start events = some finish) :
    system.Always Alive start events ↔ system.Meets ExitsNormally start events :=
  System.always_iff_meets (fun state => managerSystem.Reachable state.session) Alive
    (fun _ _ _ reached stepped => reached_step reached stepped)
    (fun _ _ _ reached alive stepped => step_alive_iff reached alive stepped) run
    (initial_alive fresh).1 (initial_alive fresh).2

def launchesPanel (happening : ProcessHappening) : SpawnedEvent where
  world := .permissive
  answers _ := Spawning.launches 100
  happening := happening

/-- The session waits for its panel, which is a process. -/
def panelSession : Spawned :=
  start (launchesPanel (.call .acceptConnection)) (fun _ => .spawn) [panelApp]

theorem panelSession_initial : system.initial panelSession :=
  ⟨launchesPanel (.call .acceptConnection), fun _ => .spawn, [panelApp], by decide, rfl⟩

/-- A panel that exits, with a failure even, ends its phase. -/
theorem pending_apps_alive_exit :
    ∃ finish, system.run panelSession [launchesPanel (.ends panelApp.id 0),
        launchesPanel (.notifies panelApp.id 0 (.exited 1))] = some finish ∧
      system.Always Alive panelSession [launchesPanel (.ends panelApp.id 0),
        launchesPanel (.notifies panelApp.id 0 (.exited 1))] := by
  have result : (system.run panelSession [launchesPanel (.ends panelApp.id 0),
      launchesPanel (.notifies panelApp.id 0 (.exited 1))]).isSome := by
    decide +kernel
  obtain ⟨finish, run⟩ := Option.isSome_iff_exists.mp result
  refine ⟨finish, run, (pending_apps_alive_iff panelSession_initial run).mpr ?_⟩
  exact ⟨trivial, fun _ _ => ⟨fun _ _ => .inl ⟨1, rfl⟩, fun _ _ => trivial⟩⟩

/-- A panel that is killed is waited for until the phase times out. -/
theorem killed_app_pending :
    ∃ finish, system.run panelSession [launchesPanel (.ends panelApp.id 0),
        launchesPanel (.notifies panelApp.id 0 (.signaled 11))] = some finish ∧
      finish.session.phase = .panel ∧ finish.session.pendingApps = [panelApp.id] ∧
      finish.session.phaseTimeout = true ∧ ¬ finish.Alive := by
  have result : (system.run panelSession [launchesPanel (.ends panelApp.id 0),
      launchesPanel (.notifies panelApp.id 0 (.signaled 11))]).map (fun finish =>
        (finish.session.phase, finish.session.pendingApps, finish.session.phaseTimeout,
          finish.processes panelApp.id)) =
      some (.panel, [panelApp.id], true, ⟨⟨.spawn, -1⟩, [⟨100, .notified⟩]⟩) := by
    decide +kernel
  obtain ⟨finish, run, same⟩ := Option.map_eq_some_iff.mp result
  simp only [Prod.mk.injEq] at same
  obtain ⟨phase, pending, timeout, process⟩ := same
  refine ⟨finish, run, phase, pending, timeout, fun alive => ?_⟩
  obtain ⟨left, member, alone⟩ := alive.live panelApp.id (by simp [pending]) (by rw [process])
  rw [process] at member
  rw [List.mem_singleton.mp member] at alone
  exact alone rfl

end Spawned

end CafeSession.Manager

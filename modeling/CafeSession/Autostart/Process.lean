import CafeSession.Transition.System

namespace CafeSession.Autostart

open CafeSession.Transition

/-- `launch_type`, which `load_desktop_file` sets once. -/
inductive LaunchType where
  | spawn
  | activate
deriving DecidableEq, Repr

/-- The fields of `CsmAutostartAppPrivate` that follow the process. -/
structure Tracking where
  launchType : LaunchType
  pid : Int
deriving DecidableEq, Repr

/-- What the calls of one start or restart are answered, each with the text of its error. -/
structure Answers where
  /-- `egg_desktop_file_launch`: the pid of the new process -/
  launch : Except String Nat
  /-- `g_bus_get_sync` and `g_dbus_proxy_new_sync` -/
  proxy : Except String Unit
  /-- `kill` with SIGTERM -/
  kill : Except String Unit

/-- The status a child watch is called with. -/
inductive WaitStatus where
  | exited (code : Nat)
  | signaled (signal : Nat)
  | other
deriving DecidableEq, Repr

inductive AppSignal where
  | exited
  | died
deriving DecidableEq, Repr

namespace Tracking

/-- `csm_autostart_app_init`. -/
def init (launchType : LaunchType) : Tracking where
  launchType := launchType
  pid := -1

/-- `is_running`. -/
def isRunning (app : Tracking) : Bool :=
  app.pid != -1

/-- `app_exited`: whichever process the watch was for, the app has none now. -/
def appExited (status : WaitStatus) (app : Tracking) : Tracking × Option AppSignal :=
  ({ app with pid := -1 },
    match status with
    | .exited _ => some .exited
    | .signaled _ => some .died
    | .other => none)

def stopSpawn (answers : Answers) (app : Tracking) : Except String Unit :=
  if app.pid < 1 then .error "Not running"
  else answers.kill.mapError ("Unable to stop: " ++ ·)

def stop (answers : Answers) (app : Tracking) : Except String Unit :=
  match app.launchType with
  | .spawn => app.stopSpawn answers
  | .activate => .ok ()

/-- `autostart_app_start_spawn`; a failed launch leaves `pid` alone. -/
def startSpawn (answers : Answers) (app : Tracking) : Tracking × Except String Unit :=
  match answers.launch with
  | .ok pid => ({ app with pid := pid }, .ok ())
  | .error message => (app, .error ("Unable to start application: " ++ message))

def startActivate (answers : Answers) (app : Tracking) : Tracking × Except String Unit :=
  (app, answers.proxy)

def start (answers : Answers) (app : Tracking) : Tracking × Except String Unit :=
  match app.launchType with
  | .spawn => app.startSpawn answers
  | .activate => app.startActivate answers

/-- `csm_autostart_app_restart`.  Errors of the stop are ignored; when the start
fails too its own text is lost, as `local_error` is not cleared in between. -/
def restart (answers : Answers) (app : Tracking) : Tracking × Bool :=
  let _stopped := app.stop answers
  let (started, result) := app.start answers
  (started, result.isOk)

end Tracking

inductive Life where
  | alive
  /-- the process has ended and its child watch has not run yet -/
  | ended
  | notified
deriving DecidableEq, Repr

structure Process where
  pid : Nat
  life : Life
deriving DecidableEq, Repr

/-- An app with the processes it has spawned, the most recent first. -/
structure Spawning where
  app : Tracking
  started : List Process
deriving DecidableEq, Repr

inductive Event where
  | start (answers : Answers)
  | restart (answers : Answers)
  | stop (answers : Answers)
  /-- the process at `index` ends, on its own or by a signal -/
  | ends (index : Nat)
  /-- the child watch of the process at `index` runs -/
  | notifies (index : Nat) (status : WaitStatus)

namespace Spawning

/-- The processes after a start: a successful launch adds one, whatever pid it has. -/
def spawned (state : Spawning) (answers : Answers) : List Process :=
  match state.app.launchType, answers.launch with
  | .spawn, .ok pid => ⟨pid, .alive⟩ :: state.started
  | _, _ => state.started

def setLife (state : Spawning) (index : Nat) (process : Process) (life : Life) : List Process :=
  state.started.set index { process with life := life }

def step (state : Spawning) : Event → Option Spawning
  | .start answers => some ⟨(state.app.start answers).1, state.spawned answers⟩
  | .restart answers => some ⟨(state.app.restart answers).1, state.spawned answers⟩
  -- `stop` only reads the app; the process ends later, if the signal ends it
  | .stop _ => some state
  | .ends index =>
      match state.started[index]? with
      | some process =>
          if process.life = .alive then
            some { state with started := state.setLife index process .ended }
          else none
      | none => none
  | .notifies index status =>
      match state.started[index]? with
      | some process =>
          if process.life = .ended then
            some ⟨(state.app.appExited status).1, state.setLife index process .notified⟩
          else none
      | none => none

/-- An app between its creation and its disposal. -/
def system : System Spawning Event where
  initial state := ∃ launchType, state = ⟨.init launchType, []⟩
  step := step

/-- The app knows its most recent process while that is alive, and forgets a
pid only when every process has been waited for. -/
structure Tracked (state : Spawning) : Prop where
  latest : ∀ process, state.started.head? = some process → process.life = .alive →
    state.app.pid = process.pid ∧ state.app.isRunning
  forgotten : state.app.pid = -1 → ∀ process ∈ state.started, process.life = .notified

/-- A child watch runs for the only process that has not been waited for yet. -/
def LastNotification (state : Spawning) : Event → Prop
  | .notifies index _ => ∀ process ∈ state.started.eraseIdx index, process.life = .notified
  | _ => True

variable {state after : Spawning} {event : Event} {index : Nat} {status : WaitStatus}

theorem start_tracked (answers : Answers) (tracked : state.Tracked) :
    (Spawning.mk (state.app.start answers).1 (state.spawned answers)).Tracked := by
  cases kind : state.app.launchType with
  | activate =>
      simpa only [Tracking.start, spawned, kind, Tracking.startActivate] using tracked
  | spawn =>
      cases launched : answers.launch with
      | error message =>
          simpa only [Tracking.start, spawned, kind, Tracking.startSpawn, launched] using tracked
      | ok pid =>
          simp only [Tracking.start, spawned, kind, Tracking.startSpawn, launched]
          refine ⟨fun process first _ => ?_, fun forgotten => ?_⟩
          · cases first
            exact ⟨rfl, by simp only [Tracking.isRunning, bne_iff_ne]; omega⟩
          · simp only at forgotten
            omega

theorem ends_tracked {process : Process} (found : state.started[index]? = some process)
    (alive : process.life = .alive) (tracked : state.Tracked) :
    (Spawning.mk state.app (state.setLife index process .ended)).Tracked := by
  refine ⟨fun first head living => ?_, fun forgotten => ?_⟩
  · cases index with
    | zero =>
        cases started : state.started with
        | nil => simp [started] at found
        | cons latest rest =>
            simp only [setLife, started, List.set_cons_zero, List.head?_cons,
              Option.some.injEq] at head
            simp [← head] at living
    | succ index =>
        refine tracked.latest first ?_ living
        cases started : state.started with
        | nil => simp [started] at found
        | cons latest rest =>
            simpa only [setLife, started, List.set_cons_succ, List.head?_cons] using head
  · have notified := tracked.forgotten forgotten process (List.mem_of_getElem? found)
    simp [alive] at notified

theorem set_notified_iff {started : List Process} {process : Process}
    (found : started[index]? = some process) :
    (∀ other ∈ started.set index { process with life := .notified }, other.life = .notified) ↔
      ∀ other ∈ started.eraseIdx index, other.life = .notified := by
  induction started generalizing index with
  | nil => simp at found
  | cons first rest ih =>
      cases index with
      | zero => simp
      | succ index =>
          simp only [List.set_cons_succ, List.eraseIdx_cons_succ, List.forall_mem_cons]
          exact and_congr_right' (ih (by simpa using found))

/-- The watch leaves the app without a pid, so it is exact for the last process only. -/
theorem notifies_tracked_iff {process : Process} (found : state.started[index]? = some process) :
    (Spawning.mk (state.app.appExited status).1 (state.setLife index process .notified)).Tracked ↔
      ∀ other ∈ state.started.eraseIdx index, other.life = .notified := by
  refine Iff.trans ?_ (set_notified_iff found)
  constructor
  · exact fun tracked => tracked.forgotten rfl
  · intro notified
    refine ⟨fun first head living => ?_, fun _ => notified⟩
    simp [notified first (List.mem_of_head? head)] at living

theorem step_tracked_iff (tracked : state.Tracked) (stepped : state.step event = some after) :
    after.Tracked ↔ state.LastNotification event := by
  cases event with
  | start answers =>
      cases stepped
      exact iff_of_true (start_tracked answers tracked) trivial
  | restart answers =>
      cases stepped
      exact iff_of_true (start_tracked answers tracked) trivial
  | stop answers =>
      cases stepped
      exact iff_of_true tracked trivial
  | ends index =>
      simp only [step] at stepped
      split at stepped
      next process found =>
        split at stepped
        next alive =>
          cases stepped
          exact iff_of_true (ends_tracked found alive tracked) trivial
        next => contradiction
      next => contradiction
  | notifies index status =>
      simp only [step] at stepped
      split at stepped
      next process found =>
        split at stepped
        next =>
          cases stepped
          exact notifies_tracked_iff found
        next => contradiction
      next => contradiction

theorem init_tracked (start : system.initial state) : state.Tracked := by
  obtain ⟨launchType, rfl⟩ := start
  exact ⟨fun process first => by simp at first, fun _ => by simp⟩

/-- Process tracking is exact in every state of a run exactly when each child
watch of the run is for the only process left to wait for. -/
theorem tracking_exact_iff {start finish : Spawning} {events : List Event}
    (fresh : system.initial start) (run : system.run start events = some finish) :
    system.Always Tracked start events ↔ system.Meets LastNotification start events :=
  System.always_iff_meets (fun _ => True) Tracked (fun _ _ _ _ _ => trivial)
    (fun _ _ _ _ tracked stepped => step_tracked_iff tracked stepped) run trivial
    (init_tracked fresh)

def launches (pid : Nat) : Answers where
  launch := .ok pid
  proxy := .ok ()
  kill := .ok ()

/-- Only the first process is waited for while the app has started no other one. -/
theorem tracking_exact_when_replaced_late :
    ∃ finish, system.run ⟨.init .spawn, []⟩
        [.start (launches 100), .ends 0, .notifies 0 (.exited 0), .restart (launches 101)] =
          some finish ∧
      system.Always Tracked ⟨.init .spawn, []⟩
        [.start (launches 100), .ends 0, .notifies 0 (.exited 0), .restart (launches 101)] := by
  refine ⟨_, rfl, (tracking_exact_iff ⟨.spawn, rfl⟩ rfl).mpr ⟨trivial, fun _ first => ?_⟩⟩
  cases first
  refine ⟨trivial, fun _ second => ?_⟩
  cases second
  refine ⟨fun _ other => absurd other List.not_mem_nil, fun _ third => ?_⟩
  cases third
  exact ⟨trivial, fun _ _ => trivial⟩

/-- A restarted app: the watch of the replaced process forgets the new one. -/
theorem replaced_process_forgets_replacement :
    ∃ finish, system.run ⟨.init .spawn, []⟩
        [.start (launches 100), .restart (launches 101), .ends 1, .notifies 1 (.signaled 15)] =
          some finish ∧
      finish.started.head? = some ⟨101, .alive⟩ ∧ ¬ finish.Tracked := by
  refine ⟨_, rfl, rfl, fun tracked => ?_⟩
  exact absurd (tracked.latest _ rfl rfl).1 (by decide)

end Spawning

end CafeSession.Autostart

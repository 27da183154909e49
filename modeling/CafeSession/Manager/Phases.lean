import CafeSession.Manager.State

namespace CafeSession.Manager

open CafeSession.Xsmp

namespace State

/-- The lists and the timer that `end_phase` clears. -/
def clearPhase (state : State) : State :=
  { state with
      pendingApps := []
      queryClients := []
      nextQueryClients := []
      phaseTimeout := false }

/-- The reset at the start of `start_phase`. -/
def resetPhase (state : State) : State :=
  { state.clearPhase with queryTimeout := false }

def phaseEnd (state : State) : PhaseEnd where
  phase := state.phase
  waiting := state.queryClients
  clients := state.clients
  logoutInhibited := state.logoutInhibited

/-- Leave the phase for the next one. -/
def advance (state : State) : State :=
  { state.clearPhase with
      phase := state.phase.next
      log := .phaseEnded state.phaseEnd :: state.log }

/-- `csm_manager_quit`. -/
def quit (state : State) : State :=
  match state.logoutType with
  | .none => { state with fault := some .quitType }
  | type => state.emit (.quit type)

/-- `maybe_save_session`, called in the end-session phase. -/
def maybeSaveSession (world : World) (state : State) : State :=
  if world.autoSave && !world.loginWindow then state.emit .sessionSaved else state

/-- `_start_app`. -/
def startApp (world : World) (state : State) (app : App) : State :=
  if app.phase ≠ state.phase then
    state
  else
    let watched := { state with watchedApps := app.id :: state.watchedApps }
    if world.appDisabled app.id then
      watched
    else if 0 < app.autostartDelay then
      { watched with delayedApps := app.id :: state.delayedApps }
    else
      let called := watched.emit (.startCalled app.id state.phase)
      if world.appStarts app.id ∧ state.phase < .application then
        { called with
            registeredHandlers := app.id :: state.registeredHandlers
            pendingApps := app.id :: state.pendingApps }
      else
        called

def startApps (world : World) (state : State) : State :=
  state.apps.foldl (startApp world) state

def endSessionFlags (world : World) (last : Bool) (state : State) : EndSessionFlags where
  forceful := state.logoutMode = .force
  save := world.autoSave
  last := last

/-- Ask every client of the store. -/
def askClients (call : Client → Except String (Client × List ClientMessage)) (state : State) :
    State :=
  state.clientIds.foldl (ask call) state

def tellClients (call : Client → Except String (Client × List ClientMessage)) (state : State) :
    State :=
  state.clientIds.foldl (tell call) state

def doPhaseQueryEndSession (state : State) : State :=
  let flags : EndSessionFlags := { forceful := state.logoutMode = .force }
  { state.askClients (Client.queryEndSession flags) with queryTimeout := true }

/-- The requests of `do_phase_end_session`, when there are clients. -/
def endSessionOfClients (world : World) (state : State) : State :=
  { state with phaseTimeout := true }.askClients
    (Client.endSession (state.endSessionFlags world false))

/-- The switch of `start_phase`, after its reset; `endPhase` is what the
functions of the phases call when there is nothing to wait for. -/
def startPhaseWith (endPhase : State → State) (world : World) (state : State) : State :=
  let reset := state.resetPhase
  match state.phase with
  | .running => (reset.emit .sessionRunning).updateIdle
  | .queryEndSession => reset.doPhaseQueryEndSession
  | .endSession =>
      if reset.clients ≠ [] then reset.endSessionOfClients world else endPhase reset
  | .exit => endPhase (reset.tellClients Client.stop)
  | _ =>
      let started := reset.startApps world
      if started.pendingApps = [] then
        endPhase started
      else if started.phase < .application then
        { started with phaseTimeout := true }
      else
        started

/-- The switch of `end_phase`. -/
def endPhaseWith (startPhase : State → State) (world : World) (state : State) : State :=
  match state.phase with
  | .running =>
      if world.logOutDisabled then state.clearPhase else startPhase state.advance
  | .endSession => startPhase (state.advance.maybeSaveSession world)
  | .exit => state.clearPhase.quit
  | _ => startPhase state.advance

def endPhaseFuel : Nat → World → State → State
  | 0, _, state => state
  | fuel + 1, world, state =>
      endPhaseWith (startPhaseWith (endPhaseFuel fuel world) world) world state

def endPhase (world : World) (state : State) : State :=
  endPhaseFuel (10 - state.phase.number) world state

def startPhase (world : World) (state : State) : State :=
  startPhaseWith (endPhase world) world state

@[simp] theorem phase_startApp (world : World) (state : State) (app : App) :
    (state.startApp world app).phase = state.phase := by
  simp only [startApp, emit]
  split_ifs <;> rfl

@[simp] theorem phase_startApps (world : World) (state : State) :
    (state.startApps world).phase = state.phase := by
  unfold startApps
  induction state.apps generalizing state with
  | nil => rfl
  | cons app apps ih => rw [List.foldl_cons, ih, phase_startApp]

@[simp] theorem phase_tell (call : Client → Except String (Client × List ClientMessage))
    (state : State) (id : Nat) : (state.tell call id).phase = state.phase := by
  unfold tell
  split <;> rfl

theorem phase_tellClients (call : Client → Except String (Client × List ClientMessage))
    (state : State) : (state.tellClients call).phase = state.phase := by
  unfold tellClients
  induction state.clientIds generalizing state with
  | nil => rfl
  | cons id ids ih => rw [List.foldl_cons, ih, phase_tell]

/-- `start_phase` calls `end_phase` in the phase it starts, and nowhere else. -/
theorem startPhaseWith_congr {first second : State → State} {world : World} {state : State}
    (agree : ∀ other : State, other.phase = state.phase → first other = second other) :
    startPhaseWith first world state = startPhaseWith second world state := by
  have reset : state.resetPhase.phase = state.phase := rfl
  unfold startPhaseWith
  cases phase : state.phase with
  | running => rfl
  | queryEndSession => rfl
  | endSession => simp only [agree _ reset]
  | exit => simp only [agree _ ((phase_tellClients _ _).trans reset)]
  | _ => simp only [agree _ ((phase_startApps _ _).trans reset)]

theorem phase_maybeSaveSession (world : World) (state : State) :
    (state.maybeSaveSession world).phase = state.phase := by
  unfold maybeSaveSession
  split_ifs <;> rfl

theorem endPhase_eq (world : World) (state : State) :
    state.endPhase world = endPhaseWith (startPhase world) world state := by
  by_cases last : state.phase = .exit
  · simp [endPhase, last, Phase.number, endPhaseFuel, endPhaseWith]
  have fuel : 10 - state.phase.number = 10 - state.phase.next.number + 1 := by
    have bound := Phase.number_le state.phase.next
    rw [Phase.number_next last] at bound ⊢
    omega
  have started : ∀ other : State, other.phase = state.phase.next →
      startPhaseWith (endPhaseFuel (10 - state.phase.next.number) world) world other =
        startPhase world other := by
    intro other phase
    apply startPhaseWith_congr
    intro later same
    rw [endPhase, same, phase]
  have onwards := started state.advance rfl
  have saving := started (state.advance.maybeSaveSession world) (phase_maybeSaveSession _ _)
  rw [endPhase, fuel, endPhaseFuel]
  simp only [endPhaseWith, onwards, saving]

variable {world : World} {state : State}

theorem endPhase_locked (running : state.phase = .running) (locked : world.logOutDisabled = true) :
    state.endPhase world = state.clearPhase := by
  rw [endPhase_eq]
  simp [endPhaseWith, running, locked]

theorem endPhase_running (running : state.phase = .running)
    (unlocked : world.logOutDisabled = false) :
    state.endPhase world = state.advance.resetPhase.doPhaseQueryEndSession := by
  have next : state.advance.phase = .queryEndSession := by simp [advance, running, Phase.next]
  rw [endPhase_eq]
  simp [endPhaseWith, running, unlocked, startPhase, startPhaseWith, next]

theorem endPhase_query (query : state.phase = .queryEndSession) (clients : state.clients ≠ []) :
    state.endPhase world = state.advance.resetPhase.endSessionOfClients world := by
  have next : state.advance.phase = .endSession := by simp [advance, query, Phase.next]
  have still : state.advance.resetPhase.clients ≠ [] := clients
  rw [endPhase_eq]
  simp [endPhaseWith, query, startPhase, startPhaseWith, next, still]

theorem endPhase_query_empty (query : state.phase = .queryEndSession)
    (empty : state.clients = []) : state.endPhase world = state.advance.resetPhase.endPhase world := by
  have next : state.advance.phase = .endSession := by simp [advance, query, Phase.next]
  have none_left : state.advance.resetPhase.clients = [] := empty
  rw [endPhase_eq]
  simp [endPhaseWith, query, startPhase, startPhaseWith, next, none_left]

theorem endPhase_exit (exit : state.phase = .exit) :
    state.endPhase world = state.clearPhase.quit := by
  rw [endPhase_eq]
  simp [endPhaseWith, exit]

theorem endPhase_endSession (ending : state.phase = .endSession) :
    state.endPhase world = ((state.advance.maybeSaveSession world).resetPhase.tellClients
      Client.stop).clearPhase.quit := by
  have exits : (state.advance.maybeSaveSession world).phase = .exit := by
    rw [phase_maybeSaveSession]
    simp [advance, ending, Phase.next]
  have quits : ((state.advance.maybeSaveSession world).resetPhase.tellClients
      Client.stop).phase = .exit := (phase_tellClients _ _).trans exits
  rw [← @endPhase_exit world _ quits, endPhase_eq]
  simp only [endPhaseWith, ending, startPhase, startPhaseWith, exits]

end State

end CafeSession.Manager

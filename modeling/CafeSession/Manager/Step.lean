import CafeSession.Transition.System
import CafeSession.Manager.Requests

/-! # The session manager as a system

One event is one callback of the main loop: a timer, a message of a client, a
D-Bus method call or signal, an answer in a dialog, a Unix signal.  Everything
the callback does happens before the next event.  The world outside may change
from event to event. -/

namespace CafeSession.Manager

open CafeSession.Transition CafeSession.Xsmp

inductive Call where
  -- timers
  | phaseTimeout
  | queryEndSessionTimeout
  | autostartDelayTimeout (app : String)
  -- apps
  | appExited (app : String)
  | conditionChanged (app : String) (condition : Bool)
  -- D-Bus
  | registerClient (appId startupId sender : String)
  | inhibit (appId : String) (toplevelXid : UInt32) (reason : String) (flags : UInt32)
      (sender : String)
  | uninhibit (cookie : UInt32)
  | logout (mode : UInt32)
  | shutdown
  | requestShutdown
  | requestReboot
  | endSessionResponse (client : Nat) (isOk : Bool) (reason : String)
  | busNameLost (serviceName : String)
  | busDisconnected
  -- XSMP
  | acceptConnection
  | registerXsmpClient (client : Nat) (previousId : String)
  | saveYourselfRequest (client : Nat) (shutdown fast global : Bool)
  | saveYourselfPhase2Request (client : Nat)
  | interactRequest (client : Nat)
  | interactDone (client : Nat) (cancelShutdown : Bool)
  | saveYourselfDone (client : Nat) (success : Bool)
  | connectionLost (client : Nat)
  -- dialogs
  | logoutDialogResponse (response : LogoutResponse)
  | logoutDialogTimeout
  | inhibitDialogResponse (response : InhibitResponse)
  /-- SIGTERM or SIGINT -/
  | terminate
deriving DecidableEq, Repr

structure Event where
  world : World
  call : Call

namespace State

/-- The D-Bus client with the id, when it is in the store. -/
def dbusClient? (id : Nat) (state : State) : Option Client :=
  (state.client? id).filter Client.isDBus

/-- The XSMP client with the id, when it is in the store and its connection is up. -/
def xsmpClient? (id : Nat) (state : State) : Option Client :=
  (state.client? id).filter fun client =>
    match client.transport with
    | .dbus _ => false
    | .xsmp _ _ _ connected => connected

/-- What a request leaves; a failed one changes nothing. -/
def settle (state : State) : Except Error State → State
  | .ok after => after
  | .error _ => state

/-- The state after the call; `none` when it cannot happen. -/
def perform (world : World) (state : State) : Call → Option State
  | .phaseTimeout =>
      if state.phaseTimeout then some (state.onPhaseTimeout world) else none
  | .queryEndSessionTimeout =>
      if state.queryTimeout then some (state.onQueryEndSessionTimeout world) else none
  | .autostartDelayTimeout id =>
      if state.delayedApps.contains id then
        (state.app? id).map fun app => state.autostartDelayTimeout world app
      else
        none
  | .appExited id => some (state.appRegistered world id)
  | .conditionChanged id condition =>
      if state.watchedApps.contains id then
        (state.app? id).map fun app => state.appConditionChanged world app condition
      else
        none
  | .registerClient appId startupId sender =>
      some (state.settle (state.managerRegisterClient world appId startupId sender))
  | .inhibit appId toplevelXid reason flags sender =>
      some (state.settle
        ((state.managerInhibit world appId toplevelXid reason flags sender).map Prod.fst))
  | .uninhibit cookie => some (state.settle (state.managerUninhibit world cookie))
  | .logout mode => some (state.settle (state.managerLogout world mode))
  | .shutdown => some (state.settle (state.managerShutdown world))
  | .requestShutdown => some (state.settle (state.managerRequestShutdown world))
  | .requestReboot => some (state.settle (state.managerRequestReboot world))
  | .endSessionResponse id isOk reason =>
      (state.dbusClient? id).map fun client => state.endSessionResponse world client isOk reason
  | .busNameLost serviceName => some (state.busNameLost world serviceName)
  | .busDisconnected => some (state.busDisconnected world)
  | .acceptConnection => some state.acceptXsmpConnection
  | .registerXsmpClient id previousId =>
      (state.xsmpClient? id).map fun client =>
        state.registerXsmpClient world client.id previousId
  | .saveYourselfRequest id shutdown fast global =>
      (state.xsmpClient? id).map fun client =>
        state.saveYourselfRequest world client.id shutdown fast global
  | .saveYourselfPhase2Request id =>
      (state.xsmpClient? id).map fun client => state.saveYourselfPhase2Request world client
  | .interactRequest id =>
      (state.xsmpClient? id).map fun client => state.interactRequest world client
  | .interactDone id cancelShutdown =>
      (state.xsmpClient? id).map fun client => state.interactDone world client cancelShutdown
  | .saveYourselfDone id _ =>
      (state.xsmpClient? id).map fun client => state.saveYourselfDone world client
  | .connectionLost id =>
      (state.xsmpClient? id).map fun client => state.connectionLost world client
  | .logoutDialogResponse response =>
      state.logoutDialog.map fun _ => state.logoutDialogResponse world response
  | .logoutDialogTimeout =>
      state.logoutDialog.map fun dialog =>
        state.logoutDialogResponse world dialog.defaultResponse
  | .inhibitDialogResponse response =>
      state.inhibitDialog.map fun _ => state.inhibitDialogResponse world response
  | .terminate => some (state.settle (state.managerLogout world 2))

/-- A process that has aborted takes no events. -/
def step (state : State) (event : Event) : Option State :=
  match state.fault with
  | some _ => none
  | none => state.perform event.world event.call

/-- `csm_manager_init`, with the apps that have been added. -/
def created (apps : List App) : State where
  clients := []
  inhibitors := []
  apps := apps
  idleEnabled := false
  phase := .initialization
  phaseTimeout := false
  pendingApps := []
  registeredHandlers := []
  logoutMode := .normal
  queryClients := []
  queryTimeout := false
  nextQueryClients := []
  logoutType := .none
  inhibitDialog := none
  conditionClients := []
  dbusDisconnected := false
  logoutDialog := none
  delayedApps := []
  watchedApps := []
  clientSerial := 1
  log := []
  fault := none

/-- The manager when its main loop starts, after `csm_manager_start`. -/
def start (world : World) (apps : List App) : State :=
  (created apps).startPhase world

end State

def managerSystem : System State Event where
  -- the store of the apps is keyed by their ids
  initial state := ∃ world apps, (apps.map App.id).Nodup ∧ state = State.start world apps
  step := State.step

/-- Nothing is locked down, every privilege is granted, and a logout is confirmed. -/
def World.permissive : World where
  logOutDisabled := false
  userSwitchDisabled := false
  autoSave := false
  logoutPrompt := true
  loginWindow := false
  appDisabled _ := false
  appStarts _ := true
  appRunning _ := false
  restartImmediately _ := false
  appName _ := ""
  uniqueCookie used := used.length.toUInt32 + 1
  startupId := "106c5a0"
  stopPrivileges := .granted
  restartPrivileges := .granted

/-- The calls one after the other, from a session without apps. -/
def afterCalls (calls : List Call) : Option State :=
  managerSystem.run (State.start .permissive []) (calls.map (Event.mk .permissive))

theorem afterCalls_reached {condition : State → Event → Prop} {calls : List Call} {state : State}
    (meets : managerSystem.Meets condition (State.start .permissive [])
      (calls.map (Event.mk .permissive)))
    (run : afterCalls calls = some state) : managerSystem.ReachableBy condition state :=
  .of_run (.initial ⟨.permissive, [], List.nodup_nil, rfl⟩) meets run

end CafeSession.Manager

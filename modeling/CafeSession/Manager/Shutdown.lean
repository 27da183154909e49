import CafeSession.Manager.Phases

namespace CafeSession.Manager

open CafeSession.Xsmp

/-- The arguments of the 'end-session-response' signal. -/
structure Response where
  isOk : Bool
  doLast : Bool
  cancel : Bool
  reason : Option String
deriving DecidableEq, Repr

def notResponding : String := "Not responding"

/-- The answer that `_disconnect_client` gives for a client that left during the query. -/
def exitedResponse : Response where
  isOk := true
  doLast := false
  cancel := false
  reason := some
    "Client exited in query end session phase instead of end session phase"

namespace State

def managerSwitchUser (world : World) (state : State) : State :=
  if world.userSwitchDisabled then state else state.emit .userSwitched

def doInhibitDialogAction (world : World) (action : LogoutAction) (state : State) : State :=
  match action with
  | .switchUser => state.managerSwitchUser world
  | .hibernate => state.emit .hibernated
  | .sleep => state.emit .suspended
  | .shutdown | .reboot | .logout => { state with logoutMode := .force }.endPhase world

/-- `csm_store_foreach_remove` on the inhibitors while no dialog is open. -/
def dropInhibitors (matching : Inhibitor → Bool) (state : State) : State :=
  if state.inhibitors.any matching then
    { state with inhibitors := state.inhibitors.filter (fun one => !matching one) }.updateIdle
  else
    state

def cancelEndSession (world : World) (state : State) : State :=
  if state.phase < .queryEndSession then
    state
  else
    let closed := { state with inhibitDialog := none }
    let told := (closed.dropInhibitors Inhibitor.isJit).tellClients Client.cancelEndSession
    { told.emit .sessionCancelled with
        phase := .running
        logoutMode := .normal
        logoutType := .none }.startPhase world

/-- Destroy the inhibit dialog on its answer. -/
def answerDialog (action : LogoutAction) (response : InhibitResponse) (state : State) : State :=
  { state with inhibitDialog := none }.emit (.inhibitDialogAnswered action response)

def inhibitDialogResponse (world : World) (response : InhibitResponse) (state : State) : State :=
  match state.inhibitDialog with
  | none => state
  | some action =>
      let closed := state.answerDialog action response
      match response with
      | .cancel | .none | .deleteEvent =>
          if action.endsSession then closed.cancelEndSession world else closed
      | .accept => closed.doInhibitDialogAction world action

/-- Open an inhibit dialog, or present the one that is up. -/
def openInhibitDialog (action : LogoutAction) (state : State) : State :=
  match state.inhibitDialog with
  | some _ => state
  | none => { state with inhibitDialog := some action }.emit (.inhibitDialogOpened action)

/-- `csm_store_foreach_remove` on the inhibitors.  The removed signals come when
the store has changed, so the dialog loses its last row exactly when nothing is
left in the store. -/
def removeInhibitors (world : World) (matching : Inhibitor → Bool) (state : State) : State :=
  let dropped := state.dropInhibitors matching
  if state.inhibitors.any matching && dropped.inhibitors.isEmpty then
    dropped.inhibitDialogResponse world .accept
  else
    dropped

def queryEndSessionComplete (world : World) (state : State) : State :=
  let stopped := { state with queryTimeout := false }
  if !stopped.logoutInhibited then
    stopped.endPhase world
  else
    stopped.openInhibitDialog stopped.logoutType.action

/-- The just-in-time inhibitor of a client that does not want to log out. -/
def addJitInhibitor (world : World) (client : Client) (reason : String) (state : State) : State :=
  let appId := if client.appId = "" then world.appName client.id else client.appId
  state.addInhibitor (.newForClient client.id appId inhibitorFlagLogout reason client.busName
    (world.uniqueCookie (state.inhibitors.map Inhibitor.cookie)))

def inhibitUnresponsive (world : World) (state : State) (id : Nat) : State :=
  match state.client? id with
  | none => state
  | some client => state.addJitInhibitor world client notResponding

def onQueryEndSessionTimeout (world : World) (state : State) : State :=
  let fired := { state with queryTimeout := false }
  let inhibited :=
    if state.logoutMode = .force then fired
    else state.queryClients.foldl (inhibitUnresponsive world) fired
  { inhibited with queryClients := [] }.queryEndSessionComplete world

def doPhaseEndSessionPart2 (world : World) (state : State) : State :=
  if state.nextQueryClients ≠ [] then
    { state.nextQueryClients.foldl
        (ask (Client.endSession (state.endSessionFlags world true))) state with
        nextQueryClients := [] }
  else
    state.endPhase world

/-- The part of `_handle_client_end_session_response` for the end-session phase. -/
def endSessionAnswered (world : World) (id : Nat) (doLast : Bool) (state : State) : State :=
  let noted :=
    if doLast then { state with nextQueryClients := id :: state.nextQueryClients } else state
  if noted.queryClients ≠ [] ∨ noted.logoutInhibited then
    noted
  else if noted.nextQueryClients ≠ [] then
    noted.doPhaseEndSessionPart2 world
  else
    noted.endPhase world

/-- What the phase makes of an answer, once it has been noted. -/
def answerNoted (world : World) (id : Nat) (doLast : Bool) (state : State) : State :=
  match state.phase with
  | .queryEndSession =>
      if state.queryClients = [] then state.queryEndSessionComplete world else state
  | .endSession => state.endSessionAnswered world id doLast
  | _ => state

/-- Take the client off the list and add or remove its inhibitors. -/
def noteAnswer (world : World) (client : Client) (response : Response) (state : State) : State :=
  let taken := { state with queryClients := state.queryClients.erase client.id }
  if !response.isOk && state.logoutMode != .force then
    taken.addJitInhibitor world client (response.reason.getD notResponding)
  else
    taken.removeInhibitors world (Inhibitor.hasClientId client.id)

/-- `_handle_client_end_session_response`. -/
def handleClientEndSessionResponse (world : World) (client : Client) (response : Response)
    (state : State) : State :=
  if state.phase < .queryEndSession then
    state
  else if response.cancel then
    state.cancelEndSession world
  else
    (state.noteAnswer world client response).answerNoted world client.id response.doLast

def findAppForClient (client : Client) (state : State) : Option App :=
  let byStartupId :=
    if client.startupId = "" then none else state.findAppForStartupId client.startupId
  match byStartupId with
  | some app => some app
  | none => if client.appId = "" then none else state.findAppForAppId client.appId

/-- The end of `_disconnect_client`: restart the client's app, or not. -/
def restartApp (world : World) (client : Client) (app : Option App) (isConditionClient : Bool)
    (state : State) : State :=
  if state.dbusDisconnected && client.isDBus then
    state
  else
    match app with
    | none => state
    | some app =>
        if .queryEndSession ≤ state.phase then
          state
        else if !app.autorestart && !world.restartImmediately client.id then
          state
        else if isConditionClient then
          state
        else
          state.emit (.restartCalled app.id state.phase)

/-- `_disconnect_client`. -/
def disconnectClient (world : World) (client : Client) (state : State) : State :=
  let isConditionClient := state.conditionClients.contains client.id
  let forgotten := { state with conditionClients := state.conditionClients.erase client.id }
  let removed := forgotten.removeInhibitors world (Inhibitor.hasClientId client.id)
  let app := removed.findAppForClient client
  let answered :=
    if removed.phase = .queryEndSession then
      removed.handleClientEndSessionResponse world client exitedResponse
    else
      removed
  answered.restartApp world client app isConditionClient

/-- The check both paths make when clients have left. -/
def endPhaseIfEmpty (world : World) (state : State) : State :=
  if .queryEndSession ≤ state.phase ∧ state.clients = [] then state.endPhase world else state

def onClientDisconnected (world : World) (client : Client) (state : State) : State :=
  let disconnected := (state.emit (.clientDisconnected client.id)).disconnectClient world client
  (disconnected.removeClient client.id).endPhaseIfEmpty world

/-- `_disconnect_dbus_client` answers TRUE: the client is a D-Bus client, of the
connection that went away if one is named. -/
def leavesWith (serviceName : Option String) (client : Client) : Bool :=
  match serviceName, client.busName with
  | _, none => false
  | none, some _ => true
  | some service, some name => name != "" && service == name

/-- `csm_store_foreach_remove` on the clients, whose predicate disconnects the
client before it is removed. -/
def removeDBusClients (world : World) (leaving : List Client) (state : State) : State :=
  leaving.foldl
    (fun state client => (state.disconnectClient world client).removeClient client.id) state

def removeClientsForConnection (world : World) (serviceName : Option String) (state : State) :
    State :=
  (state.removeDBusClients world (state.clients.filter (leavesWith serviceName))).endPhaseIfEmpty
    world

/-- `bus_name_owner_changed`, for the last owner of a name that has none any more. -/
def busNameLost (world : World) (serviceName : String) (state : State) : State :=
  (state.removeInhibitors world (Inhibitor.hasBusName serviceName)).removeClientsForConnection
    world (some serviceName)

/-- `csm_manager_bus_filter`, for the Disconnected signal. -/
def busDisconnected (world : World) (state : State) : State :=
  { state with dbusDisconnected := true }.removeClientsForConnection world none

/-- The switch of `on_phase_timeout`: the pending apps of a startup phase are
not followed any more. -/
def unfollowPending (state : State) : State :=
  if state.phase < .running then
    { state with
        registeredHandlers :=
          state.registeredHandlers.filter (fun id => !state.pendingApps.contains id) }
  else
    state

/-- `on_phase_timeout`. -/
def onPhaseTimeout (world : World) (state : State) : State :=
  ({ state.unfollowPending with phaseTimeout := false }.emit
    (.phaseTimedOut state.phase)).endPhase world

theorem onPhaseTimeout_late {world : World} {state : State} (late : .running ≤ state.phase) :
    state.onPhaseTimeout world =
      ({ state with phaseTimeout := false }.emit (.phaseTimedOut state.phase)).endPhase world := by
  have same : state.unfollowPending = state := if_neg (Nat.not_lt.mpr late)
  rw [onPhaseTimeout, same]

end State

end CafeSession.Manager

import CafeSession.Manager.Shutdown

namespace CafeSession.Manager

open CafeSession.Xsmp

inductive ErrorCode where
  | general
  | notInInitialization
  | notInRunning
  | alreadyRegistered
  | notRegistered
  | invalidOption
  | lockedDown
deriving DecidableEq, Repr

structure Error where
  code : ErrorCode
  message : String
deriving DecidableEq, Repr

inductive LogoutResponse where
  | cancel
  | none
  | deleteEvent
  | switchUser
  | hibernate
  | sleep
  | shutdown
  | reboot
  | logout
deriving DecidableEq, Repr

/-- What a confirmation dialog answers when its own timeout fires. -/
def LogoutDialog.defaultResponse : LogoutDialog → LogoutResponse
  | .logout => .logout
  | .shutdown => .shutdown

namespace State

def requestLogout (world : World) (mode : LogoutMode) (state : State) : State :=
  { state with logoutMode := mode, logoutType := .logout }.endPhase world

/-- `request_shutdown` and `request_reboot`: the privileges are asked for first,
and their answer arrives within the call. -/
def requestPrivileged (world : World) (answer : PrivilegeAnswer)
    (plain interact cdm : LogoutType) (state : State) : State :=
  match answer with
  | .granted => { state with logoutType := plain }.endPhase world
  | .askLater => { state with logoutType := interact }.endPhase world
  | .denied => state
  | .unavailable => { state with logoutType := cdm }.endPhase world

def requestShutdown (world : World) (state : State) : State :=
  state.requestPrivileged world world.stopPrivileges .shutdown .shutdownInteract .shutdownCdm

def requestReboot (world : World) (state : State) : State :=
  state.requestPrivileged world world.restartPrivileges .reboot .rebootInteract .rebootCdm

def requestSuspend (state : State) : State :=
  if !state.suspendInhibited then state.emit .suspended else state.openInhibitDialog .sleep

/-- Hibernation uses the suspend inhibitors too. -/
def requestHibernate (state : State) : State :=
  if !state.suspendInhibited then state.emit .hibernated else state.openInhibitDialog .hibernate

def requestSwitchUser (world : World) (state : State) : State :=
  if world.userSwitchDisabled then
    state
  else if !state.switchUserInhibited then
    state.managerSwitchUser world
  else
    state.openInhibitDialog .switchUser

def logoutDialogResponse (world : World) (response : LogoutResponse) (state : State) : State :=
  if state.logoutMode ≠ .normal then
    { state with fault := some .logoutDialogMode }
  else
    let closed := { state with logoutDialog := none }
    match response with
    | .cancel | .none | .deleteEvent => closed
    | .switchUser => closed.requestSwitchUser world
    | .hibernate => closed.requestHibernate
    | .sleep => closed.requestSuspend
    | .shutdown => closed.requestShutdown world
    | .reboot => closed.requestReboot world
    | .logout => closed.requestLogout world .noConfirmation

/-- `show_shutdown_dialog` and `show_logout_dialog`; a dialog that is still open
is destroyed without an answer. -/
def showDialog (dialog : LogoutDialog) (state : State) : State :=
  if .queryEndSession ≤ state.phase then
    state
  else
    { state with logoutMode := .normal, logoutDialog := some dialog }

def userLogout (world : World) (mode : LogoutMode) (state : State) : State :=
  if .queryEndSession ≤ state.phase then
    state
  else if mode = .normal ∧ world.logoutPrompt then
    state.showDialog .logout
  else
    state.requestLogout world mode

def notInRunning : Error where
  code := .notInRunning
  message := "Shutdown interface is only available during the Running phase"

def lockedDown : Error where
  code := .lockedDown
  message := "Logout has been locked down"

/-- `csm_manager_logout`. -/
def managerLogout (world : World) (logoutMode : UInt32) (state : State) : Except Error State :=
  if state.phase ≠ .running then
    .error notInRunning
  else if world.logOutDisabled then
    .error lockedDown
  else
    match LogoutMode.ofCode logoutMode with
    | some mode => .ok (state.userLogout world mode)
    | none => .error ⟨.invalidOption, "Unknown logout mode flag"⟩

/-- `csm_manager_shutdown`. -/
def managerShutdown (world : World) (state : State) : Except Error State :=
  if state.phase ≠ .running then
    .error notInRunning
  else if world.logOutDisabled then
    .error lockedDown
  else
    .ok (state.showDialog .shutdown)

/-- `csm_manager_request_shutdown`. -/
def managerRequestShutdown (world : World) (state : State) : Except Error State :=
  if state.phase ≠ .running then
    .error ⟨.notInRunning,
      "RequestShutdown interface is only available during the Running phase"⟩
  else
    .ok (state.requestShutdown world)

/-- `csm_manager_request_reboot`. -/
def managerRequestReboot (world : World) (state : State) : Except Error State :=
  if state.phase ≠ .running then
    .error ⟨.notInRunning,
      "RequestReboot interface is only available during the running phase"⟩
  else
    .ok (state.requestReboot world)

/-- `csm_manager_inhibit`, with the cookie it returns. -/
def managerInhibit (world : World) (appId : String) (toplevelXid : UInt32) (reason : String)
    (flags : UInt32) (sender : String) (state : State) : Except Error (State × UInt32) :=
  if state.logoutMode = .force then
    .error ⟨.general, "Forced logout cannot be inhibited"⟩
  else if appId = "" then
    .error ⟨.general, "Application ID not specified"⟩
  else if reason = "" then
    .error ⟨.general, "Reason not specified"⟩
  else if flags = 0 then
    .error ⟨.general, "Invalid inhibit flags"⟩
  else
    let cookie := world.uniqueCookie (state.inhibitors.map Inhibitor.cookie)
    .ok (state.addInhibitor (.new appId toplevelXid flags reason sender cookie), cookie)

/-- `csm_manager_uninhibit`; no two inhibitors have one cookie. -/
def managerUninhibit (world : World) (cookie : UInt32) (state : State) : Except Error State :=
  match state.inhibitors.find? (fun inhibitor => inhibitor.cookie == cookie) with
  | none => .error ⟨.general, "Unable to uninhibit: Invalid cookie"⟩
  | some inhibitor => .ok (state.removeInhibitors world (fun one => one == inhibitor))

/-- `app_registered`, which an app pending in a startup phase is connected to by
its 'registered' and 'exited' signals. -/
def appRegistered (world : World) (id : String) (state : State) : State :=
  if state.registeredHandlers.contains id then
    let registered := { state with
      pendingApps := state.pendingApps.erase id
      registeredHandlers := state.registeredHandlers.filter (fun other => other != id) }
    if registered.pendingApps = [] then
      { registered with phaseTimeout := false }.endPhase world
    else
      registered
  else
    state

def appConditionChanged (world : World) (app : App) (condition : Bool) (state : State) : State :=
  let client := state.clients.find? (Client.hasStartupId app.startupId)
  if condition then
    if !world.appRunning app.id && client.isNone then
      state.emit (.startCalled app.id state.phase)
    else
      state
  else
    match client with
    | some client =>
        { state with conditionClients := client.id :: state.conditionClients }.tell
          Client.stop client.id
    | none => if world.appRunning app.id then state.emit (.appStopped app.id) else state

/-- `_autostart_delay_timeout`. -/
def autostartDelayTimeout (world : World) (app : App) (state : State) : State :=
  let fired := { state with delayedApps := state.delayedApps.erase app.id }
  if !world.appDisabled app.id then
    fired.emit (.startCalled app.id state.phase)
  else
    fired

def addClient (transport : Transport) (startupId appId : String) (state : State) : State :=
  { state with
      clients := state.clients ++ [⟨state.clientSerial, transport, startupId, appId, []⟩]
      clientSerial := state.clientSerial + 1 }

/-- `csm_manager_register_client`, with the app that is told. -/
def managerRegisterClient (world : World) (appId startupId sender : String) (state : State) :
    Except Error State :=
  if .queryEndSession ≤ state.phase then
    .error ⟨.notInRunning, "Unable to register client"⟩
  else if startupId ≠ "" ∧ state.clients.any (Client.hasStartupId startupId) then
    .error ⟨.alreadyRegistered, "Unable to register client"⟩
  else
    let newStartupId := if startupId = "" then world.startupId else startupId
    let byStartupId := if startupId = "" then none else state.findAppForStartupId startupId
    let byAppId := if appId = "" then none else state.findAppForAppId appId
    match byStartupId.orElse (fun _ => byAppId) with
    | some app =>
        .ok ((state.addClient (.dbus sender) newStartupId app.appId).appRegistered world app.id)
    | none => .ok (state.addClient (.dbus sender) newStartupId appId)

/-- `accept_xsmp_connection`. -/
def acceptXsmpConnection (state : State) : State :=
  state.addClient (.xsmp .init none 0 true) "" ""

/-- The 'disconnected' signal of the client runs `on_client_disconnected` once more. -/
def connectDisconnected (client : Client) : Client :=
  match client.transport with
  | .dbus _ => client
  | .xsmp save queued handlers connected =>
      { client with transport := .xsmp save queued (handlers + 1) connected }

/-- The request connects the 'disconnected' handler: the phase still takes
clients, and no client has the id. -/
def connectsHandler (previousId : String) (state : State) : Bool :=
  !decide (.queryEndSession ≤ state.phase) &&
    (previousId == "" || !state.clients.any (Client.hasStartupId previousId))

/-- `on_xsmp_client_register_request`, with the id it leaves; an empty id rejects
the client, and an empty previous id is how a NULL one arrives. -/
def onXsmpClientRegisterRequest (world : World) (id : Nat) (previousId : String)
    (state : State) : State × String :=
  if !state.connectsHandler previousId then
    (state, "")
  else
    let connected := state.updateClient id connectDisconnected
    if previousId = "" then
      (connected, world.startupId)
    else
      match connected.findAppForStartupId previousId with
      | none => (connected, "")
      | some app =>
          let named := connected.updateClient id (fun client => { client with appId := app.appId })
          (named.appRegistered world app.id, previousId)

end State

/-- A call on the save slots of an XSMP client that is made for `request`. -/
def Client.saveCall (request : Request) (call : SaveState → SaveState × List SmsMessage)
    (client : Client) : Except String (Client × List ClientMessage) :=
  match client.transport with
  | .dbus _ => .ok (client, [])
  | .xsmp save queued handlers connected =>
      .ok (client.written save queued handlers connected request (call save),
        (call save).2.map .sms)

/-- The end of `save_yourself_done_callback`, which sends what was queued. -/
def Client.doneFinished (client : Client) : Except String (Client × List ClientMessage) :=
  match client.transport with
  | .dbus _ => .ok (client, [])
  | .xsmp save queued handlers connected =>
      let result := save.doneFinished
      let left := if result.1.nextSaveYourself = noSave then none else queued
      let stored := { client with transport := .xsmp result.1 left handlers connected }
      let delivered := if result.2.any Client.isRequest then queued.toList else []
      .ok ({ stored with unanswered := stored.unanswered ++ delivered }, result.2.map .sms)

namespace State

/-- `register_client_callback`. -/
def registerXsmpClient (world : World) (id : Nat) (previousId : String) (state : State) : State :=
  let (requested, newId) := state.onXsmpClientRegisterRequest world id previousId
  if newId = "" then
    requested
  else
    (requested.updateClient id (fun client => { client with startupId := newId })).tell
      (Client.saveCall .save (fun save => save.registerClient previousId newId)) id

/-- `save_yourself_request_callback`. -/
def saveYourselfRequest (world : World) (id : Nat) (shutdown fast global : Bool)
    (state : State) : State :=
  match SaveState.requestKind shutdown global with
  | .logout =>
      match state.managerLogout world (if fast then 1 else 0) with
      | .ok logout => logout
      | .error _ => state
  | .checkpoint =>
      state.tell (Client.saveCall .save (fun save => save.doSaveYourself smSaveLocal true)) id
  | .ignored => state

/-- An XSMP callback that answers the client's running save with `response`
after the slots have been changed by `call`. -/
def saveAnswered (world : World) (client : Client)
    (call : SaveState → SaveState × List SmsMessage) (response : Response) (state : State) :
    State :=
  ((state.tell (Client.saveCall .save call) client.id).updateClient client.id
    Client.answered).handleClientEndSessionResponse world client response

/-- `save_yourself_phase2_request_callback`. -/
def saveYourselfPhase2Request (world : World) (client : Client) (state : State) : State :=
  state.saveAnswered world client (fun save => (save.phase2Requested, []))
    ⟨true, true, false, none⟩

/-- `interact_request_callback`. -/
def interactRequest (world : World) (client : Client) (state : State) : State :=
  (state.handleClientEndSessionResponse world client
    ⟨false, false, false, some "This program is blocking logout."⟩).tell
    (Client.saveCall .save (fun save => (save, [.interact]))) client.id

/-- `interact_done_callback`. -/
def interactDone (world : World) (client : Client) (cancelShutdown : Bool) (state : State) :
    State :=
  state.handleClientEndSessionResponse world client ⟨true, false, cancelShutdown, none⟩

/-- `save_yourself_done_callback`; it does not look at the success value. -/
def saveYourselfDone (world : World) (client : Client) (state : State) : State :=
  (state.saveAnswered world client SaveState.doneReceived ⟨true, false, false, none⟩).tell
    Client.doneFinished client.id

/-- `handle_end_session_response` of a D-Bus client. -/
def endSessionResponse (world : World) (client : Client) (isOk : Bool) (reason : String)
    (state : State) : State :=
  (state.updateClient client.id Client.answered).handleClientEndSessionResponse world client
    ⟨isOk, false, false, some reason⟩

def disconnect (client : Client) : Client :=
  match client.transport with
  | .dbus _ => client
  | .xsmp save queued handlers _ =>
      { client with transport := .xsmp save queued handlers false }

/-- The emission of 'disconnected': each handler runs `on_client_disconnected`. -/
def emitDisconnected (world : World) (client : Client) : Nat → State → State
  | 0, state => state
  | handlers + 1, state =>
      emitDisconnected world client handlers (state.onClientDisconnected world client)

/-- The loss of a client's ICE connection, by an I/O error or CloseConnection. -/
def connectionLost (world : World) (client : Client) (state : State) : State :=
  (state.updateClient client.id disconnect).emitDisconnected world client client.handlers

end State

end CafeSession.Manager

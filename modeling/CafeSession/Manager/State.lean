import CafeSession.Manager.Types

/-! # The state of the session manager

`CsmManagerPrivate` with its stores.  A timer is the bit that says whether its
source is armed, and the two dialogs are the actions they were opened for.  A
client in one of the lists is given by its id.

The stores are hash tables, so the order of the lists that model them means
nothing.  The rows of the inhibit dialog are the inhibitors of the store: the
dialog is filled from the store when it is created and follows its signals.

`log` is what the manager did, newest first.  `fault` is set when an assertion
fails; the process is gone then, and the other fields mean nothing. -/

namespace CafeSession.Manager

open CafeSession.Xsmp

inductive LogoutDialog where
  | logout
  | shutdown
deriving DecidableEq, Repr

/-- What a user can answer in the inhibit dialog. -/
inductive InhibitResponse where
  | cancel
  | none
  | deleteEvent
  | accept
deriving DecidableEq, Repr

/-- The end of a phase: what was waited for, the clients and whether logout was
inhibited when `end_phase` left it. -/
structure PhaseEnd where
  phase : Phase
  waiting : List Nat
  clients : List Client
  logoutInhibited : Bool
deriving DecidableEq, Repr

inductive Effect where
  | phaseEnded (ended : PhaseEnd)
  | phaseTimedOut (phase : Phase)
  | sessionRunning
  | sessionCancelled
  | sessionSaved
  | quit (type : LogoutType)
  | sent (client : Nat) (message : ClientMessage)
  | inhibitDialogOpened (action : LogoutAction)
  | inhibitDialogAnswered (action : LogoutAction) (response : InhibitResponse)
  | clientDisconnected (client : Nat)
  /-- `csm_app_start` was called in the phase, whatever became of the start -/
  | startCalled (app : String) (phase : Phase)
  | appStopped (app : String)
  /-- `csm_app_restart` was called in the phase -/
  | restartCalled (app : String) (phase : Phase)
  | userSwitched
  | hibernated
  | suspended
deriving DecidableEq, Repr

inductive Fault where
  /-- the assertion of `logout_dialog_response` -/
  | logoutDialogMode
  /-- `csm_manager_quit` without a logout type -/
  | quitType
deriving DecidableEq, Repr

structure State where
  clients : List Client
  inhibitors : List Inhibitor
  apps : List App
  /-- the idle-enabled bit of the presence object -/
  idleEnabled : Bool
  phase : Phase
  phaseTimeout : Bool
  pendingApps : List String
  /-- the apps whose 'exited' and 'registered' signals run `app_registered` -/
  registeredHandlers : List String
  logoutMode : LogoutMode
  queryClients : List Nat
  queryTimeout : Bool
  nextQueryClients : List Nat
  logoutType : LogoutType
  inhibitDialog : Option LogoutAction
  conditionClients : List Nat
  dbusDisconnected : Bool
  /-- the confirmation dialog that is open -/
  logoutDialog : Option LogoutDialog
  /-- the apps whose autostart delay runs -/
  delayedApps : List String
  /-- the apps whose 'condition-changed' signal is followed -/
  watchedApps : List String
  clientSerial : Nat
  log : List Effect
  fault : Option Fault
deriving DecidableEq, Repr

namespace State

def emit (effect : Effect) (state : State) : State :=
  { state with log := effect :: state.log }

def client? (id : Nat) (state : State) : Option Client :=
  state.clients.find? (fun client => client.id == id)

def updateClient (id : Nat) (update : Client → Client) (state : State) : State :=
  { state with
      clients := state.clients.map (fun client => if client.id = id then update client else client) }

def clientIds (state : State) : List Nat := state.clients.map Client.id

/-- `csm_store_remove` on the clients. -/
def removeClient (id : Nat) (state : State) : State :=
  { state with clients := state.clients.filter (fun client => client.id != id) }

def logoutInhibited (state : State) : Bool :=
  state.inhibitors.any (Inhibitor.hasFlag inhibitorFlagLogout)

def idleInhibited (state : State) : Bool :=
  state.inhibitors.any (Inhibitor.hasFlag inhibitorFlagIdle)

def suspendInhibited (state : State) : Bool :=
  state.inhibitors.any (Inhibitor.hasFlag inhibitorFlagSuspend)

def switchUserInhibited (state : State) : Bool :=
  state.inhibitors.any (Inhibitor.hasFlag inhibitorFlagSwitchUser)

/-- `csm_manager_is_inhibited`. -/
def isInhibited (flags : UInt32) (state : State) : Bool :=
  state.inhibitors.any (Inhibitor.hasFlag flags)

def updateIdle (state : State) : State :=
  { state with idleEnabled := !state.idleInhibited }

/-- `csm_store_add` on the inhibitors, with the handlers of its signal. -/
def addInhibitor (inhibitor : Inhibitor) (state : State) : State :=
  updateIdle { state with inhibitors := state.inhibitors ++ [inhibitor] }

def findAppForAppId (appId : String) (state : State) : Option App :=
  state.apps.find? (fun app => app.appId == appId)

def app? (id : String) (state : State) : Option App :=
  state.apps.find? (fun app => app.id == id)

/-- During startup only the apps pending in the phase are looked at. -/
def findAppForStartupId (startupId : String) (state : State) : Option App :=
  if state.phase < .application then
    (state.pendingApps.filterMap (fun id => state.app? id)).find? (fun app => app.startupId == startupId)
  else
    state.apps.find? (App.hasStartupId startupId)

/-- The client that a call on it leaves; one that fails is only warned about. -/
def told (call : Client → Except String (Client × List ClientMessage)) (client : Client) : Client :=
  match call client with
  | .ok (left, _) => left
  | .error _ => client

/-- A call on one client object: store what it leaves and send what it writes. -/
def tell (call : Client → Except String (Client × List ClientMessage)) (state : State)
    (id : Nat) : State :=
  match (state.client? id).map call with
  | some (.ok (_, messages)) =>
      { state.updateClient id (told call) with
          log := (messages.map (Effect.sent id)).reverse ++ state.log }
  | _ => state

/-- `_client_query_end_session` and `_client_end_session`: a client that could
be asked is waited for. -/
def ask (call : Client → Except String (Client × List ClientMessage)) (state : State)
    (id : Nat) : State :=
  match (state.client? id).map call with
  | some (.ok _) =>
      { state.tell call id with queryClients := id :: state.queryClients }
  | _ => state

end State

end CafeSession.Manager

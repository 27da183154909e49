import Mathlib.Data.List.Basic
import CafeSession.Xsmp.SaveYourself

namespace CafeSession.Manager

open CafeSession.Xsmp

/-- `CsmManagerPhase`, in the order of its numbers. -/
inductive Phase where
  | startup
  | initialization
  | windowManager
  | panel
  | desktop
  | application
  | running
  | queryEndSession
  | endSession
  | exit
deriving DecidableEq, Repr

namespace Phase

def number : Phase → Nat
  | startup => 0
  | initialization => 1
  | windowManager => 2
  | panel => 3
  | desktop => 4
  | application => 5
  | running => 6
  | queryEndSession => 7
  | endSession => 8
  | exit => 9

instance : LE Phase := ⟨fun first second => first.number ≤ second.number⟩
instance : LT Phase := ⟨fun first second => first.number < second.number⟩

instance (first second : Phase) : Decidable (first ≤ second) :=
  inferInstanceAs (Decidable (first.number ≤ second.number))
instance (first second : Phase) : Decidable (first < second) :=
  inferInstanceAs (Decidable (first.number < second.number))

/-- The `priv->phase++` of `end_phase`, which never runs in the last phase. -/
def next : Phase → Phase
  | startup => initialization
  | initialization => windowManager
  | windowManager => panel
  | panel => desktop
  | desktop => application
  | application => running
  | running => queryEndSession
  | queryEndSession => endSession
  | endSession | exit => exit

theorem le_def {first second : Phase} : first ≤ second ↔ first.number ≤ second.number := Iff.rfl

theorem lt_def {first second : Phase} : first < second ↔ first.number < second.number := Iff.rfl

theorem queryEndSession_le {phase : Phase} :
    queryEndSession ≤ phase ↔ phase = queryEndSession ∨ phase = endSession ∨ phase = exit := by
  cases phase <;> simp [le_def, number]

theorem query_le_query : queryEndSession ≤ queryEndSession := by decide

theorem query_le_endSession : queryEndSession ≤ endSession := by decide

theorem query_le_exit : queryEndSession ≤ exit := by decide

theorem endSession_le_endSession : endSession ≤ endSession := by decide

theorem endSession_le_exit : endSession ≤ exit := by decide

theorem query_le_of_endSession_le {phase : Phase} (late : endSession ≤ phase) :
    queryEndSession ≤ phase :=
  Nat.le_trans query_le_endSession late

theorem running_le_of_query_le {phase : Phase} (late : queryEndSession ≤ phase) :
    running ≤ phase :=
  Nat.le_trans (by decide : running ≤ queryEndSession) late

theorem running_le_running : running ≤ running := by decide

theorem running_le_query : running ≤ queryEndSession := by decide

theorem running_le_endSession : running ≤ endSession := by decide

theorem running_le_exit : running ≤ exit := by decide

theorem not_query_le_running : ¬ queryEndSession ≤ running := by decide

theorem running_lt_query : running < queryEndSession := by decide

theorem not_query_le {phase : Phase} : ¬ queryEndSession ≤ phase ↔ phase < queryEndSession :=
  Nat.not_le

theorem not_lt_query {phase : Phase} : ¬ phase < queryEndSession ↔ queryEndSession ≤ phase :=
  Nat.not_lt

theorem eq_running {phase : Phase} (late : running ≤ phase) (early : ¬ queryEndSession ≤ phase) :
    phase = running := by
  cases phase <;> first | rfl | exact absurd late (by decide) | exact absurd (by decide) early

theorem running_late {phase : Phase} (same : phase = running) : running ≤ phase := by
  rw [same]
  decide

theorem running_early {phase : Phase} (same : phase = running) : ¬ queryEndSession ≤ phase := by
  rw [same]
  decide

theorem number_next {phase : Phase} (more : phase ≠ exit) :
    phase.next.number = phase.number + 1 := by
  cases phase <;> first | rfl | exact absurd rfl more

theorem number_le (phase : Phase) : phase.number ≤ 9 := by
  cases phase <;> decide

end Phase

inductive LogoutMode where
  | normal
  | noConfirmation
  | force
deriving DecidableEq, Repr

/-- The modes by the number a D-Bus caller gives. -/
def LogoutMode.ofCode (code : UInt32) : Option LogoutMode :=
  if code = 0 then some .normal
  else if code = 1 then some .noConfirmation
  else if code = 2 then some .force
  else none

/-- What is done just before the session manager quits. -/
inductive LogoutType where
  | none
  | logout
  | reboot
  | rebootInteract
  | rebootCdm
  | shutdown
  | shutdownInteract
  | shutdownCdm
deriving DecidableEq, Repr

/-- `CsmLogoutAction`, what an inhibit dialog is asked about. -/
inductive LogoutAction where
  | switchUser
  | hibernate
  | sleep
  | shutdown
  | reboot
  | logout
deriving DecidableEq, Repr

/-- The actions `inhibit_dialog_response` cancels and `do_inhibit_dialog_action` forces. -/
def LogoutAction.endsSession : LogoutAction → Bool
  | .shutdown | .reboot | .logout => true
  | .switchUser | .hibernate | .sleep => false

/-- The action of the dialog that `query_end_session_complete` opens. -/
def LogoutType.action : LogoutType → LogoutAction
  | .logout => .logout
  | .reboot | .rebootInteract | .rebootCdm => .reboot
  | .shutdown | .shutdownInteract | .shutdownCdm => .shutdown
  | .none => .logout

theorem LogoutType.action_endsSession (type : LogoutType) : type.action.endsSession := by
  cases type <;> rfl

def inhibitorFlagLogout : UInt32 := 1
def inhibitorFlagSwitchUser : UInt32 := 2
def inhibitorFlagSuspend : UInt32 := 4
def inhibitorFlagIdle : UInt32 := 8

structure Inhibitor where
  appId : String
  toplevelXid : UInt32
  flags : UInt32
  reason : String
  /-- the client of a just-in-time inhibitor; `none` for one made by Inhibit -/
  clientId : Option Nat
  busName : Option String
  cookie : UInt32
deriving DecidableEq, Repr

namespace Inhibitor

/-- The unsigned construct properties go from 0 to G_MAXINT; GObject does not
set one that is given a value outside, and 0 stays. -/
def constructUInt (value : UInt32) : UInt32 :=
  if value ≤ 0x7fffffff then value else 0

/-- `csm_inhibitor_new`. -/
def new (appId : String) (toplevelXid flags : UInt32) (reason busName : String)
    (cookie : UInt32) : Inhibitor where
  appId := appId
  toplevelXid := constructUInt toplevelXid
  flags := constructUInt flags
  reason := reason
  clientId := none
  busName := some busName
  cookie := constructUInt cookie

/-- `csm_inhibitor_new_for_client`. -/
def newForClient (clientId : Nat) (appId : String) (flags : UInt32) (reason : String)
    (busName : Option String) (cookie : UInt32) : Inhibitor where
  appId := appId
  toplevelXid := 0
  flags := constructUInt flags
  reason := reason
  clientId := some clientId
  busName := busName
  cookie := constructUInt cookie

/-- `inhibitor_has_flag`. -/
def hasFlag (flag : UInt32) (inhibitor : Inhibitor) : Bool :=
  inhibitor.flags &&& flag != 0

/-- `inhibitor_is_jit`. -/
def isJit (inhibitor : Inhibitor) : Bool :=
  inhibitor.clientId.isSome

/-- A just-in-time inhibitor of one of the clients. -/
def OfClient (clientIds : List Nat) (inhibitor : Inhibitor) : Prop :=
  ∃ id ∈ clientIds, inhibitor.clientId = some id

/-- `inhibitor_has_client_id`; the ids of clients are never empty. -/
def hasClientId (clientId : Nat) (inhibitor : Inhibitor) : Bool :=
  inhibitor.clientId == some clientId

/-- `inhibitor_has_bus_name`. -/
def hasBusName (serviceName : String) (inhibitor : Inhibitor) : Bool :=
  serviceName != "" && inhibitor.busName == some serviceName

theorem isJit_of_clientId {inhibitor : Inhibitor} {id : Nat}
    (named : inhibitor.clientId = some id) : inhibitor.isJit = true := by
  rw [isJit, named]
  rfl

theorem newForClient_hasFlag (clientId : Nat) (appId reason : String)
    (busName : Option String) (cookie : UInt32) :
    (newForClient clientId appId inhibitorFlagLogout reason busName cookie).hasFlag
      inhibitorFlagLogout := by
  have flags : (constructUInt inhibitorFlagLogout &&& inhibitorFlagLogout != 0) = true := by decide
  exact flags

end Inhibitor

structure App where
  id : String
  appId : String
  startupId : String
  phase : Phase
  autostartDelay : Nat
  autorestart : Bool
deriving DecidableEq, Repr

/-- `_app_has_startup_id`. -/
def App.hasStartupId (startupId : String) (app : App) : Bool :=
  app.startupId != "" && app.startupId == startupId

/-- A request on its way to a client or not answered yet.  Only the client's
side reads it: what the session manager stores about its requests is
`query_clients` and, for an XSMP client, the two save slots. -/
inductive Request where
  | query (allowInteract : Bool)
  | endSession
  /-- the request of the second part of the end-session phase -/
  | endSessionLast
  /-- the initial SaveYourself or a checkpoint the client asked for -/
  | save
deriving DecidableEq, Repr

def Request.endsSession : Request → Bool
  | .endSession | .endSessionLast => true
  | .query _ | .save => false

inductive Transport where
  | dbus (busName : String)
  /-- `handlers` counts the connections of `on_client_disconnected` to the
  'disconnected' signal; `queued` is the request waiting in `next_save_yourself`;
  `connected` is false once the ICE connection is lost -/
  | xsmp (save : SaveState) (queued : Option Request) (handlers : Nat) (connected : Bool)
deriving DecidableEq, Repr

structure Client where
  id : Nat
  transport : Transport
  startupId : String
  appId : String
  /-- the requests delivered to the client that it has not answered, oldest first -/
  unanswered : List Request
deriving DecidableEq, Repr

/-- What the calls on a client object leave alone: its startup id, and what ties
it to its connection, the bus name or the handlers of its 'disconnected' signal. -/
structure Wiring where
  id : Nat
  startupId : String
  busName : Option String
  handlers : Nat
deriving DecidableEq, Repr

/-- One more handler of 'disconnected', on an XSMP client. -/
def Wiring.connect (wiring : Wiring) : Wiring :=
  if wiring.busName.isNone then { wiring with handlers := wiring.handlers + 1 } else wiring

/-- A message written to a client: a D-Bus signal with its flags, or an XSMP message. -/
inductive ClientMessage where
  | queryEndSession (flags : EndSessionFlags)
  | endSession (flags : EndSessionFlags)
  | cancelEndSession
  | stop
  | sms (message : SmsMessage)
deriving DecidableEq, Repr

namespace Client

def isDBus (client : Client) : Bool :=
  match client.transport with
  | .dbus _ => true
  | .xsmp .. => false

def busName (client : Client) : Option String :=
  match client.transport with
  | .dbus name => some name
  | .xsmp .. => none

/-- How many times 'disconnected' of the client runs `on_client_disconnected`. -/
def handlers (client : Client) : Nat :=
  match client.transport with
  | .dbus _ => 0
  | .xsmp _ _ handlers _ => handlers

def wiring (client : Client) : Wiring where
  id := client.id
  startupId := client.startupId
  busName := client.busName
  handlers := client.handlers

/-- `_client_has_startup_id`. -/
def hasStartupId (startupId : String) (client : Client) : Bool :=
  client.startupId != "" && client.startupId == startupId

def deliver (request : Request) (client : Client) : Client :=
  { client with unanswered := client.unanswered ++ [request] }

/-- The client has answered its oldest request. -/
def answered (client : Client) : Client :=
  { client with unanswered := client.unanswered.tail }

/-- A client's libSM takes only the three save types for a request. -/
def isRequest : SmsMessage → Bool
  | .saveYourself saveType .. =>
      decide (saveType = smSaveGlobal ∨ saveType = smSaveLocal ∨ saveType = smSaveBoth)
  | .saveYourselfPhase2 => true
  | _ => false

/-- Store the save slots that a call made for `request` leaves and deliver what
it wrote; a request that only filled the empty second slot is queued. -/
def written (client : Client) (save : SaveState) (queued : Option Request) (handlers : Nat)
    (connected : Bool) (request : Request) (result : SaveState × List SmsMessage) : Client :=
  let waiting := if save.nextSaveYourself = noSave ∧ result.1.nextSaveYourself ≠ noSave
    then some request else queued
  let stored := { client with transport := .xsmp result.1 waiting handlers connected }
  if result.2.any isRequest then stored.deliver request else stored

/-- `csm_client_query_end_session`. -/
def queryEndSession (flags : EndSessionFlags) (client : Client) :
    Except String (Client × List ClientMessage) :=
  match client.transport with
  | .dbus _ => .ok (client.deliver (.query (!flags.forceful)), [.queryEndSession flags])
  | .xsmp save queued handlers connected =>
      (save.queryEndSession flags).map fun result =>
        (client.written save queued handlers connected (.query (!flags.forceful)) result,
          result.2.map .sms)

/-- `csm_client_end_session`. -/
def endSession (flags : EndSessionFlags) (client : Client) :
    Except String (Client × List ClientMessage) :=
  let request := if flags.last then Request.endSessionLast else Request.endSession
  match client.transport with
  | .dbus _ => .ok (client.deliver request, [.endSession flags])
  | .xsmp save queued handlers connected =>
      (save.endSession flags).map fun result =>
        (client.written save queued handlers connected request result, result.2.map .sms)

/-- `csm_client_cancel_end_session`; it also empties the save slots of an XSMP client. -/
def cancelEndSession (client : Client) : Except String (Client × List ClientMessage) :=
  match client.transport with
  | .dbus _ => .ok (client, [.cancelEndSession])
  | .xsmp save _ handlers connected =>
      save.cancelEndSession.map fun result =>
        ({ client with transport := .xsmp result.1 none handlers connected }, result.2.map .sms)

/-- `csm_client_stop`. -/
def stop (client : Client) : Except String (Client × List ClientMessage) :=
  match client.transport with
  | .dbus _ => .ok (client, [.stop])
  | .xsmp save queued handlers connected =>
      save.stop.map fun result =>
        ({ client with transport := .xsmp result.1 queued handlers connected },
          result.2.map .sms)

end Client

inductive PrivilegeAnswer where
  | granted
  | askLater
  | denied
  /-- the seat service could not be asked at all -/
  | unavailable
deriving DecidableEq, Repr

/-- What the callbacks of one event read from outside the session manager. -/
structure World where
  logOutDisabled : Bool
  userSwitchDisabled : Bool
  autoSave : Bool
  logoutPrompt : Bool
  loginWindow : Bool
  /-- the app is disabled, or its autostart condition is not met -/
  appDisabled : String → Bool
  appStarts : String → Bool
  appRunning : String → Bool
  /-- the client's restart style hint is RESTART_IMMEDIATELY -/
  restartImmediately : Nat → Bool
  appName : Nat → String
  /-- what `_generate_unique_cookie` returns, given the cookies in use -/
  uniqueCookie : List UInt32 → UInt32
  startupId : String
  stopPrivileges : PrivilegeAnswer
  restartPrivileges : PrivilegeAnswer

end CafeSession.Manager

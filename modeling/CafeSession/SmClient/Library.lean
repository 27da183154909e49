import CafeSession.Xsmp.Properties
import CafeSession.Xsmp.SaveYourself

/-! # The client library

`EggSMClientXSMP`, the other end of an XSMP connection: it answers the session
manager on behalf of an application.  What has to wait until the application
is back in its main loop is done by an idle source.

The application may call the library from the handler of 'save_state', and
`egg_sm_client_end_session` reads messages until it may send its own.  So the
calls that have not returned are kept as frames, the newest first. -/

namespace CafeSession.SmClient

open CafeSession.Autostart CafeSession.Shell CafeSession.Xsmp

/-- `EggSMClientXSMPState`. -/
inductive XsmpState where
  | idle
  | saveYourself
  | interactRequest
  | interact
  | saveYourselfDone
  | shutdownCancelled
  | connectionClosed
deriving DecidableEq, Repr

inductive DialogType where
  | error
  | normal
deriving DecidableEq, Repr

/-- The messages that the library writes. -/
inductive SmcMessage where
  | setProperties (props : List SmProp)
  | deleteProperties (names : List String)
  | requestSaveYourself (saveType : Int) (shutdown : Bool) (interactStyle : InteractStyle)
      (fast global : Bool)
  | interactRequest (dialogType : DialogType)
  | interactDone (cancelShutdown : Bool)
  | saveYourselfDone (success : Bool)
deriving DecidableEq

/-- The signals of `EggSMClient`. -/
inductive Signal where
  | saveState
  | quitRequested
  | quitCancelled
  | quit
deriving DecidableEq, Repr

/-- The function of the idle source. -/
inductive IdleFunction where
  | setInitialProperties
  | doPendingEvents
deriving DecidableEq, Repr

/-- Who called `save_state`, and goes on after it. -/
inductive Resume where
  | doSaveYourself
  | willQuit
deriving DecidableEq, Repr

inductive Frame where
  /-- a handler of 'save_state' runs -/
  | saving (resume : Resume)
  /-- `sm_client_xsmp_end_session` waits for a message -/
  | ending (requestConfirmation : Bool)
deriving DecidableEq, Repr

structure EggSmClientXsmp where
  /-- the connection is not NULL -/
  connection : Bool
  clientId : Option Bytes
  state : XsmpState
  restartCommand : List Bytes
  hasRestartCommand : Bool
  restartStyle : RestartStyle
  /-- the function of the source that `idle` is the number of -/
  idle : Option IdleFunction
  expectingInitialSaveYourself : Bool
  needSaveState : Bool
  needQuitRequested : Bool
  interactErrors : Bool
  shuttingDown : Bool
  waitingToSetInitialProperties : Bool
  waitingToEmitQuit : Bool
  waitingToEmitQuitCancelled : Bool
  waitingToSaveMyself : Bool
  frames : List Frame
  /-- what was written on the connection, newest first -/
  sent : List SmcMessage
  /-- the signals that were emitted, newest first -/
  emitted : List Signal
  /-- libSM was called with the connection NULL -/
  fault : Bool
deriving DecidableEq

/-- The desktop file of the application, as far as the library reads it. -/
structure OwnDesktopFile where
  source : Bytes
  /-- the value of X-CAFE-AutoRestart -/
  autoRestart : Bool
  /-- the words of the Exec line; `none` if it cannot be parsed -/
  argv : Option (List Bytes)
deriving DecidableEq

/-- What a call reads from outside the library. -/
structure World where
  desktopFile : Option OwnDesktopFile
  /-- the mode is EGG_SM_CLIENT_MODE_NO_RESTART -/
  noRestart : Bool
  programName : Bytes
  userName : Bytes
  processId : Bytes
  /-- somebody handles 'quit_requested' -/
  listening : Bool
  /-- the session manager is xfce4-session -/
  xfce : Bool
deriving DecidableEq

/-- What came of a 'save_state'. -/
inductive SavedState where
  /-- the application put nothing into the state file -/
  | nothing
  /-- the file could not be made -/
  | unwritten
  | written (path : Bytes)
deriving DecidableEq

def arrayProp (name : String) (values : List Bytes) : SmProp where
  name := name
  type := "LISTofARRAY8"
  vals := values

def stringProp (name : String) (value : Bytes) : SmProp where
  name := name
  type := "ARRAY8"
  vals := [value]

def card8Prop (name : String) (value : UInt8) : SmProp where
  name := name
  type := "CARD8"
  vals := [[value]]

def RestartStyle.code : RestartStyle → UInt8
  | .ifRunning => 0
  | .anyway => 1
  | .immediately => 2
  | .never => 3

/-- `g_strsplit` without a limit. -/
def strsplit (delimiter : UInt8) (text : Bytes) : List Bytes :=
  if text = [] then [] else text.splitOn delimiter

/-- `generate_command`; a restart command names a program. -/
def generateCommand (restartCommand : List Bytes) (clientId stateFile : Option Bytes) :
    List Bytes :=
  restartCommand.take 1 ++
    (match clientId with
      | some id => [ascii "--sm-client-id", id]
      | none => []) ++
    (match stateFile with
      | some file => [ascii "--sm-client-state-file", file]
      | none => []) ++
    restartCommand.drop 1

namespace EggSmClientXsmp

/-- A call of libSM with the connection. -/
def send (message : SmcMessage) (xsmp : EggSmClientXsmp) : EggSmClientXsmp :=
  if xsmp.connection then
    { xsmp with sent := message :: xsmp.sent }
  else
    { xsmp with fault := true }

def emit (signal : Signal) (xsmp : EggSmClientXsmp) : EggSmClientXsmp :=
  { xsmp with emitted := signal :: xsmp.emitted }

def setProperties (props : List SmProp) (xsmp : EggSmClientXsmp) : EggSmClientXsmp :=
  if xsmp.connection then xsmp.send (.setProperties props) else xsmp

def deleteProperties (names : List String) (xsmp : EggSmClientXsmp) : EggSmClientXsmp :=
  if xsmp.connection then xsmp.send (.deleteProperties names) else xsmp

def updatePendingEvents (xsmp : EggSmClientXsmp) : EggSmClientXsmp :=
  if xsmp.waitingToEmitQuit || xsmp.waitingToEmitQuitCancelled || xsmp.waitingToSaveMyself then
    if xsmp.idle.isNone then { xsmp with idle := some .doPendingEvents } else xsmp
  else
    { xsmp with idle := none }

/-- `sm_client_xsmp_set_restart_command`. -/
def setRestartCommand (argv : List Bytes) (xsmp : EggSmClientXsmp) : EggSmClientXsmp :=
  { xsmp with restartCommand := argv, hasRestartCommand := true }

def readAutoRestart (file : OwnDesktopFile) (xsmp : EggSmClientXsmp) : EggSmClientXsmp :=
  if xsmp.restartStyle = .ifRunning ∧ file.autoRestart then
    { xsmp with restartStyle := .immediately }
  else
    xsmp

def readExec (file : OwnDesktopFile) (xsmp : EggSmClientXsmp) : EggSmClientXsmp :=
  if xsmp.hasRestartCommand then
    xsmp
  else
    match file.argv with
    | some argv => xsmp.setRestartCommand argv
    | none => xsmp

def readDesktopFile (world : World) (xsmp : EggSmClientXsmp) : EggSmClientXsmp :=
  match world.desktopFile with
  | some file => (xsmp.readAutoRestart file).readExec file
  | none => xsmp

def readMode (world : World) (xsmp : EggSmClientXsmp) : EggSmClientXsmp :=
  if world.noRestart then { xsmp with restartStyle := .never } else xsmp

def readProgramName (world : World) (xsmp : EggSmClientXsmp) : EggSmClientXsmp :=
  if xsmp.hasRestartCommand then
    xsmp
  else
    { xsmp with restartCommand := strsplit space world.programName }

/-- The properties that the library sets first. -/
def initialProperties (world : World) (xsmp : EggSmClientXsmp) : List SmProp :=
  [stringProp "Program" world.programName,
    arrayProp "CloneCommand" (generateCommand xsmp.restartCommand none none),
    arrayProp "RestartCommand" (generateCommand xsmp.restartCommand xsmp.clientId none),
    stringProp "UserID" world.userName,
    stringProp "ProcessID" world.processId,
    card8Prop "RestartStyleHint" (RestartStyle.code xsmp.restartStyle)]

def nameDesktopFile (world : World) (xsmp : EggSmClientXsmp) : EggSmClientXsmp :=
  match world.desktopFile with
  | some file => xsmp.setProperties [stringProp "_CSM_DesktopFile" file.source]
  | none => xsmp

/-- `sm_client_xsmp_set_initial_properties`. -/
def setInitialProperties (world : World) (xsmp : EggSmClientXsmp) : EggSmClientXsmp :=
  let started := { xsmp with idle := none, waitingToSetInitialProperties := false }
  let described := ((started.readMode world).readDesktopFile world).readProgramName world
  ((described.setProperties (described.initialProperties world)).nameDesktopFile
    world).updatePendingEvents

/-- Where they are wanted before the idle source has run. -/
def setMissingProperties (world : World) (xsmp : EggSmClientXsmp) : EggSmClientXsmp :=
  if xsmp.waitingToSetInitialProperties then xsmp.setInitialProperties world else xsmp

/-- `save_state`, up to the emission of its signal. -/
def saveState (resume : Resume) (xsmp : EggSmClientXsmp) : EggSmClientXsmp :=
  { xsmp with state := .saveYourself, frames := .saving resume :: xsmp.frames }.emit .saveState

/-- The rest of `save_state`: what it tells the session manager. -/
def tellSaved (saved : SavedState) (xsmp : EggSmClientXsmp) : EggSmClientXsmp :=
  let restart (file : Option Bytes) : SmProp :=
    arrayProp "RestartCommand" (generateCommand xsmp.restartCommand xsmp.clientId file)
  match saved with
  | .nothing => (xsmp.setProperties [restart none]).deleteProperties ["DiscardCommand"]
  | .unwritten => xsmp.setProperties [restart none]
  | .written path =>
      (xsmp.setProperties [restart (some path)]).setProperties
        [arrayProp "DiscardCommand" [ascii "/bin/rm", ascii "-rf", path]]

/-- The end of `sm_client_xsmp_will_quit`, and of `do_save_yourself`. -/
def saveYourselfDone (success : Bool) (xsmp : EggSmClientXsmp) : EggSmClientXsmp :=
  { xsmp.send (.saveYourselfDone success) with state := .saveYourselfDone }

def doSaveYourself (xsmp : EggSmClientXsmp) : EggSmClientXsmp :=
  if xsmp.state = .shutdownCancelled then
    { xsmp with waitingToSaveMyself := true }.updatePendingEvents
  else if xsmp.needQuitRequested then
    { xsmp with state := .interactRequest }.send
      (.interactRequest (if xsmp.interactErrors then .error else .normal))
  else if xsmp.needSaveState then
    xsmp.saveState .doSaveYourself
  else
    xsmp.saveYourselfDone true

/-- The handler of 'save_state' has returned: its caller goes on. -/
def saveStateReturned (saved : SavedState) (resume : Resume) (xsmp : EggSmClientXsmp) :
    EggSmClientXsmp :=
  let told := xsmp.tellSaved saved
  match resume with
  | .doSaveYourself => if told.connection then told.saveYourselfDone true else told
  | .willQuit => told.saveYourselfDone true

/-- `sm_client_xsmp_will_quit`. -/
def willQuit (willQuit : Bool) (xsmp : EggSmClientXsmp) : EggSmClientXsmp :=
  match xsmp.state with
  | .connectionClosed => { xsmp with waitingToEmitQuit := true }.updatePendingEvents
  | .shutdownCancelled => { xsmp with waitingToEmitQuitCancelled := true }.updatePendingEvents
  | .interact =>
      let told := xsmp.send (.interactDone (!willQuit))
      if willQuit ∧ xsmp.needSaveState then
        told.saveState .willQuit
      else
        told.saveYourselfDone willQuit
  | _ => xsmp

/-- `egg_sm_client_quit_requested`. -/
def quitRequested (world : World) (xsmp : EggSmClientXsmp) : EggSmClientXsmp :=
  if world.listening then xsmp.emit .quitRequested else xsmp.willQuit true

def disconnect (xsmp : EggSmClientXsmp) : EggSmClientXsmp :=
  if xsmp.connection then
    { xsmp with
        connection := false
        state := .connectionClosed
        waitingToSaveMyself := false }.updatePendingEvents
  else
    xsmp

def fixBrokenState (sendInteractDone sendSaveYourselfDone : Bool) (xsmp : EggSmClientXsmp) :
    EggSmClientXsmp :=
  let forgotten := { xsmp with waitingToSaveMyself := false }.updatePendingEvents
  let interacted := if sendInteractDone then forgotten.send (.interactDone false) else forgotten
  if sendSaveYourselfDone then interacted.saveYourselfDone true
  else { interacted with state := .idle }

/-- `xsmp_save_yourself`. -/
def xsmpSaveYourself (world : World) (saveType : Int) (shutdown : Bool)
    (interactStyle : InteractStyle) (fast : Bool) (xsmp : EggSmClientXsmp) : EggSmClientXsmp :=
  if xsmp.state ≠ .idle ∧ xsmp.state ≠ .shutdownCancelled then
    xsmp.fixBrokenState false true
  else
    let ready := xsmp.setMissingProperties world
    if ready.expectingInitialSaveYourself ∧ saveType = smSaveLocal ∧ interactStyle = .none ∧
        shutdown = false ∧ fast = false then
      { ready with expectingInitialSaveYourself := false }.saveYourselfDone true
    else
      { ready with
          expectingInitialSaveYourself := false
          needSaveState := saveType != smSaveGlobal
          needQuitRequested := shutdown && world.listening && interactStyle != InteractStyle.none
          interactErrors := interactStyle == InteractStyle.errors
          shuttingDown := shutdown }.doSaveYourself

/-- `xsmp_interact`. -/
def xsmpInteract (world : World) (xsmp : EggSmClientXsmp) : EggSmClientXsmp :=
  if xsmp.state ≠ .interactRequest then
    xsmp.fixBrokenState true true
  else
    { xsmp with state := .interact }.quitRequested world

/-- `xsmp_die`. -/
def xsmpDie (xsmp : EggSmClientXsmp) : EggSmClientXsmp := xsmp.disconnect.emit .quit

/-- `xsmp_save_complete`. -/
def xsmpSaveComplete (xsmp : EggSmClientXsmp) : EggSmClientXsmp :=
  if xsmp.state = .saveYourselfDone then { xsmp with state := .idle }
  else xsmp.fixBrokenState false false

/-- `xsmp_shutdown_cancelled`. -/
def xsmpShutdownCancelled (xsmp : EggSmClientXsmp) : EggSmClientXsmp :=
  let running := { xsmp with shuttingDown := false }
  match xsmp.state with
  | .saveYourselfDone => { running with state := .idle }.emit .quitCancelled
  | .shutdownCancelled => { running with waitingToSaveMyself := false }.updatePendingEvents
  | .interact => { running.send (.saveYourselfDone false) with state := .shutdownCancelled }
  | _ => { running.send (.saveYourselfDone false) with state := .idle }

/-- `idle_do_pending_events`.  A handler of 'quit_cancelled' is taken to return before
anything else happens. -/
def idleDoPendingEvents (xsmp : EggSmClientXsmp) : EggSmClientXsmp :=
  let ran := { xsmp with idle := none }
  if ran.waitingToEmitQuit then
    { ran with waitingToEmitQuit := false }.emit .quit
  else
    let told :=
      if ran.waitingToEmitQuitCancelled then
        { { ran with waitingToEmitQuitCancelled := false }.emit .quitCancelled with state := .idle }
      else
        ran
    if told.waitingToSaveMyself then
      { told with waitingToSaveMyself := false }.doSaveYourself
    else
      told

/-- `sm_client_xsmp_end_session` reads messages before it goes on. -/
def awaitMessage (requestConfirmation : Bool) (xsmp : EggSmClientXsmp) : EggSmClientXsmp :=
  if xsmp.connection then { xsmp with frames := .ending requestConfirmation :: xsmp.frames }
  else { xsmp with fault := true }

/-- The switch of `sm_client_xsmp_end_session`, round after round until the loop
reads a message or the call returns. -/
def patchUp (world : World) (requestConfirmation : Bool) (xsmp : EggSmClientXsmp) :
    EggSmClientXsmp :=
  match xsmp.state with
  | .connectionClosed | .interactRequest | .interact | .shutdownCancelled => xsmp
  -- the loop goes round once, to the case below
  | .saveYourself => (xsmp.saveYourselfDone false).awaitMessage requestConfirmation
  | .saveYourselfDone => xsmp.awaitMessage requestConfirmation
  | .idle => (xsmp.setMissingProperties world).awaitMessage requestConfirmation

/-- `sm_client_xsmp_end_session`, as far as it gets without reading a message. -/
def endSession (world : World) (requestConfirmation : Bool) (xsmp : EggSmClientXsmp) :
    EggSmClientXsmp :=
  if xsmp.state = .idle ∧ xsmp.expectingInitialSaveYourself = false then
    xsmp.send (.requestSaveYourself (if world.xfce then smSaveBoth else smSaveGlobal) true .any
      (!requestConfirmation) true)
  else if xsmp.shuttingDown then
    xsmp
  else
    xsmp.patchUp world requestConfirmation

/-- If `sm_client_xsmp_end_session` waits for a message, its loop goes round. -/
def goOn (world : World) (xsmp : EggSmClientXsmp) : EggSmClientXsmp :=
  match xsmp.frames with
  | .ending requestConfirmation :: frames =>
      { xsmp with frames := frames }.endSession world requestConfirmation
  | _ => xsmp

/-- Nothing but messages is read while `sm_client_xsmp_end_session` waits. -/
def blocked (xsmp : EggSmClientXsmp) : Bool :=
  match xsmp.frames with
  | .ending _ :: _ => true
  | _ => false

end EggSmClientXsmp

/-- A message of the session manager that has a callback. -/
inductive Callback where
  | saveYourself (saveType : Int) (shutdown : Bool) (interactStyle : InteractStyle) (fast : Bool)
  | interact
  | saveComplete
  | shutdownCancelled
  | die
deriving DecidableEq, Repr

inductive Call where
  | message (callback : Callback)
  /-- `process_ice_messages` finds an I/O error -/
  | ioError
  | idle
  /-- the handler of 'save_state' that was called last returns -/
  | saveStateReturned (saved : SavedState)
  -- the application's own calls
  | setRestartCommand (argv : List Bytes)
  | willQuit (willQuit : Bool)
  | endSession (requestConfirmation : Bool)
deriving DecidableEq

structure Event where
  world : World
  call : Call
deriving DecidableEq

/-- An application without a desktop file that handles 'quit_requested'. -/
def editorWorld : World where
  desktopFile := none
  noRestart := false
  programName := ascii "editor"
  userName := ascii "user"
  processId := ascii "17"
  listening := true
  xfce := false

namespace EggSmClientXsmp

def receive (world : World) : Callback → EggSmClientXsmp → EggSmClientXsmp
  | .saveYourself saveType shutdown interactStyle fast =>
      xsmpSaveYourself world saveType shutdown interactStyle fast
  | .interact => xsmpInteract world
  | .saveComplete => xsmpSaveComplete
  | .shutdownCancelled => xsmpShutdownCancelled
  | .die => xsmpDie

def runIdle (world : World) (xsmp : EggSmClientXsmp) : IdleFunction → EggSmClientXsmp
  | .setInitialProperties => xsmp.setInitialProperties world
  | .doPendingEvents => xsmp.idleDoPendingEvents

def perform (world : World) (xsmp : EggSmClientXsmp) : Call → Option EggSmClientXsmp
  | .message callback =>
      if xsmp.connection then some ((xsmp.receive world callback).goOn world) else none
  | .ioError => if xsmp.connection then some (xsmp.disconnect.goOn world) else none
  | .idle => if xsmp.blocked then none else xsmp.idle.map (xsmp.runIdle world)
  | .saveStateReturned saved =>
      match xsmp.frames with
      | .saving resume :: frames =>
          some (({ xsmp with frames := frames }.saveStateReturned saved resume).goOn world)
      | _ => none
  | .setRestartCommand argv => if xsmp.blocked then none else some (xsmp.setRestartCommand argv)
  | .willQuit willQuit => if xsmp.blocked then none else some (xsmp.willQuit willQuit)
  | .endSession requestConfirmation =>
      if xsmp.blocked then none else some (xsmp.endSession world requestConfirmation)

/-- A process that has crashed takes no events. -/
def step (xsmp : EggSmClientXsmp) (event : Event) : Option EggSmClientXsmp :=
  if xsmp.fault then none else xsmp.perform event.world event.call

/-- `egg_sm_client_xsmp_init`. -/
def init : EggSmClientXsmp where
  connection := false
  clientId := none
  state := .connectionClosed
  restartCommand := []
  hasRestartCommand := false
  restartStyle := .ifRunning
  idle := none
  expectingInitialSaveYourself := false
  needSaveState := false
  needQuitRequested := false
  interactErrors := false
  shuttingDown := false
  waitingToSetInitialProperties := false
  waitingToEmitQuit := false
  waitingToEmitQuitCancelled := false
  waitingToSaveMyself := false
  frames := []
  sent := []
  emitted := []
  fault := false

/-- `sm_client_xsmp_startup` with the id from the command line; `opened` is the
id that the session manager gives, or `none` if it is not reached. -/
def startup (clientId opened : Option Bytes) : EggSmClientXsmp :=
  match opened with
  | none => { init with clientId := clientId }
  | some given =>
      { init with
          connection := true
          clientId := some given
          state := .idle
          expectingInitialSaveYourself := clientId != some given
          waitingToSetInitialProperties := true
          idle := some .setInitialProperties }

end EggSmClientXsmp

end CafeSession.SmClient

import Mathlib.Data.List.Basic

/-! # SaveYourself state of an XSMP client

The part of `CsmXSMPClientPrivate` that decides which SaveYourself messages a
client is sent: a running save, one queued save, and the interaction bit of the
queued one.  Every function is one of `csm-xsmp-client.c`; it returns the new
state together with the messages written to the ICE connection, in order. -/

namespace CafeSession.Xsmp

/-- The save types of SMlib.  The client keeps them in plain `int` slots. -/
def smSaveGlobal : Int := 0
def smSaveLocal : Int := 1
def smSaveBoth : Int := 2

/-- The value of an empty slot. -/
def noSave : Int := -1

inductive InteractStyle where
  | none
  | errors
  | any
deriving DecidableEq, Repr

/-- The messages the session manager writes on an XSMP connection. -/
inductive SmsMessage where
  | registerClientReply (id : String)
  | saveYourself (saveType : Int) (shutdown : Bool) (interactStyle : InteractStyle) (fast : Bool)
  | saveYourselfPhase2
  | interact
  | saveComplete
  | shutdownCancelled
  | die
deriving DecidableEq, Repr

def SmsMessage.isSaveYourself : SmsMessage → Bool
  | .saveYourself .. => true
  | _ => false

/-- `CsmClientEndSessionFlag`: the three bits a request to end the session carries. -/
structure EndSessionFlags where
  forceful : Bool := false
  save : Bool := false
  last : Bool := false
deriving DecidableEq, Repr

/-- The message of `CSM_CLIENT_ERROR_NOT_REGISTERED`, for a client without a connection. -/
def notRegistered : String := "Client is not registered"

structure SaveState where
  conn : Bool
  currentSaveYourself : Int
  nextSaveYourself : Int
  nextSaveYourselfAllowInteract : Bool
deriving DecidableEq, Repr

namespace SaveState

/-- `csm_xsmp_client_init`, after `csm_xsmp_client_connect` has set the connection. -/
def init : SaveState where
  conn := true
  currentSaveYourself := noSave
  nextSaveYourself := noSave
  nextSaveYourselfAllowInteract := false

/-- The SaveYourself that `do_save_yourself` writes when nothing is running. -/
def message (saveType : Int) (allowInteract : Bool) : SmsMessage :=
  if saveType = smSaveLocal then
    .saveYourself smSaveLocal false .none false
  else if allowInteract then
    .saveYourself saveType true .any false
  else
    .saveYourself saveType true .none true

def doSaveYourself (state : SaveState) (saveType : Int) (allowInteract : Bool) :
    SaveState × List SmsMessage :=
  if state.nextSaveYourself ≠ noSave then
    (state, [])
  else if state.currentSaveYourself ≠ noSave then
    ({ state with
        nextSaveYourself := saveType
        nextSaveYourselfAllowInteract := allowInteract }, [])
  else
    ({ state with
        currentSaveYourself := saveType
        nextSaveYourself := noSave
        nextSaveYourselfAllowInteract := false }, [message saveType allowInteract])

/-- The save type and interaction bit that `xsmp_query_end_session` asks for. -/
def queryRequest (flags : EndSessionFlags) : Int × Bool :=
  (smSaveGlobal, !flags.forceful)

/-- The same for `xsmp_end_session` without the LAST flag: too late to interact. -/
def endRequest (flags : EndSessionFlags) : Int × Bool :=
  (if flags.save then smSaveBoth else smSaveGlobal, false)

def queryEndSession (state : SaveState) (flags : EndSessionFlags) :
    Except String (SaveState × List SmsMessage) :=
  if !state.conn then
    .error notRegistered
  else
    .ok (state.doSaveYourself (queryRequest flags).1 (queryRequest flags).2)

def endSession (state : SaveState) (flags : EndSessionFlags) :
    Except String (SaveState × List SmsMessage) :=
  if !state.conn then
    .error notRegistered
  else if flags.last then
    .ok (state, [.saveYourselfPhase2])
  else
    .ok (state.doSaveYourself (endRequest flags).1 (endRequest flags).2)

def cancelEndSession (state : SaveState) : Except String (SaveState × List SmsMessage) :=
  if !state.conn then
    .error notRegistered
  else
    .ok ({ state with
        currentSaveYourself := noSave
        nextSaveYourself := noSave
        nextSaveYourselfAllowInteract := false }, [.shutdownCancelled])

def stop (state : SaveState) : Except String (SaveState × List SmsMessage) :=
  if !state.conn then .error notRegistered else .ok (state, [.die])

/-- The end of `register_client_callback`, once the register-request handler
has left `id`.  An empty `id` rejects the client; an empty `previousId` is also
how a NULL one arrives, and then the initial SaveYourself follows the reply
without a look at the slots. -/
def registerClient (state : SaveState) (previousId id : String) :
    SaveState × List SmsMessage :=
  if id = "" then
    (state, [])
  else if previousId = "" then
    ({ state with currentSaveYourself := smSaveLocal },
      [.registerClientReply id, .saveYourself smSaveLocal false .none false])
  else
    (state, [.registerClientReply id])

/-- What `save_yourself_request_callback` makes of a client's own request. -/
inductive RequestKind where
  | logout
  | checkpoint
  | ignored
deriving DecidableEq, Repr

def requestKind (shutdown global : Bool) : RequestKind :=
  if shutdown && global then
    .logout
  else if !shutdown && !global then
    .checkpoint
  else
    .ignored

/-- `save_yourself_phase2_request_callback`, up to the response it emits. -/
def phase2Requested (state : SaveState) : SaveState :=
  { state with currentSaveYourself := noSave }

/-- `save_yourself_done_callback`, up to the response it emits. -/
def doneReceived (state : SaveState) : SaveState × List SmsMessage :=
  if state.currentSaveYourself ≠ noSave then
    ({ state with currentSaveYourself := noSave }, [.saveComplete])
  else
    (state, [])

/-- The rest of `save_yourself_done_callback`, after the response handlers have
run.  The test is `if (priv->next_save_yourself)`: it passes for an empty slot
(-1) and fails for a queued `SmSaveGlobal` (0).  Storing -1 in the one-bit
interaction field leaves 1 there. -/
def doneFinished (state : SaveState) : SaveState × List SmsMessage :=
  if state.nextSaveYourself ≠ 0 then
    doSaveYourself { state with
        nextSaveYourself := noSave
        nextSaveYourselfAllowInteract := true }
      state.nextSaveYourself state.nextSaveYourselfAllowInteract
  else
    (state, [])

end SaveState

end CafeSession.Xsmp

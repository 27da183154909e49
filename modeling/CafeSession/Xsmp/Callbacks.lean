import Mathlib.Data.List.Perm.Subperm
import Mathlib.Tactic.SplitIfs
import CafeSession.Transition.System
import CafeSession.Xsmp.SaveYourself

/-! # The callbacks of one XSMP client

The client as a system of its own: the callbacks libSM runs for it and the
calls the session manager makes on it, in any order.  `SaveYourselfDone` is two
events, because the callback emits `end-session-response` in its middle and the
manager may call back into the client before the emission returns; no other
message of the client is read in between.

`requests` records what was asked for (the initial save and every call of
`do_save_yourself` but the one the Done callback makes for the queue), `sent`
what was written on the connection.  Both are newest first. -/

namespace CafeSession.Xsmp

open CafeSession.Transition

structure Request where
  saveType : Int
  allowInteract : Bool
deriving DecidableEq, Repr

/-- The message a request is to be sent as. -/
def Request.message (request : Request) : SmsMessage :=
  SaveState.message request.saveType request.allowInteract

structure Client where
  save : SaveState
  inDone : Bool
  requests : List Request
  sent : List SmsMessage
deriving DecidableEq, Repr

inductive Event where
  /-- RegisterClient with the given previous id; `id` is what the register-request handler left -/
  | registerClient (previousId id : String)
  | queryEndSession (flags : EndSessionFlags)
  | endSession (flags : EndSessionFlags)
  | cancelEndSession
  | saveYourselfRequest (shutdown global : Bool)
  | saveYourselfPhase2Request
  | interactRequest
  | interactDone (cancelShutdown : Bool)
  | saveYourselfDone (success : Bool)
  /-- the handlers of the response emitted by the Done callback have returned -/
  | responseHandled
deriving DecidableEq, Repr

namespace Client

def init : Client where
  save := .init
  inDone := false
  requests := []
  sent := []

/-- Store a new save state and write its messages. -/
def write (client : Client) (result : SaveState × List SmsMessage) : Client :=
  { client with save := result.1, sent := result.2.reverse ++ client.sent }

def ask (client : Client) (request : Request) : Client :=
  { client with requests := request :: client.requests }

/-- A call of `do_save_yourself` made for a request. -/
def request (client : Client) (request : Request) : Client :=
  (client.ask request).write (client.save.doSaveYourself request.saveType request.allowInteract)

def queryRequest (flags : EndSessionFlags) : Request :=
  ⟨(SaveState.queryRequest flags).1, (SaveState.queryRequest flags).2⟩

def endRequest (flags : EndSessionFlags) : Request :=
  ⟨(SaveState.endRequest flags).1, (SaveState.endRequest flags).2⟩

/-- The checkpoint of `save_yourself_request_callback`. -/
def checkpointRequest : Request := ⟨smSaveLocal, true⟩

/-- The initial save of `register_client_callback`. -/
def initialRequest : Request := ⟨smSaveLocal, false⟩

def step (client : Client) : Event → Option Client
  | .registerClient previousId id =>
      if client.inDone then none
      else if id ≠ "" ∧ previousId = "" then
        some ((client.ask initialRequest).write (client.save.registerClient previousId id))
      else
        some (client.write (client.save.registerClient previousId id))
  | .queryEndSession flags =>
      match client.save.queryEndSession flags with
      | .error _ => some client
      | .ok result => some ((client.ask (queryRequest flags)).write result)
  | .endSession flags =>
      match client.save.endSession flags with
      | .error _ => some client
      | .ok result =>
          if flags.last then some (client.write result)
          else some ((client.ask (endRequest flags)).write result)
  | .cancelEndSession =>
      match client.save.cancelEndSession with
      | .error _ => some client
      | .ok result => some (client.write result)
  | .saveYourselfRequest shutdown global =>
      if client.inDone then none
      else match SaveState.requestKind shutdown global with
        | .checkpoint => some (client.request checkpointRequest)
        | .logout | .ignored => some client
  | .saveYourselfPhase2Request =>
      if client.inDone then none
      else some { client with save := client.save.phase2Requested }
  | .interactRequest =>
      if client.inDone then none else some (client.write (client.save, [.interact]))
  | .interactDone _ => if client.inDone then none else some client
  | .saveYourselfDone _ =>
      if client.inDone then none
      else some { client.write client.save.doneReceived with inDone := true }
  | .responseHandled =>
      if client.inDone then
        some { client.write client.save.doneFinished with inDone := false }
      else
        none

end Client

def clientSystem : System Client Event where
  initial client := client = .init
  step := Client.step

end CafeSession.Xsmp

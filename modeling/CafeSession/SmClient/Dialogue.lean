import CafeSession.SmClient.Answers
import CafeSession.Transition.System
import CafeSession.Xsmp.Callbacks

/-! # The session manager and the client library

The two ends of one XSMP connection, each with the code that runs there, and
the messages under way between them.  A connection carries the messages of
each side in order.  libSM hands a message to the code of the other side, or
refuses it because it does not fit what libSM knows of the connection; it hands
on every SaveYourself of a known type, and a SaveYourselfDone while a
SaveYourself is in progress. -/

namespace CafeSession.SmClient

open CafeSession.Autostart CafeSession.Shell CafeSession.Transition CafeSession.Xsmp

structure Dialogue where
  /-- the session manager's side -/
  client : Client
  /-- what the session manager has stored of the client's properties -/
  props : List SmProp
  library : EggSmClientXsmp
  /-- the messages that the library has not read, the oldest first -/
  down : List Callback
  /-- the messages that the session manager has not read, the oldest first -/
  up : List SmcMessage

/-- The callback of the library that libSM has for a message.  The reply to
RegisterClient is read by `SmcOpenConnection`, and the library never asks for
phase 2. -/
def callback : SmsMessage → Option Callback
  | .saveYourself saveType shutdown interactStyle fast =>
      if saveType = smSaveGlobal ∨ saveType = smSaveLocal ∨ saveType = smSaveBoth then
        some (.saveYourself saveType shutdown interactStyle fast)
      else
        none
  | .interact => some .interact
  | .saveComplete => some .saveComplete
  | .shutdownCancelled => some .shutdownCancelled
  | .die => some .die
  | .registerClientReply _ | .saveYourselfPhase2 => none

inductive Turn where
  -- calls on the session manager's side
  | queryEndSession (flags : EndSessionFlags)
  | endSession (flags : EndSessionFlags)
  | cancelEndSession
  | stop
  /-- the handlers of the response that a SaveYourselfDone emits have returned -/
  | responseHandled
  /-- the session manager reads the next message -/
  | managerReads
  /-- libSM refuses the next message to the session manager -/
  | managerRefuses
  /-- the library reads the next message -/
  | libraryReads (world : World)
  /-- libSM refuses the next message to the library -/
  | libraryRefuses
  /-- anything else that happens in the library -/
  | libraryRuns (event : Event)

def Callback.isSaveYourself : Callback → Bool
  | .saveYourself .. => true
  | _ => false

namespace Dialogue

/-- What the session manager wrote goes on its way. -/
def fromManager (dialogue : Dialogue) (client : Client) : Dialogue :=
  { dialogue with
    client := { client with sent := [] }
    down := dialogue.down ++ client.sent.reverse.filterMap callback }

/-- What the library wrote goes on its way. -/
def fromLibrary (dialogue : Dialogue) (library : EggSmClientXsmp) : Dialogue :=
  { dialogue with
    library := { library with sent := [] }
    up := dialogue.up ++ library.sent.reverse }

def manage (dialogue : Dialogue) (event : Xsmp.Event) : Option Dialogue :=
  (dialogue.client.step event).map dialogue.fromManager

/-- The callbacks of the session manager. -/
def hear (dialogue : Dialogue) : SmcMessage → Option Dialogue
  | .setProperties set =>
      if dialogue.client.inDone then none
      else some { dialogue with props := Xsmp.setProperties dialogue.props set }
  | .deleteProperties names =>
      if dialogue.client.inDone then none
      else some { dialogue with props := Xsmp.deleteProperties dialogue.props names }
  | .requestSaveYourself _ shutdown _ _ global =>
      dialogue.manage (.saveYourselfRequest shutdown global)
  | .interactRequest _ => dialogue.manage .interactRequest
  | .interactDone cancelShutdown => dialogue.manage (.interactDone cancelShutdown)
  | .saveYourselfDone success => dialogue.manage (.saveYourselfDone success)

def runLibrary (dialogue : Dialogue) (event : Event) : Option Dialogue :=
  (dialogue.library.step event).map dialogue.fromLibrary

def step (dialogue : Dialogue) : Turn → Option Dialogue
  | .queryEndSession flags => dialogue.manage (.queryEndSession flags)
  | .endSession flags => dialogue.manage (.endSession flags)
  | .cancelEndSession => dialogue.manage .cancelEndSession
  | .stop =>
      match dialogue.client.save.stop with
      | .error _ => some dialogue
      | .ok result => some (dialogue.fromManager (dialogue.client.write result))
  | .responseHandled => dialogue.manage .responseHandled
  | .managerReads =>
      match dialogue.up with
      | [] => none
      | message :: later => { dialogue with up := later }.hear message
  | .managerRefuses =>
      match dialogue.up with
      | [] => none
      | message :: later =>
          if message.answered = some .saveYourselfDone ∧
              dialogue.client.save.currentSaveYourself ≠ noSave then none
          else some { dialogue with up := later }
  | .libraryReads world =>
      match dialogue.down with
      | [] => none
      | callback :: later => { dialogue with down := later }.runLibrary ⟨world, .message callback⟩
  | .libraryRefuses =>
      match dialogue.down with
      | [] => none
      | callback :: later =>
          if callback.isSaveYourself then none else some { dialogue with down := later }
  | .libraryRuns event => if event.call.isMessage then none else dialogue.runLibrary event

/-- The connection is open and the client registered: the session manager has
been told `previousId` and has answered `id`; the library was started with
`clientId`. -/
def start (previousId id : String) (clientId : Option Bytes) : Dialogue :=
  let registered := Client.init.write (SaveState.init.registerClient previousId id)
  { client := { registered with sent := [] }
    props := []
    library := .startup clientId (some (ascii id))
    down := registered.sent.reverse.filterMap callback
    up := [] }

end Dialogue

def dialogueSystem : System Dialogue Turn where
  initial dialogue := ∃ previousId id clientId,
    id ≠ "" ∧ dialogue = .start previousId id clientId
  step := Dialogue.step

namespace Dialogue

variable {dialogue after : Dialogue} {event : Xsmp.Event}

theorem manage_library (stepped : dialogue.manage event = some after) :
    after.library = dialogue.library := by
  obtain ⟨client, _, rfl⟩ := Option.map_eq_some_iff.mp stepped
  rfl

theorem hear_library {message : SmcMessage} (stepped : dialogue.hear message = some after) :
    after.library = dialogue.library := by
  cases message with
  | setProperties | deleteProperties =>
      simp only [Dialogue.hear] at stepped
      split_ifs at stepped
      cases stepped
      rfl
  | requestSaveYourself | interactRequest | interactDone | saveYourselfDone =>
      exact manage_library stepped

end Dialogue

end CafeSession.SmClient

import CafeSession.Autostart.Resume
import CafeSession.SmClient.Connection
import CafeSession.SmClient.Dialogue
import CafeSession.SmClient.FirstProperties
import CafeSession.Xsmp.Properties

namespace CafeSession.SmClient

open CafeSession.Arrays CafeSession.Autostart CafeSession.Shell CafeSession.Transition
open CafeSession.Xsmp

def SmcMessage.property : SmcMessage → Option PropertyMessage
  | .setProperties props => some (.setProperties props)
  | .deleteProperties names => some (.deleteProperties names)
  | _ => none

section Deliver

variable {props : List SmProp} {name : String}

theorem lookup_deliver_set (distinct : Distinct SmProp.name props) (prop : SmProp) :
    lookup SmProp.name (PropertyMessage.deliver props (.setProperties [prop])) =
      Function.update (lookup SmProp.name props) prop.name (some prop) :=
  (Change.set prop).lookup_apply distinct

theorem lookup_deliver_deleted (distinct : Distinct SmProp.name props) (name : String) :
    lookup SmProp.name (PropertyMessage.deliver props (.deleteProperties [name])) =
      Function.update (lookup SmProp.name props) name none :=
  (Change.deleted name).lookup_apply distinct

theorem lookup_foldl_set (distinct : Distinct SmProp.name props) (set : List SmProp) :
    lookup SmProp.name (PropertyMessage.deliver props (.setProperties set)) =
      set.foldl (fun (found : String → Option SmProp) prop =>
          Function.update found prop.name (some prop))
        (lookup SmProp.name props) := by
  induction set generalizing props with
  | nil => rfl
  | cons prop rest ih =>
      have first := (Change.set prop).apply_distinct distinct
      have head : lookup SmProp.name ((Change.set prop).apply props) =
          Function.update (lookup SmProp.name props) prop.name (some prop) :=
        (Change.set prop).lookup_apply distinct
      rw [List.foldl_cons, ← head]
      exact ih first

end Deliver

/-- The fields that the library tells the session manager about, and how far it has
told of them. -/
structure Description where
  restartCommand : List Bytes
  clientId : Option Bytes
  restartStyle : RestartStyle
  waitingToSetInitialProperties : Bool
  /-- the messages about properties among `sent` -/
  written : List PropertyMessage

/-- What the session manager is to know of the restart. -/
structure Description.Stands (description : Description) (props : List SmProp)
    (file : Option Bytes) : Prop where
  command : lookup SmProp.name props "RestartCommand" =
    some (arrayProp "RestartCommand"
      (generateCommand description.restartCommand description.clientId file))
  style : lookup SmProp.name props "RestartStyleHint" =
    some (card8Prop "RestartStyleHint" (RestartStyle.code description.restartStyle))
  discard : ∀ path, file = some path → lookup SmProp.name props "DiscardCommand" =
    some (arrayProp "DiscardCommand" [ascii "/bin/rm", ascii "-rf", path])

/-- The properties as they are once everything written has come. -/
def Description.stored (description : Description) (props : List SmProp) : List SmProp :=
  deliverAll props description.written.reverse

/-- The file that the application's state was written to. -/
def SavedState.file : SavedState → Option Bytes
  | .written path => some path
  | .nothing | .unwritten => none

/-- The state file of the last save. -/
def Call.lastFile (file : Option Bytes) : Call → Option Bytes
  | .saveStateReturned saved => saved.file
  | _ => file

namespace EggSmClientXsmp

def description (xsmp : EggSmClientXsmp) : Description where
  restartCommand := xsmp.restartCommand
  clientId := xsmp.clientId
  restartStyle := xsmp.restartStyle
  waitingToSetInitialProperties := xsmp.waitingToSetInitialProperties
  written := xsmp.sent.filterMap SmcMessage.property

/-- What was written describes the library, once it has set its properties, with
the id that it was given and the file of its last save; before it has saved nothing. -/
structure Told (id file : Option Bytes) (props : List SmProp) (xsmp : EggSmClientXsmp) : Prop where
  named : xsmp.clientId = id
  distinct : Distinct SmProp.name (xsmp.description.stored props)
  unsaved : xsmp.waitingToSetInitialProperties = true → file = none
  stands : xsmp.connection = true → xsmp.waitingToSetInitialProperties = false →
    xsmp.description.Stands (xsmp.description.stored props) file

variable {xsmp after : EggSmClientXsmp} {id file : Option Bytes} {props : List SmProp}
variable {world : World} {event : Event}

theorem Told.congr (told : xsmp.Told id file props) (same : after.description = xsmp.description)
    (isOpen : after.connection = true → xsmp.connection = true) : after.Told id file props := by
  have waits := congrArg Description.waitingToSetInitialProperties same
  refine ⟨(congrArg Description.clientId same).trans told.named, ?_,
    fun early => told.unsaved (waits.symm.trans early), fun connected set => ?_⟩
  · rw [same]
    exact told.distinct
  · rw [same]
    exact told.stands (isOpen connected) (waits.symm.trans set)

theorem description_send {message : SmcMessage} (other : message.property = none) :
    (xsmp.send message).description = xsmp.description := by
  unfold send
  split_ifs
  · simp only [description, List.filterMap_cons, other]
  · rfl

theorem description_updatePendingEvents :
    xsmp.updatePendingEvents.description = xsmp.description := by
  unfold updatePendingEvents
  split_ifs <;> rfl

theorem description_saveYourselfDone (success : Bool) :
    (xsmp.saveYourselfDone success).description = xsmp.description :=
  @description_send xsmp (.saveYourselfDone success) rfl

theorem description_doSaveYourself : xsmp.doSaveYourself.description = xsmp.description := by
  unfold doSaveYourself
  split_ifs
  · rw [description_updatePendingEvents]
    rfl
  · rw [description_send rfl]
    rfl
  · rw [description_send rfl]
    rfl
  · rfl
  · exact description_saveYourselfDone true

theorem description_willQuit (quits : Bool) :
    (xsmp.willQuit quits).description = xsmp.description := by
  unfold willQuit
  split
  · rw [description_updatePendingEvents]
    rfl
  · rw [description_updatePendingEvents]
    rfl
  · dsimp only
    split_ifs
    · exact @description_send xsmp (.interactDone _) rfl
    · rw [description_saveYourselfDone, description_send rfl]
  · rfl

theorem description_disconnect : xsmp.disconnect.description = xsmp.description := by
  unfold disconnect
  split_ifs
  · rw [description_updatePendingEvents]
    rfl
  · rfl

theorem description_fixBrokenState (sendInteractDone sendSaveYourselfDone : Bool) :
    (xsmp.fixBrokenState sendInteractDone sendSaveYourselfDone).description =
      xsmp.description := by
  have forgotten : { xsmp with waitingToSaveMyself := false }.updatePendingEvents.description =
      xsmp.description := by
    rw [description_updatePendingEvents]
    rfl
  unfold fixBrokenState
  cases sendInteractDone <;> cases sendSaveYourselfDone
  · exact forgotten
  · exact (description_saveYourselfDone true).trans forgotten
  · exact (@description_send _ (.interactDone false) rfl).trans forgotten
  · exact (description_saveYourselfDone true).trans
      ((@description_send _ (.interactDone false) rfl).trans forgotten)

theorem description_xsmpInteract : (xsmp.xsmpInteract world).description = xsmp.description := by
  unfold xsmpInteract quitRequested
  split_ifs
  · exact description_fixBrokenState _ _
  · rfl
  · rw [description_willQuit]
    rfl

theorem description_xsmpSaveComplete : xsmp.xsmpSaveComplete.description = xsmp.description := by
  unfold xsmpSaveComplete
  split_ifs
  · rfl
  · exact description_fixBrokenState _ _

theorem description_xsmpShutdownCancelled :
    xsmp.xsmpShutdownCancelled.description = xsmp.description := by
  unfold xsmpShutdownCancelled
  split
  · rfl
  · rw [description_updatePendingEvents]
    rfl
  · exact @description_send _ (.saveYourselfDone false) rfl
  · exact @description_send _ (.saveYourselfDone false) rfl

theorem description_idleDoPendingEvents :
    xsmp.idleDoPendingEvents.description = xsmp.description := by
  simp only [idleDoPendingEvents]
  split_ifs <;> first | rfl | (rw [description_doSaveYourself]; rfl)

theorem description_awaitMessage (requestConfirmation : Bool) :
    (xsmp.awaitMessage requestConfirmation).description = xsmp.description := by
  unfold awaitMessage
  split_ifs <;> rfl

theorem description_setProperties (set : List SmProp) (isOpen : xsmp.connection = true) :
    (xsmp.setProperties set).description =
      { xsmp.description with written := .setProperties set :: xsmp.description.written } := by
  rw [setProperties, if_pos isOpen, send, if_pos isOpen]
  rfl

theorem description_deleteProperties (names : List String) (isOpen : xsmp.connection = true) :
    (xsmp.deleteProperties names).description =
      { xsmp.description with written := .deleteProperties names :: xsmp.description.written } := by
  rw [deleteProperties, if_pos isOpen, send, if_pos isOpen]
  rfl

theorem connection_setProperties (set : List SmProp) :
    (xsmp.setProperties set).connection = xsmp.connection :=
  congrArg Standing.connection (standing_setProperties set)

theorem tellSaved_closed {saved : SavedState} (isClosed : xsmp.connection = false) :
    xsmp.tellSaved saved = xsmp := by
  cases saved <;> simp [tellSaved, setProperties, deleteProperties, isClosed]

/-- The messages about a saved state, oldest first. -/
def savedMessages (xsmp : EggSmClientXsmp) : SavedState → List PropertyMessage
  | .nothing =>
      [.setProperties [arrayProp "RestartCommand"
        (generateCommand xsmp.restartCommand xsmp.clientId none)],
        .deleteProperties ["DiscardCommand"]]
  | .unwritten =>
      [.setProperties [arrayProp "RestartCommand"
        (generateCommand xsmp.restartCommand xsmp.clientId none)]]
  | .written path =>
      [.setProperties [arrayProp "RestartCommand"
        (generateCommand xsmp.restartCommand xsmp.clientId (some path))],
        .setProperties [arrayProp "DiscardCommand" [ascii "/bin/rm", ascii "-rf", path]]]

theorem description_tellSaved {saved : SavedState} (isOpen : xsmp.connection = true) :
    (xsmp.tellSaved saved).description =
      { xsmp.description with
        written := (xsmp.savedMessages saved).reverse ++ xsmp.description.written } := by
  cases saved with
  | nothing =>
      rw [tellSaved, description_deleteProperties _ (by rw [connection_setProperties, isOpen]),
        description_setProperties _ isOpen]
      rfl
  | unwritten =>
      rw [tellSaved, description_setProperties _ isOpen]
      rfl
  | written path =>
      rw [tellSaved, description_setProperties _ (by rw [connection_setProperties, isOpen]),
        description_setProperties _ isOpen]
      rfl

theorem stored_append {description : Description} {messages : List PropertyMessage} :
    Description.stored { description with
      written := messages.reverse ++ description.written } props =
      deliverAll (description.stored props) messages := by
  simp [Description.stored, deliverAll]

theorem deliverAll_distinct {messages : List PropertyMessage}
    (distinct : Distinct SmProp.name props) : Distinct SmProp.name (deliverAll props messages) := by
  rw [deliverAll_eq_foldl]
  exact foldl_apply_distinct distinct _

/-- The properties of a saved state name its file, in both commands, or none. -/
theorem told_tellSaved {saved : SavedState} (told : xsmp.Told id file props)
    (set : xsmp.waitingToSetInitialProperties = false) :
    (xsmp.tellSaved saved).Told id saved.file props := by
  have waits := (@Alike.tellSaved xsmp saved).waits.trans set
  cases isOpen : xsmp.connection with
  | false =>
      rw [tellSaved_closed isOpen] at waits ⊢
      refine ⟨told.named, told.distinct, fun early => ?_, fun connected => ?_⟩
      · cases waits.symm.trans early
      · cases isOpen.symm.trans connected
  | true =>
      have same := congrArg Description.clientId (@description_tellSaved xsmp saved isOpen)
      refine ⟨same.trans told.named, ?_, fun early => ?_, fun _ _ => ?_⟩
      · rw [description_tellSaved isOpen, stored_append]
        exact deliverAll_distinct told.distinct
      · cases waits.symm.trans early
      have stands := told.stands isOpen set
      rw [description_tellSaved isOpen, stored_append]
      have restart (file : Option Bytes) := lookup_deliver_set told.distinct
        (arrayProp "RestartCommand" (generateCommand xsmp.restartCommand xsmp.clientId file))
      have kept (file : Option Bytes) : Distinct SmProp.name (PropertyMessage.deliver
          (xsmp.description.stored props) (.setProperties [arrayProp "RestartCommand"
            (generateCommand xsmp.restartCommand xsmp.clientId file)])) :=
        deliver_distinct told.distinct _
      cases saved with
      | nothing =>
          refine ⟨?_, ?_, by simp [SavedState.file]⟩
          · simp only [savedMessages, deliverAll, List.foldl_cons, List.foldl_nil]
            rw [lookup_deliver_deleted (kept none), restart]
            rfl
          · simp only [savedMessages, deliverAll, List.foldl_cons, List.foldl_nil]
            rw [lookup_deliver_deleted (kept none), restart]
            exact stands.style
      | unwritten =>
          refine ⟨?_, ?_, by simp [SavedState.file]⟩
          · simp only [savedMessages, deliverAll, List.foldl_cons, List.foldl_nil]
            rw [restart]
            rfl
          · simp only [savedMessages, deliverAll, List.foldl_cons, List.foldl_nil]
            rw [restart]
            exact stands.style
      | written path =>
          refine ⟨?_, ?_, ?_⟩
          · simp only [savedMessages, deliverAll, List.foldl_cons, List.foldl_nil]
            rw [lookup_deliver_set (kept (some path)), restart]
            rfl
          · simp only [savedMessages, deliverAll, List.foldl_cons, List.foldl_nil]
            rw [lookup_deliver_set (kept (some path)), restart]
            exact stands.style
          · rintro other ⟨⟩
            simp only [savedMessages, deliverAll, List.foldl_cons, List.foldl_nil]
            rw [lookup_deliver_set (kept (some path)), restart]
            rfl

theorem readMode_keeps : (xsmp.readMode world).sent = xsmp.sent ∧
    (xsmp.readMode world).clientId = xsmp.clientId := by
  unfold readMode
  split_ifs <;> exact ⟨rfl, rfl⟩

theorem readDesktopFile_keeps : (xsmp.readDesktopFile world).sent = xsmp.sent ∧
    (xsmp.readDesktopFile world).clientId = xsmp.clientId := by
  have style (file : OwnDesktopFile) : (xsmp.readAutoRestart file).sent = xsmp.sent ∧
      (xsmp.readAutoRestart file).clientId = xsmp.clientId := by
    unfold readAutoRestart
    split_ifs <;> exact ⟨rfl, rfl⟩
  unfold readDesktopFile
  cases world.desktopFile with
  | none => exact ⟨rfl, rfl⟩
  | some file =>
      rw [← (style file).1, ← (style file).2]
      simp only [readExec]
      split_ifs
      · exact ⟨rfl, rfl⟩
      · cases file.argv <;> exact ⟨rfl, rfl⟩

theorem readProgramName_keeps : (xsmp.readProgramName world).sent = xsmp.sent ∧
    (xsmp.readProgramName world).clientId = xsmp.clientId := by
  unfold readProgramName
  split_ifs <;> exact ⟨rfl, rfl⟩

/-- What `sm_client_xsmp_set_initial_properties` has read before it tells. -/
def read (world : World) (xsmp : EggSmClientXsmp) : EggSmClientXsmp :=
  (({ xsmp with idle := none, waitingToSetInitialProperties := false }.readMode
    world).readDesktopFile world).readProgramName world

theorem written_read : (xsmp.read world).description.written = xsmp.description.written := by
  simp only [description, read, readProgramName_keeps, readDesktopFile_keeps, readMode_keeps]

theorem clientId_read : (xsmp.read world).clientId = xsmp.clientId := by
  simp only [read, readProgramName_keeps, readDesktopFile_keeps, readMode_keeps]

theorem setInitialProperties_eq : xsmp.setInitialProperties world =
    (((xsmp.read world).setProperties ((xsmp.read world).initialProperties world)).nameDesktopFile
      world).updatePendingEvents := rfl

theorem setProperties_closed {set : List SmProp} (isClosed : xsmp.connection = false) :
    xsmp.setProperties set = xsmp := by
  simp [setProperties, isClosed]

theorem stored_setProperties (set : List SmProp) (isOpen : xsmp.connection = true) :
    (xsmp.setProperties set).description.stored props =
      PropertyMessage.deliver (xsmp.description.stored props) (.setProperties set) := by
  rw [description_setProperties _ isOpen]
  simp [Description.stored, deliverAll]

theorem told_initialProperties (named : xsmp.clientId = id)
    (distinct : Distinct SmProp.name (xsmp.description.stored props)) :
    (xsmp.setProperties (xsmp.initialProperties world)).Told id none props := by
  cases isOpen : xsmp.connection with
  | false =>
      rw [setProperties_closed isOpen]
      refine ⟨named, distinct, fun _ => rfl, fun connected => ?_⟩
      cases isOpen.symm.trans connected
  | true =>
      have looked := lookup_foldl_set distinct (xsmp.initialProperties world)
      have same := congrArg Description.clientId
        (@description_setProperties xsmp (xsmp.initialProperties world) isOpen)
      refine ⟨same.trans named, ?_, fun _ => rfl, fun _ _ => ⟨?_, ?_, by simp⟩⟩
      · rw [stored_setProperties _ isOpen]
        exact deliver_distinct distinct _
      · rw [stored_setProperties _ isOpen, looked, description_setProperties _ isOpen]
        simp [initialProperties, stringProp, arrayProp, card8Prop, description]
      · rw [stored_setProperties _ isOpen, looked, description_setProperties _ isOpen]
        simp [initialProperties, stringProp, arrayProp, card8Prop, description]

/-- A property of another name is no matter. -/
theorem told_setOther {name : String} {value : Bytes} (told : xsmp.Told id file props)
    (command : name ≠ "RestartCommand") (style : name ≠ "RestartStyleHint")
    (discard : name ≠ "DiscardCommand") :
    (xsmp.setProperties [stringProp name value]).Told id file props := by
  cases isOpen : xsmp.connection with
  | false =>
      rw [setProperties_closed isOpen]
      exact told
  | true =>
      have looked := lookup_deliver_set told.distinct (stringProp name value)
      have apart {other : String} (ne : name ≠ other) :
          lookup SmProp.name (PropertyMessage.deliver (xsmp.description.stored props)
            (.setProperties [stringProp name value])) other =
            lookup SmProp.name (xsmp.description.stored props) other :=
        (congrFun looked other).trans (Function.update_of_ne ne.symm _ _)
      have same := @description_setProperties xsmp [stringProp name value] isOpen
      have waits := congrArg Description.waitingToSetInitialProperties same
      refine ⟨(congrArg Description.clientId same).trans told.named, ?_,
        fun early => told.unsaved (waits.symm.trans early), fun _ set => ?_⟩
      · rw [stored_setProperties _ isOpen]
        exact deliver_distinct told.distinct _
      · have stands := told.stands isOpen (waits.symm.trans set)
        rw [stored_setProperties _ isOpen, same]
        exact ⟨(apart command).trans stands.command, (apart style).trans stands.style,
          fun path given => (apart discard).trans (stands.discard path given)⟩

theorem told_setInitialProperties (told : xsmp.Told id none props) :
    (xsmp.setInitialProperties world).Told id none props := by
  have distinct : Distinct SmProp.name ((xsmp.read world).description.stored props) := by
    rw [Description.stored, written_read]
    exact told.distinct
  have named : (xsmp.read world).clientId = id := by
    rw [clientId_read]
    exact told.named
  have first := @told_initialProperties _ _ _ world named distinct
  rw [setInitialProperties_eq]
  refine Told.congr ?_ description_updatePendingEvents (by simp)
  unfold nameDesktopFile
  cases world.desktopFile with
  | none => exact first
  | some file => exact told_setOther first (by decide) (by decide) (by decide)

theorem told_setMissingProperties (told : xsmp.Told id file props) :
    (xsmp.setMissingProperties world).Told id file props := by
  unfold setMissingProperties
  split_ifs with waits
  · obtain rfl := told.unsaved waits
    exact told_setInitialProperties told
  · exact told

theorem told_xsmpSaveYourself {saveType : Int} {shutdown fast : Bool}
    {interactStyle : InteractStyle} (told : xsmp.Told id file props) :
    (xsmp.xsmpSaveYourself world saveType shutdown interactStyle fast).Told id file props := by
  have ready := @told_setMissingProperties _ _ _ _ world told
  unfold xsmpSaveYourself
  split_ifs
  · exact told.congr (description_fixBrokenState _ _) (by simp)
  · dsimp only
    split_ifs
    · exact ready.congr (by rw [description_saveYourselfDone]; rfl) (by simp)
    · exact ready.congr (by rw [description_doSaveYourself]; rfl) (by simp)

theorem told_receive {callback : Callback} (told : xsmp.Told id file props) :
    (xsmp.receive world callback).Told id file props := by
  cases callback with
  | saveYourself => exact told_xsmpSaveYourself told
  | interact => exact told.congr description_xsmpInteract (by simp [receive])
  | saveComplete => exact told.congr description_xsmpSaveComplete (by simp [receive])
  | shutdownCancelled => exact told.congr description_xsmpShutdownCancelled (by simp [receive])
  | die => exact told.congr description_disconnect (by simp [receive, xsmpDie, emit])

theorem told_endSession {requestConfirmation : Bool} (told : xsmp.Told id file props) :
    (xsmp.endSession world requestConfirmation).Told id file props := by
  have patched : (xsmp.patchUp world requestConfirmation).Told id file props := by
    unfold patchUp
    cases xsmp.state with
    | connectionClosed | interactRequest | interact | shutdownCancelled => exact told
    | saveYourself =>
        exact told.congr ((description_awaitMessage _).trans (description_saveYourselfDone _))
          (by simp)
    | saveYourselfDone => exact told.congr (description_awaitMessage _) (by simp)
    | idle =>
        exact (@told_setMissingProperties _ _ _ _ world told).congr (description_awaitMessage _)
          (by simp)
  unfold endSession
  by_cases ready : xsmp.state = .idle ∧ xsmp.expectingInitialSaveYourself = false
  · rw [if_pos ready]
    exact told.congr (description_send rfl) (by simp)
  · rw [if_neg ready]
    split_ifs
    · exact told
    · exact patched

theorem told_goOn (told : xsmp.Told id file props) : (xsmp.goOn world).Told id file props := by
  unfold goOn
  split
  · exact told_endSession ⟨told.named, told.distinct, told.unsaved, told.stands⟩
  · exact told

theorem told_saveStateReturned {saved : SavedState} {resume : Resume}
    (told : xsmp.Told id file props) (set : xsmp.waitingToSetInitialProperties = false) :
    (xsmp.saveStateReturned saved resume).Told id saved.file props := by
  have said := @told_tellSaved _ _ _ _ saved told set
  unfold saveStateReturned
  cases resume with
  | willQuit => exact said.congr (description_saveYourselfDone _) (by simp)
  | doSaveYourself =>
      dsimp only
      split_ifs
      · exact said.congr (description_saveYourselfDone _) (by simp)
      · exact said

theorem told_runIdle {function : IdleFunction} (told : xsmp.Told id file props)
    (unsaved : Unsaved xsmp) (queued : xsmp.idle = some function) :
    (xsmp.runIdle world function).Told id file props := by
  cases function with
  | setInitialProperties =>
      obtain rfl := told.unsaved (unsaved.source queued)
      exact told_setInitialProperties told
  | doPendingEvents =>
      exact told.congr description_idleDoPendingEvents
        fun connected => (connection_runIdle .doPendingEvents).symm.trans connected

/-- The application sets its restart command before the library tells of it. -/
def SetsEarly (xsmp : EggSmClientXsmp) (event : Event) : Prop :=
  ∀ argv, event.call = .setRestartCommand argv → xsmp.waitingToSetInitialProperties = true

theorem told_step (told : xsmp.Told id file props) (unsaved : Unsaved xsmp)
    (early : SetsEarly xsmp event) (stepped : xsmp.step event = some after) :
    after.Told id (event.call.lastFile file) props := by
  obtain ⟨world, call⟩ := event
  cases (leads_of_step stepped).2 with
  | message callback => exact told_goOn (told_receive told)
  | ioError =>
      exact told_goOn (told.congr description_disconnect (by simp))
  | idle queued => exact told_runIdle told unsaved queued
  | saveStateReturned saved top =>
      exact told_goOn (told_saveStateReturned
        ⟨told.named, told.distinct, told.unsaved, told.stands⟩ (unsaved.set_of_saving top))
  | setRestartCommand argv =>
      refine ⟨told.named, told.distinct, told.unsaved, fun _ set => ?_⟩
      cases (early argv rfl).symm.trans set
  | willQuit => exact told.congr (description_willQuit _) (by simp)
  | endSession => exact told_endSession told

end EggSmClientXsmp

/-- The state file of the last save. -/
def Turn.lastFile (file : Option Bytes) : Turn → Option Bytes
  | .libraryRuns event => event.call.lastFile file
  | _ => file

namespace Dialogue

variable {dialogue before after : Dialogue} {turn : Turn} {id : String} {file : Option Bytes}

/-- The application sets its restart command early, and libSM refuses no message
about properties. -/
def Tells (dialogue : Dialogue) : Turn → Prop
  | .libraryRuns event => EggSmClientXsmp.SetsEarly dialogue.library event
  | .managerRefuses => ∀ message ∈ dialogue.up.head?, message.property = none
  | _ => True

/-- The properties once the messages that are on their way have come. -/
def stored (dialogue : Dialogue) : List SmProp :=
  deliverAll dialogue.props (dialogue.up.filterMap SmcMessage.property)

/-- What has been stored and what is on its way describe the library. -/
structure Described (id : String) (file : Option Bytes) (dialogue : Dialogue) : Prop where
  told : dialogue.library.Told (some (ascii id)) file dialogue.stored
  unsaved : Unsaved dialogue.library
  written : dialogue.library.sent = []

theorem Described.congr (described : before.Described id file)
    (library : after.library = before.library) (stored : after.stored = before.stored) :
    after.Described id file := by
  refine ⟨?_, by rw [library]; exact described.unsaved, by rw [library]; exact described.written⟩
  rw [library, stored]
  exact described.told

theorem manage_props {event : Xsmp.Event} (stepped : dialogue.manage event = some after) :
    after.props = dialogue.props ∧ after.up = dialogue.up := by
  obtain ⟨client, _, rfl⟩ := Option.map_eq_some_iff.mp stepped
  exact ⟨rfl, rfl⟩

theorem hear_stored {message : SmcMessage} {later : List SmcMessage}
    (reads : dialogue.up = message :: later)
    (stepped : { dialogue with up := later }.hear message = some after) :
    after.stored = dialogue.stored := by
  unfold stored
  rw [reads, List.filterMap_cons]
  cases message with
  | setProperties | deleteProperties =>
      simp only [Dialogue.hear] at stepped
      split_ifs at stepped
      cases stepped
      rfl
  | requestSaveYourself | interactRequest | interactDone | saveYourselfDone =>
      obtain ⟨props, up⟩ := manage_props stepped
      rw [props, up]
      rfl

theorem Described.runLibrary {event : Event} {down : List Callback}
    (described : dialogue.Described id file)
    (early : EggSmClientXsmp.SetsEarly dialogue.library event)
    (stepped : { dialogue with down := down }.runLibrary event = some after) :
    after.Described id (event.call.lastFile file) := by
  obtain ⟨library, done, rfl⟩ := Option.map_eq_some_iff.mp stepped
  have told := EggSmClientXsmp.told_step described.told described.unsaved early done
  have unsaved := described.unsaved.step done
  have same : ({ dialogue with down := down }.fromLibrary library).stored =
      library.description.stored dialogue.stored := by
    simp only [stored, fromLibrary, List.filterMap_append, List.filterMap_reverse, deliverAll,
      List.foldl_append, Description.stored, EggSmClientXsmp.description]
  refine ⟨⟨told.named, ?_, told.unsaved, fun isOpen set => ?_⟩,
    ⟨unsaved.source, unsaved.state, unsaved.held, unsaved.frames⟩, rfl⟩
  · rw [same]
    exact told.distinct
  · have stands := told.stands isOpen set
    rw [same]
    exact ⟨stands.command, stands.style, stands.discard⟩

/-- One turn of the dialogue. -/
theorem Described.step (described : before.Described id file) (tells : before.Tells turn)
    (stepped : before.step turn = some after) : after.Described id (turn.lastFile file) := by
  cases turn with
  | queryEndSession | endSession | cancelEndSession | responseHandled =>
      obtain ⟨props, up⟩ := manage_props stepped
      exact described.congr (manage_library stepped) (by rw [stored, props, up, stored])
  | stop =>
      simp only [Dialogue.step, SaveState.stop] at stepped
      split_ifs at stepped <;> cases stepped
      · exact described
      · exact described.congr rfl rfl
  | managerReads =>
      cases up : before.up with
      | nil => simp [Dialogue.step, up] at stepped
      | cons message later =>
          simp only [Dialogue.step, up] at stepped
          exact described.congr (@hear_library { before with up := later } _ _ stepped)
            (hear_stored up stepped)
  | managerRefuses =>
      cases up : before.up with
      | nil => simp [Dialogue.step, up] at stepped
      | cons message later =>
          simp only [Dialogue.step, up] at stepped
          split_ifs at stepped
          cases stepped
          refine described.congr rfl ?_
          simp only [stored, up, List.filterMap_cons, tells message (by rw [up]; rfl)]
  | libraryReads world =>
      cases down : before.down with
      | nil => simp [Dialogue.step, down] at stepped
      | cons callback later =>
          simp only [Dialogue.step, down] at stepped
          exact described.runLibrary (by simp [EggSmClientXsmp.SetsEarly]) stepped
  | libraryRefuses =>
      cases down : before.down with
      | nil => simp [Dialogue.step, down] at stepped
      | cons callback later =>
          simp only [Dialogue.step, down] at stepped
          split_ifs at stepped
          cases stepped
          exact described.congr rfl rfl
  | libraryRuns event =>
      simp only [Dialogue.step] at stepped
      split_ifs at stepped
      exact @Described.runLibrary _ _ _ _ _ before.down described tells stepped

theorem Described.start (previousId id : String) (clientId : Option Bytes) :
    (Dialogue.start previousId id clientId).Described id none := by
  refine ⟨⟨rfl, List.nodup_nil, fun _ => rfl, fun _ set => by cases set⟩, ?_, rfl⟩
  refine ⟨fun _ => rfl, fun _ => trivial, fun _ => rfl, fun _ resume member => ?_⟩
  cases member

/-- A whole run. -/
theorem Described.run {turns : List Turn} (described : before.Described id file)
    (tells : dialogueSystem.Meets (fun before turn => before.Tells turn) before turns)
    (run : dialogueSystem.run before turns = some after) :
    after.Described id (turns.foldl Turn.lastFile file) := by
  induction turns generalizing before file with
  | nil =>
      cases run
      exact described
  | cons turn turns ih =>
      obtain ⟨next, stepped, rest⟩ := Option.bind_eq_some_iff.mp run
      exact ih (described.step tells.1 stepped) (tells.2 next stepped) rest

end Dialogue

/-- What the session manager knows of the client is what the library holds, and
the next session starts the client with it. -/
structure Restarts (library : EggSmClientXsmp) (client : XsmpClient) (args : List Bytes) : Prop where
  command : client.findProperty "RestartCommand" =
    some ⟨"RestartCommand", "LISTofARRAY8", args⟩
  style : client.getRestartStyleHint = library.restartStyle
  started : library.restartStyle ≠ .never → (∀ arg ∈ args, Preserved arg) →
    ∀ (libraries : Libraries) original keyFile source file,
      (∀ command, libraries.parseArgv command = parseArgv command) →
      originalKind original = .application .no → client.save original = .ok (some keyFile) →
      DesktopFile.new libraries keyFile (some source) = some file →
      (App.loadDesktopFile libraries file).start libraries = some ⟨args, client.startupId⟩

theorem Description.Stands.restarts {xsmp : EggSmClientXsmp} {props : List SmProp} {id : Bytes}
    {file : Option Bytes} (stands : xsmp.description.Stands props file)
    (named : xsmp.clientId = some id) :
    Restarts xsmp ⟨props, id⟩ (generateCommand xsmp.restartCommand (some id) file) := by
  have command : XsmpClient.findProperty ⟨props, id⟩ "RestartCommand" =
      some ⟨"RestartCommand", "LISTofARRAY8",
        generateCommand xsmp.restartCommand (some id) file⟩ := by
    rw [← named]
    exact stands.command
  have hint : XsmpClient.findProperty ⟨props, id⟩ "RestartStyleHint" =
      some (card8Prop "RestartStyleHint" (RestartStyle.code xsmp.restartStyle)) := stands.style
  have style : XsmpClient.getRestartStyleHint ⟨props, id⟩ = xsmp.restartStyle := by
    rw [XsmpClient.getRestartStyleHint, hint]
    cases xsmp.restartStyle <;> rfl
  refine ⟨command, style, fun restarted preserved libraries original keyFile source desktop parses
    kind saved loaded => ?_⟩
  have nonempty : generateCommand xsmp.restartCommand (some id) file ≠ [] := by
    simp [generateCommand]
  exact (resumes_iff parses).mpr ⟨rfl, nonempty, preserved⟩ _ original keyFile source desktop command
    (by rwa [style]) kind saved loaded

/-- Once the library has set its properties and the session manager has read what
it has written of them, the client is saved with the library's own restart
command, its id and the state file of its last save, and the next session starts
it with just these arguments. -/
theorem restarted_as_told {previousId id : String} {clientId : Option Bytes} {turns : List Turn}
    {dialogue : Dialogue}
    (tells : dialogueSystem.Meets (fun before turn => before.Tells turn)
      (.start previousId id clientId) turns)
    (run : dialogueSystem.run (.start previousId id clientId) turns = some dialogue)
    (isOpen : dialogue.library.connection = true)
    (set : dialogue.library.waitingToSetInitialProperties = false)
    (read : dialogue.up.filterMap SmcMessage.property = []) :
    Restarts dialogue.library ⟨dialogue.props, ascii id⟩
        (generateCommand dialogue.library.restartCommand (some (ascii id))
          (turns.foldl Turn.lastFile none)) ∧
      ∀ path, turns.foldl Turn.lastFile none = some path →
        XsmpClient.findProperty ⟨dialogue.props, ascii id⟩ "DiscardCommand" =
          some ⟨"DiscardCommand", "LISTofARRAY8", [ascii "/bin/rm", ascii "-rf", path]⟩ := by
  have described := (Dialogue.Described.start previousId id clientId).run tells run
  have stands := described.told.stands isOpen set
  have same : dialogue.library.description.stored dialogue.stored = dialogue.props := by
    simp [Description.stored, EggSmClientXsmp.description, described.written, Dialogue.stored,
      read, deliverAll]
  rw [same] at stands
  exact ⟨stands.restarts described.told.named, stands.discard⟩

/-- The initial SaveYourself is answered, and at the end of the session the application
saves its state into a file. -/
def savedTurns : List Turn :=
  [.libraryReads editorWorld, .managerReads, .managerReads, .responseHandled,
    .libraryReads editorWorld, .endSession { save := true }, .libraryReads editorWorld,
    .libraryRuns ⟨editorWorld, .saveStateReturned (.written (ascii "/root/editor.state"))⟩,
    .managerReads, .managerReads, .managerReads]

theorem savedTurns_tell : dialogueSystem.Meets (fun before turn => before.Tells turn)
    (.start "" "id" none) savedTurns := by
  refine System.meets_of_forall ?_
  have early (dialogue : Dialogue) : dialogue.Tells (.libraryRuns ⟨editorWorld,
      .saveStateReturned (.written (ascii "/root/editor.state"))⟩) := by
    intro argv same
    cases same
  simpa only [savedTurns, List.forall_mem_cons, Dialogue.Tells, implies_true, true_and, and_true,
    List.not_mem_nil, false_implies] using early

/-- With its state file. -/
theorem saved_editor_restarted :
    ∃ dialogue, dialogueSystem.run (.start "" "id" none) savedTurns = some dialogue ∧
      Restarts dialogue.library ⟨dialogue.props, ascii "id"⟩
        [ascii "editor", ascii "--sm-client-id", ascii "id", ascii "--sm-client-state-file",
          ascii "/root/editor.state"] ∧
      XsmpClient.findProperty ⟨dialogue.props, ascii "id"⟩ "DiscardCommand" =
        some ⟨"DiscardCommand", "LISTofARRAY8",
          [ascii "/bin/rm", ascii "-rf", ascii "/root/editor.state"]⟩ := by
  have ends : (dialogueSystem.run (.start "" "id" none) savedTurns).map (fun dialogue =>
      (dialogue.library.connection, dialogue.library.waitingToSetInitialProperties,
        (dialogue.up.filterMap SmcMessage.property).isEmpty, dialogue.library.restartCommand)) =
      some (true, false, true, [ascii "editor"]) := by
    decide +kernel
  obtain ⟨dialogue, run, same⟩ := Option.map_eq_some_iff.mp ends
  simp only [Prod.mk.injEq, List.isEmpty_iff] at same
  obtain ⟨isOpen, set, read, command⟩ := same
  obtain ⟨restarts, discards⟩ := restarted_as_told savedTurns_tell run isOpen set read
  rw [command] at restarts
  exact ⟨dialogue, run, restarts, discards _ rfl⟩

end CafeSession.SmClient

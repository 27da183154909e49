import Mathlib.Tactic.SplitIfs
import CafeSession.SmClient.Library

namespace CafeSession.SmClient

open CafeSession.Autostart CafeSession.Shell CafeSession.Xsmp

/-- The messages of the library that the session manager answers. -/
inductive Answered where
  | interactRequest
  | saveYourselfDone
deriving DecidableEq, Repr

def SmcMessage.answered : SmcMessage → Option Answered
  | .interactRequest _ => some .interactRequest
  | .saveYourselfDone _ => some .saveYourselfDone
  | _ => none

/-- What the fields but `idle`, the properties and their messages come to. -/
structure Standing where
  connection : Bool
  state : XsmpState
  waitingToEmitQuit : Bool
  waitingToEmitQuitCancelled : Bool
  waitingToSaveMyself : Bool
  frames : List Frame
  /-- those among `sent` -/
  answered : List Answered
  fault : Bool

namespace EggSmClientXsmp

def standing (xsmp : EggSmClientXsmp) : Standing where
  connection := xsmp.connection
  state := xsmp.state
  waitingToEmitQuit := xsmp.waitingToEmitQuit
  waitingToEmitQuitCancelled := xsmp.waitingToEmitQuitCancelled
  waitingToSaveMyself := xsmp.waitingToSaveMyself
  frames := xsmp.frames
  answered := xsmp.sent.filterMap SmcMessage.answered
  fault := xsmp.fault

variable {xsmp : EggSmClientXsmp} {world : World}

theorem standing_send_open {message : SmcMessage} (isOpen : xsmp.connection = true) :
    (xsmp.send message).standing =
      { xsmp.standing with
        answered := message.answered.toList ++ xsmp.standing.answered } := by
  simp only [send, isOpen, if_true, standing, List.filterMap_cons]
  cases message.answered <;> rfl

theorem standing_send_closed {message : SmcMessage} (isClosed : xsmp.connection = false) :
    (xsmp.send message).standing = { xsmp.standing with fault := true } := by
  simp [send, isClosed, standing]

theorem standing_setProperties (props : List SmProp) :
    (xsmp.setProperties props).standing = xsmp.standing := by
  unfold setProperties
  split_ifs with isOpen
  · rw [standing_send_open isOpen]
    rfl
  · rfl

theorem standing_deleteProperties (names : List String) :
    (xsmp.deleteProperties names).standing = xsmp.standing := by
  unfold deleteProperties
  split_ifs with isOpen
  · rw [standing_send_open isOpen]
    rfl
  · rfl

theorem standing_updatePendingEvents : xsmp.updatePendingEvents.standing = xsmp.standing := by
  unfold updatePendingEvents
  split_ifs <;> rfl

theorem standing_readMode : (xsmp.readMode world).standing = xsmp.standing := by
  unfold readMode
  split_ifs <;> rfl

theorem standing_readAutoRestart (file : OwnDesktopFile) :
    (xsmp.readAutoRestart file).standing = xsmp.standing := by
  unfold readAutoRestart
  split_ifs <;> rfl

theorem standing_readExec (file : OwnDesktopFile) :
    (xsmp.readExec file).standing = xsmp.standing := by
  unfold readExec
  split_ifs
  · rfl
  · cases file.argv <;> rfl

theorem standing_readDesktopFile : (xsmp.readDesktopFile world).standing = xsmp.standing := by
  unfold readDesktopFile
  cases world.desktopFile with
  | none => rfl
  | some file => exact (standing_readExec file).trans (standing_readAutoRestart file)

theorem standing_readProgramName : (xsmp.readProgramName world).standing = xsmp.standing := by
  unfold readProgramName
  split_ifs <;> rfl

theorem standing_nameDesktopFile : (xsmp.nameDesktopFile world).standing = xsmp.standing := by
  unfold nameDesktopFile
  cases world.desktopFile with
  | none => rfl
  | some file => exact standing_setProperties _

theorem standing_setInitialProperties :
    (xsmp.setInitialProperties world).standing = xsmp.standing := by
  unfold setInitialProperties
  rw [standing_updatePendingEvents, standing_nameDesktopFile, standing_setProperties,
    standing_readProgramName, standing_readDesktopFile, standing_readMode]
  rfl

theorem standing_setMissingProperties :
    (xsmp.setMissingProperties world).standing = xsmp.standing := by
  unfold setMissingProperties
  split_ifs
  · exact standing_setInitialProperties
  · rfl

theorem standing_tellSaved (saved : SavedState) :
    (xsmp.tellSaved saved).standing = xsmp.standing := by
  cases saved with
  | nothing => exact (standing_deleteProperties _).trans (standing_setProperties _)
  | unwritten => exact standing_setProperties _
  | written path => exact (standing_setProperties _).trans (standing_setProperties _)

theorem standing_saveYourselfDone_open {success : Bool} (isOpen : xsmp.connection = true) :
    (xsmp.saveYourselfDone success).standing =
      { xsmp.standing with
        state := .saveYourselfDone
        answered := .saveYourselfDone :: xsmp.standing.answered } := by
  simp [saveYourselfDone, send, isOpen, standing, SmcMessage.answered]

theorem standing_disconnect (isOpen : xsmp.connection = true) :
    xsmp.disconnect.standing =
      { xsmp.standing with
        connection := false
        state := .connectionClosed
        waitingToSaveMyself := false } := by
  unfold disconnect
  rw [if_pos isOpen, standing_updatePendingEvents]
  rfl

end EggSmClientXsmp

def Call.isMessage : Call → Bool
  | .message _ => true
  | _ => false

open EggSmClientXsmp in
/-- What a call that goes through has led to. -/
inductive Leads (xsmp : EggSmClientXsmp) (world : World) : Call → EggSmClientXsmp → Prop
  | message (callback : Callback) (isOpen : xsmp.connection = true) :
      Leads xsmp world (.message callback) ((xsmp.receive world callback).goOn world)
  | ioError (isOpen : xsmp.connection = true) :
      Leads xsmp world .ioError (xsmp.disconnect.goOn world)
  | idle {function : IdleFunction} (queued : xsmp.idle = some function) :
      Leads xsmp world .idle (xsmp.runIdle world function)
  | saveStateReturned (saved : SavedState) {resume : Resume} {frames : List Frame}
      (top : xsmp.frames = .saving resume :: frames) :
      Leads xsmp world (.saveStateReturned saved)
        (({ xsmp with frames := frames }.saveStateReturned saved resume).goOn world)
  | setRestartCommand (argv : List Bytes) :
      Leads xsmp world (.setRestartCommand argv) (xsmp.setRestartCommand argv)
  | willQuit (quits : Bool) : Leads xsmp world (.willQuit quits) (xsmp.willQuit quits)
  | endSession (requestConfirmation : Bool) :
      Leads xsmp world (.endSession requestConfirmation)
        (xsmp.endSession world requestConfirmation)

theorem leads_of_step {xsmp after : EggSmClientXsmp} {event : Event}
    (stepped : xsmp.step event = some after) :
    xsmp.fault = false ∧ Leads xsmp event.world event.call after := by
  obtain ⟨world, call⟩ := event
  unfold EggSmClientXsmp.step at stepped
  split_ifs at stepped with fault
  refine ⟨Bool.eq_false_iff.mpr fault, ?_⟩
  cases call with
  | message callback =>
      simp only [EggSmClientXsmp.perform] at stepped
      split_ifs at stepped with isOpen
      cases stepped
      exact .message callback isOpen
  | ioError =>
      simp only [EggSmClientXsmp.perform] at stepped
      split_ifs at stepped with isOpen
      cases stepped
      exact .ioError isOpen
  | idle =>
      simp only [EggSmClientXsmp.perform] at stepped
      split_ifs at stepped
      obtain ⟨function, queued, rfl⟩ := Option.map_eq_some_iff.mp stepped
      exact .idle queued
  | saveStateReturned saved =>
      simp only [EggSmClientXsmp.perform] at stepped
      split at stepped
      · rename_i resume frames top
        cases stepped
        exact .saveStateReturned saved top
      · cases stepped
  | setRestartCommand argv =>
      simp only [EggSmClientXsmp.perform] at stepped
      split_ifs at stepped
      cases stepped
      exact .setRestartCommand argv
  | willQuit quits =>
      simp only [EggSmClientXsmp.perform] at stepped
      split_ifs at stepped
      cases stepped
      exact .willQuit quits
  | endSession requestConfirmation =>
      simp only [EggSmClientXsmp.perform] at stepped
      split_ifs at stepped
      cases stepped
      exact .endSession requestConfirmation

end CafeSession.SmClient

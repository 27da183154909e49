import CafeSession.SmClient.Stages

namespace CafeSession.SmClient

open CafeSession.Autostart CafeSession.Shell CafeSession.Xsmp

/-- The states in which the library has not been asked to save. -/
def XsmpState.Unasked : XsmpState → Prop
  | .idle | .saveYourselfDone | .connectionClosed => True
  | .saveYourself | .interactRequest | .interact | .shutdownCancelled => False

/-- As long as the first properties are to be set nothing is being saved, and the idle
source sets them only then. -/
structure Unsaved (xsmp : EggSmClientXsmp) : Prop where
  source : xsmp.idle = some .setInitialProperties → xsmp.waitingToSetInitialProperties = true
  state : xsmp.waitingToSetInitialProperties = true → xsmp.state.Unasked
  held : xsmp.waitingToSetInitialProperties = true → xsmp.waitingToSaveMyself = false
  frames : xsmp.waitingToSetInitialProperties = true → NoneSaving xsmp.frames

/-- The later client differs from the earlier one only in what it tells of itself and
what it has told. -/
structure Alike (before after : EggSmClientXsmp) : Prop where
  idle : after.idle = before.idle
  waits : after.waitingToSetInitialProperties = before.waitingToSetInitialProperties
  state : after.state = before.state
  held : after.waitingToSaveMyself = before.waitingToSaveMyself
  frames : after.frames = before.frames

namespace Alike

variable {xsmp before after later : EggSmClientXsmp} {world : World}

theorem refl : Alike xsmp xsmp := ⟨rfl, rfl, rfl, rfl, rfl⟩

theorem trans (first : Alike before after) (second : Alike after later) : Alike before later where
  idle := second.idle.trans first.idle
  waits := second.waits.trans first.waits
  state := second.state.trans first.state
  held := second.held.trans first.held
  frames := second.frames.trans first.frames

theorem unsaved (alike : Alike before after) (unsaved : Unsaved before) : Unsaved after := by
  constructor
  · rw [alike.idle, alike.waits]
    exact unsaved.source
  · rw [alike.waits, alike.state]
    exact unsaved.state
  · rw [alike.waits, alike.held]
    exact unsaved.held
  · rw [alike.waits, alike.frames]
    exact unsaved.frames

theorem send (message : SmcMessage) : Alike xsmp (xsmp.send message) := by
  unfold EggSmClientXsmp.send
  split_ifs <;> exact ⟨rfl, rfl, rfl, rfl, rfl⟩

theorem setProperties (props : List SmProp) : Alike xsmp (xsmp.setProperties props) := by
  unfold EggSmClientXsmp.setProperties
  split_ifs
  · exact send _
  · exact refl

theorem deleteProperties (names : List String) : Alike xsmp (xsmp.deleteProperties names) := by
  unfold EggSmClientXsmp.deleteProperties
  split_ifs
  · exact send _
  · exact refl

theorem tellSaved (saved : SavedState) : Alike xsmp (xsmp.tellSaved saved) := by
  cases saved with
  | nothing => exact (setProperties _).trans (deleteProperties _)
  | unwritten => exact setProperties _
  | written path => exact (setProperties _).trans (setProperties _)

theorem readMode : Alike xsmp (xsmp.readMode world) := by
  unfold EggSmClientXsmp.readMode
  split_ifs <;> exact ⟨rfl, rfl, rfl, rfl, rfl⟩

theorem readAutoRestart (file : OwnDesktopFile) : Alike xsmp (xsmp.readAutoRestart file) := by
  unfold EggSmClientXsmp.readAutoRestart
  split_ifs <;> exact ⟨rfl, rfl, rfl, rfl, rfl⟩

theorem readExec (file : OwnDesktopFile) : Alike xsmp (xsmp.readExec file) := by
  unfold EggSmClientXsmp.readExec
  split_ifs
  · exact refl
  · cases file.argv <;> exact ⟨rfl, rfl, rfl, rfl, rfl⟩

theorem readDesktopFile : Alike xsmp (xsmp.readDesktopFile world) := by
  unfold EggSmClientXsmp.readDesktopFile
  cases world.desktopFile with
  | none => exact refl
  | some file => exact (readAutoRestart file).trans (readExec file)

theorem readProgramName : Alike xsmp (xsmp.readProgramName world) := by
  unfold EggSmClientXsmp.readProgramName
  split_ifs <;> exact ⟨rfl, rfl, rfl, rfl, rfl⟩

theorem nameDesktopFile : Alike xsmp (xsmp.nameDesktopFile world) := by
  unfold EggSmClientXsmp.nameDesktopFile
  cases world.desktopFile with
  | none => exact refl
  | some file => exact setProperties _

end Alike

namespace Unsaved

variable {xsmp after : EggSmClientXsmp} {world : World} {event : Event}

theorem set (unsaved : Unsaved xsmp) (apart : ¬ xsmp.state.Unasked) :
    xsmp.waitingToSetInitialProperties = false :=
  Bool.eq_false_iff.mpr fun waits => apart (unsaved.state waits)

theorem of_set (done : xsmp.waitingToSetInitialProperties = false)
    (source : xsmp.idle ≠ some .setInitialProperties) : Unsaved xsmp where
  source queued := absurd queued source
  state waits := by cases done.symm.trans waits
  held waits := by cases done.symm.trans waits
  frames waits := by cases done.symm.trans waits

theorem source_ne (unsaved : Unsaved xsmp) (done : xsmp.waitingToSetInitialProperties = false) :
    xsmp.idle ≠ some .setInitialProperties := by
  intro queued
  cases done.symm.trans (unsaved.source queued)

theorem send {message : SmcMessage} (unsaved : Unsaved xsmp) : Unsaved (xsmp.send message) :=
  (Alike.send message).unsaved unsaved

theorem updatePendingEvents (unsaved : Unsaved xsmp) : Unsaved xsmp.updatePendingEvents := by
  unfold EggSmClientXsmp.updatePendingEvents
  split_ifs
  · exact ⟨fun queued => absurd queued (by simp), unsaved.state, unsaved.held, unsaved.frames⟩
  · exact unsaved
  · exact ⟨fun queued => absurd queued (by simp), unsaved.state, unsaved.held, unsaved.frames⟩

theorem tellSaved {saved : SavedState} (unsaved : Unsaved xsmp) : Unsaved (xsmp.tellSaved saved) :=
  (Alike.tellSaved saved).unsaved unsaved

/-- In a state in which it has not been asked. -/
theorem moved {state : XsmpState} (unsaved : Unsaved xsmp) (unasked : state.Unasked) :
    Unsaved { xsmp with state := state } :=
  ⟨unsaved.source, fun _ => unasked, unsaved.held, unsaved.frames⟩

theorem saveYourselfDone {success : Bool} (unsaved : Unsaved xsmp) :
    Unsaved (xsmp.saveYourselfDone success) :=
  unsaved.send.moved trivial

theorem saveState {resume : Resume} (unsaved : Unsaved xsmp)
    (done : xsmp.waitingToSetInitialProperties = false) : Unsaved (xsmp.saveState resume) :=
  .of_set done (unsaved.source_ne done)

theorem doSaveYourself (unsaved : Unsaved xsmp)
    (done : xsmp.waitingToSetInitialProperties = false) : Unsaved xsmp.doSaveYourself := by
  have changed {other : EggSmClientXsmp} (source : other.idle = xsmp.idle)
      (same : other.waitingToSetInitialProperties = xsmp.waitingToSetInitialProperties) :
      Unsaved other :=
    .of_set (same.trans done) (source ▸ unsaved.source_ne done)
  unfold EggSmClientXsmp.doSaveYourself
  split_ifs
  · exact (@changed { xsmp with waitingToSaveMyself := true } rfl rfl).updatePendingEvents
  · exact (@changed { xsmp with state := .interactRequest } rfl rfl).send
  · exact (@changed { xsmp with state := .interactRequest } rfl rfl).send
  · exact unsaved.saveState done
  · exact unsaved.saveYourselfDone

theorem saveStateReturned {saved : SavedState} {resume : Resume} (unsaved : Unsaved xsmp) :
    Unsaved (xsmp.saveStateReturned saved resume) := by
  unfold EggSmClientXsmp.saveStateReturned
  cases resume with
  | willQuit => exact unsaved.tellSaved.saveYourselfDone
  | doSaveYourself =>
      dsimp only
      split_ifs
      · exact unsaved.tellSaved.saveYourselfDone
      · exact unsaved.tellSaved

theorem willQuit {quits : Bool} (unsaved : Unsaved xsmp) : Unsaved (xsmp.willQuit quits) := by
  unfold EggSmClientXsmp.willQuit
  split
  · exact Unsaved.updatePendingEvents
      ⟨unsaved.source, unsaved.state, unsaved.held, unsaved.frames⟩
  · exact Unsaved.updatePendingEvents
      ⟨unsaved.source, unsaved.state, unsaved.held, unsaved.frames⟩
  · rename_i interacts
    have done := unsaved.set (by rw [interacts]; exact id)
    have told : (xsmp.send (.interactDone (!quits))).waitingToSetInitialProperties = false :=
      (Alike.send _).waits.trans done
    dsimp only
    split_ifs
    · exact unsaved.send.saveState told
    · exact unsaved.send.saveYourselfDone
  · exact unsaved

theorem disconnect (unsaved : Unsaved xsmp) : Unsaved xsmp.disconnect := by
  unfold EggSmClientXsmp.disconnect
  split_ifs
  · exact Unsaved.updatePendingEvents ⟨unsaved.source, fun _ => trivial, fun _ => rfl,
      unsaved.frames⟩
  · exact unsaved

theorem fixBrokenState {sendInteractDone sendSaveYourselfDone : Bool} (unsaved : Unsaved xsmp) :
    Unsaved (xsmp.fixBrokenState sendInteractDone sendSaveYourselfDone) := by
  have forgotten : Unsaved { xsmp with waitingToSaveMyself := false }.updatePendingEvents :=
    Unsaved.updatePendingEvents ⟨unsaved.source, unsaved.state, fun _ => rfl, unsaved.frames⟩
  unfold EggSmClientXsmp.fixBrokenState
  cases sendInteractDone <;> cases sendSaveYourselfDone
  · exact forgotten.moved trivial
  · exact forgotten.saveYourselfDone
  · exact forgotten.send.moved trivial
  · exact forgotten.send.saveYourselfDone

theorem setRestartCommand {argv : List Bytes} (unsaved : Unsaved xsmp) :
    Unsaved (xsmp.setRestartCommand argv) :=
  ⟨unsaved.source, unsaved.state, unsaved.held, unsaved.frames⟩

theorem waits_updatePendingEvents : xsmp.updatePendingEvents.waitingToSetInitialProperties =
    xsmp.waitingToSetInitialProperties := by
  unfold EggSmClientXsmp.updatePendingEvents
  split_ifs <;> rfl

/-- Whatever it reads and tells, nothing but the two fields has changed before it looks for
pending events. -/
theorem alike_described :
    ∃ described, Alike { xsmp with idle := none, waitingToSetInitialProperties := false }
      described ∧ xsmp.setInitialProperties world = described.updatePendingEvents :=
  ⟨_, (((Alike.readMode.trans Alike.readDesktopFile).trans Alike.readProgramName).trans
    (Alike.setProperties _)).trans Alike.nameDesktopFile, rfl⟩

theorem setInitialProperties_sets :
    (xsmp.setInitialProperties world).waitingToSetInitialProperties = false := by
  obtain ⟨described, alike, same⟩ := @alike_described xsmp world
  rw [same, waits_updatePendingEvents, alike.waits]

theorem setInitialProperties : Unsaved (xsmp.setInitialProperties world) := by
  obtain ⟨described, alike, same⟩ := @alike_described xsmp world
  rw [same]
  exact (alike.unsaved (.of_set rfl (by simp))).updatePendingEvents

theorem setMissingProperties_sets :
    (xsmp.setMissingProperties world).waitingToSetInitialProperties = false := by
  unfold EggSmClientXsmp.setMissingProperties
  split_ifs with waits
  · exact setInitialProperties_sets
  · exact Bool.eq_false_iff.mpr waits

theorem setMissingProperties (unsaved : Unsaved xsmp) :
    Unsaved (xsmp.setMissingProperties world) := by
  unfold EggSmClientXsmp.setMissingProperties
  split_ifs
  · exact setInitialProperties
  · exact unsaved

theorem xsmpSaveYourself {saveType : Int} {shutdown fast : Bool} {interactStyle : InteractStyle}
    (unsaved : Unsaved xsmp) :
    Unsaved (xsmp.xsmpSaveYourself world saveType shutdown interactStyle fast) := by
  have ready := @setMissingProperties _ world unsaved
  have done := @setMissingProperties_sets xsmp world
  unfold EggSmClientXsmp.xsmpSaveYourself
  split_ifs
  · exact unsaved.fixBrokenState
  · dsimp only
    split_ifs
    · exact Unsaved.saveYourselfDone ⟨ready.source, ready.state, ready.held, ready.frames⟩
    · exact Unsaved.doSaveYourself ⟨ready.source, ready.state, ready.held, ready.frames⟩ done

theorem xsmpInteract (unsaved : Unsaved xsmp) : Unsaved (xsmp.xsmpInteract world) := by
  unfold EggSmClientXsmp.xsmpInteract EggSmClientXsmp.quitRequested
  split_ifs with broken
  · exact unsaved.fixBrokenState
  all_goals
    have asked : xsmp.state = .interactRequest := not_not.mp broken
    have done := unsaved.set (by rw [asked]; exact id)
    have interacting : Unsaved { xsmp with state := .interact } :=
      .of_set done (unsaved.source_ne done)
  · exact ⟨interacting.source, interacting.state, interacting.held, interacting.frames⟩
  · exact interacting.willQuit

theorem xsmpSaveComplete (unsaved : Unsaved xsmp) : Unsaved xsmp.xsmpSaveComplete := by
  unfold EggSmClientXsmp.xsmpSaveComplete
  split_ifs
  · exact unsaved.moved trivial
  · exact unsaved.fixBrokenState

theorem xsmpShutdownCancelled (unsaved : Unsaved xsmp) :
    Unsaved xsmp.xsmpShutdownCancelled := by
  have running : Unsaved { xsmp with shuttingDown := false } :=
    ⟨unsaved.source, unsaved.state, unsaved.held, unsaved.frames⟩
  unfold EggSmClientXsmp.xsmpShutdownCancelled
  split
  · exact ⟨running.source, fun _ => trivial, running.held, running.frames⟩
  · exact Unsaved.updatePendingEvents
      ⟨running.source, running.state, fun _ => rfl, running.frames⟩
  · rename_i interacts
    have done := running.set (by
      change ¬ xsmp.state.Unasked
      rw [interacts]
      exact id)
    have refused := @Unsaved.send _ (.saveYourselfDone false) running
    have told : ({ xsmp with shuttingDown := false }.send
        (.saveYourselfDone false)).waitingToSetInitialProperties = false :=
      (Alike.send _).waits.trans done
    exact .of_set told (refused.source_ne told)
  · exact running.send.moved trivial

theorem runIdle {function : IdleFunction} (unsaved : Unsaved xsmp) :
    Unsaved (xsmp.runIdle world function) := by
  cases function with
  | setInitialProperties => exact setInitialProperties
  | doPendingEvents =>
      have ran : Unsaved { xsmp with idle := none } :=
        ⟨fun queued => absurd queued (by simp), unsaved.state, unsaved.held, unsaved.frames⟩
      have asked (holds : xsmp.waitingToSaveMyself = true) :
          xsmp.waitingToSetInitialProperties = false :=
        Bool.eq_false_iff.mpr fun waits => by cases (unsaved.held waits).symm.trans holds
      simp only [EggSmClientXsmp.runIdle, EggSmClientXsmp.idleDoPendingEvents]
      split_ifs with quit cancelled holds holds
      · exact ⟨ran.source, ran.state, ran.held, ran.frames⟩
      · exact Unsaved.doSaveYourself
          ⟨ran.source, fun _ => trivial, fun _ => rfl, ran.frames⟩ (asked holds)
      · exact ⟨ran.source, fun _ => trivial, ran.held, ran.frames⟩
      · exact Unsaved.doSaveYourself ⟨ran.source, ran.state, fun _ => rfl, ran.frames⟩
          (asked holds)
      · exact ran

theorem awaitMessage {requestConfirmation : Bool} (unsaved : Unsaved xsmp) :
    Unsaved (xsmp.awaitMessage requestConfirmation) := by
  unfold EggSmClientXsmp.awaitMessage
  split_ifs
  · refine ⟨unsaved.source, unsaved.state, unsaved.held, fun waits resume member => ?_⟩
    exact unsaved.frames waits resume (by simpa using member)
  · exact ⟨unsaved.source, unsaved.state, unsaved.held, unsaved.frames⟩

theorem endSession {requestConfirmation : Bool} (unsaved : Unsaved xsmp) :
    Unsaved (xsmp.endSession world requestConfirmation) := by
  have patched : Unsaved (xsmp.patchUp world requestConfirmation) := by
    unfold EggSmClientXsmp.patchUp
    cases xsmp.state with
    | connectionClosed | interactRequest | interact | shutdownCancelled => exact unsaved
    | saveYourself => exact unsaved.saveYourselfDone.awaitMessage
    | saveYourselfDone => exact unsaved.awaitMessage
    | idle => exact unsaved.setMissingProperties.awaitMessage
  unfold EggSmClientXsmp.endSession
  by_cases ready : xsmp.state = .idle ∧ xsmp.expectingInitialSaveYourself = false
  · rw [if_pos ready]
    exact unsaved.send
  · rw [if_neg ready]
    split_ifs
    · exact unsaved
    · exact patched

/-- The call on top has returned. -/
theorem popped {frame : Frame} {frames : List Frame} (unsaved : Unsaved xsmp)
    (top : xsmp.frames = frame :: frames) : Unsaved { xsmp with frames := frames } := by
  refine ⟨unsaved.source, unsaved.state, unsaved.held, fun waits resume member => ?_⟩
  exact unsaved.frames waits resume (top ▸ List.mem_cons_of_mem frame member)

theorem goOn (unsaved : Unsaved xsmp) : Unsaved (xsmp.goOn world) := by
  unfold EggSmClientXsmp.goOn
  split
  · rename_i top
    exact (unsaved.popped top).endSession
  · exact unsaved

theorem receive {callback : Callback} (unsaved : Unsaved xsmp) :
    Unsaved (xsmp.receive world callback) := by
  cases callback with
  | saveYourself => exact unsaved.xsmpSaveYourself
  | interact => exact unsaved.xsmpInteract
  | saveComplete => exact unsaved.xsmpSaveComplete
  | shutdownCancelled => exact unsaved.xsmpShutdownCancelled
  | die =>
      have closed := unsaved.disconnect
      exact ⟨closed.source, closed.state, closed.held, closed.frames⟩

theorem step (unsaved : Unsaved xsmp) (stepped : xsmp.step event = some after) :
    Unsaved after := by
  obtain ⟨world, call⟩ := event
  cases (leads_of_step stepped).2 with
  | message callback => exact unsaved.receive.goOn
  | ioError => exact unsaved.disconnect.goOn
  | idle => exact unsaved.runIdle
  | saveStateReturned saved top => exact (unsaved.popped top).saveStateReturned.goOn
  | setRestartCommand => exact unsaved.setRestartCommand
  | willQuit => exact unsaved.willQuit
  | endSession => exact unsaved.endSession

/-- A save is told of after the first properties. -/
theorem set_of_saving {resume : Resume} {frames : List Frame} (unsaved : Unsaved xsmp)
    (top : xsmp.frames = .saving resume :: frames) :
    xsmp.waitingToSetInitialProperties = false :=
  Bool.eq_false_iff.mpr fun waits => unsaved.frames waits resume (top ▸ List.mem_cons_self)

end Unsaved

end CafeSession.SmClient

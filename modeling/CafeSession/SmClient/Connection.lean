import CafeSession.SmClient.Effects
import CafeSession.Transition.System

namespace CafeSession.SmClient

open CafeSession.Autostart CafeSession.Shell CafeSession.Transition CafeSession.Xsmp

/-- After it the library is disconnected. -/
def Call.closes : Call → Bool
  | .message .die | .ioError => true
  | _ => false

namespace EggSmClientXsmp

variable {xsmp after : EggSmClientXsmp} {world : World} {event : Event}

@[simp] theorem connection_send (message : SmcMessage) :
    (xsmp.send message).connection = xsmp.connection := by
  unfold send
  split_ifs <;> rfl

@[simp] theorem connection_updatePendingEvents :
    xsmp.updatePendingEvents.connection = xsmp.connection :=
  congrArg Standing.connection standing_updatePendingEvents

@[simp] theorem connection_setMissingProperties :
    (xsmp.setMissingProperties world).connection = xsmp.connection :=
  congrArg Standing.connection standing_setMissingProperties

@[simp] theorem connection_tellSaved (saved : SavedState) :
    (xsmp.tellSaved saved).connection = xsmp.connection :=
  congrArg Standing.connection (standing_tellSaved saved)

@[simp] theorem connection_saveYourselfDone (success : Bool) :
    (xsmp.saveYourselfDone success).connection = xsmp.connection := by
  simp [saveYourselfDone]

@[simp] theorem connection_saveState (resume : Resume) :
    (xsmp.saveState resume).connection = xsmp.connection := rfl

@[simp] theorem connection_doSaveYourself : xsmp.doSaveYourself.connection = xsmp.connection := by
  unfold doSaveYourself
  split_ifs <;> simp

@[simp] theorem connection_saveStateReturned (saved : SavedState) (resume : Resume) :
    (xsmp.saveStateReturned saved resume).connection = xsmp.connection := by
  unfold saveStateReturned
  cases resume with
  | willQuit => simp
  | doSaveYourself =>
      dsimp only
      split_ifs <;> simp

@[simp] theorem connection_willQuit (quits : Bool) :
    (xsmp.willQuit quits).connection = xsmp.connection := by
  unfold willQuit
  split
  · simp
  · simp
  · dsimp only
    split_ifs <;> simp
  · rfl

@[simp] theorem connection_fixBrokenState (interactDone saveYourselfDone : Bool) :
    (xsmp.fixBrokenState interactDone saveYourselfDone).connection = xsmp.connection := by
  cases interactDone <;> cases saveYourselfDone <;> simp [fixBrokenState]

@[simp] theorem connection_xsmpSaveYourself (saveType : Int) (shutdown : Bool)
    (interactStyle : InteractStyle) (fast : Bool) :
    (xsmp.xsmpSaveYourself world saveType shutdown interactStyle fast).connection =
      xsmp.connection := by
  unfold xsmpSaveYourself
  split_ifs
  · simp
  · dsimp only
    split_ifs <;> simp

@[simp] theorem connection_xsmpInteract : (xsmp.xsmpInteract world).connection = xsmp.connection := by
  unfold xsmpInteract quitRequested
  split_ifs <;> simp [emit]

@[simp] theorem connection_xsmpSaveComplete :
    xsmp.xsmpSaveComplete.connection = xsmp.connection := by
  unfold xsmpSaveComplete
  split_ifs <;> simp

@[simp] theorem connection_xsmpShutdownCancelled :
    xsmp.xsmpShutdownCancelled.connection = xsmp.connection := by
  unfold xsmpShutdownCancelled
  split <;> simp [emit]

@[simp] theorem connection_disconnect : xsmp.disconnect.connection = false := by
  unfold disconnect
  split_ifs with isOpen
  · simp
  · exact Bool.eq_false_iff.mpr isOpen

@[simp] theorem connection_runIdle (function : IdleFunction) :
    (xsmp.runIdle world function).connection = xsmp.connection := by
  cases function with
  | setInitialProperties => exact congrArg Standing.connection standing_setInitialProperties
  | doPendingEvents =>
      simp only [runIdle, idleDoPendingEvents]
      split_ifs <;> simp [emit]

@[simp] theorem connection_awaitMessage (requestConfirmation : Bool) :
    (xsmp.awaitMessage requestConfirmation).connection = xsmp.connection := by
  unfold awaitMessage
  split_ifs <;> rfl

@[simp] theorem connection_endSession (requestConfirmation : Bool) :
    (xsmp.endSession world requestConfirmation).connection = xsmp.connection := by
  have patched : (xsmp.patchUp world requestConfirmation).connection = xsmp.connection := by
    unfold patchUp
    cases xsmp.state <;> simp
  unfold endSession
  by_cases ready : xsmp.state = .idle ∧ xsmp.expectingInitialSaveYourself = false
  · rw [if_pos ready, connection_send]
  · rw [if_neg ready]
    split_ifs
    · rfl
    · exact patched

@[simp] theorem connection_goOn : (xsmp.goOn world).connection = xsmp.connection := by
  unfold goOn
  split
  · simp
  · rfl

theorem connection_receive (callback : Callback) :
    (xsmp.receive world callback).connection =
      (xsmp.connection && decide (callback ≠ .die)) := by
  cases callback <;> simp [receive, xsmpDie, emit]

/-- Nothing opens the connection again. -/
theorem connection_step (stepped : xsmp.step event = some after) :
    after.connection = (xsmp.connection && !event.call.closes) := by
  obtain ⟨world, call⟩ := event
  cases (leads_of_step stepped).2 with
  | message callback =>
      rw [connection_goOn, connection_receive]
      cases callback <;> rfl
  | ioError | idle | saveStateReturned | setRestartCommand | willQuit | endSession =>
      simp [Call.closes, setRestartCommand]

end EggSmClientXsmp

/-- libSM can be called, and nothing says otherwise. -/
structure Standing.Live (standing : Standing) : Prop where
  isOpen : standing.connection = true
  state : standing.state ≠ .connectionClosed
  sound : standing.fault = false

namespace EggSmClientXsmp

variable {xsmp : EggSmClientXsmp} {world : World}

theorem send_live {message : SmcMessage} (live : xsmp.standing.Live) :
    (xsmp.send message).standing.Live := by
  rw [standing_send_open live.isOpen]
  exact ⟨live.isOpen, live.state, live.sound⟩

theorem saveYourselfDone_live {success : Bool} (live : xsmp.standing.Live) :
    (xsmp.saveYourselfDone success).standing.Live := by
  rw [standing_saveYourselfDone_open live.isOpen]
  exact ⟨live.isOpen, by simp, live.sound⟩

theorem saveState_live {resume : Resume} (live : xsmp.standing.Live) :
    (xsmp.saveState resume).standing.Live :=
  ⟨live.isOpen, by simp [saveState, emit, standing], live.sound⟩

theorem doSaveYourself_live (live : xsmp.standing.Live) : xsmp.doSaveYourself.standing.Live := by
  have asking : { xsmp with state := .interactRequest }.standing.Live :=
    ⟨live.isOpen, by simp [standing], live.sound⟩
  unfold doSaveYourself
  split_ifs
  · rw [standing_updatePendingEvents]
    exact ⟨live.isOpen, live.state, live.sound⟩
  · exact send_live asking
  · exact send_live asking
  · exact saveState_live live
  · exact saveYourselfDone_live live

theorem saveStateReturned_live {saved : SavedState} {resume : Resume} (live : xsmp.standing.Live) :
    (xsmp.saveStateReturned saved resume).standing.Live := by
  have told : (xsmp.tellSaved saved).standing.Live := by
    rwa [standing_tellSaved]
  unfold saveStateReturned
  cases resume with
  | willQuit => exact saveYourselfDone_live told
  | doSaveYourself =>
      dsimp only
      split_ifs
      · exact saveYourselfDone_live told
      · exact told

theorem willQuit_live {quits : Bool} (live : xsmp.standing.Live) :
    (xsmp.willQuit quits).standing.Live := by
  unfold willQuit
  split
  · rw [standing_updatePendingEvents]
    exact ⟨live.isOpen, live.state, live.sound⟩
  · rw [standing_updatePendingEvents]
    exact ⟨live.isOpen, live.state, live.sound⟩
  · dsimp only
    split_ifs
    · exact saveState_live (send_live live)
    · exact saveYourselfDone_live (send_live live)
  · exact live

theorem fixBrokenState_live {sendInteractDone sendSaveYourselfDone : Bool}
    (live : xsmp.standing.Live) :
    (xsmp.fixBrokenState sendInteractDone sendSaveYourselfDone).standing.Live := by
  have forgotten : { xsmp with waitingToSaveMyself := false }.updatePendingEvents.standing.Live := by
    rw [standing_updatePendingEvents]
    exact ⟨live.isOpen, live.state, live.sound⟩
  have settled {xsmp : EggSmClientXsmp} (live : xsmp.standing.Live) :
      { xsmp with state := .idle }.standing.Live :=
    ⟨live.isOpen, by simp [standing], live.sound⟩
  unfold fixBrokenState
  cases sendInteractDone <;> cases sendSaveYourselfDone
  · exact settled forgotten
  · exact saveYourselfDone_live forgotten
  · exact settled (send_live forgotten)
  · exact saveYourselfDone_live (send_live forgotten)

theorem runIdle_live {function : IdleFunction} (live : xsmp.standing.Live) :
    (xsmp.runIdle world function).standing.Live := by
  cases function with
  | setInitialProperties =>
      rw [runIdle, standing_setInitialProperties]
      exact live
  | doPendingEvents =>
      simp only [runIdle, idleDoPendingEvents]
      split_ifs
      · exact ⟨live.isOpen, live.state, live.sound⟩
      · exact doSaveYourself_live ⟨live.isOpen, by simp [standing], live.sound⟩
      · exact ⟨live.isOpen, by simp [standing], live.sound⟩
      · exact doSaveYourself_live ⟨live.isOpen, live.state, live.sound⟩
      · exact ⟨live.isOpen, live.state, live.sound⟩

theorem awaitMessage_live {requestConfirmation : Bool} (live : xsmp.standing.Live) :
    (xsmp.awaitMessage requestConfirmation).standing.Live := by
  unfold awaitMessage
  rw [if_pos (show xsmp.connection = true from live.isOpen)]
  exact ⟨live.isOpen, live.state, live.sound⟩

theorem endSession_live {requestConfirmation : Bool} (live : xsmp.standing.Live) :
    (xsmp.endSession world requestConfirmation).standing.Live := by
  have patched : (xsmp.patchUp world requestConfirmation).standing.Live := by
    unfold patchUp
    cases xsmp.state with
    | connectionClosed | interactRequest | interact | shutdownCancelled => exact live
    | saveYourself => exact awaitMessage_live (saveYourselfDone_live live)
    | saveYourselfDone => exact awaitMessage_live live
    | idle => exact awaitMessage_live (by rwa [standing_setMissingProperties])
  unfold endSession
  by_cases ready : xsmp.state = .idle ∧ xsmp.expectingInitialSaveYourself = false
  · rw [if_pos ready]
    exact send_live live
  · rw [if_neg ready]
    split_ifs
    · exact live
    · exact patched

theorem goOn_live (live : xsmp.standing.Live) : (xsmp.goOn world).standing.Live := by
  unfold goOn
  split
  · exact endSession_live ⟨live.isOpen, live.state, live.sound⟩
  · exact live

theorem xsmpSaveYourself_live {saveType : Int} {shutdown fast : Bool}
    {interactStyle : InteractStyle} (live : xsmp.standing.Live) :
    (xsmp.xsmpSaveYourself world saveType shutdown interactStyle fast).standing.Live := by
  have ready : (xsmp.setMissingProperties world).standing.Live := by
    rwa [standing_setMissingProperties]
  unfold xsmpSaveYourself
  split_ifs
  · exact fixBrokenState_live live
  · dsimp only
    split_ifs
    · exact @saveYourselfDone_live _ _ ready
    · exact doSaveYourself_live ready

theorem xsmpShutdownCancelled_live (live : xsmp.standing.Live) :
    xsmp.xsmpShutdownCancelled.standing.Live := by
  have refused : ({ xsmp with shuttingDown := false }.send (.saveYourselfDone false)).standing.Live :=
    send_live live
  unfold xsmpShutdownCancelled
  split
  · exact ⟨live.isOpen, by simp [standing, emit], live.sound⟩
  · rw [standing_updatePendingEvents]
    exact ⟨live.isOpen, live.state, live.sound⟩
  · exact ⟨refused.isOpen, by simp [standing], refused.sound⟩
  · exact ⟨refused.isOpen, by simp [standing], refused.sound⟩

theorem moved_live {state : XsmpState} (live : xsmp.standing.Live)
    (named : state ≠ .connectionClosed) : { xsmp with state := state }.standing.Live :=
  ⟨live.isOpen, named, live.sound⟩

theorem xsmpInteract_live (live : xsmp.standing.Live) : (xsmp.xsmpInteract world).standing.Live := by
  unfold xsmpInteract quitRequested
  split_ifs
  · exact fixBrokenState_live live
  · exact @moved_live xsmp .interact live (by decide)
  · exact willQuit_live (moved_live live (by decide))

theorem xsmpSaveComplete_live (live : xsmp.standing.Live) : xsmp.xsmpSaveComplete.standing.Live := by
  unfold xsmpSaveComplete
  split_ifs
  · exact moved_live live (by decide)
  · exact fixBrokenState_live live

theorem receive_live {callback : Callback} (live : xsmp.standing.Live) (apart : callback ≠ .die) :
    (xsmp.receive world callback).standing.Live := by
  cases callback with
  | saveYourself => exact xsmpSaveYourself_live live
  | interact => exact xsmpInteract_live live
  | saveComplete => exact xsmpSaveComplete_live live
  | shutdownCancelled => exact xsmpShutdownCancelled_live live
  | die => exact absurd rfl apart

end EggSmClientXsmp

/-- The library knows, and has not called libSM since. -/
structure Standing.Shut (standing : Standing) : Prop where
  isClosed : standing.connection = false
  state : standing.state = .connectionClosed
  saveMyself : standing.waitingToSaveMyself = false
  sound : standing.fault = false

/-- The state tells whether the connection is open, nothing is to be saved for a
closed one, and libSM has not been called without one. -/
structure Coherent (xsmp : EggSmClientXsmp) : Prop where
  state : xsmp.state = .connectionClosed ↔ xsmp.connection = false
  saveMyself : xsmp.waitingToSaveMyself = true → xsmp.connection = true
  sound : xsmp.fault = false

theorem coherent_iff {xsmp : EggSmClientXsmp} :
    Coherent xsmp ↔ xsmp.standing.Live ∨ xsmp.standing.Shut := by
  constructor
  · intro coherent
    cases isOpen : xsmp.connection with
    | true =>
        refine .inl ⟨isOpen, fun state => ?_, coherent.sound⟩
        cases isOpen.symm.trans (coherent.state.mp state)
    | false =>
        refine .inr ⟨isOpen, coherent.state.mpr isOpen, ?_, coherent.sound⟩
        refine Bool.eq_false_iff.mpr fun waits => ?_
        cases isOpen.symm.trans (coherent.saveMyself waits)
  · rintro (live | shut)
    · exact ⟨⟨fun state => absurd state live.state, fun isClosed =>
        absurd (isClosed.symm.trans live.isOpen) (by decide)⟩, fun _ => live.isOpen, live.sound⟩
    · exact ⟨⟨fun _ => shut.isClosed, fun _ => shut.state⟩, fun waits =>
        absurd (shut.saveMyself.symm.trans waits) (by decide), shut.sound⟩

/-- The step finds the connection where it counts on it. -/
def FindsConnection (xsmp : EggSmClientXsmp) (event : Event) : Prop :=
  match event.call with
  | .idle => xsmp.idle = some .doPendingEvents → xsmp.waitingToEmitQuit = false →
      xsmp.waitingToEmitQuitCancelled = true → xsmp.connection = true
  | .saveStateReturned _ =>
      xsmp.frames.head? = some (.saving .willQuit) → xsmp.connection = true
  | _ => True

namespace EggSmClientXsmp

variable {xsmp after : EggSmClientXsmp} {world : World} {event : Event}

theorem disconnect_shut (live : xsmp.standing.Live) : xsmp.disconnect.standing.Shut := by
  rw [standing_disconnect live.isOpen]
  exact ⟨rfl, rfl, rfl, live.sound⟩

/-- A closed connection ends the wait for a message. -/
theorem goOn_shut (shut : xsmp.standing.Shut) : (xsmp.goOn world).standing.Shut := by
  have state : xsmp.state = .connectionClosed := shut.state
  unfold goOn
  split
  · rename_i requestConfirmation frames shape
    have ended : ({ xsmp with frames := frames }.endSession world requestConfirmation) =
        { xsmp with frames := frames } := by
      simp [endSession, patchUp, state]
    rw [ended]
    exact ⟨shut.isClosed, shut.state, shut.saveMyself, shut.sound⟩
  · exact shut

theorem fault_goOn (state : xsmp.state = .saveYourselfDone) (fault : xsmp.fault = true) :
    (xsmp.goOn world).fault = true := by
  unfold goOn
  split
  · have other : ¬(XsmpState.saveYourselfDone = .idle) := by decide
    simp only [endSession, patchUp, awaitMessage, state, other, false_and, if_false]
    split_ifs <;> first | exact fault | rfl
  · exact fault

/-- As long as the connection is open, every step counts on it rightly. -/
theorem leads_live (live : xsmp.standing.Live) (leads : Leads xsmp world event.call after) :
    Coherent after := by
  rw [coherent_iff]
  obtain ⟨eventWorld, call⟩ := event
  cases leads with
  | message callback =>
      by_cases dies : callback = .die
      · subst dies
        exact .inr (goOn_shut (disconnect_shut live))
      · exact .inl (goOn_live (receive_live live dies))
  | ioError => exact .inr (goOn_shut (disconnect_shut live))
  | idle => exact .inl (runIdle_live live)
  | saveStateReturned saved =>
      refine .inl (goOn_live (saveStateReturned_live ?_))
      exact ⟨live.isOpen, live.state, live.sound⟩
  | setRestartCommand => exact .inl live
  | willQuit => exact .inl (willQuit_live live)
  | endSession => exact .inl (endSession_live live)

theorem findsConnection_of_open (isOpen : xsmp.connection = true) : FindsConnection xsmp event := by
  unfold FindsConnection
  split
  · exact fun _ _ _ => isOpen
  · exact fun _ => isOpen
  · trivial

theorem returned_shut {saved : SavedState} (shut : xsmp.standing.Shut) :
    (xsmp.saveStateReturned saved .doSaveYourself).standing.Shut := by
  have isClosed : ¬(xsmp.tellSaved saved).connection = true := by
    rw [connection_tellSaved, show xsmp.connection = false from shut.isClosed]
    decide
  unfold saveStateReturned
  dsimp only
  rw [if_neg isClosed, standing_tellSaved]
  exact shut

theorem returned_fault {saved : SavedState} (isClosed : xsmp.connection = false) :
    (xsmp.saveStateReturned saved .willQuit).fault = true := by
  simp [saveStateReturned, saveYourselfDone, send, isClosed]

/-- What the idle source finds of a closed connection. -/
theorem runIdle_shut {function : IdleFunction} (shut : xsmp.standing.Shut) :
    Coherent (xsmp.runIdle world function) ↔
      (function = .doPendingEvents → xsmp.waitingToEmitQuit = false →
        xsmp.waitingToEmitQuitCancelled = false) := by
  have same : Coherent xsmp := coherent_iff.mpr (.inr shut)
  have saves : ¬xsmp.waitingToSaveMyself = true := by
    rw [show xsmp.waitingToSaveMyself = false from shut.saveMyself]
    decide
  cases function with
  | setInitialProperties =>
      refine iff_of_true ?_ (by simp)
      rw [coherent_iff, runIdle, standing_setInitialProperties]
      exact .inr shut
  | doPendingEvents =>
      simp only [runIdle, idleDoPendingEvents]
      split_ifs with quit cancelled held
      · exact iff_of_true ⟨same.state, same.saveMyself, same.sound⟩ (by simp [quit])
      · exact absurd held saves
      · -- The state becomes IDLE again.
        refine iff_of_false (fun coherent => ?_) (by simp [quit, cancelled])
        cases coherent.state.mpr shut.isClosed
      · exact iff_of_true ⟨same.state, same.saveMyself, same.sound⟩ (by simp [cancelled])

theorem leads_shut (shut : xsmp.standing.Shut) (leads : Leads xsmp world event.call after) :
    Coherent after ↔ FindsConnection xsmp event := by
  have isClosed : xsmp.connection = false := shut.isClosed
  have state : xsmp.state = .connectionClosed := shut.state
  have same : Coherent xsmp := coherent_iff.mpr (.inr shut)
  obtain ⟨eventWorld, call⟩ := event
  cases leads with
  | message callback isOpen => cases isClosed.symm.trans isOpen
  | ioError isOpen => cases isClosed.symm.trans isOpen
  | idle queued =>
      rw [runIdle_shut shut]
      simp [FindsConnection, isClosed, queued]
  | @saveStateReturned saved resume frames top =>
      have popped : { xsmp with frames := frames }.standing.Shut :=
        ⟨shut.isClosed, shut.state, shut.saveMyself, shut.sound⟩
      have finds : FindsConnection xsmp ⟨eventWorld, .saveStateReturned saved⟩ ↔
          resume ≠ .willQuit := by
        simp [FindsConnection, top, isClosed]
      rw [finds]
      cases resume with
      | doSaveYourself =>
          refine iff_of_true ?_ (by simp)
          rw [coherent_iff]
          exact .inr (goOn_shut (returned_shut popped))
      | willQuit =>
          refine iff_of_false (fun coherent => ?_) (by simp)
          have fault := @fault_goOn _ world rfl
            (@returned_fault { xsmp with frames := frames } saved isClosed)
          cases fault.symm.trans coherent.sound
  | setRestartCommand => exact iff_of_true ⟨same.state, same.saveMyself, same.sound⟩ trivial
  | willQuit =>
      refine iff_of_true ?_ trivial
      rw [coherent_iff, willQuit, state]
      dsimp only
      rw [standing_updatePendingEvents]
      exact .inr ⟨shut.isClosed, rfl, shut.saveMyself, shut.sound⟩
  | endSession =>
      refine iff_of_true ?_ trivial
      simpa [endSession, patchUp, state] using same

end EggSmClientXsmp

/-- The library from its start, with or without a session manager. -/
def librarySystem : System EggSmClientXsmp Event where
  initial xsmp := ∃ clientId opened, xsmp = .startup clientId opened
  step := EggSmClientXsmp.step

theorem coherent_startup (clientId opened : Option Bytes) :
    Coherent (.startup clientId opened) := by
  cases opened with
  | none => exact ⟨iff_of_true rfl rfl, fun waits => absurd waits Bool.false_ne_true, rfl⟩
  | some given =>
      exact ⟨⟨fun closed => absurd closed (by simp [EggSmClientXsmp.startup]), fun closed =>
        absurd closed (by simp [EggSmClientXsmp.startup])⟩, fun _ => rfl, rfl⟩

theorem coherent_step {xsmp after : EggSmClientXsmp} {event : Event} (coherent : Coherent xsmp)
    (stepped : xsmp.step event = some after) : Coherent after ↔ FindsConnection xsmp event := by
  obtain ⟨_, leads⟩ := leads_of_step stepped
  rcases coherent_iff.mp coherent with live | shut
  · exact iff_of_true (EggSmClientXsmp.leads_live live leads)
      (EggSmClientXsmp.findsConnection_of_open live.isOpen)
  · exact EggSmClientXsmp.leads_shut shut leads

/-- In a run of the library its state tells of the connection, and libSM is not
called without one, just when no notice of a cancelled shutdown is given and no
'save_state' returns to `sm_client_xsmp_will_quit` on a closed connection. -/
theorem coherent_iff_findsConnection {clientId opened : Option Bytes} {finish : EggSmClientXsmp}
    {events : List Event}
    (run : librarySystem.run (.startup clientId opened) events = some finish) :
    librarySystem.Always Coherent (.startup clientId opened) events ↔
      librarySystem.Meets FindsConnection (.startup clientId opened) events :=
  System.always_iff_meets (fun _ => True) Coherent (fun _ _ _ _ _ => trivial)
    (fun _ _ _ _ coherent stepped => coherent_step coherent stepped) run trivial
    (coherent_startup clientId opened)

/-- The connection is lost before the application hears of the cancelled shutdown. -/
def lostNotice : List Event :=
  [.message (.saveYourself smSaveGlobal true .any false), .message .interact,
    .message .shutdownCancelled, .willQuit true, .ioError, .idle].map fun call => ⟨editorWorld, call⟩

theorem lostNotice_coherent_iff :
    librarySystem.Always Coherent (.startup none (some (ascii "id"))) lostNotice ↔
      librarySystem.Meets FindsConnection (.startup none (some (ascii "id"))) lostNotice :=
  coherent_iff_findsConnection (Option.some_get (by rfl)).symm

end CafeSession.SmClient

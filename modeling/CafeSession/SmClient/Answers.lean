import CafeSession.SmClient.Effects

namespace CafeSession.SmClient

open CafeSession.Xsmp

namespace Standing

/-- The library is to write a SaveYourselfDone. -/
def Owes (standing : Standing) : Prop :=
  standing.state = .interactRequest ∨ standing.state = .interact ∨
    standing.waitingToSaveMyself = true ∨ ∃ resume, Frame.saving resume ∈ standing.frames

/-- It is to write one, has written one, or cannot write any. -/
def Answering (standing : Standing) : Prop :=
  standing.connection = false ∨ standing.Owes ∨ Answered.saveYourselfDone ∈ standing.answered

end Standing

namespace EggSmClientXsmp

variable {xsmp : EggSmClientXsmp} {world : World}

theorem send_answering {message : SmcMessage} (answering : xsmp.standing.Answering) :
    (xsmp.send message).standing.Answering := by
  cases isOpen : xsmp.connection with
  | false =>
      rw [standing_send_closed isOpen]
      exact .inl isOpen
  | true =>
      rw [standing_send_open isOpen]
      rcases answering with isClosed | owes | done
      · exact .inl isClosed
      · exact .inr (.inl owes)
      · exact .inr (.inr (List.mem_append_right _ done))

theorem saveYourselfDone_answering (success : Bool) :
    (xsmp.saveYourselfDone success).standing.Answering := by
  cases isOpen : xsmp.connection with
  | false =>
      left
      simp [saveYourselfDone, send, isOpen, standing]
  | true =>
      rw [standing_saveYourselfDone_open isOpen]
      exact .inr (.inr List.mem_cons_self)

theorem saveState_answering (resume : Resume) : (xsmp.saveState resume).standing.Answering :=
  .inr (.inl (.inr (.inr (.inr ⟨resume, List.mem_cons_self⟩))))

theorem doSaveYourself_answering : xsmp.doSaveYourself.standing.Answering := by
  unfold doSaveYourself
  split_ifs
  · rw [standing_updatePendingEvents]
    exact .inr (.inl (.inr (.inr (.inl rfl))))
  · exact send_answering (.inr (.inl (.inl rfl)))
  · exact send_answering (.inr (.inl (.inl rfl)))
  · exact saveState_answering _
  · exact saveYourselfDone_answering _

theorem saveStateReturned_answering (saved : SavedState) (resume : Resume) :
    (xsmp.saveStateReturned saved resume).standing.Answering := by
  unfold saveStateReturned
  cases resume with
  | willQuit => exact saveYourselfDone_answering _
  | doSaveYourself =>
      dsimp only
      split_ifs with isOpen
      · exact saveYourselfDone_answering _
      · exact .inl (Bool.eq_false_iff.mpr isOpen)

theorem willQuit_answering {quits : Bool} (answering : xsmp.standing.Answering) :
    (xsmp.willQuit quits).standing.Answering := by
  unfold willQuit
  split
  · rw [standing_updatePendingEvents]
    exact answering
  · rw [standing_updatePendingEvents]
    exact answering
  · dsimp only
    split_ifs
    · exact saveState_answering _
    · exact saveYourselfDone_answering _
  · exact answering

theorem disconnect_answering : xsmp.disconnect.standing.Answering := by
  cases isOpen : xsmp.connection with
  | false =>
      simp only [disconnect, isOpen]
      exact .inl isOpen
  | true =>
      rw [standing_disconnect isOpen]
      exact .inl rfl

theorem fixBrokenState_answering (sendInteractDone : Bool) :
    (xsmp.fixBrokenState sendInteractDone true).standing.Answering :=
  saveYourselfDone_answering _

theorem xsmpSaveYourself_answering (saveType : Int) (shutdown : Bool)
    (interactStyle : InteractStyle) (fast : Bool) :
    (xsmp.xsmpSaveYourself world saveType shutdown interactStyle fast).standing.Answering := by
  unfold xsmpSaveYourself
  split_ifs
  · exact fixBrokenState_answering _
  · dsimp only
    split_ifs
    · exact saveYourselfDone_answering _
    · exact doSaveYourself_answering

theorem xsmpInteract_answering : (xsmp.xsmpInteract world).standing.Answering := by
  unfold xsmpInteract quitRequested
  split_ifs
  · exact fixBrokenState_answering _
  · exact .inr (.inl (.inr (.inl rfl)))
  · exact willQuit_answering (.inr (.inl (.inr (.inl rfl))))

theorem idleDoPendingEvents_answering (answering : xsmp.standing.Answering)
    (told : xsmp.waitingToEmitQuit = false → xsmp.waitingToEmitQuitCancelled = true →
      xsmp.state = .shutdownCancelled) :
    xsmp.idleDoPendingEvents.standing.Answering := by
  simp only [idleDoPendingEvents]
  split_ifs with quit cancelled saves saves
  · exact answering
  · exact doSaveYourself_answering
  · -- Only what is held back by the state could be lost with it, and nothing is.
    rcases answering with isClosed | (asks | interacts | waits | saving) | done
    · exact .inl isClosed
    · cases (told (Bool.eq_false_iff.mpr quit) cancelled).symm.trans asks
    · cases (told (Bool.eq_false_iff.mpr quit) cancelled).symm.trans interacts
    · exact absurd waits saves
    · exact .inr (.inl (.inr (.inr (.inr saving))))
    · exact .inr (.inr done)
  · exact doSaveYourself_answering
  · exact answering

theorem awaitMessage_answering {requestConfirmation : Bool}
    (answering : xsmp.standing.Answering) :
    (xsmp.awaitMessage requestConfirmation).standing.Answering := by
  unfold awaitMessage
  split_ifs
  · rcases answering with isClosed | (asks | interacts | waits | ⟨resume, saving⟩) | done
    · exact .inl isClosed
    · exact .inr (.inl (.inl asks))
    · exact .inr (.inl (.inr (.inl interacts)))
    · exact .inr (.inl (.inr (.inr (.inl waits))))
    · exact .inr (.inl (.inr (.inr (.inr ⟨resume, List.mem_cons_of_mem _ saving⟩))))
    · exact .inr (.inr done)
  · exact answering

theorem patchUp_answering {requestConfirmation : Bool} (answering : xsmp.standing.Answering) :
    (xsmp.patchUp world requestConfirmation).standing.Answering := by
  unfold patchUp
  cases xsmp.state with
  | connectionClosed | interactRequest | interact | shutdownCancelled => exact answering
  | saveYourself => exact awaitMessage_answering (saveYourselfDone_answering _)
  | saveYourselfDone => exact awaitMessage_answering answering
  | idle => exact awaitMessage_answering (by rwa [standing_setMissingProperties])

theorem endSession_answering {requestConfirmation : Bool}
    (answering : xsmp.standing.Answering) :
    (xsmp.endSession world requestConfirmation).standing.Answering := by
  unfold endSession
  by_cases ready : xsmp.state = .idle ∧ xsmp.expectingInitialSaveYourself = false
  · rw [if_pos ready]
    exact send_answering answering
  rw [if_neg ready]
  split_ifs
  · exact answering
  · exact patchUp_answering answering

theorem goOn_answering (answering : xsmp.standing.Answering) :
    (xsmp.goOn world).standing.Answering := by
  unfold goOn
  split
  · rename_i requestConfirmation frames shape
    refine endSession_answering ?_
    rcases answering with isClosed | (asks | interacts | waits | ⟨resume, saving⟩) | done
    · exact .inl isClosed
    · exact .inr (.inl (.inl asks))
    · exact .inr (.inl (.inr (.inl interacts)))
    · exact .inr (.inl (.inr (.inr (.inl waits))))
    · refine .inr (.inl (.inr (.inr (.inr ⟨resume, ?_⟩))))
      simpa [standing, shape] using saving
    · exact .inr (.inr done)
  · exact answering

end EggSmClientXsmp

/-- Whether the session manager waits for a SaveYourselfDone once the message has
come, if `before` says so of the time before it. -/
def Callback.Waits (before : Prop) : Callback → Prop
  | .saveYourself .. => True
  | .saveComplete | .shutdownCancelled => False
  | .interact | .die => before

/-- The idle source tells the application of a cancelled shutdown while it still
is one. -/
def InTime (xsmp : EggSmClientXsmp) (event : Event) : Prop :=
  event.call = .idle → xsmp.idle = some .doPendingEvents → xsmp.waitingToEmitQuit = false →
    xsmp.waitingToEmitQuitCancelled = true → xsmp.state = .shutdownCancelled

namespace EggSmClientXsmp

variable {xsmp after : EggSmClientXsmp} {event : Event} {world : World}

theorem receive_answering {callback : Callback}
    (waits : callback.Waits xsmp.standing.Answering) :
    (xsmp.receive world callback).standing.Answering := by
  cases callback with
  | saveYourself saveType shutdown interactStyle fast => exact xsmpSaveYourself_answering _ _ _ _
  | interact => exact xsmpInteract_answering
  | saveComplete | shutdownCancelled => exact absurd waits id
  | die => exact disconnect_answering

theorem runIdle_answering {function : IdleFunction} (answering : xsmp.standing.Answering)
    (told : function = .doPendingEvents → xsmp.waitingToEmitQuit = false →
      xsmp.waitingToEmitQuitCancelled = true → xsmp.state = .shutdownCancelled) :
    (xsmp.runIdle world function).standing.Answering := by
  cases function with
  | setInitialProperties =>
      rw [runIdle, standing_setInitialProperties]
      exact answering
  | doPendingEvents => exact idleDoPendingEvents_answering answering (told rfl)

/-- A step of the library keeps an answer under way, unless what it reads ends
the save. -/
theorem step_answering (stepped : xsmp.step event = some after) (inTime : InTime xsmp event)
    (answering : match event.call with
      | .message callback => callback.Waits xsmp.standing.Answering
      | _ => xsmp.standing.Answering) :
    after.standing.Answering := by
  obtain ⟨world, call⟩ := event
  cases (leads_of_step stepped).2 with
  | message callback => exact goOn_answering (receive_answering answering)
  | ioError => exact goOn_answering disconnect_answering
  | idle queued =>
      exact runIdle_answering answering fun pending => inTime rfl (pending ▸ queued)
  | saveStateReturned saved => exact goOn_answering (saveStateReturned_answering saved _)
  | setRestartCommand argv => exact answering
  | willQuit quits => exact willQuit_answering answering
  | endSession requestConfirmation => exact endSession_answering answering

end EggSmClientXsmp

end CafeSession.SmClient

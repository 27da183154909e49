import CafeSession.SmClient.Connection

namespace CafeSession.SmClient

open CafeSession.Shell CafeSession.Xsmp

inductive Stage where
  | idle
  | asking
  | interacting
  | saving
  | answered
deriving DecidableEq, Repr

def Stage.state : Stage → XsmpState
  | .idle => .idle
  | .asking => .interactRequest
  | .interacting => .interact
  | .saving => .saveYourself
  | .answered => .saveYourselfDone

/-- No handler of 'save_state' runs. -/
def NoneSaving (frames : List Frame) : Prop :=
  ∀ resume, Frame.saving resume ∉ frames

/-- A handler of 'save_state' runs at its stage only, and what it called has
returned. -/
def Stage.Frames : Stage → List Frame → Prop
  | .saving, frames => ∃ resume rest, frames = .saving resume :: rest ∧ NoneSaving rest
  | _, frames => NoneSaving frames

theorem Stage.frames_iff {stage : Stage} {frames : List Frame} (apart : stage ≠ .saving) :
    stage.Frames frames ↔ NoneSaving frames := by
  cases stage with
  | saving => exact absurd rfl apart
  | idle | asking | interacting | answered => exact Iff.rfl

/-- The library has a connection, holds nothing back and has written `out`, newest
first. -/
structure Standing.Steady (standing : Standing) (out : List Answered) : Prop where
  isOpen : standing.connection = true
  quitCancelled : standing.waitingToEmitQuitCancelled = false
  saveMyself : standing.waitingToSaveMyself = false
  answered : standing.answered = out

structure Standing.At (standing : Standing) (stage : Stage) (out : List Answered) : Prop
    extends Standing.Steady standing out where
  state : standing.state = stage.state
  frames : stage.Frames standing.frames

/-- The stage that a SaveYourself leads to, and what is written. -/
inductive Begins : Stage → List Answered → Prop
  | asks : Begins .asking [.interactRequest]
  | saves : Begins .saving []
  | answers : Begins .answered [.saveYourselfDone]

/-- The stage after the interaction. -/
inductive Concludes : Stage → List Answered → Prop
  | saves : Concludes .saving []
  | answers : Concludes .answered [.saveYourselfDone]

namespace EggSmClientXsmp

variable {xsmp after : EggSmClientXsmp} {world : World} {stage : Stage} {out : List Answered}

theorem send_at {message : SmcMessage} (isAt : xsmp.standing.At stage out) :
    (xsmp.send message).standing.At stage (message.answered.toList ++ out) := by
  rw [standing_send_open isAt.isOpen]
  exact ⟨⟨isAt.isOpen, isAt.quitCancelled, isAt.saveMyself, by rw [isAt.answered]⟩, isAt.state,
    isAt.frames⟩

theorem saveYourselfDone_at {success : Bool} (steady : xsmp.standing.Steady out)
    (frames : NoneSaving xsmp.frames) :
    (xsmp.saveYourselfDone success).standing.At .answered (.saveYourselfDone :: out) := by
  rw [standing_saveYourselfDone_open steady.isOpen]
  exact ⟨⟨steady.isOpen, steady.quitCancelled, steady.saveMyself, by rw [steady.answered]⟩, rfl,
    frames⟩

theorem saveState_at {resume : Resume} (steady : xsmp.standing.Steady out)
    (frames : NoneSaving xsmp.frames) : (xsmp.saveState resume).standing.At .saving out :=
  ⟨⟨steady.isOpen, steady.quitCancelled, steady.saveMyself, steady.answered⟩, rfl,
    ⟨resume, _, rfl, frames⟩⟩

theorem doSaveYourself_at (isAt : xsmp.standing.At .idle []) :
    ∃ stage out, Begins stage out ∧ xsmp.doSaveYourself.standing.At stage out := by
  have running : ¬xsmp.state = .shutdownCancelled := by
    rw [show xsmp.state = .idle from isAt.state]
    decide
  unfold doSaveYourself
  rw [if_neg running]
  by_cases asks : xsmp.needQuitRequested = true
  · rw [if_pos asks]
    refine ⟨_, _, .asks, ?_⟩
    have moved : { xsmp with state := .interactRequest }.standing.At .asking [] :=
      ⟨⟨isAt.isOpen, isAt.quitCancelled, isAt.saveMyself, isAt.answered⟩, rfl, isAt.frames⟩
    exact send_at moved
  rw [if_neg asks]
  split_ifs
  · exact ⟨_, _, .saves, saveState_at isAt.toSteady isAt.frames⟩
  · exact ⟨_, _, .answers, saveYourselfDone_at isAt.toSteady isAt.frames⟩

theorem awaitMessage_at {requestConfirmation : Bool} (isAt : xsmp.standing.At stage out)
    (apart : stage ≠ .saving) :
    (xsmp.awaitMessage requestConfirmation).standing.At stage out := by
  unfold awaitMessage
  rw [if_pos (show xsmp.connection = true from isAt.isOpen)]
  refine ⟨⟨isAt.isOpen, isAt.quitCancelled, isAt.saveMyself, isAt.answered⟩, isAt.state, ?_⟩
  rw [Stage.frames_iff apart]
  intro resume member
  refine (Stage.frames_iff apart).mp isAt.frames resume ?_
  simpa [standing] using member

/-- What the library asks while it waits for a message is no part of an answer. -/
theorem endSession_at {requestConfirmation : Bool} (isAt : xsmp.standing.At stage out)
    (apart : stage ≠ .saving) :
    (xsmp.endSession world requestConfirmation).standing.At stage out := by
  have state : xsmp.state = stage.state := isAt.state
  unfold endSession
  by_cases ready : xsmp.state = .idle ∧ xsmp.expectingInitialSaveYourself = false
  · rw [if_pos ready]
    exact send_at isAt
  rw [if_neg ready]
  split_ifs
  · exact isAt
  · cases stage with
    | saving => exact absurd rfl apart
    | asking | interacting =>
        rw [patchUp, state]
        exact isAt
    | answered =>
        rw [patchUp, state]
        exact awaitMessage_at isAt apart
    | idle =>
        rw [patchUp, state]
        refine awaitMessage_at ?_ apart
        rwa [standing_setMissingProperties]

theorem goOn_at (isAt : xsmp.standing.At stage out) : (xsmp.goOn world).standing.At stage out := by
  unfold goOn
  split
  · rename_i requestConfirmation frames shape
    have apart : stage ≠ .saving := by
      rintro rfl
      obtain ⟨resume, rest, same, _⟩ := isAt.frames
      cases shape.symm.trans same
    refine endSession_at ?_ apart
    refine ⟨⟨isAt.isOpen, isAt.quitCancelled, isAt.saveMyself, isAt.answered⟩, isAt.state, ?_⟩
    have below := (Stage.frames_iff apart).mp isAt.frames
    rw [Stage.frames_iff apart]
    intro resume member
    refine below resume ?_
    simpa [standing, shape] using member
  · exact isAt

theorem xsmpSaveYourself_at {saveType : Int} {shutdown fast : Bool} {interactStyle : InteractStyle}
    (isAt : xsmp.standing.At .idle []) :
    ∃ stage out, Begins stage out ∧
      (xsmp.xsmpSaveYourself world saveType shutdown interactStyle fast).standing.At stage out := by
  have state : xsmp.state = .idle := isAt.state
  have ready : (xsmp.setMissingProperties world).standing.At .idle [] := by
    rwa [standing_setMissingProperties]
  unfold xsmpSaveYourself
  rw [if_neg (fun broken => broken.1 state)]
  dsimp only
  split_ifs
  · exact ⟨_, _, .answers, @saveYourselfDone_at _ _ _ ready.toSteady ready.frames⟩
  · exact doSaveYourself_at ready

theorem willQuit_at {quits : Bool} (isAt : xsmp.standing.At .interacting []) :
    ∃ stage out, Concludes stage out ∧ (xsmp.willQuit quits).standing.At stage out := by
  have state : xsmp.state = .interact := isAt.state
  have told := @send_at xsmp _ _ (.interactDone (!quits)) isAt
  have frames : NoneSaving (xsmp.send (.interactDone (!quits))).frames := told.frames
  unfold willQuit
  rw [state]
  dsimp only
  split_ifs
  · exact ⟨_, _, .saves, saveState_at told.toSteady frames⟩
  · exact ⟨_, _, .answers, saveYourselfDone_at told.toSteady frames⟩

/-- Elsewhere the call is refused. -/
theorem willQuit_apart {quits : Bool} (isAt : xsmp.standing.At stage out)
    (apart : stage ≠ .interacting) : xsmp.willQuit quits = xsmp := by
  have state : xsmp.state = stage.state := isAt.state
  unfold willQuit
  rw [state]
  cases stage with
  | interacting => exact absurd rfl apart
  | idle | asking | saving | answered => rfl

theorem xsmpInteract_at (isAt : xsmp.standing.At .asking []) :
    (xsmp.xsmpInteract world).standing.At .interacting [] ∨
      ∃ stage out, Concludes stage out ∧ (xsmp.xsmpInteract world).standing.At stage out := by
  have state : xsmp.state = .interactRequest := isAt.state
  have moved : { xsmp with state := .interact }.standing.At .interacting [] :=
    ⟨⟨isAt.isOpen, isAt.quitCancelled, isAt.saveMyself, isAt.answered⟩, rfl, isAt.frames⟩
  unfold xsmpInteract quitRequested
  rw [if_neg (not_not.mpr state)]
  split_ifs
  · exact .inl moved
  · exact .inr (willQuit_at moved)

theorem xsmpSaveComplete_at (isAt : xsmp.standing.At .answered []) :
    xsmp.xsmpSaveComplete.standing.At .idle [] := by
  have state : xsmp.state = .saveYourselfDone := isAt.state
  unfold xsmpSaveComplete
  rw [if_pos state]
  exact ⟨⟨isAt.isOpen, isAt.quitCancelled, isAt.saveMyself, isAt.answered⟩, rfl, isAt.frames⟩

theorem saveStateReturned_at {saved : SavedState} {resume : Resume}
    (steady : xsmp.standing.Steady out) (frames : NoneSaving xsmp.frames) :
    (xsmp.saveStateReturned saved resume).standing.At .answered (.saveYourselfDone :: out) := by
  have told : (xsmp.tellSaved saved).standing.Steady out := by
    rwa [standing_tellSaved]
  have same : NoneSaving (xsmp.tellSaved saved).frames := by
    rwa [show (xsmp.tellSaved saved).frames = xsmp.frames from
      congrArg Standing.frames (standing_tellSaved saved)]
  cases resume with
  | willQuit => exact saveYourselfDone_at told same
  | doSaveYourself =>
      unfold saveStateReturned
      dsimp only
      rw [if_pos (show (xsmp.tellSaved saved).connection = true from told.isOpen)]
      exact saveYourselfDone_at told same

theorem runIdle_at {function : IdleFunction} (isAt : xsmp.standing.At stage out) :
    (xsmp.runIdle world function).standing.At stage out := by
  have told : ¬xsmp.waitingToEmitQuitCancelled = true := by
    rw [show xsmp.waitingToEmitQuitCancelled = false from isAt.quitCancelled]
    decide
  have saved : ¬xsmp.waitingToSaveMyself = true := by
    rw [show xsmp.waitingToSaveMyself = false from isAt.saveMyself]
    decide
  cases function with
  | setInitialProperties =>
      rw [runIdle, standing_setInitialProperties]
      exact isAt
  | doPendingEvents =>
      simp only [runIdle, idleDoPendingEvents, if_neg told, if_neg saved]
      split_ifs
      · exact ⟨⟨isAt.isOpen, isAt.quitCancelled, isAt.saveMyself, isAt.answered⟩,
          isAt.state, isAt.frames⟩
      · exact isAt

end EggSmClientXsmp

/-- What a step that reads nothing can do to an open library. -/
inductive Proceeds : Stage → Stage → List Answered → Prop
  | stays (stage : Stage) : Proceeds stage stage []
  | concludes {stage : Stage} {out : List Answered} (concludes : Concludes stage out) :
      Proceeds .interacting stage out
  | saved : Proceeds .saving .answered [.saveYourselfDone]

/-- `egg_sm_client_end_session` is not called by a handler of 'save_state'. -/
def EndsApart (xsmp : EggSmClientXsmp) (event : Event) : Prop :=
  ∀ requestConfirmation, event.call = .endSession requestConfirmation → NoneSaving xsmp.frames

namespace EggSmClientXsmp

variable {xsmp after : EggSmClientXsmp} {event : Event} {stage : Stage}

theorem step_at (isAt : xsmp.standing.At stage []) (apart : EndsApart xsmp event)
    (reads : event.call.isMessage = false) (stepped : xsmp.step event = some after) :
    after.connection = false ∨
      ∃ next out, Proceeds stage next out ∧ after.standing.At next out := by
  obtain ⟨world, call⟩ := event
  cases (leads_of_step stepped).2 with
  | message => cases reads
  | ioError => exact .inl (by simp)
  | idle => exact .inr ⟨_, _, .stays stage, runIdle_at isAt⟩
  | @saveStateReturned saved resume frames top =>
      right
      cases stage with
      | idle | asking | interacting | answered =>
          refine absurd ?_ (isAt.frames resume)
          simp [standing, top]
      | saving =>
          obtain ⟨_, _, same, below⟩ := isAt.frames
          cases top.symm.trans same
          have popped : { xsmp with frames := frames }.standing.Steady [] :=
            ⟨isAt.isOpen, isAt.quitCancelled, isAt.saveMyself, isAt.answered⟩
          exact ⟨_, _, .saved, goOn_at (saveStateReturned_at popped below)⟩
  | setRestartCommand => exact .inr ⟨_, _, .stays stage, isAt⟩
  | willQuit =>
      right
      by_cases interacts : stage = .interacting
      · subst interacts
        obtain ⟨next, out, concludes, done⟩ := willQuit_at isAt
        exact ⟨next, out, .concludes concludes, done⟩
      · rw [willQuit_apart isAt interacts]
        exact ⟨_, _, .stays stage, isAt⟩
  | endSession requestConfirmation =>
      refine .inr ⟨_, _, .stays stage, endSession_at isAt ?_⟩
      rintro rfl
      obtain ⟨resume, rest, same, _⟩ := isAt.frames
      refine apart requestConfirmation rfl resume ?_
      rw [show xsmp.frames = _ from same]
      exact List.mem_cons_self

end EggSmClientXsmp

end CafeSession.SmClient

import CafeSession.SmClient.Stages
import CafeSession.SmClient.Unanswered

namespace CafeSession.SmClient

open CafeSession.Autostart CafeSession.Shell CafeSession.Transition CafeSession.Xsmp

/-- What a message to the library is in the exchange. -/
inductive Part where
  | saveYourself
  | interact
  | saveComplete
  | shutdownCancelled
deriving DecidableEq, Repr

def Callback.part : Callback → Option Part
  | .saveYourself .. => some .saveYourself
  | .interact => some .interact
  | .saveComplete => some .saveComplete
  | .shutdownCancelled => some .shutdownCancelled
  | .die => none

inductive Exchange where
  | rest
  /-- SaveYourself is on its way -/
  | asked
  /-- InteractRequest is on its way -/
  | asking
  /-- Interact is on its way -/
  | permitted
  | interacting
  | saving
  /-- SaveYourselfDone is on its way -/
  | answered
  /-- SaveComplete is on its way -/
  | completing
  /-- SaveComplete is on its way, and the next SaveYourself after it -/
  | askedAgain
deriving DecidableEq, Repr

namespace Exchange

def stage : Exchange → Stage
  | .rest | .asked => .idle
  | .asking | .permitted => .asking
  | .interacting => .interacting
  | .saving => .saving
  | .answered | .completing | .askedAgain => .answered

/-- The session manager waits for a SaveYourselfDone. -/
def busy : Exchange → Bool
  | .rest | .completing => false
  | _ => true

def down : Exchange → List Part
  | .asked => [.saveYourself]
  | .permitted => [.interact]
  | .completing => [.saveComplete]
  | .askedAgain => [.saveComplete, .saveYourself]
  | _ => []

def up : Exchange → List Answered
  | .asking => [.interactRequest]
  | .answered => [.saveYourselfDone]
  | _ => []

inductive Next : Exchange → Exchange → Prop
  | asks : Next .rest .asked
  | asksAgain : Next .completing .askedAgain
  | requests : Next .asked .asking
  | permits : Next .asking .permitted
  | interacts : Next .permitted .interacting
  | saves {exchange : Exchange} (from_ : exchange = .asked ∨ exchange = .permitted ∨
      exchange = .interacting) : Next exchange .saving
  | answers {exchange : Exchange} (from_ : exchange = .asked ∨ exchange = .permitted ∨
      exchange = .interacting ∨ exchange = .saving) : Next exchange .answered
  | completes : Next .answered .completing
  | rests : Next .completing .rest
  | restsAsked : Next .askedAgain .asked

end Exchange

def busySlot (save : SaveState) : Bool :=
  decide (save.currentSaveYourself ≠ noSave)

def parts (sent : List SmsMessage) : List Part :=
  (sent.filterMap callback).filterMap Callback.part

/-- An event that asks for a save or for nothing. -/
inductive Asks : Bool → Bool → List Part → Prop
  | stays (busy : Bool) : Asks busy busy []
  | asks : Asks false true [.saveYourself]

section Manager

variable {save after : SaveState} {event : Xsmp.Event} {sent : List SmsMessage} {saveType : Int}

theorem doSaveYourself_asks (slot : IsSlot saveType) (allowInteract : Bool) :
    Asks (busySlot save) (busySlot (save.doSaveYourself saveType allowInteract).1)
      (parts (save.doSaveYourself saveType allowInteract).2) := by
  unfold SaveState.doSaveYourself
  split_ifs with queued running
  · exact .stays _
  · exact .stays _
  · have empty : busySlot save = false := decide_eq_false running
    rw [empty]
    -- A save of the type -1 fills no slot, and libSM keeps it from the library.
    rcases slot with rfl | rfl | rfl | rfl
    · cases allowInteract <;> exact .stays false
    all_goals cases allowInteract <;> exact .asks

theorem replies_plain (replies : Replies save event after sent) (plain : isPlain event = true)
    (goesOn : event ≠ .cancelEndSession) (next : IsSlot save.nextSaveYourself) :
    Asks (busySlot save) (busySlot after) (parts sent) := by
  cases replies with
  | silent | lasts => exact .stays _
  | asks _ slot => exact doSaveYourself_asks slot _
  | cancels => exact absurd rfl goesOn
  | permits | answered => cases plain
  | queued =>
      unfold SaveState.doneFinished
      split_ifs
      · exact @doSaveYourself_asks { save with
            nextSaveYourself := noSave
            nextSaveYourselfAllowInteract := true } _ next _
      · exact .stays _

theorem replies_interactRequest (replies : Replies save .interactRequest after sent) :
    after = save ∧ parts sent = [.interact] := by
  cases replies with
  | silent plain | asks plain => cases plain
  | permits => exact ⟨rfl, rfl⟩

theorem replies_saveYourselfDone {success : Bool}
    (replies : Replies save (.saveYourselfDone success) after sent)
    (busy : busySlot save = true) : busySlot after = false ∧ parts sent = [.saveComplete] := by
  cases replies with
  | silent plain | asks plain => cases plain
  | answered =>
      unfold SaveState.doneReceived
      rw [if_pos (of_decide_eq_true busy)]
      exact ⟨rfl, rfl⟩

end Manager

/-- The dialogue is at the place of the exchange. -/
structure Dialogue.At (dialogue : Dialogue) (exchange : Exchange) : Prop where
  current : IsSlot dialogue.client.save.currentSaveYourself
  next : IsSlot dialogue.client.save.nextSaveYourself
  written : dialogue.client.sent = []
  busy : busySlot dialogue.client.save = exchange.busy
  stage : dialogue.library.standing.At exchange.stage []
  down : dialogue.down.filterMap Callback.part = exchange.down
  up : dialogue.up.filterMap SmcMessage.answered = exchange.up

/-- No shutdown is cancelled, no handler of 'save_state' ends the session, and
libSM refuses no part of the exchange. -/
def Dialogue.Orderly (dialogue : Dialogue) : Turn → Prop
  | .cancelEndSession => False
  | .managerRefuses => ∀ message ∈ dialogue.up.head?, message.answered = none
  | .libraryRefuses => ∀ callback ∈ dialogue.down.head?, callback.part = none
  | .libraryRuns event => EndsApart dialogue.library event
  | _ => True

/-- The dialogue has stayed at its place or gone on to the next. -/
def Dialogue.Proceeds (exchange : Exchange) (after : Dialogue) : Prop :=
  ∃ next, (next = exchange ∨ Exchange.Next exchange next) ∧ after.At next

namespace Dialogue

variable {dialogue before after : Dialogue} {exchange : Exchange} {turn : Turn}
variable {event : Xsmp.Event}

theorem asks_proceeds {before busy : Bool} {news : List Part} (asking : Asks before busy news)
    (same : exchange.busy = before) :
    ∃ next, (next = exchange ∨ Exchange.Next exchange next) ∧ next.busy = busy ∧
      next.down = exchange.down ++ news ∧ next.up = exchange.up ∧ next.stage = exchange.stage := by
  cases asking with
  | stays => exact ⟨exchange, .inl rfl, same, (List.append_nil _).symm, rfl, rfl⟩
  | asks =>
      cases exchange with
      | rest => exact ⟨.asked, .inr .asks, rfl, rfl, rfl, rfl⟩
      | completing => exact ⟨.askedAgain, .inr .asksAgain, rfl, rfl, rfl, rfl⟩
      | asked | asking | permitted | interacting | saving | answered | askedAgain => cases same

theorem At.manage_plain (isAt : dialogue.At exchange) (registered : AfterRegistration event)
    (plain : isPlain event = true) (goesOn : event ≠ .cancelEndSession)
    (stepped : dialogue.manage event = some after) : Dialogue.Proceeds exchange after := by
  obtain ⟨client, done, rfl⟩ := Option.map_eq_some_iff.mp stepped
  have keeps := client_step_keeps done registered isAt.written isAt.current isAt.next
  have asking := replies_plain (replies_of_step done registered isAt.written) plain goesOn isAt.next
  obtain ⟨next, goes, busy, down, up, stage⟩ := asks_proceeds asking isAt.busy.symm
  refine ⟨next, goes, keeps.current, keeps.next, rfl, busy.symm, ?_, ?_, isAt.up.trans up.symm⟩
  · rw [stage]
    exact isAt.stage
  · rw [down, ← isAt.down]
    exact List.filterMap_append

/-- The session manager reads the next part of the exchange, or something else. -/
theorem At.hear {message : SmcMessage} {later : List SmcMessage} (isAt : dialogue.At exchange)
    (reads : dialogue.up = message :: later)
    (stepped : { dialogue with up := later }.hear message = some after) :
    Dialogue.Proceeds exchange after := by
  have up := isAt.up
  rw [reads, List.filterMap_cons] at up
  cases message with
  | setProperties | deleteProperties =>
      simp only [Dialogue.hear] at stepped
      split_ifs at stepped
      cases stepped
      exact ⟨exchange, .inl rfl, isAt.current, isAt.next, isAt.written, isAt.busy, isAt.stage,
        isAt.down, up⟩
  | requestSaveYourself | interactDone =>
      have rest : { dialogue with up := later }.At exchange :=
        ⟨isAt.current, isAt.next, isAt.written, isAt.busy, isAt.stage, isAt.down, up⟩
      exact rest.manage_plain (by trivial) rfl (by simp) stepped
  | interactRequest =>
      obtain ⟨client, done, rfl⟩ := Option.map_eq_some_iff.mp stepped
      have keeps := client_step_keeps done trivial isAt.written isAt.current isAt.next
      obtain ⟨save, written⟩ :=
        replies_interactRequest (replies_of_step done trivial isAt.written)
      cases exchange with
      | asking =>
          refine ⟨.permitted, .inr .permits, keeps.current, keeps.next, rfl, ?_, isAt.stage, ?_, ?_⟩
          · exact (congrArg busySlot save).trans isAt.busy
          · have arrived := isAt.down
            simp only [fromManager, List.filterMap_append, arrived]
            exact written
          · exact (List.cons.inj up).2
      | answered | rest | asked | permitted | interacting | saving | completing | askedAgain =>
          cases up
  | saveYourselfDone success =>
      obtain ⟨client, done, rfl⟩ := Option.map_eq_some_iff.mp stepped
      have keeps := client_step_keeps done trivial isAt.written isAt.current isAt.next
      have replies := replies_of_step done trivial isAt.written
      cases exchange with
      | answered =>
          obtain ⟨busy, written⟩ := replies_saveYourselfDone replies isAt.busy
          refine ⟨.completing, .inr .completes, keeps.current, keeps.next, rfl, busy, isAt.stage,
            ?_, ?_⟩
          · have arrived := isAt.down
            simp only [fromManager, List.filterMap_append, arrived]
            exact written
          · exact (List.cons.inj up).2
      | asking | rest | asked | permitted | interacting | saving | completing | askedAgain =>
          cases up

theorem At.fromLibrary {library : EggSmClientXsmp} {next : Exchange} {out : List Answered}
    {down : List Callback} (isAt : dialogue.At exchange) (stage : library.standing.At next.stage out)
    (busy : next.busy = exchange.busy) (arrived : down.filterMap Callback.part = next.down)
    (up : next.up = exchange.up ++ out.reverse) :
    ({ dialogue with down := down }.fromLibrary library).At next := by
  refine ⟨isAt.current, isAt.next, isAt.written, isAt.busy.trans busy.symm, ?_, arrived, ?_⟩
  · exact ⟨⟨stage.isOpen, stage.quitCancelled, stage.saveMyself, rfl⟩, stage.state, stage.frames⟩
  · rw [up, ← isAt.up, ← stage.answered]
    simp only [Dialogue.fromLibrary, List.filterMap_append, List.filterMap_reverse]
    rfl

open EggSmClientXsmp in
theorem At.reads {callback : Callback} {later : List Callback} {world : World}
    (isAt : dialogue.At exchange) (reads : dialogue.down = callback :: later)
    (stepped : { dialogue with down := later }.runLibrary ⟨world, .message callback⟩ = some after) :
    after.library.connection = false ∨ Dialogue.Proceeds exchange after := by
  obtain ⟨library, done, rfl⟩ := Option.map_eq_some_iff.mp stepped
  have down := isAt.down
  rw [reads, List.filterMap_cons] at down
  have stage := isAt.stage
  cases (leads_of_step done).2 with
  | message _ isOpen =>
  cases callback with
  | die =>
      exact .inl ((connection_step done).trans (by simp [Call.closes]))
  | shutdownCancelled => cases exchange <;> cases down
  | saveYourself saveType shutdown interactStyle fast =>
      right
      cases exchange with
      | asked =>
          obtain ⟨next, out, begins, isNext⟩ := @xsmpSaveYourself_at _ world saveType shutdown fast
            interactStyle stage
          have arrived := (List.cons.inj down).2
          have settled := @goOn_at _ world _ _ isNext
          cases begins with
          | asks => exact ⟨.asking, .inr .requests, isAt.fromLibrary settled rfl arrived rfl⟩
          | saves => exact ⟨.saving, .inr (.saves (.inl rfl)), isAt.fromLibrary settled rfl arrived rfl⟩
          | answers =>
              exact ⟨.answered, .inr (.answers (.inl rfl)), isAt.fromLibrary settled rfl arrived rfl⟩
      | rest | asking | permitted | interacting | saving | answered | completing | askedAgain =>
          cases down
  | interact =>
      right
      cases exchange with
      | permitted =>
          have arrived := (List.cons.inj down).2
          rcases @xsmpInteract_at _ world stage with isNext | ⟨next, out, concludes, isNext⟩
          · exact ⟨.interacting, .inr .interacts,
              isAt.fromLibrary (@goOn_at _ world _ _ isNext) rfl arrived rfl⟩
          · have settled := @goOn_at _ world _ _ isNext
            cases concludes with
            | saves =>
                exact ⟨.saving, .inr (.saves (.inr (.inl rfl))),
                  isAt.fromLibrary settled rfl arrived rfl⟩
            | answers =>
                exact ⟨.answered, .inr (.answers (.inr (.inl rfl))),
                  isAt.fromLibrary settled rfl arrived rfl⟩
      | rest | asked | asking | interacting | saving | answered | completing | askedAgain =>
          cases down
  | saveComplete =>
      right
      have isNext {exchange : Exchange} (stage : dialogue.library.standing.At exchange.stage [])
          (answered : exchange.stage = .answered) :
          ((dialogue.library.receive world .saveComplete).goOn world).standing.At .idle [] := by
        rw [answered] at stage
        exact goOn_at (xsmpSaveComplete_at stage)
      cases exchange with
      | completing =>
          exact ⟨.rest, .inr .rests,
            isAt.fromLibrary (isNext stage rfl) rfl (List.cons.inj down).2 rfl⟩
      | askedAgain =>
          exact ⟨.asked, .inr .restsAsked,
            isAt.fromLibrary (isNext stage rfl) rfl (List.cons.inj down).2 rfl⟩
      | rest | asked | asking | permitted | interacting | saving | answered => cases down

theorem At.runs {event : Event} (isAt : dialogue.At exchange)
    (apart : EndsApart dialogue.library event) (reads : event.call.isMessage = false)
    (stepped : dialogue.runLibrary event = some after) :
    after.library.connection = false ∨ Dialogue.Proceeds exchange after := by
  obtain ⟨library, done, rfl⟩ := Option.map_eq_some_iff.mp stepped
  rcases EggSmClientXsmp.step_at isAt.stage apart reads done with isClosed | ⟨next, out, goes, isNext⟩
  · exact .inl isClosed
  have stays := @At.fromLibrary dialogue exchange library
  right
  revert goes
  generalize start : exchange.stage = stage
  intro goes
  cases goes with
  | stays =>
      exact ⟨exchange, .inl rfl, stays isAt (start ▸ isNext) rfl isAt.down (List.append_nil _).symm⟩
  | concludes concludes =>
      cases exchange with
      | interacting =>
          cases concludes with
          | saves =>
              exact ⟨.saving, .inr (.saves (.inr (.inr rfl))), stays isAt isNext rfl isAt.down rfl⟩
          | answers =>
              exact ⟨.answered, .inr (.answers (.inr (.inr (.inl rfl)))),
                stays isAt isNext rfl isAt.down rfl⟩
      | rest | asked | asking | permitted | saving | answered | completing | askedAgain => cases start
  | saved =>
      cases exchange with
      | saving =>
          exact ⟨.answered, .inr (.answers (.inr (.inr (.inr rfl)))),
            stays isAt isNext rfl isAt.down rfl⟩
      | rest | asked | asking | permitted | interacting | answered | completing | askedAgain =>
          cases start

/-- One turn of the dialogue. -/
theorem At.step (isAt : before.At exchange) (orderly : before.Orderly turn)
    (stepped : before.step turn = some after) :
    after.library.connection = false ∨ Dialogue.Proceeds exchange after := by
  cases turn with
  | queryEndSession | endSession | responseHandled =>
      exact .inr (isAt.manage_plain (by trivial) rfl (by simp) stepped)
  | cancelEndSession => exact absurd orderly id
  | stop =>
      right
      simp only [Dialogue.step, SaveState.stop] at stepped
      split_ifs at stepped
      · cases stepped
        exact ⟨exchange, .inl rfl, isAt⟩
      · cases stepped
        refine ⟨exchange, .inl rfl, isAt.current, isAt.next, rfl, isAt.busy, isAt.stage, ?_, isAt.up⟩
        rw [fromManager, reverse_write isAt.written, List.filterMap_append, isAt.down]
        exact List.append_nil _
  | managerReads =>
      cases up : before.up with
      | nil => simp [Dialogue.step, up] at stepped
      | cons message later =>
          simp only [Dialogue.step, up] at stepped
          exact .inr (isAt.hear up stepped)
  | managerRefuses =>
      cases up : before.up with
      | nil => simp [Dialogue.step, up] at stepped
      | cons message later =>
          simp only [Dialogue.step, up] at stepped
          split_ifs at stepped
          cases stepped
          have other := orderly message (by rw [up]; rfl)
          have same := isAt.up
          rw [up, List.filterMap_cons, other] at same
          exact .inr ⟨exchange, .inl rfl, isAt.current, isAt.next, isAt.written, isAt.busy,
            isAt.stage, isAt.down, same⟩
  | libraryReads world =>
      cases down : before.down with
      | nil => simp [Dialogue.step, down] at stepped
      | cons callback later =>
          simp only [Dialogue.step, down] at stepped
          exact isAt.reads down stepped
  | libraryRefuses =>
      cases down : before.down with
      | nil => simp [Dialogue.step, down] at stepped
      | cons callback later =>
          simp only [Dialogue.step, down] at stepped
          split_ifs at stepped
          cases stepped
          have other := orderly callback (by rw [down]; rfl)
          have same := isAt.down
          rw [down, List.filterMap_cons, other] at same
          exact .inr ⟨exchange, .inl rfl, isAt.current, isAt.next, isAt.written, isAt.busy,
            isAt.stage, same, isAt.up⟩
  | libraryRuns event =>
      simp only [Dialogue.step] at stepped
      split_ifs at stepped with reads
      exact isAt.runs orderly (Bool.eq_false_iff.mpr reads) stepped

theorem runLibrary_closed {event : Event} (isClosed : dialogue.library.connection = false)
    (stepped : dialogue.runLibrary event = some after) : after.library.connection = false := by
  obtain ⟨library, done, rfl⟩ := Option.map_eq_some_iff.mp stepped
  have connection := EggSmClientXsmp.connection_step done
  rw [isClosed, Bool.false_and] at connection
  exact connection

/-- The library does not connect again. -/
theorem step_closed (isClosed : before.library.connection = false)
    (stepped : before.step turn = some after) : after.library.connection = false := by
  cases turn with
  | queryEndSession | endSession | cancelEndSession | responseHandled =>
      rwa [manage_library stepped]
  | stop =>
      simp only [Dialogue.step, SaveState.stop] at stepped
      split_ifs at stepped <;> cases stepped <;> exact isClosed
  | managerReads =>
      cases up : before.up with
      | nil => simp [Dialogue.step, up] at stepped
      | cons message later =>
          simp only [Dialogue.step, up] at stepped
          rwa [hear_library stepped]
  | managerRefuses =>
      cases up : before.up with
      | nil => simp [Dialogue.step, up] at stepped
      | cons message later =>
          simp only [Dialogue.step, up] at stepped
          split_ifs at stepped
          cases stepped
          exact isClosed
  | libraryReads world =>
      cases down : before.down with
      | nil => simp [Dialogue.step, down] at stepped
      | cons callback later =>
          simp only [Dialogue.step, down] at stepped
          exact @runLibrary_closed { before with down := later } _ _ isClosed stepped
  | libraryRefuses =>
      cases down : before.down with
      | nil => simp [Dialogue.step, down] at stepped
      | cons callback later =>
          simp only [Dialogue.step, down] at stepped
          split_ifs at stepped
          cases stepped
          exact isClosed
  | libraryRuns event =>
      simp only [Dialogue.step] at stepped
      split_ifs at stepped
      exact runLibrary_closed isClosed stepped

theorem At.start (previousId id : String) (clientId : Option Bytes)
    (named : id ≠ "") : ∃ exchange, (Dialogue.start previousId id clientId).At exchange := by
  have stage : (EggSmClientXsmp.startup clientId (some (ascii id))).standing.At .idle [] :=
    ⟨⟨rfl, rfl, rfl, rfl⟩, rfl, by simp [Stage.Frames, NoneSaving, EggSmClientXsmp.standing,
      EggSmClientXsmp.startup, EggSmClientXsmp.init]⟩
  simp only [Dialogue.start, SaveState.registerClient, if_neg named]
  split_ifs
  · exact ⟨.asked, .inr (.inr (.inl rfl)), .inl rfl, rfl, rfl, stage, rfl, rfl⟩
  · exact ⟨.rest, .inl rfl, .inl rfl, rfl, rfl, stage, rfl, rfl⟩

/-- While the library has a connection, the dialogue is at a place of the exchange. -/
def OnCourse (dialogue : Dialogue) : Prop :=
  dialogue.library.connection = false ∨ ∃ exchange, dialogue.At exchange

theorem onCourse_reachable
    (reached : dialogueSystem.ReachableBy (fun before turn => before.Orderly turn) dialogue) :
    dialogue.OnCourse := by
  refine reached.invariant ?_ ?_
  · rintro state ⟨previousId, id, clientId, named, rfl⟩
    exact .inr (At.start previousId id clientId named)
  · rintro before turn after (isClosed | ⟨exchange, isAt⟩) orderly stepped
    · exact .inl (step_closed isClosed stepped)
    · rcases isAt.step orderly stepped with isClosed | ⟨next, _, isNext⟩
      · exact .inl isClosed
      · exact .inr ⟨next, isNext⟩

end Dialogue

/-- The state that the message finds the library in, as its callback expects. -/
def Callback.Expects : Callback → XsmpState → Prop
  | .saveYourself .., state => state = .idle
  | .interact, state => state = .interactRequest
  | .saveComplete, state => state = .saveYourselfDone
  | .shutdownCancelled, _ => False
  | .die, _ => True

/-- Each side finds the other where it expects it to be.  A SaveYourself has just
one SaveYourselfDone, which is to be written, is to come, or has been read. -/
structure Dialogue.InStep (dialogue : Dialogue) : Prop where
  library : ∀ callback ∈ dialogue.down.head?, callback.Expects dialogue.library.state
  manager : ∀ message ∈ dialogue.up.head?, message.answered = some .saveYourselfDone →
    dialogue.client.save.currentSaveYourself ≠ noSave
  balance : (dialogue.down.filterMap Callback.part).count .saveYourself +
      (dialogue.up.filterMap SmcMessage.answered).count .saveYourselfDone +
      (if dialogue.library.state = .interactRequest ∨ dialogue.library.state = .interact ∨
        dialogue.library.state = .saveYourself then 1 else 0) =
    if dialogue.client.save.currentSaveYourself = noSave then 0 else 1

namespace Dialogue

variable {dialogue : Dialogue} {exchange : Exchange}

theorem At.state (isAt : dialogue.At exchange) : dialogue.library.state = exchange.stage.state :=
  isAt.stage.state

theorem At.slot (isAt : dialogue.At exchange) :
    dialogue.client.save.currentSaveYourself ≠ noSave ↔ exchange.busy = true := by
  rw [← isAt.busy, busySlot, decide_eq_true_iff]

theorem At.expects (isAt : dialogue.At exchange) :
    ∀ callback ∈ dialogue.down.head?, callback.Expects dialogue.library.state := by
  intro callback first
  cases reads : dialogue.down with
  | nil => simp [reads] at first
  | cons next later =>
      rw [reads] at first
      obtain rfl := Option.some.inj first
      have down := isAt.down
      rw [reads, List.filterMap_cons] at down
      rw [isAt.state]
      cases next with
      | die => trivial
      | saveYourself | interact | saveComplete | shutdownCancelled =>
          cases exchange <;> first | cases down | rfl

theorem At.finds (isAt : dialogue.At exchange) :
    ∀ message ∈ dialogue.up.head?, message.answered = some .saveYourselfDone →
      dialogue.client.save.currentSaveYourself ≠ noSave := by
  intro message first done
  cases reads : dialogue.up with
  | nil => simp [reads] at first
  | cons next later =>
      rw [reads] at first
      obtain rfl := Option.some.inj first
      have up := isAt.up
      rw [reads, List.filterMap_cons, done] at up
      rw [isAt.slot]
      cases exchange <;> first | cases up | rfl

theorem At.inStep (isAt : dialogue.At exchange) : dialogue.InStep where
  library := isAt.expects
  manager := isAt.finds
  balance := by
    have slot : (if dialogue.client.save.currentSaveYourself = noSave then 0 else 1) =
        if exchange.busy then 1 else 0 := by
      cases busy : exchange.busy with
      | true => exact if_neg (isAt.slot.mpr busy)
      | false => exact if_pos (not_not.mp fun waits => by simp [isAt.slot.mp waits] at busy)
    rw [isAt.down, isAt.up, isAt.state, slot]
    cases exchange <;> rfl

end Dialogue

/-- In a dialogue where no shutdown is cancelled and no handler of 'save_state'
ends the session, the two sides keep step as long as they are connected. -/
theorem dialogue_inStep {dialogue : Dialogue}
    (reached : dialogueSystem.ReachableBy (fun before turn => before.Orderly turn) dialogue)
    (isOpen : dialogue.library.connection = true) : dialogue.InStep := by
  rcases Dialogue.onCourse_reachable reached with isClosed | ⟨exchange, isAt⟩
  · cases isClosed.symm.trans isOpen
  · exact isAt.inStep

/-- The initial save is answered; then the application is asked and agrees to quit. -/
def agreedLogout : List Turn :=
  [.libraryReads editorWorld, .managerReads, .managerReads, .responseHandled,
    .libraryReads editorWorld, .queryEndSession {}, .libraryReads editorWorld, .managerReads,
    .libraryReads editorWorld, .libraryRuns ⟨editorWorld, .willQuit true⟩]

theorem agreed_logout_inStep :
    ∃ dialogue, dialogueSystem.run (.start "" "id" none) agreedLogout = some dialogue ∧
      dialogue.InStep := by
  have ends : (dialogueSystem.run (.start "" "id" none) agreedLogout).map
      (fun dialogue => dialogue.library.connection) = some true := by
    decide +kernel
  obtain ⟨dialogue, run, isOpen⟩ := Option.map_eq_some_iff.mp ends
  have orderly : dialogueSystem.Meets (fun before turn => before.Orderly turn)
      (.start "" "id" none) agreedLogout := by
    refine System.meets_of_forall ?_
    simp [agreedLogout, Dialogue.Orderly, EndsApart]
  exact ⟨dialogue, run, dialogue_inStep
    (.of_run (.initial ⟨"", "id", none, by decide, rfl⟩) orderly run) isOpen⟩

end CafeSession.SmClient

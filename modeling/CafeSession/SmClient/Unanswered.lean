import CafeSession.SmClient.Dialogue

namespace CafeSession.SmClient

open CafeSession.Autostart CafeSession.Shell CafeSession.Transition CafeSession.Xsmp

/-- The types that a slot of the session manager holds. -/
def IsSlot (saveType : Int) : Prop :=
  saveType = noSave ∨ saveType = smSaveGlobal ∨ saveType = smSaveLocal ∨ saveType = smSaveBoth

/-- Whether the session manager waits once the messages have come. -/
def Waits (before : Prop) (down : List Callback) : Prop :=
  down.foldl (fun waits callback => callback.Waits waits) before

section Waits

variable {before after : Prop} {down later : List Callback}

theorem waits_append : Waits before (down ++ later) ↔ Waits (Waits before down) later := by
  unfold Waits
  rw [List.foldl_append]

theorem Waits.mono (implied : before → after) (waits : Waits before down) : Waits after down := by
  induction down generalizing before after with
  | nil => exact implied waits
  | cons callback down ih =>
      refine ih ?_ waits
      cases callback with
      | saveYourself => exact id
      | saveComplete | shutdownCancelled => exact id
      | interact | die => exact implied

/-- Either a SaveYourself is among the messages, or nothing has ended the wait. -/
theorem Waits.cases (waits : Waits before down) :
    before ∨ ∃ callback ∈ down, callback.isSaveYourself = true := by
  induction down generalizing before with
  | nil => exact .inl waits
  | cons callback down ih =>
      rcases ih waits with first | ⟨found, member, saves⟩
      · cases callback with
        | saveYourself => exact .inr ⟨_, List.mem_cons_self, rfl⟩
        | saveComplete | shutdownCancelled => exact absurd first id
        | interact | die => exact .inl first
      · exact .inr ⟨found, List.mem_cons_of_mem _ member, saves⟩

end Waits

namespace Dialogue

/-- The library is to answer, the answer is on its way, or there will be none. -/
def Answering (dialogue : Dialogue) : Prop :=
  dialogue.library.connection = false ∨ dialogue.library.standing.Owes ∨
    Answered.saveYourselfDone ∈ dialogue.up.filterMap SmcMessage.answered

structure Kept (dialogue : Dialogue) : Prop where
  current : IsSlot dialogue.client.save.currentSaveYourself
  next : IsSlot dialogue.client.save.nextSaveYourself
  written : dialogue.client.sent = []
  libraryWritten : dialogue.library.sent = []
  waits : dialogue.client.save.currentSaveYourself ≠ noSave →
    Waits dialogue.Answering dialogue.down

end Dialogue

/-- Calls that a dialogue makes on the client after its registration. -/
def AfterRegistration : Xsmp.Event → Prop
  | .registerClient .. | .saveYourselfPhase2Request => False
  | _ => True

/-- No callback that the exchange about a save goes through. -/
def isPlain : Xsmp.Event → Bool
  | .interactRequest | .saveYourselfDone _ => false
  | _ => true

/-- What becomes of the slots, and what is written, in an event of the dialogue. -/
inductive Replies (save : SaveState) : Xsmp.Event → SaveState → List SmsMessage → Prop
  | silent {event : Xsmp.Event} (plain : isPlain event = true) : Replies save event save []
  | asks {event : Xsmp.Event} {saveType : Int} {allowInteract : Bool}
      (plain : isPlain event = true) (slot : IsSlot saveType) :
      Replies save event (save.doSaveYourself saveType allowInteract).1
        (save.doSaveYourself saveType allowInteract).2
  | lasts (flags : EndSessionFlags) : Replies save (.endSession flags) save [.saveYourselfPhase2]
  | cancels :
      Replies save .cancelEndSession
        { save with
          currentSaveYourself := noSave
          nextSaveYourself := noSave
          nextSaveYourselfAllowInteract := false } [.shutdownCancelled]
  | permits : Replies save .interactRequest save [.interact]
  | answered (success : Bool) :
      Replies save (.saveYourselfDone success) save.doneReceived.1 save.doneReceived.2
  | queued : Replies save .responseHandled save.doneFinished.1 save.doneFinished.2

/-- A client that has waited waits on, or its slot is empty. -/
structure ClientKeeps (before : Int) (after : SaveState) (sent : List SmsMessage) : Prop where
  current : IsSlot after.currentSaveYourself
  next : IsSlot after.nextSaveYourself
  waits : ∀ waits : Prop, (before ≠ noSave → waits) →
    after.currentSaveYourself ≠ noSave → Waits waits (sent.filterMap callback)

section Client

variable {state : SaveState} {client after : Client} {event : Xsmp.Event} {saveType : Int}

theorem callback_message (slot : IsSlot saveType) (busy : saveType ≠ noSave)
    (allowInteract : Bool) :
    ∃ found, callback (SaveState.message saveType allowInteract) = some found ∧
      found.isSaveYourself = true := by
  unfold SaveState.message
  rcases slot with rfl | rfl | rfl | rfl
  · exact absurd rfl busy
  all_goals cases allowInteract <;> exact ⟨_, rfl, rfl⟩

theorem doSaveYourself_keeps (current : IsSlot state.currentSaveYourself)
    (next : IsSlot state.nextSaveYourself) (slot : IsSlot saveType) (allowInteract : Bool) :
    ClientKeeps state.currentSaveYourself (state.doSaveYourself saveType allowInteract).1
      (state.doSaveYourself saveType allowInteract).2 := by
  unfold SaveState.doSaveYourself
  split_ifs with queued running
  · exact ⟨current, next, fun _ waits busy => waits busy⟩
  · exact ⟨current, slot, fun _ waits busy => waits busy⟩
  · refine ⟨slot, .inl rfl, fun waits _ busy => ?_⟩
    obtain ⟨found, written, saves⟩ := callback_message slot busy allowInteract
    simp only [List.filterMap_cons, written, List.filterMap_nil]
    cases found <;> first | exact trivial | cases saves

theorem ClientKeeps.silent {before : Int} {after : SaveState}
    (current : IsSlot after.currentSaveYourself) (next : IsSlot after.nextSaveYourself)
    (idle : before = noSave → after.currentSaveYourself = noSave) :
    ClientKeeps before after [] :=
  ⟨current, next, fun _ waits busy => waits fun empty => busy (idle empty)⟩

theorem isSlot_queryRequest (flags : EndSessionFlags) : IsSlot (SaveState.queryRequest flags).1 :=
  .inr (.inl rfl)

theorem isSlot_endRequest (flags : EndSessionFlags) : IsSlot (SaveState.endRequest flags).1 := by
  unfold SaveState.endRequest
  dsimp only
  split_ifs
  · exact .inr (.inr (.inr rfl))
  · exact .inr (.inl rfl)

theorem reverse_write (clear : client.sent = []) (result : SaveState × List SmsMessage) :
    (client.write result).sent.reverse = result.2 := by
  simp [Client.write, clear]

/-- What a call of the dialogue does to the slots and writes. -/
theorem replies_of_step (stepped : client.step event = some after)
    (registered : AfterRegistration event) (clear : client.sent = []) :
    Replies client.save event after.save after.sent.reverse := by
  have asked (request : Request) : (client.ask request).sent = [] := clear
  cases event with
  | registerClient | saveYourselfPhase2Request => exact absurd registered id
  | queryEndSession flags =>
      simp only [Client.step, SaveState.queryEndSession] at stepped
      split_ifs at stepped
      · cases stepped
        rw [clear]
        exact .silent rfl
      · cases stepped
        rw [reverse_write (asked _)]
        exact .asks rfl (isSlot_queryRequest flags)
  | endSession flags =>
      simp only [Client.step, SaveState.endSession] at stepped
      cases lost : !client.save.conn with
      | true =>
          simp only [lost, if_true] at stepped
          cases stepped
          rw [clear]
          exact .silent rfl
      | false =>
          cases last : flags.last <;>
            simp only [lost, last, Bool.false_eq_true, if_false, if_true] at stepped <;>
            cases stepped
          · rw [reverse_write (asked _)]
            exact .asks rfl (isSlot_endRequest flags)
          · rw [reverse_write clear]
            exact .lasts flags
  | cancelEndSession =>
      simp only [Client.step, SaveState.cancelEndSession] at stepped
      split_ifs at stepped
      · cases stepped
        rw [clear]
        exact .silent rfl
      · cases stepped
        rw [reverse_write clear]
        exact .cancels
  | saveYourselfRequest shutdown global =>
      simp only [Client.step] at stepped
      split_ifs at stepped
      cases kind : SaveState.requestKind shutdown global <;> simp only [kind] at stepped <;>
        cases stepped
      · rw [clear]
        exact .silent rfl
      · rw [Client.request, reverse_write (asked _)]
        exact .asks rfl (.inr (.inr (.inl rfl)))
      · rw [clear]
        exact .silent rfl
  | interactRequest =>
      simp only [Client.step] at stepped
      split_ifs at stepped
      cases stepped
      rw [reverse_write clear]
      exact .permits
  | interactDone cancelShutdown =>
      simp only [Client.step] at stepped
      split_ifs at stepped
      cases stepped
      rw [clear]
      exact .silent rfl
  | saveYourselfDone success =>
      simp only [Client.step] at stepped
      split_ifs at stepped
      cases stepped
      change Replies client.save _ client.save.doneReceived.1 (client.write _).sent.reverse
      rw [reverse_write clear]
      exact .answered success
  | responseHandled =>
      simp only [Client.step] at stepped
      split_ifs at stepped
      cases stepped
      change Replies client.save _ client.save.doneFinished.1 (client.write _).sent.reverse
      rw [reverse_write clear]
      exact .queued

theorem doneReceived_empties (state : SaveState) :
    state.doneReceived.1.currentSaveYourself = noSave ∧
      state.doneReceived.1.nextSaveYourself = state.nextSaveYourself := by
  unfold SaveState.doneReceived
  split_ifs with busy
  · exact ⟨rfl, rfl⟩
  · exact ⟨not_not.mp busy, rfl⟩

theorem client_step_keeps (stepped : client.step event = some after)
    (registered : AfterRegistration event) (clear : client.sent = [])
    (current : IsSlot client.save.currentSaveYourself)
    (next : IsSlot client.save.nextSaveYourself) :
    ClientKeeps client.save.currentSaveYourself after.save after.sent.reverse := by
  have replies := replies_of_step stepped registered clear
  revert replies
  generalize after.save = left
  generalize after.sent.reverse = written
  intro replies
  cases replies with
  | silent => exact .silent current next id
  | asks _ slot => exact doSaveYourself_keeps current next slot _
  | lasts | permits => exact ⟨current, next, fun _ waits busy => waits busy⟩
  | cancels => exact ⟨.inl rfl, .inl rfl, fun _ _ busy => absurd rfl busy⟩
  | answered =>
      obtain ⟨empty, same⟩ := doneReceived_empties client.save
      exact ⟨.inl empty, by rwa [same], fun _ _ busy => absurd empty busy⟩
  | queued =>
      unfold SaveState.doneFinished
      split_ifs
      · exact @doSaveYourself_keeps { client.save with
            nextSaveYourself := noSave
            nextSaveYourselfAllowInteract := true } _ current (.inl rfl) next _
      · exact .silent current next id

end Client

/-- The condition on the library's part of a turn. -/
def Dialogue.InTime (dialogue : Dialogue) : Turn → Prop
  | .libraryRuns event => SmClient.InTime dialogue.library event
  | _ => True

namespace Dialogue

variable {dialogue before after : Dialogue} {event : Xsmp.Event} {turn : Turn}

theorem Kept.fromManager (kept : dialogue.Kept) {client : Client}
    (keeps : ClientKeeps dialogue.client.save.currentSaveYourself client.save
      client.sent.reverse) : (dialogue.fromManager client).Kept where
  current := keeps.current
  next := keeps.next
  written := rfl
  libraryWritten := kept.libraryWritten
  waits busy := waits_append.mpr (keeps.waits _ kept.waits busy)

theorem Kept.manage (kept : dialogue.Kept) (registered : AfterRegistration event)
    (stepped : dialogue.manage event = some after) : after.Kept := by
  obtain ⟨client, done, rfl⟩ := Option.map_eq_some_iff.mp stepped
  exact kept.fromManager
    (client_step_keeps done registered kept.written kept.current kept.next)

/-- A message that is no answer was not what the session manager waits for. -/
theorem Kept.read {message : SmcMessage} {later : List SmcMessage} (kept : dialogue.Kept)
    (reads : dialogue.up = message :: later)
    (other : message.answered = some .saveYourselfDone →
      dialogue.client.save.currentSaveYourself = noSave) :
    Kept { dialogue with up := later } := by
  refine ⟨kept.current, kept.next, kept.written, kept.libraryWritten, fun busy => ?_⟩
  refine (kept.waits busy).mono ?_
  rintro (isClosed | owes | done)
  · exact .inl isClosed
  · exact .inr (.inl owes)
  · right
    right
    obtain ⟨answer, member, isDone⟩ := List.mem_filterMap.mp done
    rw [reads] at member
    rcases List.mem_cons.mp member with rfl | member
    · exact absurd (other isDone) busy
    · exact List.mem_filterMap.mpr ⟨answer, member, isDone⟩

/-- The answer that the session manager reads empties its slot. -/
theorem Kept.answered {later : List SmcMessage} {success : Bool} (kept : dialogue.Kept)
    (stepped : { dialogue with up := later }.manage (.saveYourselfDone success) = some after) :
    after.Kept := by
  obtain ⟨client, done, rfl⟩ := Option.map_eq_some_iff.mp stepped
  have keeps := client_step_keeps done trivial kept.written kept.current kept.next
  have empty : client.save.currentSaveYourself = noSave := by
    simp only [Client.step] at done
    split_ifs at done
    cases done
    exact (doneReceived_empties _).1
  exact ⟨keeps.current, keeps.next, rfl, kept.libraryWritten, fun busy => absurd empty busy⟩

theorem Kept.hear {message : SmcMessage} {later : List SmcMessage} (kept : dialogue.Kept)
    (reads : dialogue.up = message :: later)
    (stepped : { dialogue with up := later }.hear message = some after) : after.Kept := by
  cases message with
  | setProperties | deleteProperties =>
      have rest := kept.read reads (by simp [SmcMessage.answered])
      simp only [Dialogue.hear] at stepped
      split_ifs at stepped
      cases stepped
      exact ⟨rest.current, rest.next, rest.written, rest.libraryWritten, rest.waits⟩
  | requestSaveYourself | interactRequest | interactDone =>
      exact (kept.read reads (by simp [SmcMessage.answered])).manage (by trivial) stepped
  | saveYourselfDone success => exact kept.answered stepped

theorem answering_fromLibrary {library : EggSmClientXsmp} (answering : library.standing.Answering) :
    (dialogue.fromLibrary library).Answering := by
  rcases answering with isClosed | owes | done
  · exact .inl isClosed
  · exact .inr (.inl owes)
  · right
    right
    simp only [Dialogue.fromLibrary, List.filterMap_append, List.filterMap_reverse]
    exact List.mem_append_right _ (List.mem_reverse.mpr done)

theorem Kept.runLibrary {event : Event} {down : List Callback} (kept : dialogue.Kept)
    (inTime : SmClient.InTime dialogue.library event)
    (waits : dialogue.client.save.currentSaveYourself ≠ noSave →
      Waits (match event.call with
        | .message callback => callback.Waits dialogue.Answering
        | _ => dialogue.Answering) down)
    (stepped : { dialogue with down := down }.runLibrary event = some after) : after.Kept := by
  obtain ⟨library, done, rfl⟩ := Option.map_eq_some_iff.mp stepped
  refine ⟨kept.current, kept.next, kept.written, rfl, fun busy => (waits busy).mono ?_⟩
  intro answering
  by_cases written : Answered.saveYourselfDone ∈ dialogue.up.filterMap SmcMessage.answered
  · right
    right
    simp only [Dialogue.fromLibrary, List.filterMap_append]
    exact List.mem_append_left _ written
  have own : dialogue.Answering → dialogue.library.standing.Answering := by
    rintro (isClosed | owes | up)
    · exact .inl isClosed
    · exact .inr (.inl owes)
    · exact absurd up written
  refine answering_fromLibrary (EggSmClientXsmp.step_answering done inTime ?_)
  cases call : event.call with
  | message callback =>
      simp only [call] at answering ⊢
      cases callback with
      | saveYourself => trivial
      | saveComplete | shutdownCancelled => exact answering
      | interact | die => exact own answering
  | ioError | idle | saveStateReturned | setRestartCommand | willQuit | endSession =>
      simp only [call] at answering ⊢
      exact own answering

/-- One turn of the dialogue. -/
theorem Kept.step (kept : before.Kept) (inTime : before.InTime turn)
    (stepped : before.step turn = some after) : after.Kept := by
  cases turn with
  | queryEndSession | endSession | cancelEndSession | responseHandled =>
      exact kept.manage (by trivial) stepped
  | stop =>
      simp only [Dialogue.step, SaveState.stop] at stepped
      split_ifs at stepped
      · cases stepped
        exact kept
      · cases stepped
        refine kept.fromManager ?_
        rw [reverse_write kept.written]
        exact ⟨kept.current, kept.next, fun _ waits busy => waits busy⟩
  | managerReads =>
      cases up : before.up with
      | nil => simp [Dialogue.step, up] at stepped
      | cons message later =>
          simp only [Dialogue.step, up] at stepped
          exact kept.hear up stepped
  | managerRefuses =>
      cases up : before.up with
      | nil => simp [Dialogue.step, up] at stepped
      | cons message later =>
          simp only [Dialogue.step, up] at stepped
          split_ifs at stepped with busy
          cases stepped
          exact kept.read up fun isDone => not_not.mp fun slot => busy ⟨isDone, slot⟩
  | libraryReads world =>
      cases down : before.down with
      | nil => simp [Dialogue.step, down] at stepped
      | cons callback later =>
          simp only [Dialogue.step, down] at stepped
          refine kept.runLibrary (by simp [SmClient.InTime]) (fun busy => ?_) stepped
          have waits := kept.waits busy
          rwa [down] at waits
  | libraryRefuses =>
      cases down : before.down with
      | nil => simp [Dialogue.step, down] at stepped
      | cons callback later =>
          simp only [Dialogue.step, down] at stepped
          split_ifs at stepped with saves
          cases stepped
          refine ⟨kept.current, kept.next, kept.written, kept.libraryWritten, fun busy => ?_⟩
          have waits := kept.waits busy
          rw [down] at waits
          refine Waits.mono ?_ waits
          cases callback with
          | saveYourself => exact absurd rfl saves
          | saveComplete | shutdownCancelled => exact False.elim
          | interact | die => exact id
  | libraryRuns event =>
      simp only [Dialogue.step] at stepped
      split_ifs at stepped with reads
      refine kept.runLibrary inTime (fun busy => ?_) stepped
      cases call : event.call with
      | message => simp [call, Call.isMessage] at reads
      | ioError | idle | saveStateReturned | setRestartCommand | willQuit | endSession =>
          exact kept.waits busy

theorem Kept.start (previousId id : String) (clientId : Option Bytes) :
    (Dialogue.start previousId id clientId).Kept := by
  simp only [Dialogue.start, SaveState.registerClient]
  split_ifs
  · exact ⟨.inl rfl, .inl rfl, rfl, rfl, fun busy => absurd rfl busy⟩
  · exact ⟨.inr (.inr (.inl rfl)), .inl rfl, rfl, rfl, fun _ => trivial⟩
  · exact ⟨.inl rfl, .inl rfl, rfl, rfl, fun busy => absurd rfl busy⟩

theorem kept_reachable
    (reached : dialogueSystem.ReachableBy (fun before turn => before.InTime turn) dialogue) :
    dialogue.Kept := by
  refine reached.invariant ?_ fun _ _ _ kept inTime stepped => kept.step inTime stepped
  rintro state ⟨previousId, id, clientId, _, rfl⟩
  exact Kept.start previousId id clientId

end Dialogue

/-- As long as the session manager holds a save to be unanswered, and the library
has not lost the connection, the SaveYourself is on its way, the library is to
answer it, or the answer is on its way. -/
theorem save_underway {dialogue : Dialogue}
    (reached : dialogueSystem.ReachableBy (fun before turn => before.InTime turn) dialogue)
    (busy : dialogue.client.save.currentSaveYourself ≠ noSave)
    (isOpen : dialogue.library.connection = true) :
    (∃ callback ∈ dialogue.down, callback.isSaveYourself = true) ∨
      dialogue.library.standing.Owes ∨
        Answered.saveYourselfDone ∈ dialogue.up.filterMap SmcMessage.answered := by
  rcases ((Dialogue.kept_reachable reached).waits busy).cases with (isClosed | answer) | down
  · rw [isOpen] at isClosed
    cases isClosed
  · exact .inr answer
  · exact .inl down

/-- A shutdown is cancelled while the application interacts. -/
def cancelledSave : List Turn :=
  [.queryEndSession {}, .libraryReads editorWorld, .managerReads, .managerReads,
    .libraryReads editorWorld, .cancelEndSession, .libraryReads editorWorld,
    .libraryRuns ⟨editorWorld, .willQuit true⟩]

/-- Its notice is given before the client is asked again. -/
def askedAgain : List Turn :=
  cancelledSave ++ [.libraryRuns ⟨editorWorld, .idle⟩, .queryEndSession {}]

theorem asked_again_underway :
    ∃ dialogue, dialogueSystem.run (.start "id" "id" (some (ascii "id"))) askedAgain =
        some dialogue ∧
      ((∃ callback ∈ dialogue.down, callback.isSaveYourself = true) ∨
        dialogue.library.standing.Owes ∨
          Answered.saveYourselfDone ∈ dialogue.up.filterMap SmcMessage.answered) := by
  have ends : (dialogueSystem.run (.start "id" "id" (some (ascii "id"))) askedAgain).map
      (fun dialogue => (dialogue.client.save.currentSaveYourself, dialogue.library.connection)) =
      some (smSaveGlobal, true) := by
    decide +kernel
  have cancels : (dialogueSystem.run (.start "id" "id" (some (ascii "id"))) cancelledSave).map
      (fun dialogue => dialogue.library.state) = some .shutdownCancelled := by
    decide +kernel
  obtain ⟨dialogue, run, same⟩ := Option.map_eq_some_iff.mp ends
  obtain ⟨cancelled, first, state⟩ := Option.map_eq_some_iff.mp cancels
  obtain ⟨_, alsoFirst, later⟩ := System.run_append_some run
  cases first.symm.trans alsoFirst
  have early : dialogueSystem.Meets (fun before turn => before.InTime turn)
      (.start "id" "id" (some (ascii "id"))) cancelledSave := by
    refine System.meets_of_forall ?_
    simp [cancelledSave, Dialogue.InTime, InTime]
  have inTime : dialogueSystem.Meets (fun before turn => before.InTime turn) cancelled
      [.libraryRuns ⟨editorWorld, .idle⟩, .queryEndSession {}] :=
    ⟨fun _ _ _ _ => state, fun _ _ => ⟨trivial, fun _ _ => trivial⟩⟩
  have reached : dialogueSystem.ReachableBy (fun before turn => before.InTime turn) dialogue :=
    .of_run (.of_run (.initial ⟨"id", "id", _, by decide, rfl⟩) early first) inTime later
  have busy : dialogue.client.save.currentSaveYourself ≠ noSave := by
    rw [(Prod.mk.inj same).1]
    decide
  exact ⟨dialogue, run, save_underway reached busy (Prod.mk.inj same).2⟩

/-- A save is cancelled and asked for again.  The answer to the first is taken
for that of the second, and the third finds the application interacting when the
notice of the cancelled shutdown puts the library back to IDLE. -/
def lateNotice : List Turn :=
  [.queryEndSession {}, .libraryReads editorWorld, .managerReads, .managerReads,
    .libraryReads editorWorld, .cancelEndSession, .libraryReads editorWorld,
    .libraryRuns ⟨editorWorld, .willQuit true⟩, .queryEndSession {}, .managerReads,
    .responseHandled, .queryEndSession {}, .libraryReads editorWorld, .libraryReads editorWorld,
    .libraryReads editorWorld, .managerReads, .libraryReads editorWorld,
    .libraryRuns ⟨editorWorld, .idle⟩]

example :
    (dialogueSystem.run (.start "id" "id" (some (ascii "id"))) lateNotice).map
      (fun dialogue => (dialogue.client.save.currentSaveYourself, dialogue.down,
        dialogue.library.state, dialogue.library.waitingToSaveMyself, dialogue.library.frames,
        dialogue.up)) =
      some (smSaveGlobal, [], .idle, false, [], []) := by
  rfl

end CafeSession.SmClient

import CafeSession.Manager.Reach

namespace CafeSession.Manager

open CafeSession.Xsmp

def Effect.endsPhase : Effect → Bool
  | .phaseEnded _ => true
  | _ => false

/-- No phase ends in the record. -/
def Quiet (news : List Effect) : Prop :=
  ∀ effect ∈ news, effect.endsPhase = false

instance (news : List Effect) : Decidable (Quiet news) :=
  inferInstanceAs (Decidable (∀ effect ∈ news, effect.endsPhase = false))

theorem Quiet.append {first second : List Effect} (earlier : Quiet second) (later : Quiet first) :
    Quiet (first ++ second) := by
  intro effect member
  rcases List.mem_append.mp member with new | old
  · exact later effect new
  · exact earlier effect old

/-- A record splits in one way at the phase that has ended last. -/
theorem Quiet.split_unique {first second older oldest : List Effect} {one other : PhaseEnd}
    (quiet : Quiet first) (alsoQuiet : Quiet second)
    (same : first ++ .phaseEnded one :: older = second ++ .phaseEnded other :: oldest) :
    first = second ∧ one = other ∧ older = oldest := by
  induction first generalizing second with
  | nil =>
      cases second with
      | nil =>
          obtain ⟨head, tail⟩ := List.cons.inj same
          exact ⟨rfl, Effect.phaseEnded.inj head, tail⟩
      | cons effect rest =>
          obtain ⟨head, -⟩ := List.cons.inj same
          exact absurd (alsoQuiet effect List.mem_cons_self) (by simp [← head, Effect.endsPhase])
  | cons effect rest ih =>
      cases second with
      | nil =>
          obtain ⟨head, -⟩ := List.cons.inj same
          exact absurd (quiet effect List.mem_cons_self) (by simp [head, Effect.endsPhase])
      | cons next left =>
          obtain ⟨rfl, tail⟩ := List.cons.inj same
          obtain ⟨rfl, equal, rest⟩ := ih (fun one member => quiet one (.tail _ member))
            (fun one member => alsoQuiet one (.tail _ member)) tail
          exact ⟨rfl, equal, rest⟩

namespace Client

def nextSave (client : Client) : Int :=
  match client.transport with
  | .dbus _ => noSave
  | .xsmp save .. => save.nextSaveYourself

def currentSave (client : Client) : Int :=
  match client.transport with
  | .dbus _ => noSave
  | .xsmp save .. => save.currentSaveYourself

/-- The client can be written to. -/
def hasConnection (client : Client) : Bool :=
  match client.transport with
  | .dbus _ => true
  | .xsmp save .. => save.conn

/-- The client owes only answers to requests that end the session, and has no
save queued. -/
structure Ending (client : Client) : Prop where
  requests : ∀ request ∈ client.unanswered, request.endsSession = true
  unqueued : client.nextSave = noSave

/-- A change that neither gives a client that is ending a request nor takes one. -/
structure Keeps (update : Client → Client) (client : Client) : Prop where
  id : (update client).id = client.id
  connection : (update client).hasConnection = client.hasConnection
  unanswered : client.Ending → (update client).unanswered = client.unanswered
  unqueued : client.Ending → (update client).nextSave = noSave

/-- A change that comes with the client's answer to its oldest request. -/
structure Answers (update : Client → Client) (client : Client) : Prop where
  id : (update client).id = client.id
  connection : (update client).hasConnection = client.hasConnection
  owes : client.Ending → client.unanswered ≠ []
  unanswered : client.Ending → (update client).unanswered = client.unanswered.tail
  unqueued : client.Ending → (update client).nextSave = noSave

theorem Keeps.of_eq {update : Client → Client} {client : Client} (same : update client = client) :
    client.Keeps update := by
  constructor <;> rw [same]
  · exact fun _ => rfl
  · exact Ending.unqueued

theorem keeps_stop (client : Client) : client.Keeps (State.told stop) := by
  refine .of_eq ?_
  obtain ⟨id, transport, startupId, appId, unanswered⟩ := client
  cases transport with
  | dbus name => rfl
  | xsmp save queued handlers connected =>
      cases registered : save.conn <;> simp [State.told, stop, SaveState.stop, registered, Except.map]

theorem keeps_disconnect (client : Client) : client.Keeps State.disconnect := by
  obtain ⟨id, transport, startupId, appId, unanswered⟩ := client
  cases transport <;> exact ⟨rfl, rfl, fun _ => rfl, Ending.unqueued⟩

/-- A call on the slots that leaves what is queued, and makes no request. -/
structure Unrequesting (call : SaveState → SaveState × List SmsMessage) : Prop where
  conn : ∀ save, (call save).1.conn = save.conn
  queued : ∀ save, (call save).1.nextSaveYourself = save.nextSaveYourself
  messages : ∀ save, (call save).2.any isRequest = false

theorem unrequesting_done : Unrequesting SaveState.doneReceived := by
  constructor <;> intro save <;> unfold SaveState.doneReceived <;> split_ifs <;> rfl

theorem unrequesting_phase2 : Unrequesting fun save => (save.phase2Requested, []) :=
  ⟨fun _ => rfl, fun _ => rfl, fun _ => rfl⟩

theorem unrequesting_interact : Unrequesting fun save => (save, [.interact]) :=
  ⟨fun _ => rfl, fun _ => rfl, fun _ => rfl⟩

theorem keeps_saveCall {call : SaveState → SaveState × List SmsMessage} (quiet : Unrequesting call)
    (client : Client) : client.Keeps (State.told (saveCall .save call)) := by
  obtain ⟨id, transport, startupId, appId, unanswered⟩ := client
  cases transport with
  | dbus name => exact .of_eq rfl
  | xsmp save queued handlers connected =>
      have conn := quiet.conn save
      have next := quiet.queued save
      have messages := quiet.messages save
      constructor <;>
        simp only [State.told, saveCall, written, messages, Bool.false_eq_true, if_false,
          hasConnection, nextSave, conn, next]
      · exact fun _ => trivial
      · exact Ending.unqueued

theorem conn_doneFinished (save : SaveState) : save.doneFinished.1.conn = save.conn := by
  unfold SaveState.doneFinished SaveState.doSaveYourself
  split_ifs <;> rfl

theorem doneFinished_unqueued {save : SaveState} (unqueued : save.nextSaveYourself = noSave) :
    save.doneFinished.1.nextSaveYourself = noSave ∧ save.doneFinished.2.any isRequest = false := by
  have other : noSave ≠ 0 := by decide
  have bogus : ∀ allow, isRequest (SaveState.message noSave allow) = false := by decide
  unfold SaveState.doneFinished SaveState.doSaveYourself
  rw [unqueued, if_pos other]
  dsimp only
  rw [if_neg (not_not.mpr rfl)]
  split_ifs
  · exact ⟨rfl, rfl⟩
  · exact ⟨rfl, by simp [bogus]⟩

theorem keeps_doneFinished (client : Client) : client.Keeps (State.told doneFinished) := by
  obtain ⟨id, transport, startupId, appId, unanswered⟩ := client
  cases transport with
  | dbus name => exact .of_eq rfl
  | xsmp save queued handlers connected =>
      refine ⟨rfl, conn_doneFinished save, fun ending => ?_, fun ending => ?_⟩
      · have silent := (@doneFinished_unqueued save ending.unqueued).2
        simp [State.told, doneFinished, silent]
      · exact (@doneFinished_unqueued save ending.unqueued).1

theorem answers_answered {client : Client} (owes : client.unanswered ≠ []) :
    client.Answers answered where
  id := rfl
  connection := rfl
  owes _ := owes
  unanswered _ := rfl
  unqueued := Ending.unqueued

theorem answers_saveCall {call : SaveState → SaveState × List SmsMessage}
    (quiet : Unrequesting call) {client : Client} (owes : client.unanswered ≠ []) :
    client.Answers (fun one => (State.told (saveCall .save call) one).answered) where
  id := (keeps_saveCall quiet client).id
  connection := (keeps_saveCall quiet client).connection
  owes _ := owes
  unanswered ending := congrArg List.tail ((keeps_saveCall quiet client).unanswered ending)
  unqueued := (keeps_saveCall quiet client).unqueued

end Client

namespace State

/-- Neither the clients nor what is waited for changes. -/
structure Still (before after : State) : Prop where
  clients : after.clients = before.clients
  phase : after.phase = before.phase
  queryClients : after.queryClients = before.queryClients
  nextQueryClients : after.nextQueryClients = before.nextQueryClients
  clientSerial : after.clientSerial = before.clientSerial
  log : ∃ news, Quiet news ∧ after.log = news ++ before.log

/-- No client is new. -/
structure Fewer (before after : State) : Prop where
  ids : after.clientIds.Sublist before.clientIds
  serial : after.clientSerial = before.clientSerial

/-- The end-session phase has timed out. -/
def TimedOut (log : List Effect) : Prop :=
  log.head? = some (.phaseTimedOut .endSession)

/-- An inhibit dialog has been accepted. -/
def Accepted (log : List Effect) : Prop :=
  ∃ action, log.head? = some (.inhibitDialogAnswered action .accept)

def Excused (log : List Effect) : Prop := TimedOut log ∨ Accepted log

/-- Nobody is waited for or is to be asked, or there is an excuse. -/
def Finished (state : State) : Prop :=
  state.queryClients = [] ∧ state.nextQueryClients = [] ∨ state.clients = [] ∨ Excused state.log

end State

open State in
inductive Move (world : World) : State → State → Prop
  | refl (state : State) : Move world state state
  | trans {before middle after : State} (first : Move world before middle)
      (second : Move world middle after) : Move world before after
  | outside {before after : State} (fewer : before.Fewer after)
      (other : after.phase ≠ .endSession)
      (phase : after.phase = before.phase ∨ after.phase = .running)
      (exits : after.phase = .exit → ∃ news, Quiet news ∧ after.log = news ++ before.log) :
      Move world before after
  | still {before after : State} (ending : before.phase = .endSession)
      (same : before.Still after) : Move world before after
  | touched {before after : State} {id : Nat} {update : Client → Client}
      (ending : before.phase = .endSession)
      (keeps : ∀ client ∈ before.clients, client.id = id → client.Keeps update)
      (same : (before.updateClient id update).Still after) : Move world before after
  | answered {before after : State} {id : Nat} {update : Client → Client}
      (ending : before.phase = .endSession)
      (answers : ∀ client ∈ before.clients, client.id = id → client.Answers update)
      (same : Still { before.updateClient id update with
        queryClients := before.queryClients.erase id } after) : Move world before after
  | deferred {before : State} (ending : before.phase = .endSession) (id : Nat) :
      Move world before { before with nextQueryClients := id :: before.nextQueryClients }
  | lastAsked {before : State} (ending : before.phase = .endSession)
      (nobody : before.queryClients = []) (some_ : before.nextQueryClients ≠ []) :
      Move world before (before.doPhaseEndSessionPart2 world)
  | removed {before : State} (ending : before.phase = .endSession) (id : Nat) :
      Move world before (before.removeClient id)
  | joined (before : State) : Move world before before.acceptXsmpConnection
  | entered {before : State} (query : before.phase = .queryEndSession) :
      Move world before (before.endPhase world)
  | left {before : State} (ending : before.phase = .endSession) (finished : before.Finished) :
      Move world before (before.endPhase world)

namespace State

variable {world : World} {before after state : State}

theorem Fewer.of_eq (ids : after.clientIds = before.clientIds)
    (serial : after.clientSerial = before.clientSerial) : before.Fewer after :=
  ⟨ids ▸ List.Sublist.refl _, serial⟩

theorem Fewer.trans {middle : State} (first : before.Fewer middle) (second : middle.Fewer after) :
    before.Fewer after :=
  ⟨second.ids.trans first.ids, second.serial.trans first.serial⟩

namespace Still

theorem refl (state : State) : state.Still state :=
  ⟨rfl, rfl, rfl, rfl, rfl, [], nofun, rfl⟩

theorem trans {middle : State} (first : before.Still middle) (second : middle.Still after) :
    before.Still after where
  clients := second.clients.trans first.clients
  phase := second.phase.trans first.phase
  queryClients := second.queryClients.trans first.queryClients
  nextQueryClients := second.nextQueryClients.trans first.nextQueryClients
  clientSerial := second.clientSerial.trans first.clientSerial
  log := by
    obtain ⟨earlier, quiet, logged⟩ := first.log
    obtain ⟨later, laterQuiet, laterLogged⟩ := second.log
    exact ⟨later ++ earlier, quiet.append laterQuiet, by rw [laterLogged, logged, List.append_assoc]⟩

theorem clientIds (same : before.Still after) : after.clientIds = before.clientIds :=
  congrArg (List.map Client.id) same.clients

theorem fewer (same : before.Still after) : before.Fewer after :=
  .of_eq same.clientIds same.clientSerial

theorem move (same : before.Still after) : Move world before after := by
  by_cases ending : before.phase = .endSession
  · exact .still ending same
  · have other : after.phase ≠ .endSession := fun ends => ending (same.phase.symm.trans ends)
    exact .outside same.fewer other (.inl same.phase) fun _ => same.log

end Still

theorem still_emit {effect : Effect} (quiet : effect.endsPhase = false) :
    state.Still (state.emit effect) :=
  ⟨rfl, rfl, rfl, rfl, rfl, [effect], by simpa [Quiet] using quiet, rfl⟩

theorem still_dropInhibitors (matching : Inhibitor → Bool) :
    state.Still (state.dropInhibitors matching) := by
  unfold dropInhibitors
  split_ifs
  · exact { Still.refl state with }
  · exact .refl state

theorem still_openInhibitDialog (action : LogoutAction) :
    state.Still (state.openInhibitDialog action) := by
  unfold openInhibitDialog
  split
  · exact .refl state
  · have opened : state.Still { state with inhibitDialog := some action } :=
      { Still.refl state with }
    exact opened.trans (still_emit rfl)

theorem still_managerSwitchUser : state.Still (state.managerSwitchUser world) := by
  unfold managerSwitchUser
  split_ifs
  · exact .refl state
  · exact still_emit rfl

theorem still_restartApp (client : Client) (app : Option App) (isConditionClient : Bool) :
    state.Still (state.restartApp world client app isConditionClient) := by
  unfold restartApp
  split
  · exact .refl state
  · split
    · exact .refl state
    · split_ifs
      · exact .refl state
      · exact .refl state
      · exact .refl state
      · exact still_emit rfl

theorem log_quit : ∃ news, Quiet news ∧ state.quit.log = news ++ state.log := by
  unfold quit
  split
  · exact ⟨[], nofun, rfl⟩
  · exact ⟨[.quit state.logoutType], by simp [Quiet, Effect.endsPhase], rfl⟩

theorem endPhase_move (late : .queryEndSession ≤ state.phase)
    (finished : state.phase = .endSession → state.Finished) :
    Move world state (state.endPhase world) := by
  rcases Phase.queryEndSession_le.mp late with query | ending | exit
  · exact .entered query
  · exact .left ending (finished ending)
  · rw [endPhase_exit exit]
    have quits : state.clearPhase.quit.phase = .exit ∧ state.Fewer state.clearPhase.quit := by
      unfold quit
      split <;> exact ⟨exit, .of_eq rfl rfl⟩
    have other : state.clearPhase.quit.phase ≠ .endSession := by
      rw [quits.1]
      nofun
    exact .outside quits.2 other (.inl (quits.1.trans exit.symm)) fun _ => @log_quit state.clearPhase

theorem cancelEndSession_move (fewer : before.Fewer state)
    (late : .queryEndSession ≤ state.phase) :
    Move world before (state.cancelEndSession world) := by
  have core := @core_cancelEndSession world state late
  have running : (state.cancelEndSession world).phase = .running := congrArg Core.phase core
  have same : state.Fewer (state.cancelEndSession world) :=
    .of_eq (congrArg Core.clientIds core) (congrArg Core.clientSerial core)
  refine .outside (fewer.trans same) ?_ (.inr running) ?_ <;> rw [running] <;> nofun

theorem doInhibitDialogAction_move {action : LogoutAction}
    (late : action.endsSession = true → .queryEndSession ≤ state.phase)
    (answered : state.log.head? = some (.inhibitDialogAnswered action .accept)) :
    Move world state (state.doInhibitDialogAction world action) := by
  cases ends : action.endsSession with
  | true =>
      rw [doInhibitDialogAction_ends ends]
      have forced : state.Still { state with logoutMode := .force } := { Still.refl state with }
      exact forced.move.trans
        (endPhase_move (late ends) fun _ => .inr (.inr (.inr ⟨action, answered⟩)))
  | false =>
      cases action with
      | switchUser => exact still_managerSwitchUser.move
      | hibernate => exact (still_emit rfl).move
      | sleep => exact (still_emit rfl).move
      | shutdown => cases ends
      | reboot => cases ends
      | logout => cases ends

theorem still_answerDialog (action : LogoutAction) (response : InhibitResponse) :
    state.Still (state.answerDialog action response) := by
  have closed : state.Still { state with inhibitDialog := none } := { Still.refl state with }
  exact closed.trans (still_emit rfl)

theorem inhibitDialogResponse_move (response : InhibitResponse)
    (late : ∀ action, state.inhibitDialog = some action → action.endsSession = true →
      .queryEndSession ≤ state.phase) :
    Move world state (state.inhibitDialogResponse world response) := by
  unfold inhibitDialogResponse
  cases opened : state.inhibitDialog with
  | none => exact .refl state
  | some action =>
      have closed := @still_answerDialog state action response
      cases response with
      | accept => exact closed.move.trans (doInhibitDialogAction_move (late action opened) rfl)
      | _ =>
          dsimp only
          split_ifs with ends
          · exact cancelEndSession_move closed.fewer (late action opened ends)
          · exact closed.move

/-- Where the last inhibitor goes, the dialog that is up accepts. -/
theorem removeInhibitors_cases (matching : Inhibitor → Bool) :
    state.Still (state.removeInhibitors world matching) ∨
      ∃ action closed, state.inhibitDialog = some action ∧ action.endsSession = true ∧
        state.Still closed ∧ closed.log.head? = some (.inhibitDialogAnswered action .accept) ∧
        state.removeInhibitors world matching = closed.endPhase world := by
  have dropped := @still_dropInhibitors state matching
  have dialog : (state.dropInhibitors matching).inhibitDialog = state.inhibitDialog := by
    unfold dropInhibitors
    split_ifs <;> rfl
  unfold removeInhibitors
  dsimp only
  split_ifs
  · unfold inhibitDialogResponse
    rw [dialog]
    cases opened : state.inhibitDialog with
    | none => exact .inl dropped
    | some action =>
        have closed := dropped.trans (@still_answerDialog _ action .accept)
        dsimp only
        cases ends : action.endsSession with
        | true =>
            rw [doInhibitDialogAction_ends ends]
            let forced : State := { (state.dropInhibitors matching).answerDialog action .accept with
              logoutMode := .force }
            exact .inr ⟨action, forced, rfl, ends, { closed with }, rfl, rfl⟩
        | false =>
            refine .inl (closed.trans ?_)
            cases action with
            | switchUser => exact still_managerSwitchUser
            | hibernate => exact still_emit rfl
            | sleep => exact still_emit rfl
            | shutdown | reboot | logout => cases ends
  · exact .inl dropped

theorem removeInhibitors_move (matching : Inhibitor → Bool)
    (late : ∀ action, state.inhibitDialog = some action → action.endsSession = true →
      .queryEndSession ≤ state.phase) :
    Move world state (state.removeInhibitors world matching) := by
  rcases @removeInhibitors_cases world state matching with
    same | ⟨action, closed, opened, ends, same, answered, ended⟩
  · exact same.move
  · have stillLate : .queryEndSession ≤ closed.phase := by
      rw [same.phase]
      exact late action opened ends
    rw [ended]
    exact same.move.trans (endPhase_move stillLate fun _ => .inr (.inr (.inr ⟨action, answered⟩)))

theorem queryEndSessionComplete_move (query : state.phase = .queryEndSession) :
    Move world state (state.queryEndSessionComplete world) := by
  have stopped : state.Still { state with queryTimeout := false } := { Still.refl state with }
  unfold queryEndSessionComplete
  dsimp only
  split_ifs
  · exact stopped.move.trans (.entered query)
  · exact stopped.move.trans (still_openInhibitDialog _).move

theorem nextPart_move (ending : state.phase = .endSession) :
    Move world state (state.endSessionAnswered world 0 false) := by
  unfold endSessionAnswered
  simp only [Bool.false_eq_true, if_false]
  split_ifs with waits last
  · exact .refl state
  · rw [not_or, not_not] at waits
    exact .lastAsked ending waits.1 last
  · rw [not_or, not_not] at waits
    exact .left ending (.inl ⟨waits.1, not_not.mp last⟩)

/-- A client that asks to be last is noted before the answer is looked at. -/
theorem endSessionAnswered_last (id : Nat) :
    state.endSessionAnswered world id true =
      { state with nextQueryClients := id :: state.nextQueryClients }.endSessionAnswered world 0
        false := rfl

theorem endSessionAnswered_move (id : Nat) (doLast : Bool) (ending : state.phase = .endSession) :
    Move world state (state.endSessionAnswered world id doLast) := by
  cases doLast with
  | true =>
      rw [endSessionAnswered_last]
      exact Move.trans (.deferred ending id) (nextPart_move ending)
  | false => exact nextPart_move ending

theorem answerNoted_move (id : Nat) (doLast : Bool) :
    Move world state (state.answerNoted world id doLast) := by
  unfold answerNoted
  split
  · next query =>
      split_ifs
      · exact queryEndSessionComplete_move query
      · exact .refl state
  · next ending => exact endSessionAnswered_move id doLast ending
  · exact .refl state

/-- What is left of an answer once its client has been taken off the list. -/
theorem noteAnswer_move (client : Client) (response : Response)
    (late : .queryEndSession ≤ state.phase) :
    Move world { state with queryClients := state.queryClients.erase client.id }
      (state.noteAnswer world client response) := by
  unfold noteAnswer
  dsimp only
  split_ifs
  · exact Still.move { Still.refl _ with }
  · exact removeInhibitors_move _ fun _ _ _ => late

theorem handle_move {client : Client} {response : Response}
    (early : state.phase < .queryEndSession → Move world before state)
    (fewer : before.Fewer state)
    (taken : .queryEndSession ≤ state.phase → Move world before
      { state with queryClients := state.queryClients.erase client.id }) :
    Move world before (state.handleClientEndSessionResponse world client response) := by
  unfold handleClientEndSessionResponse
  split_ifs with first cancel
  · exact early first
  · exact cancelEndSession_move fewer (Phase.not_lt_query.mp first)
  · have late := Phase.not_lt_query.mp first
    exact (taken late).trans ((noteAnswer_move client response late).trans (answerNoted_move _ _))

theorem disconnectClient_move (shaped : state.core.Shaped) (client : Client) :
    Move world state (state.disconnectClient world client) := by
  let forgotten : State :=
    { state with conditionClients := state.conditionClients.erase client.id }
  have same : state.Still forgotten := { Still.refl state with }
  obtain ⟨removed, removing⟩ : ∃ removed,
      forgotten.removeInhibitors world (Inhibitor.hasClientId client.id) = removed := ⟨_, rfl⟩
  have moved : Move world state removed := by
    rw [← removing]
    exact same.move.trans (removeInhibitors_move _ fun action opened ends =>
      (shaped.dialog action opened ends).1)
  unfold disconnectClient
  dsimp only
  refine Move.trans ?_ (still_restartApp _ _ _).move
  rw [removing]
  split_ifs with query
  · refine moved.trans (handle_move (fun _ => .refl _) (.of_eq rfl rfl) fun _ => ?_)
    have stays : ({ removed with queryClients := removed.queryClients.erase client.id } :
        State).phase = .queryEndSession := query
    refine .outside (.of_eq rfl rfl) ?_ (.inl rfl) ?_ <;> rw [stays] <;> nofun
  · exact moved

theorem removeClient_move (id : Nat) : Move world state (state.removeClient id) := by
  by_cases ending : state.phase = .endSession
  · exact .removed ending id
  · exact .outside ⟨List.filter_sublist.map Client.id, rfl⟩ ending (.inl rfl)
      fun _ => ⟨[], nofun, rfl⟩

theorem endPhaseIfEmpty_move : Move world state (state.endPhaseIfEmpty world) := by
  unfold endPhaseIfEmpty
  split_ifs with last
  · exact endPhase_move last.1 fun _ => .inr (.inl last.2)
  · exact .refl state

theorem onClientDisconnected_move (shaped : state.core.Shaped) (client : Client) :
    Move world state (state.onClientDisconnected world client) := by
  have noted : Move world state (state.emit (.clientDisconnected client.id)) :=
    (still_emit rfl).move
  have emitted : (state.emit (.clientDisconnected client.id)).core.Shaped := { shaped with }
  have disconnected := noted.trans (disconnectClient_move emitted client)
  exact (disconnected.trans (removeClient_move client.id)).trans endPhaseIfEmpty_move

theorem emitDisconnected_move (shaped : state.core.Shaped) (client : Client) (handlers : Nat) :
    Move world state (state.emitDisconnected world client handlers) := by
  have departures := shapedDepartures world (fun _ _ => True) (fun _ => True)
  induction handlers generalizing state with
  | zero => exact .refl state
  | succ handlers ih =>
      have next := @Departures.onClientDisconnected world _ _ _ state departures
        (fun _ _ _ _ _ => trivial) client trivial trivial ⟨shaped, trivial⟩
      exact (onClientDisconnected_move shaped client).trans (ih next.1)

theorem removeDBusClients_move (shaped : state.core.Shaped) (leaving : List Client) :
    Move world state (state.removeDBusClients world leaving) := by
  have departures := shapedDepartures world (fun _ _ => True) (fun _ => True)
  unfold removeDBusClients
  induction leaving generalizing state with
  | nil => exact .refl state
  | cons client leaving ih =>
      have next := @Departures.depart world _ _ _ state departures client trivial trivial
        ⟨shaped, trivial⟩
      exact ((disconnectClient_move shaped client).trans (removeClient_move client.id)).trans
        (ih next.1)

theorem removeClientsForConnection_move (shaped : state.core.Shaped)
    (serviceName : Option String) :
    Move world state (state.removeClientsForConnection world serviceName) :=
  (removeDBusClients_move shaped _).trans endPhaseIfEmpty_move

theorem onQueryEndSessionTimeout_move (query : state.phase = .queryEndSession) :
    Move world state (state.onQueryEndSessionTimeout world) := by
  obtain ⟨cleared, added, _, _, core, form⟩ := @onQueryEndSessionTimeout_eq world state
  have phase : cleared.phase = .queryEndSession := (congrArg Core.phase core).trans query
  have same : state.Fewer cleared :=
    .of_eq (congrArg Core.clientIds core) (congrArg Core.clientSerial core)
  have moved : Move world state cleared := by
    refine .outside same ?_ (.inl (phase.trans query.symm)) ?_ <;>
      rw [phase] <;> nofun
  rw [form]
  exact moved.trans (queryEndSessionComplete_move phase)

theorem onPhaseTimeout_move (ending : state.phase = .endSession) :
    Move world state (state.onPhaseTimeout world) := by
  have late : .running ≤ state.phase := by
    rw [ending]
    exact Phase.running_le_endSession
  have disarmed : state.Still { state with phaseTimeout := false } := { Still.refl state with }
  have fired : state.Still (({ state with phaseTimeout := false } : State).emit
      (.phaseTimedOut state.phase)) := disarmed.trans (still_emit rfl)
  rw [onPhaseTimeout_late late]
  refine fired.move.trans (endPhase_move ?_ fun _ => .inr (.inr (.inl ?_)))
  · exact Phase.queryEndSession_le.mpr (.inr (.inl ending))
  · simp [TimedOut, emit, ending]

theorem requestPrivileged_move {answer : PrivilegeAnswer} {plain interact cdm : LogoutType}
    (types : plain ≠ .none ∧ interact ≠ .none ∧ cdm ≠ .none)
    (late : .queryEndSession ≤ state.phase)
    (unended : state.phase = .endSession → answer = .denied) :
    Move world state (state.requestPrivileged world answer plain interact cdm) := by
  rcases @requestPrivileged_cases world state answer plain interact cdm types with
    same | ⟨granted, type, _, ended⟩
  · rw [same]
    exact .refl state
  · have typed : state.Still { state with logoutType := type } := { Still.refl state with }
    rw [ended]
    exact typed.move.trans (endPhase_move late fun ending => absurd (unended ending) granted)

theorem still_requestSwitchUser (world : World) (state : State) :
    state.Still (state.requestSwitchUser world) := by
  unfold requestSwitchUser
  split_ifs
  · exact .refl state
  · exact still_managerSwitchUser
  · exact still_openInhibitDialog .switchUser

theorem still_requestHibernate (state : State) : state.Still state.requestHibernate := by
  unfold requestHibernate
  split_ifs
  · exact still_emit rfl
  · exact still_openInhibitDialog .hibernate

theorem still_requestSuspend (state : State) : state.Still state.requestSuspend := by
  unfold requestSuspend
  split_ifs
  · exact still_emit rfl
  · exact still_openInhibitDialog .sleep

/-- A confirmation dialog that is not answered so that the end-session phase ends. -/
theorem logoutDialogResponse_move {response : LogoutResponse}
    (late : .queryEndSession ≤ state.phase)
    (unended : state.phase = .endSession → state.logoutMode = .normal →
      response.endsPhase world = false) :
    Move world state (state.logoutDialogResponse world response) := by
  unfold logoutDialogResponse
  split_ifs with other
  · exact Still.move { Still.refl state with }
  · have closed : state.Still { state with logoutDialog := none } := { Still.refl state with }
    have normal := not_not.mp other
    refine closed.move.trans ?_
    cases response with
    | cancel => exact .refl _
    | none => exact .refl _
    | deleteEvent => exact .refl _
    | switchUser => exact (still_requestSwitchUser world _).move
    | hibernate => exact (still_requestHibernate _).move
    | sleep => exact (still_requestSuspend _).move
    | shutdown =>
        exact requestPrivileged_move (by decide) late fun ending => by
          simpa [LogoutResponse.endsPhase] using unended ending normal
    | reboot =>
        exact requestPrivileged_move (by decide) late fun ending => by
          simpa [LogoutResponse.endsPhase] using unended ending normal
    | logout =>
        have asked : Still { state with logoutDialog := none }
            { state with logoutDialog := none, logoutMode := .noConfirmation, logoutType := .logout } :=
          { Still.refl _ with }
        exact asked.move.trans (endPhase_move late fun ending => by cases unended ending normal)

theorem clientIds_updateClient {update : Client → Client} {id : Nat}
    (ids : ∀ client ∈ state.clients, client.id = id → (update client).id = client.id) :
    (state.updateClient id update).clientIds = state.clientIds := by
  simp only [clientIds, updateClient, List.map_map]
  refine List.map_congr_left fun client stored => ?_
  simp only [Function.comp_apply]
  split_ifs with same
  · exact ids client stored same
  · rfl

theorem updateClient_move {update : Client → Client} {id : Nat}
    (ids : ∀ client, (update client).id = client.id)
    (keeps : state.phase = .endSession → ∀ client ∈ state.clients, client.id = id →
      client.Keeps update)
    (same : (state.updateClient id update).Still after) : Move world state after := by
  by_cases ending : state.phase = .endSession
  · exact .touched ending (keeps ending) same
  · have other : after.phase ≠ .endSession := fun ends => ending (same.phase.symm.trans ends)
    have fewer : state.Fewer (state.updateClient id update) :=
      .of_eq (clientIds_updateClient fun client _ _ => ids client) rfl
    exact .outside (fewer.trans same.fewer) other (.inl same.phase) fun _ => same.log

theorem answer_move {update : Client → Client} {client : Client} {response : Response}
    {asked : State} (ids : ∀ client, (update client).id = client.id)
    (same : (state.updateClient client.id update).Still asked)
    (answers : state.phase = .endSession → ∀ one ∈ state.clients, one.id = client.id →
      one.Answers update) :
    Move world state (asked.handleClientEndSessionResponse world client response) := by
  have updated : state.Fewer (state.updateClient client.id update) :=
    .of_eq (clientIds_updateClient fun client _ _ => ids client) rfl
  have fewer := updated.trans same.fewer
  have elsewhere (ending : state.phase ≠ .endSession) (waiting : List Nat) :
      Move world state { asked with queryClients := waiting } :=
    .outside ⟨fewer.ids, fewer.serial⟩ (fun ends => ending (same.phase.symm.trans ends))
      (.inl same.phase) fun _ => same.log
  refine handle_move (fun early => ?_) fewer fun _ => ?_
  · have notEnding : state.phase ≠ .endSession := by
      intro ends
      rw [same.phase, show (state.updateClient client.id update).phase = .endSession from ends]
        at early
      exact absurd early (by decide)
    exact elsewhere notEnding asked.queryClients
  · by_cases ending : state.phase = .endSession
    · refine .answered ending (answers ending) { same with queryClients := ?_ }
      rw [same.queryClients]
      rfl
    · exact elsewhere ending _

theorem tell_ok {call : Client → Except String (Client × List ClientMessage)} {id : Nat}
    {result : Client × List ClientMessage}
    (succeeds : (state.client? id).map call = some (.ok result)) :
    state.tell call id = { state.updateClient id (told call) with
      log := (result.2.map (Effect.sent id)).reverse ++ state.log } := by
  unfold tell
  rw [succeeds]

theorem still_tell {call : Client → Except String (Client × List ClientMessage)} {id : Nat}
    {result : Client × List ClientMessage}
    (succeeds : (state.client? id).map call = some (.ok result)) :
    (state.updateClient id (told call)).Still (state.tell call id) := by
  rw [tell_ok succeeds]
  refine ⟨rfl, rfl, rfl, rfl, rfl, (result.2.map (Effect.sent id)).reverse, ?_, rfl⟩
  intro effect member
  obtain ⟨message, _, rfl⟩ := List.mem_map.mp (List.mem_reverse.mp member)
  rfl

theorem tell_cases (call : Client → Except String (Client × List ClientMessage)) (id : Nat) :
    state.tell call id = state ∨
      ∃ result, (state.client? id).map call = some (.ok result) := by
  unfold tell
  split
  · next messages succeeds => exact .inr ⟨_, succeeds⟩
  · exact .inl rfl

theorem tell_move {call : Client → Except String (Client × List ClientMessage)} {id : Nat}
    (wiring : KeepsWiring call)
    (keeps : state.phase = .endSession → ∀ client ∈ state.clients, client.id = id →
      client.Keeps (told call)) : Move world state (state.tell call id) := by
  rcases @tell_cases state call id with same | ⟨result, succeeds⟩
  · rw [same]
    exact .refl state
  · exact updateClient_move (fun client => congrArg Wiring.id (wiring client)) keeps
      (still_tell succeeds)

theorem updateClient_self (id : Nat) : state.updateClient id (fun client => client) = state := by
  simp [updateClient]

theorem updateClient_updateClient {first second : Client → Client} (id : Nat)
    (ids : ∀ client, (first client).id = client.id) :
    (state.updateClient id first).updateClient id second =
      state.updateClient id (fun client => second (first client)) := by
  simp only [updateClient, List.map_map]
  congr 1
  refine List.map_congr_left fun client _ => ?_
  by_cases same : client.id = id <;> simp [same, ids]

theorem Still.updateClient (same : before.Still after) (id : Nat) (update : Client → Client) :
    (before.updateClient id update).Still (after.updateClient id update) :=
  { same with clients := congrArg (List.map _) same.clients }

theorem still_saveAnswered {client : Client} (found : state.client? client.id = some client)
    (call : SaveState → SaveState × List SmsMessage) :
    (state.updateClient client.id
      (fun one => (told (Client.saveCall .save call) one).answered)).Still
      ((state.tell (Client.saveCall .save call) client.id).updateClient client.id
        Client.answered) := by
  have ids : ∀ one, (told (Client.saveCall .save call) one).id = one.id := fun one =>
    congrArg Wiring.id (Client.keepsWiring_saveCall _ _ one)
  obtain ⟨result, succeeds⟩ : ∃ result, Client.saveCall .save call client = .ok result := by
    unfold Client.saveCall
    cases client.transport <;> exact ⟨_, rfl⟩
  have written : (state.client? client.id).map (Client.saveCall .save call) =
      some (.ok result) := by
    rw [found, Option.map_some, succeeds]
  rw [← updateClient_updateClient client.id ids]
  exact (still_tell written).updateClient client.id Client.answered

end State

/-- The clients answer the requests they have been sent, one by one, and interact
only for a request that allows it. -/
def Call.InOrder (state : State) : Call → Prop
  | .endSessionResponse id .. | .saveYourselfPhase2Request id | .saveYourselfDone id _ =>
      ∀ client ∈ state.clients, client.id = id → client.unanswered ≠ []
  | .interactRequest id | .interactDone id _ =>
      ∀ client ∈ state.clients, client.id = id →
        client.unanswered.head? = some (.query true)
  | _ => True

theorem Call.inOrder_endSessionResponse {state : State} {id : Nat} {isOk : Bool} {reason : String}
    (owes : ∀ client ∈ state.clients, client.id = id → client.unanswered ≠ []) :
    (Call.endSessionResponse id isOk reason).InOrder state := owes

/-- In the end-session phase no client asks for a checkpoint of its own, and no
confirmation dialog is answered so that it ends the phase. -/
structure KeepsToAnswers (before : State) (event : Event) : Prop where
  checkpoint : before.phase = .endSession → ∀ id shutdown fast global,
    event.call = .saveYourselfRequest id shutdown fast global →
    SaveState.requestKind shutdown global ≠ .checkpoint
  confirmation : before.phase = .endSession → before.logoutMode = .normal →
    ∀ dialog response, before.logoutDialog = some dialog →
    event.call.confirmation dialog = some response → response.endsPhase event.world = false

namespace State

variable {world : World} {before after state : State}

theorem managerLogout_late (late : .queryEndSession ≤ state.phase) (mode : UInt32) :
    state.settle (state.managerLogout world mode) = state := by
  have notRunning : state.phase ≠ .running := fun running => Phase.running_early running late
  rw [managerLogout, if_pos notRunning]
  rfl

/-- A client that interacts owes the answer to the query, and is not ending. -/
theorem answers_interact {client : Client}
    (query : client.unanswered.head? = some (.query true)) :
    client.Answers (fun one => one) := by
  have notEnding : ¬ client.Ending := fun ending => by
    have impossible := ending.requests _ (List.mem_of_head? query)
    cases impossible
  exact ⟨rfl, rfl, fun ending => absurd ending notEnding, fun ending => absurd ending notEnding,
    fun ending => absurd ending notEnding⟩

theorem appRegistered_late (shaped : state.core.Shaped) (late : .queryEndSession ≤ state.phase)
    (id : String) : state.appRegistered world id = state := by
  have unfollowed : id ∉ state.registeredHandlers := fun followed =>
    absurd (shaped.unfollowed (Phase.running_le_of_query_le late) id followed) (by simp)
  unfold appRegistered
  rw [if_neg (by simpa using unfollowed)]

theorem appConditionChanged_move (app : App) (condition : Bool) :
    Move world state (state.appConditionChanged world app condition) := by
  unfold appConditionChanged
  cases condition with
  | true =>
      simp only [if_true]
      split_ifs
      · exact (still_emit rfl).move
      · exact .refl state
  | false =>
      simp only [Bool.false_eq_true, if_false]
      split
      · next client found =>
          have noted : state.Still
              { state with conditionClients := client.id :: state.conditionClients } :=
            { Still.refl state with }
          exact noted.move.trans
            (tell_move Client.keepsWiring_stop fun _ client _ _ => Client.keeps_stop client)
      · split_ifs
        · exact (still_emit rfl).move
        · exact .refl state

theorem settle_inhibit_move (appId : String) (toplevelXid : UInt32) (reason : String)
    (flags : UInt32) (sender : String) :
    Move world state (state.settle
      ((state.managerInhibit world appId toplevelXid reason flags sender).map Prod.fst)) := by
  unfold managerInhibit
  split_ifs
  · exact .refl state
  · exact .refl state
  · exact .refl state
  · exact .refl state
  · exact Still.move { Still.refl state with }

theorem settle_uninhibit_move (late : .queryEndSession ≤ state.phase) (cookie : UInt32) :
    Move world state (state.settle (state.managerUninhibit world cookie)) := by
  unfold managerUninhibit
  split
  · exact .refl state
  · exact removeInhibitors_move _ fun _ _ _ => late

theorem registerXsmpClient_late (late : .queryEndSession ≤ state.phase) (id : Nat)
    (previousId : String) : state.registerXsmpClient world id previousId = state := by
  have closed : state.connectsHandler previousId = false := by simp [connectsHandler, late]
  unfold registerXsmpClient onXsmpClientRegisterRequest
  rw [closed]
  rfl

theorem saveYourselfRequest_move {id : Nat} {shutdown fast global : Bool}
    (late : .queryEndSession ≤ state.phase)
    (keeps : state.phase = .endSession →
      SaveState.requestKind shutdown global ≠ .checkpoint) :
    Move world state (state.saveYourselfRequest world id shutdown fast global) := by
  have unchanged : state.settle (state.managerLogout world (if fast then 1 else 0)) = state :=
    managerLogout_late late _
  unfold saveYourselfRequest
  cases kind : SaveState.requestKind shutdown global with
  | logout =>
      change Move world state
        (state.settle (state.managerLogout world (if fast then 1 else 0)))
      rw [unchanged]
      exact .refl state
  | checkpoint =>
      exact tell_move (Client.keepsWiring_saveCall _ _) fun ending => absurd kind (keeps ending)
  | ignored => exact .refl state

theorem xsmpClient?_stored {id : Nat} {client : Client}
    (found : state.xsmpClient? id = some client) : state.client? client.id = some client := by
  obtain ⟨stored, _⟩ := Option.filter_eq_some_iff.mp found
  rw [client?_id stored]
  exact stored

theorem saveAnswered_move {client : Client} {call : SaveState → SaveState × List SmsMessage}
    (quiet : Client.Unrequesting call) (response : Response)
    (found : state.xsmpClient? client.id = some client)
    (owes : ∀ one ∈ state.clients, one.id = client.id → one.unanswered ≠ []) :
    Move world state (state.saveAnswered world client call response) := by
  refine answer_move (fun one => ?_) (still_saveAnswered (xsmpClient?_stored found) call)
    fun _ one stored same => Client.answers_saveCall quiet (owes one stored same)
  exact congrArg Wiring.id (Client.keepsWiring_saveCall .save call one)

theorem interact_move {client : Client} (response : Response)
    (query : ∀ one ∈ state.clients, one.id = client.id →
      one.unanswered.head? = some (.query true)) :
    Move world state (state.handleClientEndSessionResponse world client response) := by
  have same : (state.updateClient client.id fun one => one).Still state := by
    rw [updateClient_self]
    exact .refl state
  exact answer_move (fun _ => rfl) same
    fun _ one stored sameId => answers_interact (query one stored sameId)

theorem perform_move {event : Event} (late : .queryEndSession ≤ before.phase)
    (shaped : before.core.Shaped) (inOrder : event.call.InOrder before)
    (keeps : KeepsToAnswers before event)
    (performed : before.perform event.world event.call = some after) :
    Move event.world before after := by
  obtain ⟨world, call⟩ := event
  have notRunning : before.phase ≠ .running := fun running => Phase.running_early running late
  have confirmed : ∀ dialog response, before.logoutDialog = some dialog →
      call.confirmation dialog = some response →
      Move world before (before.logoutDialogResponse world response) :=
    fun dialog response opened answer => logoutDialogResponse_move late fun ending normal =>
      keeps.confirmation ending normal dialog response opened answer
  cases call with
  | phaseTimeout =>
      obtain ⟨armed, rfl⟩ := by simpa [perform] using performed
      have ending := (shaped.timed armed).resolve_left fun starting =>
        Nat.not_lt.mpr (Phase.running_le_of_query_le late) (Nat.lt_succ_of_lt starting)
      exact onPhaseTimeout_move ending
  | queryEndSessionTimeout =>
      obtain ⟨armed, rfl⟩ := by simpa [perform] using performed
      exact onQueryEndSessionTimeout_move (shaped.asked armed)
  | autostartDelayTimeout id =>
      obtain ⟨_, app, found, rfl⟩ := by simpa [perform] using performed
      have fired : before.Still { before with delayedApps := before.delayedApps.erase app.id } :=
        { Still.refl before with }
      unfold autostartDelayTimeout
      dsimp only
      split_ifs
      · exact (fired.trans (still_emit rfl)).move
      · exact fired.move
  | appExited id =>
      cases performed
      rw [appRegistered_late shaped late]
      exact .refl before
  | conditionChanged id condition =>
      obtain ⟨_, app, found, rfl⟩ := by simpa [perform] using performed
      exact appConditionChanged_move app condition
  | registerClient appId startupId sender =>
      cases performed
      unfold managerRegisterClient
      rw [if_pos late]
      exact .refl before
  | inhibit appId toplevelXid reason flags sender =>
      cases performed
      exact settle_inhibit_move _ _ _ _ _
  | uninhibit cookie =>
      cases performed
      exact settle_uninhibit_move late cookie
  | logout mode =>
      cases performed
      rw [managerLogout_late late]
      exact .refl before
  | shutdown =>
      cases performed
      rw [managerShutdown, if_pos notRunning]
      exact .refl before
  | requestShutdown =>
      cases performed
      rw [managerRequestShutdown, if_pos notRunning]
      exact .refl before
  | requestReboot =>
      cases performed
      rw [managerRequestReboot, if_pos notRunning]
      exact .refl before
  | endSessionResponse id isOk reason =>
      obtain ⟨client, found, rfl⟩ := Option.map_eq_some_iff.mp performed
      obtain ⟨rfl, _⟩ := dbusClient?_mem found
      exact @answer_move world before Client.answered client _ _ (fun _ => rfl) (.refl _)
        fun _ one stored same => Client.answers_answered (inOrder one stored same)
  | busNameLost serviceName =>
      cases performed
      have removed := @Rules.removeInhibitors world _ _ _ _ before
        (shapedRules world (fun _ _ => True) (fun _ => True))
        (Inhibitor.hasBusName serviceName) trivial trivial shaped
      exact (removeInhibitors_move _ fun _ _ _ => late).trans
        (removeClientsForConnection_move removed _)
  | busDisconnected =>
      cases performed
      have lost : before.Still { before with dbusDisconnected := true } :=
        { Still.refl before with }
      have disconnected : ({ before with dbusDisconnected := true } : State).core.Shaped :=
        { shaped with }
      exact lost.move.trans (removeClientsForConnection_move disconnected _)
  | acceptConnection =>
      cases performed
      exact .joined before
  | registerXsmpClient id previousId =>
      obtain ⟨client, found, rfl⟩ := Option.map_eq_some_iff.mp performed
      rw [registerXsmpClient_late late]
      exact .refl before
  | saveYourselfRequest id shutdown fast global =>
      obtain ⟨client, found, rfl⟩ := Option.map_eq_some_iff.mp performed
      exact saveYourselfRequest_move late fun ending =>
        keeps.checkpoint ending id shutdown fast global rfl
  | saveYourselfPhase2Request id =>
      obtain ⟨client, found, rfl⟩ := Option.map_eq_some_iff.mp performed
      obtain ⟨rfl, _⟩ := xsmpClient?_mem found
      exact saveAnswered_move Client.unrequesting_phase2 _ found inOrder
  | interactRequest id =>
      obtain ⟨client, found, rfl⟩ := Option.map_eq_some_iff.mp performed
      obtain ⟨rfl, _⟩ := xsmpClient?_mem found
      exact (interact_move _ inOrder).trans (tell_move (Client.keepsWiring_saveCall _ _)
        fun _ one _ _ => Client.keeps_saveCall Client.unrequesting_interact one)
  | interactDone id cancelShutdown =>
      obtain ⟨client, found, rfl⟩ := Option.map_eq_some_iff.mp performed
      obtain ⟨rfl, _⟩ := xsmpClient?_mem found
      exact interact_move _ inOrder
  | saveYourselfDone id success =>
      obtain ⟨client, found, rfl⟩ := Option.map_eq_some_iff.mp performed
      obtain ⟨rfl, _⟩ := xsmpClient?_mem found
      exact (saveAnswered_move Client.unrequesting_done _ found inOrder).trans
        (tell_move Client.keepsWiring_doneFinished fun _ one _ _ => Client.keeps_doneFinished one)
  | connectionLost id =>
      obtain ⟨client, found, rfl⟩ := Option.map_eq_some_iff.mp performed
      have disconnected : Move world before (before.updateClient client.id disconnect) :=
        updateClient_move (fun one => congrArg Wiring.id (wiring_disconnect one))
          (fun _ one _ _ => Client.keeps_disconnect one) (.refl _)
      have told : (before.updateClient client.id disconnect).core.Shaped :=
        (core_disconnect client.id).symm ▸ shaped
      exact disconnected.trans (emitDisconnected_move told client client.handlers)
  | logoutDialogResponse response =>
      obtain ⟨dialog, opened, rfl⟩ := Option.map_eq_some_iff.mp performed
      exact confirmed dialog response opened rfl
  | logoutDialogTimeout =>
      obtain ⟨dialog, opened, rfl⟩ := Option.map_eq_some_iff.mp performed
      exact confirmed dialog dialog.defaultResponse opened rfl
  | inhibitDialogResponse response =>
      obtain ⟨action, opened, rfl⟩ := Option.map_eq_some_iff.mp performed
      exact inhibitDialogResponse_move response fun other opened ends =>
        (shaped.dialog other opened ends).1
  | terminate =>
      cases performed
      rw [managerLogout_late late]
      exact .refl before

end State

end CafeSession.Manager

import CafeSession.Manager.Speech
import CafeSession.Manager.Reach

namespace CafeSession.Manager

open CafeSession.Xsmp CafeSession.Transition

namespace State

/-- A change that no client hears of. -/
structure Silent (before after : State) : Prop where
  phase : after.phase = before.phase
  lines : after.lines = before.lines
  clientSerial : after.clientSerial = before.clientSerial
  /-- a forced logout stays one -/
  forced : .queryEndSession ≤ before.phase → before.logoutMode = .force →
    after.logoutMode = .force
  last : after.nextQueryClients ⊆ before.nextQueryClients
  signals : ∀ id, after.signalsTo id = before.signalsTo id

/-- No D-Bus client has the id, nor will one be given it. -/
def Foreign (id : Nat) (state : State) : Prop :=
  id < state.clientSerial ∧ (id, true) ∉ state.lines

/-- The requests to the clients that asked for a second part. -/
def askLast (world : World) (state : State) : State :=
  { state.nextQueryClients.foldl
      (ask (Client.endSession (state.endSessionFlags world true))) state with
      nextQueryClients := [] }

end State

open State in
/-- What a callback says to the D-Bus clients, and the clients that come and go. -/
inductive Speech (world : World) : State → State → Prop
  | silent {before after : State} (same : before.Silent after) : Speech world before after
  | trans {before middle after : State} (first : Speech world before middle)
      (second : Speech world middle after) : Speech world before after
  | ended (state : State) : Speech world state (state.endPhase world)
  | cancelled (state : State) : Speech world state (state.cancelEndSession world)
  | stopped (state : State) (id : Nat) : Speech world state (state.tell Client.stop id)
  | deferred (state : State) (id : Nat) (foreign : state.Foreign id) :
      Speech world state { state with nextQueryClients := id :: state.nextQueryClients }
  | last (state : State) : Speech world state (state.askLast world)
  | left (state : State) (id : Nat) : Speech world state (state.removeClient id)
  | joined (state : State) (client : Client) (named : client.id = state.clientSerial)
      (welcome : client.isDBus = true → state.phase < .queryEndSession) :
      Speech world state { state with
        clients := state.clients ++ [client]
        clientSerial := state.clientSerial + 1 }

namespace State

variable {world : World} {state before middle after : State}
variable {call : Client → Except String (Client × List ClientMessage)}

namespace Silent

theorem refl (state : State) : state.Silent state where
  phase := rfl
  lines := rfl
  clientSerial := rfl
  forced _ force := force
  last := List.Subset.refl _
  signals _ := rfl

theorem trans (first : before.Silent middle) (second : middle.Silent after) :
    before.Silent after where
  phase := second.phase.trans first.phase
  lines := second.lines.trans first.lines
  clientSerial := second.clientSerial.trans first.clientSerial
  forced late force := second.forced (first.phase ▸ late) (first.forced late force)
  last := List.Subset.trans second.last first.last
  signals id := (second.signals id).trans (first.signals id)

end Silent

theorem silent_emit {effect : Effect} (quiet : ∀ id, effect.signalTo id = none) (state : State) :
    state.Silent (state.emit effect) :=
  { Silent.refl state with signals := fun id => signalsTo_emit (quiet id) state }

theorem silent_updateClient {update : Client → Client}
    (same : ∀ client, (update client).line = client.line) (id : Nat) (state : State) :
    state.Silent (state.updateClient id update) :=
  { Silent.refl state with
    lines := by
      simp only [lines, updateClient, List.map_map]
      apply List.map_congr_left
      intro client _
      simp only [Function.comp]
      split_ifs
      · exact same client
      · rfl }

theorem silent_tell (keeps : KeepsWiring call) (silenced : Silenced call) (state : State)
    (id : Nat) : state.Silent (state.tell call id) := by
  have core := @core_tell state _ keeps id
  exact {
    phase := congrArg Core.phase core
    lines := lines_tell keeps id
    clientSerial := congrArg Core.clientSerial core
    forced := fun _ force => (congrArg Core.logoutMode core).trans force
    last := by
      have same : (state.tell call id).nextQueryClients = state.nextQueryClients :=
        congrArg Core.nextQueryClients core
      rw [same]
      exact List.Subset.refl _
    signals := signalsTo_tell_silenced silenced id }

theorem silent_tell_save (request : Request) (call : SaveState → SaveState × List SmsMessage)
    (state : State) (id : Nat) : state.Silent (state.tell (Client.saveCall request call) id) :=
  silent_tell (Client.keepsWiring_saveCall request call) (Client.silenced_saveCall request call)
    state id

theorem Silent.speech (same : before.Silent after) : Speech world before after := .silent same

theorem speech_endPhase (same : before.Silent middle) :
    Speech world before (middle.endPhase world) :=
  same.speech.trans (.ended middle)

theorem silent_dropInhibitors (matching : Inhibitor → Bool) (state : State) :
    state.Silent (state.dropInhibitors matching) := by
  unfold dropInhibitors
  split_ifs
  · exact { Silent.refl state with }
  · exact .refl state

theorem silent_addInhibitor (inhibitor : Inhibitor) (state : State) :
    state.Silent (state.addInhibitor inhibitor) := { Silent.refl state with }

theorem silent_managerSwitchUser (world : World) (state : State) :
    state.Silent (state.managerSwitchUser world) := by
  unfold managerSwitchUser
  split_ifs
  · exact .refl state
  · exact silent_emit (fun _ => rfl) state

theorem speech_doInhibitDialogAction (action : LogoutAction) (state : State) :
    Speech world state (state.doInhibitDialogAction world action) := by
  have forced : state.Silent { state with logoutMode := .force } :=
    { Silent.refl state with forced := fun _ _ => rfl }
  cases action with
  | switchUser => exact (silent_managerSwitchUser world state).speech
  | hibernate => exact (silent_emit (fun _ => rfl) state).speech
  | sleep => exact (silent_emit (fun _ => rfl) state).speech
  | _ => exact speech_endPhase forced

theorem silent_answerDialog (action : LogoutAction) (response : InhibitResponse) (state : State) :
    state.Silent (state.answerDialog action response) := by
  have closed : state.Silent { state with inhibitDialog := none } := { Silent.refl state with }
  exact closed.trans (silent_emit (fun _ => rfl) _)

theorem speech_inhibitDialogResponse (response : InhibitResponse) (state : State) :
    Speech world state (state.inhibitDialogResponse world response) := by
  unfold inhibitDialogResponse
  split
  · exact (Silent.refl state).speech
  · next action _ =>
      have closed : Speech world state (state.answerDialog action response) :=
        (silent_answerDialog action response state).speech
      cases response with
      | accept => exact closed.trans (speech_doInhibitDialogAction action _)
      | _ =>
          dsimp only
          split_ifs
          · exact closed.trans (.cancelled _)
          · exact closed

theorem silent_openInhibitDialog (action : LogoutAction) (state : State) :
    state.Silent (state.openInhibitDialog action) := by
  unfold openInhibitDialog
  split
  · exact .refl state
  · have opened : state.Silent { state with inhibitDialog := some action } :=
      { Silent.refl state with }
    exact opened.trans (silent_emit (fun _ => rfl) _)

theorem speech_removeInhibitors (matching : Inhibitor → Bool) (state : State) :
    Speech world state (state.removeInhibitors world matching) := by
  have dropped : Speech world state (state.dropInhibitors matching) :=
    (silent_dropInhibitors matching state).speech
  simp only [removeInhibitors]
  split_ifs
  · exact dropped.trans (speech_inhibitDialogResponse .accept _)
  · exact dropped

theorem speech_queryEndSessionComplete (state : State) :
    Speech world state (state.queryEndSessionComplete world) := by
  have stopped : state.Silent { state with queryTimeout := false } := { Silent.refl state with }
  simp only [queryEndSessionComplete]
  split_ifs
  · exact speech_endPhase stopped
  · exact (stopped.trans (silent_openInhibitDialog _ _)).speech

theorem silent_inhibitUnresponsive (ids : List Nat) (state : State) :
    state.Silent (ids.foldl (inhibitUnresponsive world) state) := by
  induction ids generalizing state with
  | nil => exact .refl state
  | cons id ids ih =>
      refine Silent.trans ?_ (ih _)
      unfold inhibitUnresponsive
      split
      · exact .refl state
      · exact silent_addInhibitor _ state

theorem speech_onQueryEndSessionTimeout (state : State) :
    Speech world state (state.onQueryEndSessionTimeout world) := by
  obtain ⟨fired, firing⟩ : ∃ fired : State, { state with queryTimeout := false } = fired :=
    ⟨_, rfl⟩
  have fires : state.Silent fired := by
    rw [← firing]
    exact { Silent.refl state with }
  obtain ⟨inhibited, inhibiting⟩ : ∃ inhibited, (if state.logoutMode = .force then fired
      else state.queryClients.foldl (inhibitUnresponsive world) fired) = inhibited := ⟨_, rfl⟩
  have inhibits : fired.Silent inhibited := by
    rw [← inhibiting]
    split_ifs
    · exact .refl fired
    · exact silent_inhibitUnresponsive _ fired
  have answered : inhibited.Silent { inhibited with queryClients := [] } :=
    { Silent.refl inhibited with }
  simp only [onQueryEndSessionTimeout, firing, inhibiting]
  exact ((fires.trans inhibits).trans answered).speech.trans (speech_queryEndSessionComplete _)

theorem speech_doPhaseEndSessionPart2 (state : State) :
    Speech world state (state.doPhaseEndSessionPart2 world) := by
  unfold doPhaseEndSessionPart2
  split_ifs
  · exact .last state
  · exact .ended state

theorem speech_endSessionAnswered {id : Nat} {doLast : Bool} {state : State}
    (foreign : doLast = true → state.Foreign id) :
    Speech world state (state.endSessionAnswered world id doLast) := by
  obtain ⟨noted, noting⟩ : ∃ noted, (if doLast then
      { state with nextQueryClients := id :: state.nextQueryClients } else state) = noted :=
    ⟨_, rfl⟩
  have notes : Speech world state noted := by
    rw [← noting]
    split_ifs with last
    · exact .deferred state id (foreign last)
    · exact (Silent.refl state).speech
  simp only [endSessionAnswered, noting]
  split_ifs
  · exact notes
  · exact notes.trans (speech_doPhaseEndSessionPart2 noted)
  · exact notes.trans (.ended noted)

theorem speech_answerNoted {id : Nat} {doLast : Bool} {state : State}
    (foreign : doLast = true → state.Foreign id) :
    Speech world state (state.answerNoted world id doLast) := by
  unfold answerNoted
  split
  · split_ifs
    · exact speech_queryEndSessionComplete state
    · exact (Silent.refl state).speech
  · exact speech_endSessionAnswered foreign
  · exact (Silent.refl state).speech

theorem speech_noteAnswer (client : Client) (response : Response) (state : State) :
    Speech world state (state.noteAnswer world client response) := by
  have taken : state.Silent { state with queryClients := state.queryClients.erase client.id } :=
    { Silent.refl state with }
  simp only [noteAnswer]
  split_ifs
  · exact (taken.trans (silent_addInhibitor _ _)).speech
  · exact taken.speech.trans (speech_removeInhibitors _ _)

theorem foreign_of_wirings {id : Nat} (wirings : after.core.wirings = before.core.wirings)
    (serial : after.clientSerial = before.clientSerial) (foreign : before.Foreign id) :
    after.Foreign id := by
  unfold Foreign
  rw [lines_of_wirings wirings, serial]
  exact foreign

theorem wirings_cancelEndSession (state : State) :
    (state.cancelEndSession world).core.wirings = state.core.wirings ∧
      (state.cancelEndSession world).clientSerial = state.clientSerial := by
  by_cases early : state.phase < .queryEndSession
  · have same : state.cancelEndSession world = state := if_pos early
    exact ⟨by rw [same], by rw [same]⟩
  · have core := @core_cancelEndSession world state (Phase.not_lt_query.mp early)
    exact ⟨by rw [core], (congrArg Core.clientSerial core :)⟩

theorem core_askLast (state : State) : ∃ asked : List Nat,
    (state.askLast world).core = { state.core with
      queryClients := asked ++ state.queryClients
      nextQueryClients := [] } := by
  obtain ⟨asked, sublist, core⟩ := @core_ask_foldl state _
    (Client.keepsWiring_endSession (state.endSessionFlags world true)) state.nextQueryClients
  exact ⟨asked, congrArg (fun core : Core => { core with nextQueryClients := [] }) core⟩

theorem Foreign.speech {id : Nat} (foreign : before.Foreign id)
    (speech : Speech world before after) : after.Foreign id := by
  induction speech with
  | silent same =>
      unfold Foreign
      rw [same.lines, same.clientSerial]
      exact foreign
  | trans _ _ first second => exact second (first foreign)
  | ended state =>
      have frame := @endPhase_frame world state
      exact foreign_of_wirings frame.wirings frame.clientSerial foreign
  | cancelled state =>
      obtain ⟨wirings, serial⟩ := @wirings_cancelEndSession world state
      exact foreign_of_wirings wirings serial foreign
  | stopped state addressee =>
      have core := @core_tell state _ Client.keepsWiring_stop addressee
      exact foreign_of_wirings (congrArg Core.wirings core) (congrArg Core.clientSerial core) foreign
  | deferred state => exact foreign
  | last state =>
      obtain ⟨asked, core⟩ := @core_askLast world state
      exact foreign_of_wirings (by rw [core]) (congrArg Core.clientSerial core :) foreign
  | left state gone =>
      refine ⟨foreign.1, fun listed => foreign.2 ?_⟩
      obtain ⟨client, stored, same⟩ := List.mem_map.mp listed
      exact List.mem_map.mpr ⟨client, (List.mem_filter.mp stored).1, same⟩
  | joined state client named welcome =>
      refine ⟨Nat.lt_succ_of_lt foreign.1, fun listed => ?_⟩
      obtain ⟨one, stored, same⟩ := List.mem_map.mp listed
      rcases List.mem_append.mp stored with old | new
      · exact foreign.2 (List.mem_map.mpr ⟨one, old, same⟩)
      · rw [List.mem_singleton.mp new] at same
        have serial : id = state.clientSerial := (congrArg Prod.fst same).symm.trans named
        exact absurd foreign.1 (serial ▸ Nat.lt_irrefl _)

theorem speech_handle {client : Client} {response : Response} {state : State}
    (foreign : response.doLast = true → state.Foreign client.id) :
    Speech world state (state.handleClientEndSessionResponse world client response) := by
  unfold handleClientEndSessionResponse
  split_ifs
  · exact (Silent.refl state).speech
  · exact .cancelled state
  · have noted := @speech_noteAnswer world client response state
    exact noted.trans (speech_answerNoted fun last => (foreign last).speech noted)

theorem silent_restartApp (client : Client) (app : Option App) (isConditionClient : Bool)
    (state : State) : state.Silent (state.restartApp world client app isConditionClient) := by
  unfold restartApp
  split
  · exact .refl state
  · cases app with
    | none => exact .refl state
    | some app =>
        dsimp only
        split_ifs
        · exact .refl state
        · exact .refl state
        · exact .refl state
        · exact silent_emit (fun _ => rfl) state

theorem speech_departed (client : Client) (state : State) :
    Speech world state ((state.disconnectClient world client).removeClient client.id) := by
  have forgotten : state.Silent { state with
      conditionClients := state.conditionClients.erase client.id } := { Silent.refl state with }
  have removed := forgotten.speech.trans
    (@speech_removeInhibitors world (Inhibitor.hasClientId client.id) _)
  refine Speech.trans ?_ (.left _ client.id)
  simp only [disconnectClient]
  split_ifs
  · have answered := removed.trans
      (@speech_handle world client exitedResponse _ fun last => by cases last)
    exact answered.trans (silent_restartApp client _ _ _).speech
  · exact removed.trans (silent_restartApp client _ _ _).speech

theorem speech_endPhaseIfEmpty (state : State) :
    Speech world state (state.endPhaseIfEmpty world) := by
  unfold endPhaseIfEmpty
  split_ifs
  · exact .ended state
  · exact (Silent.refl state).speech

theorem speech_emitDisconnected (client : Client) (handlers : Nat) (state : State) :
    Speech world state (emitDisconnected world client handlers state) := by
  induction handlers generalizing state with
  | zero => exact (Silent.refl state).speech
  | succ handlers ih =>
      have noted : state.Silent (state.emit (.clientDisconnected client.id)) :=
        silent_emit (fun _ => rfl) state
      have disconnected := noted.speech.trans (@speech_departed world client _)
      exact (disconnected.trans (speech_endPhaseIfEmpty _)).trans (ih _)

theorem speech_removeDBusClients (leaving : List Client) (state : State) :
    Speech world state (state.removeDBusClients world leaving) := by
  unfold removeDBusClients
  induction leaving generalizing state with
  | nil => exact (Silent.refl state).speech
  | cons client leaving ih => exact (speech_departed client state).trans (ih _)

theorem speech_removeClientsForConnection (serviceName : Option String) (state : State) :
    Speech world state (state.removeClientsForConnection world serviceName) :=
  (speech_removeDBusClients _ state).trans (speech_endPhaseIfEmpty _)

theorem speech_onPhaseTimeout (state : State) :
    Speech world state (state.onPhaseTimeout world) := by
  have unfollowed : state.Silent state.unfollowPending := by
    unfold unfollowPending
    split_ifs
    · exact { Silent.refl state with }
    · exact .refl state
  have fired : state.Silent { state.unfollowPending with phaseTimeout := false } :=
    { unfollowed with }
  exact speech_endPhase (fired.trans (silent_emit (fun _ => rfl) _))

theorem speech_requestPrivileged (answer : PrivilegeAnswer) (plain interact cdm : LogoutType)
    (state : State) :
    Speech world state (state.requestPrivileged world answer plain interact cdm) := by
  cases answer with
  | denied => exact (Silent.refl state).speech
  | _ => exact speech_endPhase { Silent.refl state with }

theorem silent_requestSwitchUser (world : World) (state : State) :
    state.Silent (state.requestSwitchUser world) := by
  unfold requestSwitchUser
  split_ifs
  · exact .refl state
  · exact silent_managerSwitchUser world state
  · exact silent_openInhibitDialog .switchUser state

theorem silent_requestHibernate (state : State) : state.Silent state.requestHibernate := by
  unfold requestHibernate
  split_ifs
  · exact silent_emit (fun _ => rfl) state
  · exact silent_openInhibitDialog .hibernate state

theorem silent_requestSuspend (state : State) : state.Silent state.requestSuspend := by
  unfold requestSuspend
  split_ifs
  · exact silent_emit (fun _ => rfl) state
  · exact silent_openInhibitDialog .sleep state

/-- The dialog is only answered for a logout in the normal mode, which is not forced. -/
theorem speech_logoutDialogResponse (response : LogoutResponse) (state : State) :
    Speech world state (state.logoutDialogResponse world response) := by
  have closed : state.Silent { state with logoutDialog := none } := { Silent.refl state with }
  simp only [logoutDialogResponse]
  split_ifs with other
  · exact Silent.speech { Silent.refl state with }
  · have unforced : state.logoutMode ≠ .force := by
      rw [not_not.mp other]
      decide
    cases response with
    | switchUser => exact (closed.trans (silent_requestSwitchUser world _)).speech
    | hibernate => exact (closed.trans (silent_requestHibernate _)).speech
    | sleep => exact (closed.trans (silent_requestSuspend _)).speech
    | shutdown => exact closed.speech.trans (speech_requestPrivileged _ _ _ _ _)
    | reboot => exact closed.speech.trans (speech_requestPrivileged _ _ _ _ _)
    | logout => exact speech_endPhase { closed with
        forced := fun _ force => absurd force unforced }
    | _ => exact closed.speech

theorem silent_showDialog (dialog : LogoutDialog) (state : State) :
    state.Silent (state.showDialog dialog) := by
  unfold showDialog
  split_ifs with late
  · exact .refl state
  · exact { Silent.refl state with forced := fun ending => absurd ending late }

theorem speech_managerLogout {mode : UInt32}
    (logout : state.managerLogout world mode = .ok after) : Speech world state after := by
  unfold managerLogout at logout
  split_ifs at logout
  split at logout
  · cases logout
    unfold userLogout
    split_ifs with late
    · exact (Silent.refl state).speech
    · exact (silent_showDialog .logout state).speech
    · exact speech_endPhase { Silent.refl state with
        forced := fun ending => absurd ending late }
  · cases logout

theorem speech_settle {result : Except Error State}
    (done : ∀ after, result = .ok after → Speech world state after) :
    Speech world state (state.settle result) := by
  cases result with
  | ok after => exact done after rfl
  | error _ => exact (Silent.refl state).speech

theorem speech_appRegistered (id : String) (state : State) :
    Speech world state (state.appRegistered world id) := by
  simp only [appRegistered]
  split_ifs
  · exact speech_endPhase { Silent.refl state with }
  · exact Silent.speech { Silent.refl state with }
  · exact (Silent.refl state).speech

theorem speech_appConditionChanged (app : App) (condition : Bool) (state : State) :
    Speech world state (state.appConditionChanged world app condition) := by
  cases condition with
  | true =>
      simp only [appConditionChanged, if_true]
      split_ifs
      · exact (silent_emit (fun _ => rfl) state).speech
      · exact (Silent.refl state).speech
  | false =>
      cases found : state.clients.find? (Client.hasStartupId app.startupId) with
      | some client =>
          have listed : state.Silent { state with
              conditionClients := client.id :: state.conditionClients } :=
            { Silent.refl state with }
          simp only [appConditionChanged, found, Bool.false_eq_true, if_false]
          exact listed.speech.trans (.stopped _ client.id)
      | none =>
          simp only [appConditionChanged, found, Bool.false_eq_true, if_false]
          split_ifs
          · exact (silent_emit (fun _ => rfl) state).speech
          · exact (Silent.refl state).speech

theorem silent_autostartDelayTimeout (app : App) (state : State) :
    state.Silent (state.autostartDelayTimeout world app) := by
  have fired : state.Silent { state with delayedApps := state.delayedApps.erase app.id } :=
    { Silent.refl state with }
  simp only [autostartDelayTimeout]
  split_ifs
  · exact fired.trans (silent_emit (fun _ => rfl) _)
  · exact fired

/-- A D-Bus client is only registered before the session ends. -/
theorem speech_managerRegisterClient {appId startupId sender : String}
    (registered : state.managerRegisterClient world appId startupId sender = .ok after) :
    Speech world state after := by
  unfold managerRegisterClient at registered
  split_ifs at registered with late
  all_goals
    have joined : ∀ startupId appId,
        Speech world state (state.addClient (.dbus sender) startupId appId) :=
      fun startupId appId => .joined state ⟨state.clientSerial, .dbus sender, startupId, appId, []⟩
        rfl fun _ => Phase.not_query_le.mp late
    dsimp only at registered
    split at registered
    · cases registered
      exact (joined _ _).trans (speech_appRegistered _ _)
    · cases registered
      exact joined _ _

theorem line_connectDisconnected (client : Client) :
    (connectDisconnected client).line = client.line := by
  obtain ⟨_, transport, _, _, _⟩ := client
  cases transport <;> rfl

theorem speech_onXsmpClientRegisterRequest (id : Nat) (previousId : String) (state : State) :
    Speech world state (state.onXsmpClientRegisterRequest world id previousId).1 := by
  have connected := silent_updateClient line_connectDisconnected id state
  simp only [onXsmpClientRegisterRequest]
  split_ifs
  · exact (Silent.refl state).speech
  · exact connected.speech
  · split
    · exact connected.speech
    · next app _ =>
        have named := @silent_updateClient (fun client => { client with appId := app.appId })
          (fun _ => rfl) id (state.updateClient id connectDisconnected)
        exact (connected.trans named).speech.trans (speech_appRegistered _ _)

theorem speech_registerXsmpClient (id : Nat) (previousId : String) (state : State) :
    Speech world state (state.registerXsmpClient world id previousId) := by
  have requested := @speech_onXsmpClientRegisterRequest world id previousId state
  simp only [registerXsmpClient]
  split_ifs
  · exact requested
  · have named := @silent_updateClient (fun client => { client with
      startupId := (state.onXsmpClientRegisterRequest world id previousId).2 })
      (fun _ => rfl) id (state.onXsmpClientRegisterRequest world id previousId).1
    exact requested.trans (named.trans (silent_tell_save _ _ _ id)).speech

theorem speech_saveYourselfRequest (id : Nat) (shutdown fast global : Bool) (state : State) :
    Speech world state (state.saveYourselfRequest world id shutdown fast global) := by
  unfold saveYourselfRequest
  split
  · split
    · next logout => exact speech_managerLogout logout
    · exact (Silent.refl state).speech
  · exact (silent_tell_save _ _ state id).speech
  · exact (Silent.refl state).speech

theorem silent_answered (id : Nat) (state : State) :
    state.Silent (state.updateClient id Client.answered) :=
  @silent_updateClient Client.answered (fun _ => rfl) id state

theorem speech_saveAnswered {client : Client} {call : SaveState → SaveState × List SmsMessage}
    {response : Response} {state : State}
    (foreign : response.doLast = true → state.Foreign client.id) :
    Speech world state (state.saveAnswered world client call response) := by
  have answered := (silent_tell_save .save call state client.id).trans
    (silent_answered client.id _)
  have said : Speech world state _ := answered.speech
  exact said.trans (speech_handle fun last => (foreign last).speech said)

theorem speech_connectionLost (client : Client) (state : State) :
    Speech world state (state.connectionLost world client) := by
  have disconnected : state.Silent (state.updateClient client.id disconnect) := by
    refine silent_updateClient (fun one => ?_) client.id state
    obtain ⟨_, transport, _, _, _⟩ := one
    cases transport <;> rfl
  exact disconnected.speech.trans (speech_emitDisconnected client client.handlers _)

/-- An XSMP client of the store is no D-Bus client. -/
theorem foreign_xsmpClient {id : Nat} {client : Client} (shaped : state.core.Shaped)
    (found : state.xsmpClient? id = some client) : state.Foreign client.id := by
  obtain ⟨stored, xsmp⟩ := Option.filter_eq_some_iff.mp found
  have member := List.mem_of_find?_eq_some stored
  refine ⟨shaped.fresh client.id (List.mem_map_of_mem member), fun listed => ?_⟩
  have dbus := (mem_lines_client shaped.distinct (client?_id stored ▸ stored) true).mp listed
  obtain ⟨_, transport, _, _, _⟩ := client
  cases transport with
  | dbus name => cases xsmp
  | xsmp => cases dbus

theorem speech_perform {call : Call} (shaped : state.core.Shaped)
    (performed : state.perform world call = some after) : Speech world state after := by
  cases call with
  | phaseTimeout =>
      simp only [perform] at performed
      split_ifs at performed
      cases performed
      exact speech_onPhaseTimeout state
  | queryEndSessionTimeout =>
      simp only [perform] at performed
      split_ifs at performed
      cases performed
      exact speech_onQueryEndSessionTimeout state
  | autostartDelayTimeout id =>
      simp only [perform] at performed
      split_ifs at performed
      obtain ⟨app, _, rfl⟩ := Option.map_eq_some_iff.mp performed
      exact (silent_autostartDelayTimeout app state).speech
  | appExited id =>
      cases performed
      exact speech_appRegistered id state
  | conditionChanged id condition =>
      simp only [perform] at performed
      split_ifs at performed
      obtain ⟨app, _, rfl⟩ := Option.map_eq_some_iff.mp performed
      exact speech_appConditionChanged app condition state
  | registerClient appId startupId sender =>
      cases performed
      exact speech_settle fun _ registered => speech_managerRegisterClient registered
  | inhibit appId toplevelXid reason flags sender =>
      cases performed
      refine speech_settle fun inhibited accepted => ?_
      simp only [managerInhibit] at accepted
      split_ifs at accepted
      all_goals cases accepted
      exact (silent_addInhibitor _ state).speech
  | uninhibit cookie =>
      cases performed
      refine speech_settle fun removed found => ?_
      unfold managerUninhibit at found
      split at found
      · cases found
      · cases found
        exact speech_removeInhibitors _ state
  | logout mode =>
      cases performed
      exact speech_settle fun _ logout => speech_managerLogout logout
  | shutdown =>
      cases performed
      refine speech_settle fun shown accepted => ?_
      unfold managerShutdown at accepted
      split_ifs at accepted
      cases accepted
      exact (silent_showDialog .shutdown state).speech
  | requestShutdown =>
      cases performed
      refine speech_settle fun requested accepted => ?_
      unfold managerRequestShutdown at accepted
      split_ifs at accepted
      cases accepted
      exact speech_requestPrivileged _ _ _ _ state
  | requestReboot =>
      cases performed
      refine speech_settle fun requested accepted => ?_
      unfold managerRequestReboot at accepted
      split_ifs at accepted
      cases accepted
      exact speech_requestPrivileged _ _ _ _ state
  | endSessionResponse id isOk reason =>
      obtain ⟨client, _, rfl⟩ := Option.map_eq_some_iff.mp performed
      exact (silent_answered client.id state).speech.trans
        (speech_handle fun last => by cases last)
  | busNameLost serviceName =>
      cases performed
      exact (speech_removeInhibitors _ state).trans (speech_removeClientsForConnection _ _)
  | busDisconnected =>
      cases performed
      have noted : state.Silent { state with dbusDisconnected := true } :=
        { Silent.refl state with }
      exact noted.speech.trans (speech_removeClientsForConnection none _)
  | acceptConnection =>
      cases performed
      exact .joined state ⟨state.clientSerial, .xsmp .init none 0 true, "", "", []⟩ rfl
        fun dbus => by cases dbus
  | registerXsmpClient id previousId =>
      obtain ⟨client, _, rfl⟩ := Option.map_eq_some_iff.mp performed
      exact speech_registerXsmpClient client.id previousId state
  | saveYourselfRequest id shutdown fast global =>
      obtain ⟨client, _, rfl⟩ := Option.map_eq_some_iff.mp performed
      exact speech_saveYourselfRequest client.id shutdown fast global state
  | saveYourselfPhase2Request id =>
      obtain ⟨client, found, rfl⟩ := Option.map_eq_some_iff.mp performed
      exact speech_saveAnswered fun _ => foreign_xsmpClient shaped found
  | interactRequest id =>
      obtain ⟨client, _, rfl⟩ := Option.map_eq_some_iff.mp performed
      exact (speech_handle fun last => by cases last).trans
        (silent_tell_save _ _ _ client.id).speech
  | interactDone id cancelShutdown =>
      obtain ⟨client, _, rfl⟩ := Option.map_eq_some_iff.mp performed
      exact speech_handle fun last => by cases last
  | saveYourselfDone id success =>
      obtain ⟨client, _, rfl⟩ := Option.map_eq_some_iff.mp performed
      have told := silent_tell Client.keepsWiring_doneFinished Client.silenced_doneFinished
      exact (speech_saveAnswered fun last => by cases last).trans (told _ client.id).speech
  | connectionLost id =>
      obtain ⟨client, _, rfl⟩ := Option.map_eq_some_iff.mp performed
      exact speech_connectionLost client state
  | logoutDialogResponse response =>
      obtain ⟨dialog, _, rfl⟩ := Option.map_eq_some_iff.mp performed
      exact speech_logoutDialogResponse response state
  | logoutDialogTimeout =>
      obtain ⟨dialog, _, rfl⟩ := Option.map_eq_some_iff.mp performed
      exact speech_logoutDialogResponse _ state
  | inhibitDialogResponse response =>
      obtain ⟨action, _, rfl⟩ := Option.map_eq_some_iff.mp performed
      exact speech_inhibitDialogResponse response state
  | terminate =>
      cases performed
      exact speech_settle fun _ logout => speech_managerLogout logout

end State

end CafeSession.Manager

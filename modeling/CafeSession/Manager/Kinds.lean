import CafeSession.Manager.Core

namespace CafeSession.Manager

open CafeSession.Xsmp

/-- The end-session response that a message of a client makes. -/
def Call.answer : Call → Option (Nat × Response)
  | .endSessionResponse client isOk reason => some (client, ⟨isOk, false, false, some reason⟩)
  | .saveYourselfPhase2Request client => some (client, ⟨true, true, false, none⟩)
  | .interactRequest client =>
      some (client, ⟨false, false, false, some "This program is blocking logout."⟩)
  | .interactDone client cancelShutdown => some (client, ⟨true, false, cancelShutdown, none⟩)
  | .saveYourselfDone client _ => some (client, ⟨true, false, false, none⟩)
  | _ => none

/-- The logout mode that a call asks for. -/
def Call.logoutMode : Call → Option LogoutMode
  | .logout mode => LogoutMode.ofCode mode
  | .terminate => some .force
  | .saveYourselfRequest _ true fast true => some (if fast then .noConfirmation else .normal)
  | _ => none

/-- The answer that a call gives to the confirmation dialog. -/
def Call.confirmation (dialog : LogoutDialog) : Call → Option LogoutResponse
  | .logoutDialogResponse response => some response
  | .logoutDialogTimeout => some dialog.defaultResponse
  | _ => none

/-- The answers of a confirmation dialog that end the phase, as far as the
privileges allow it. -/
def LogoutResponse.endsPhase (world : World) : LogoutResponse → Bool
  | .logout => true
  | .shutdown => world.stopPrivileges != .denied
  | .reboot => world.restartPrivileges != .denied
  | _ => false

/-- The call starts an app, if the phase does not keep it from that. -/
def Call.startsApp (world : World) (state : State) : Call → Bool
  | .autostartDelayTimeout id => !world.appDisabled id
  | .conditionChanged id true =>
      !world.appRunning id && (state.app? id).any fun app =>
        (state.clients.find? (Client.hasStartupId app.startupId)).isNone
  | _ => false

/-- The app that a call emits 'registered' or 'exited' of. -/
def Call.reports (state : State) : Call → Option String
  | .appExited id => some id
  | .registerClient appId startupId _ =>
      if .queryEndSession ≤ state.phase ∨
          startupId ≠ "" ∧ state.clients.any (Client.hasStartupId startupId) then
        none
      else
        let byStartupId := if startupId = "" then none else state.findAppForStartupId startupId
        let byAppId := if appId = "" then none else state.findAppForAppId appId
        (byStartupId.orElse (fun _ => byAppId)).map App.id
  | .registerXsmpClient _ previousId =>
      if state.connectsHandler previousId ∧ previousId ≠ "" then
        (state.findAppForStartupId previousId).map App.id
      else
        none
  | _ => none

/-- The startup id is empty, has just been generated, or is not the id of a client. -/
def State.NewStartupId (world : World) (startupId : String) (state : State) : Prop :=
  startupId = "" ∨ startupId = world.startupId ∨
    state.clients.any (Client.hasStartupId startupId) = false

inductive Kind (world : World) (before : State) (call : Call) (after : State) : Prop where
  | quiet (same : after.core = before.core)
  | answered {client : Client} {response : Response} {asked : State}
      (answer : call.answer = some (client.id, response)) (stored : client ∈ before.clients)
      (same : asked.core = before.core)
      (handled : after.core =
        (asked.handleClientEndSessionResponse world client response).core)
  | left {client : Client} {told : State} (lost : call = .connectionLost client.id)
      (stored : client ∈ before.clients) (same : told.core = before.core)
      (emitted : after = told.emitDisconnected world client client.handlers)
  | nameLost {serviceName : String} (lost : call = .busNameLost serviceName)
      (removed : after = before.busNameLost world serviceName)
  | busLost (lost : call = .busDisconnected) (removed : after = before.busDisconnected world)
  | called {id : String} (asked : call.startsApp world before = true)
      (late : .queryEndSession ≤ before.phase)
      (same : after.core = { before.core with
        marks := .startCalled id before.phase :: before.core.marks })
  | added {transport : Transport} {startupId appId : String}
      (named : before.NewStartupId world startupId)
      (stored : after.core = (before.addClient transport startupId appId).core)
  | registered {id : String} {told : State} (reports : call.reports before = some id)
      (same : told = before ∨ ∃ transport startupId appId, before.NewStartupId world startupId ∧
        told = before.addClient transport startupId appId)
      (handled : after = told.appRegistered world id)
  | connected {id : Nat} {previousId : String} {told registered : State}
      (asked : call = .registerXsmpClient id previousId)
      (connects : before.connectsHandler previousId = true)
      (same : told.core = before.core.connectDisconnected id)
      (registers : registered = told ∨
        ∃ app, call.reports before = some app ∧ registered = told.appRegistered world app)
      (handled : after.core = registered.core ∨ ∃ startupId,
        before.NewStartupId world startupId ∧ after.core = registered.core.rename id startupId)
  | inhibited {inhibitor : Inhibitor} (called : inhibitor.clientId = none)
      (unforced : before.logoutMode ≠ .force) (stored : after = before.addInhibitor inhibitor)
  | uninhibited {cookie : UInt32} {inhibitor : Inhibitor} (asked : call = .uninhibit cookie)
      (found : before.inhibitors.find? (fun one => one.cookie == cookie) = some inhibitor)
      (removed : after = before.removeInhibitors world (fun one => one == inhibitor))
  | logout {mode : LogoutMode} (asked : call.logoutMode = some mode)
      (running : before.phase = .running) (unlocked : world.logOutDisabled = false)
      (requested : after = before.userLogout world mode)
  | shown (running : before.phase = .running) (opened : after = before.showDialog .shutdown)
  | privileged {answer : PrivilegeAnswer} {plain interact cdm : LogoutType}
      (running : before.phase = .running)
      (types : plain ≠ .none ∧ interact ≠ .none ∧ cdm ≠ .none)
      (requested : after = before.requestPrivileged world answer plain interact cdm)
  | confirmed {dialog : LogoutDialog} {response : LogoutResponse}
      (opened : before.logoutDialog = some dialog)
      (answer : call.confirmation dialog = some response)
      (handled : after = before.logoutDialogResponse world response)
  | inhibitAnswered {action : LogoutAction} {response : InhibitResponse}
      (opened : before.inhibitDialog = some action)
      (asked : call = .inhibitDialogResponse response)
      (handled : after = before.inhibitDialogResponse world response)
  | queryTimedOut (asked : call = .queryEndSessionTimeout) (armed : before.queryTimeout = true)
      (fired : after = before.onQueryEndSessionTimeout world)
  | phaseTimedOut (asked : call = .phaseTimeout) (armed : before.phaseTimeout = true)
      (fired : after = before.onPhaseTimeout world)

namespace State

variable {world : World} {before after : State} {call : Call}

theorem dbusClient?_mem {id : Nat} {client : Client}
    (found : before.dbusClient? id = some client) : client.id = id ∧ client ∈ before.clients := by
  obtain ⟨stored, _⟩ := Option.filter_eq_some_iff.mp found
  exact ⟨client?_id stored, List.mem_of_find?_eq_some stored⟩

theorem xsmpClient?_mem {id : Nat} {client : Client}
    (found : before.xsmpClient? id = some client) : client.id = id ∧ client ∈ before.clients := by
  obtain ⟨stored, _⟩ := Option.filter_eq_some_iff.mp found
  exact ⟨client?_id stored, List.mem_of_find?_eq_some stored⟩

theorem managerLogout_kind {mode : UInt32}
    (modes : ∀ wanted, LogoutMode.ofCode mode = some wanted → call.logoutMode = some wanted) :
    Kind world before call (before.settle (before.managerLogout world mode)) := by
  unfold managerLogout
  by_cases running : before.phase = .running
  · cases locked : world.logOutDisabled with
    | true => exact .quiet (by simp [running, settle])
    | false =>
        cases wanted : LogoutMode.ofCode mode with
        | none => exact .quiet (by simp [running, settle])
        | some mode =>
            refine .logout (modes mode wanted) running locked ?_
            simp [running, settle]
  · exact .quiet (by simp [running, settle])

theorem core_connectDisconnected (id : Nat) :
    (before.updateClient id connectDisconnected).core = before.core.connectDisconnected id := by
  refine core_rewire ?_ fun wiring => ?_
  · rintro ⟨id, transport, startupId, appId, unanswered⟩
    cases transport <;> rfl
  · unfold Wiring.connect
    split_ifs <;> rfl

theorem wiring_disconnect (client : Client) : (disconnect client).wiring = client.wiring := by
  obtain ⟨id, transport, startupId, appId, unanswered⟩ := client
  cases transport <;> rfl

theorem core_disconnect (id : Nat) :
    (before.updateClient id disconnect).core = before.core :=
  core_updateClient wiring_disconnect

theorem core_answered (id : Nat) :
    (before.updateClient id Client.answered).core = before.core :=
  core_updateClient (fun _ => rfl)

theorem core_saveAnswered (id : Nat) (save : SaveState → SaveState × List SmsMessage) :
    ((before.tell (Client.saveCall .save save) id).updateClient id Client.answered).core =
      before.core := by
  rw [core_answered, core_tell (Client.keepsWiring_saveCall _ _)]

theorem core_rename (id : Nat) (startupId : String) :
    (before.updateClient id (fun client => { client with startupId := startupId })).core =
      before.core.rename id startupId :=
  @core_rewire before id _ (fun wiring => { wiring with startupId := startupId })
    (fun _ => rfl) (fun _ => rfl)

/-- The end of `register_client_callback`, which names the client. -/
theorem core_accepted (told : State) (id : Nat) (previousId newId : String) :
    ((told.updateClient id (fun client => { client with startupId := newId })).tell
      (Client.saveCall .save (fun save => save.registerClient previousId newId)) id).core =
      told.core.rename id newId := by
  rw [core_tell (Client.keepsWiring_saveCall _ _), core_rename]

theorem newStartupId_of_connects {previousId : String} (some_ : previousId ≠ "")
    (connects : before.connectsHandler previousId = true) :
    before.NewStartupId world previousId := by
  simp only [connectsHandler, Bool.and_eq_true, Bool.or_eq_true, beq_iff_eq, some_, false_or,
    Bool.not_eq_true'] at connects
  exact .inr (.inr connects.2)

/-- A request to register connects the handler, may tell an app, and may name the client. -/
theorem registerXsmpClient_cases {id : Nat} {previousId : String}
    (connects : before.connectsHandler previousId = true) :
    ∃ told registered : State, told.core = before.core.connectDisconnected id ∧
      (registered = told ∨ ∃ app,
        (Call.registerXsmpClient id previousId).reports before = some app ∧
          registered = told.appRegistered world app) ∧
      ((before.registerXsmpClient world id previousId).core = registered.core ∨
        ∃ startupId, before.NewStartupId world startupId ∧
          (before.registerXsmpClient world id previousId).core =
            registered.core.rename id startupId) := by
  have connected := @core_connectDisconnected before id
  unfold registerXsmpClient onXsmpClientRegisterRequest
  rw [connects]
  by_cases fresh : previousId = ""
  · simp only [Bool.not_true, Bool.false_eq_true, if_false, if_pos fresh]
    refine ⟨_, _, connected, .inl rfl, ?_⟩
    split_ifs
    · exact .inl rfl
    · exact .inr ⟨world.startupId, .inr (.inl rfl), core_accepted _ _ _ _⟩
  · simp only [Bool.not_true, Bool.false_eq_true, if_false, if_neg fresh]
    cases found : (before.updateClient id connectDisconnected).findAppForStartupId previousId with
    | none => exact ⟨_, _, connected, .inl rfl, .inl rfl⟩
    | some app =>
        simp only [if_neg fresh]
        have reports : (Call.registerXsmpClient id previousId).reports before = some app.id := by
          rw [Call.reports, if_pos ⟨connects, fresh⟩]
          exact congrArg (Option.map App.id) found
        have named : ((before.updateClient id connectDisconnected).updateClient id
            (fun client => { client with appId := app.appId })).core =
            before.core.connectDisconnected id := by
          rw [← connected]
          exact core_updateClient (fun _ => rfl)
        exact ⟨_, _, named, .inr ⟨app.id, reports, rfl⟩, .inr ⟨previousId,
          newStartupId_of_connects fresh connects, core_accepted _ _ _ _⟩⟩

theorem registerXsmpClient_kind {id : Nat} {previousId : String} :
    Kind world before (.registerXsmpClient id previousId)
      (before.registerXsmpClient world id previousId) := by
  cases connects : before.connectsHandler previousId with
  | false =>
      refine .quiet ?_
      unfold registerXsmpClient onXsmpClientRegisterRequest
      rw [connects]
      rfl
  | true =>
      obtain ⟨told, registered, same, registers, handled⟩ :=
        @registerXsmpClient_cases world before id previousId connects
      exact .connected rfl connects same registers handled

theorem saveYourselfRequest_kind {id : Nat} {shutdown fast global : Bool}
    (modes : (shutdown && global) = true →
      call.logoutMode = some (if fast then .noConfirmation else .normal)) :
    Kind world before call (before.saveYourselfRequest world id shutdown fast global) := by
  unfold saveYourselfRequest
  cases kind : SaveState.requestKind shutdown global with
  | logout =>
      have both : (shutdown && global) = true := by
        unfold SaveState.requestKind at kind
        split_ifs at kind with both
        exact both
      change Kind world before call
        (before.settle (before.managerLogout world (if fast then 1 else 0)))
      refine managerLogout_kind fun wanted asked => ?_
      rw [modes both, ← asked]
      cases fast <;> decide
  | checkpoint => exact .quiet (core_tell (Client.keepsWiring_saveCall _ _) _)
  | ignored => exact .quiet rfl

theorem app?_id {id : String} {app : App} (found : before.app? id = some app) : app.id = id := by
  have hit := List.find?_some (p := fun app : App => app.id == id) found
  simpa using hit

theorem startCalled_kind {id : String} {called : State}
    (asked : call.startsApp world before = true)
    (started : after = called.emit (.startCalled id before.phase))
    (same : called.core = before.core) : Kind world before call after := by
  by_cases late : Phase.queryEndSession ≤ before.phase
  · refine @Kind.called _ _ _ _ id asked late ?_
    have marked : (called.emit (.startCalled id before.phase)).core = { called.core with
        marks := .startCalled id before.phase :: called.core.marks } := by
      simp [core, emit, clientIds, Effect.isMark, late]
    rw [started, marked, same]
  · refine .quiet ?_
    rw [started, core_emit (by simpa [Effect.isMark] using late), same]

theorem managerRegisterClient_kind {appId startupId sender : String} :
    Kind world before (.registerClient appId startupId sender)
      (before.settle (before.managerRegisterClient world appId startupId sender)) := by
  unfold managerRegisterClient
  by_cases ending : Phase.queryEndSession ≤ before.phase
  · rw [if_pos ending]
    exact .quiet rfl
  by_cases used : startupId ≠ "" ∧ before.clients.any (Client.hasStartupId startupId)
  · rw [if_neg ending, if_pos used]
    exact .quiet rfl
  have named : before.NewStartupId world (if startupId = "" then world.startupId else startupId) := by
    split_ifs with fresh
    · exact .inr (.inl rfl)
    · exact .inr (.inr (by simpa [fresh] using used))
  rw [if_neg ending, if_neg used]
  dsimp only
  split
  · next app found =>
      refine .registered ?_ (.inr ⟨_, _, _, named, rfl⟩) rfl
      rw [Call.reports, if_neg (not_or.mpr ⟨ending, used⟩)]
      exact congrArg (Option.map App.id) found
  · exact .added named rfl

theorem perform_kind (performed : before.perform world call = some after) :
    Kind world before call after := by
  cases call with
  | phaseTimeout =>
      obtain ⟨armed, rfl⟩ := by simpa [perform] using performed
      exact .phaseTimedOut rfl armed rfl
  | queryEndSessionTimeout =>
      obtain ⟨armed, rfl⟩ := by simpa [perform] using performed
      exact .queryTimedOut rfl armed rfl
  | autostartDelayTimeout id =>
      obtain ⟨_, app, found, rfl⟩ := by simpa [perform] using performed
      unfold autostartDelayTimeout
      dsimp only
      split_ifs with enabled
      · refine startCalled_kind ?_ rfl rfl
        rw [app?_id found] at enabled
        exact enabled
      · exact .quiet rfl
  | appExited id =>
      cases performed
      exact .registered rfl (.inl rfl) rfl
  | conditionChanged id condition =>
      obtain ⟨_, app, found, rfl⟩ := by simpa [perform] using performed
      unfold appConditionChanged
      cases condition with
      | true =>
          simp only [if_true]
          split_ifs with starts
          · refine startCalled_kind ?_ rfl rfl
            rw [app?_id found] at starts
            simpa [Call.startsApp, found] using starts
          · exact .quiet rfl
      | false =>
          simp only [Bool.false_eq_true, if_false]
          split
          · exact .quiet (core_tell Client.keepsWiring_stop _)
          · split_ifs
            · exact .quiet (core_emit rfl)
            · exact .quiet rfl
  | registerClient appId startupId sender =>
      cases performed
      exact managerRegisterClient_kind
  | inhibit appId toplevelXid reason flags sender =>
      cases performed
      unfold managerInhibit
      split_ifs with forced
      · exact .quiet rfl
      · exact .quiet rfl
      · exact .quiet rfl
      · exact .quiet rfl
      · exact .inhibited rfl forced rfl
  | uninhibit cookie =>
      cases performed
      unfold managerUninhibit
      cases found : before.inhibitors.find? (fun one => one.cookie == cookie) with
      | none => exact .quiet rfl
      | some inhibitor => exact .uninhibited rfl found rfl
  | logout mode =>
      cases performed
      exact managerLogout_kind fun _ wanted => wanted
  | shutdown =>
      cases performed
      unfold managerShutdown
      split_ifs with other locked
      · exact .quiet rfl
      · exact .quiet rfl
      · exact .shown (not_not.mp other) rfl
  | requestShutdown =>
      cases performed
      unfold managerRequestShutdown
      split_ifs with other
      · exact .quiet rfl
      · exact .privileged (not_not.mp other) (by decide) rfl
  | requestReboot =>
      cases performed
      unfold managerRequestReboot
      split_ifs with other
      · exact .quiet rfl
      · exact .privileged (not_not.mp other) (by decide) rfl
  | endSessionResponse id isOk reason =>
      obtain ⟨client, found, rfl⟩ := Option.map_eq_some_iff.mp performed
      obtain ⟨rfl, stored⟩ := dbusClient?_mem found
      exact .answered rfl stored (core_answered _) rfl
  | busNameLost serviceName =>
      cases performed
      exact .nameLost rfl rfl
  | busDisconnected =>
      cases performed
      exact .busLost rfl rfl
  | acceptConnection =>
      cases performed
      exact .added (.inl rfl) rfl
  | registerXsmpClient id previousId =>
      obtain ⟨client, found, rfl⟩ := Option.map_eq_some_iff.mp performed
      obtain ⟨rfl, _⟩ := xsmpClient?_mem found
      exact registerXsmpClient_kind
  | saveYourselfRequest id shutdown fast global =>
      obtain ⟨client, found, rfl⟩ := Option.map_eq_some_iff.mp performed
      refine saveYourselfRequest_kind fun both => ?_
      simp only [Bool.and_eq_true] at both
      rw [both.1, both.2]
      rfl
  | saveYourselfPhase2Request id =>
      obtain ⟨client, found, rfl⟩ := Option.map_eq_some_iff.mp performed
      obtain ⟨rfl, stored⟩ := xsmpClient?_mem found
      exact .answered rfl stored (core_saveAnswered _ _) rfl
  | interactRequest id =>
      obtain ⟨client, found, rfl⟩ := Option.map_eq_some_iff.mp performed
      obtain ⟨rfl, stored⟩ := xsmpClient?_mem found
      exact .answered rfl stored rfl (core_tell (Client.keepsWiring_saveCall _ _) _)
  | interactDone id cancelShutdown =>
      obtain ⟨client, found, rfl⟩ := Option.map_eq_some_iff.mp performed
      obtain ⟨rfl, stored⟩ := xsmpClient?_mem found
      exact .answered rfl stored rfl rfl
  | saveYourselfDone id success =>
      obtain ⟨client, found, rfl⟩ := Option.map_eq_some_iff.mp performed
      obtain ⟨rfl, stored⟩ := xsmpClient?_mem found
      exact .answered rfl stored (core_saveAnswered _ _) (core_tell Client.keepsWiring_doneFinished _)
  | connectionLost id =>
      obtain ⟨client, found, rfl⟩ := Option.map_eq_some_iff.mp performed
      obtain ⟨rfl, stored⟩ := xsmpClient?_mem found
      exact .left rfl stored (core_disconnect _) rfl
  | logoutDialogResponse response =>
      obtain ⟨dialog, opened, rfl⟩ := Option.map_eq_some_iff.mp performed
      exact .confirmed opened rfl rfl
  | logoutDialogTimeout =>
      obtain ⟨dialog, opened, rfl⟩ := Option.map_eq_some_iff.mp performed
      exact .confirmed opened rfl rfl
  | inhibitDialogResponse response =>
      obtain ⟨action, opened, rfl⟩ := Option.map_eq_some_iff.mp performed
      exact .inhibitAnswered opened rfl rfl
  | terminate =>
      cases performed
      refine managerLogout_kind fun wanted asked => ?_
      rw [← asked]
      rfl

end State

end CafeSession.Manager

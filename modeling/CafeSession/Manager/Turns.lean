import CafeSession.Manager.Departures

/-! # The turns of a run

`Kind` says what one call does, from any state.  From a shaped state it does
less: most calls make only routine moves, which bring the session no nearer to
its end, and the others end a phase, close a dialog or lose a client in one of
the ways of `Turn`. -/

namespace CafeSession.Manager

open CafeSession.Transition

/-- The moves that neither ask a client, nor answer for one, nor end a phase
from the running phase on. -/
inductive Core.Routine : Core → Core → Prop
  | refl (core : Core) : Routine core core
  | trans {before middle after : Core} (first : Routine before middle)
      (second : Routine middle after) : Routine before after
  | added (core : Core) (wiring : Wiring) : Routine core (core.addClient wiring)
  | renamed (core : Core) (id : Nat) (startupId : String) : Routine core (core.rename id startupId)
  /-- an app has registered and others are waited for -/
  | registered (core : Core) {id : String} (waits : core.pendingApps.erase id ≠ []) :
      Routine core { core with
        pendingApps := core.pendingApps.erase id
        registeredHandlers := core.registeredHandlers.filter (fun other => other != id) }
  /-- a startup phase ends, when its last app has registered or when it has timed out -/
  | started {core after : Core} {marks : List Effect} (early : core.phase < .running)
      (noted : marks = core.marks ∨ marks = .phaseTimedOut core.phase :: core.marks)
      (starts : { core with
        phaseTimeout := false
        pendingApps := []
        registeredHandlers := []
        marks := marks }.Started after) :
      Routine core after
  | locked (core : Core) {mode : LogoutMode} {type : LogoutType}
      (running : core.phase = .running) (closed : core.logoutDialog = none ∨ mode = core.logoutMode)
      (unforced : mode ≠ .force ∨ mode = core.logoutMode) :
      Routine core { core with
        phaseTimeout := false
        pendingApps := []
        queryClients := []
        nextQueryClients := []
        logoutMode := mode
        logoutType := type }
  | inhibited (core : Core) {inhibitor : Inhibitor} (called : inhibitor.clientId = none)
      (unforced : core.logoutMode ≠ .force) :
      Routine core { core with inhibitors := core.inhibitors ++ [inhibitor] }
  | shown (core : Core) (dialog : LogoutDialog) (running : core.phase = .running) :
      Routine core { core with logoutMode := .normal, logoutDialog := some dialog }
  | hidden (core : Core) : Routine core { core with logoutDialog := none }
  | presented (core : Core) {action : LogoutAction} (stays : action.endsSession = false) :
      Routine core { core with inhibitDialog := some (core.inhibitDialog.getD action) }
  | closed (core : Core) {action : LogoutAction} (response : InhibitResponse)
      (opened : core.inhibitDialog = some action) (stays : action.endsSession = false) :
      Routine core { core with
        inhibitDialog := none
        marks := .inhibitDialogAnswered action response :: core.marks }
  | faulted (core : Core) (opened : core.logoutDialog ≠ none) (other : core.logoutMode ≠ .normal) :
      Routine core { core with fault := some .logoutDialogMode }

inductive Turn (world : World) (before : State) (call : Call) (after : Core) : Prop
  | routine (moved : before.core.Routine after)
  | connected {id : Nat} {previousId : String} (asked : call = .registerXsmpClient id previousId)
      (connects : before.connectsHandler previousId = true)
      (moved : (before.core.connectDisconnected id).Routine after)
  | answered {client : Client} {response : Response} {asked : State}
      (answer : call.answer = some (client.id, response)) (stored : client ∈ before.clients)
      (same : asked.core = before.core)
      (handled : after = (asked.handleClientEndSessionResponse world client response).core)
  | called {id : String} (asked : call.startsApp world before = true)
      (late : .queryEndSession ≤ before.phase)
      (same : after = { before.core with
        marks := .startCalled id before.phase :: before.core.marks })
  | departed (departing : Departing world before call after)
  | uninhibited {cookie : UInt32} {inhibitor : Inhibitor} (asked : call = .uninhibit cookie)
      (found : before.inhibitors.find? (fun one => one.cookie == cookie) = some inhibitor)
      (removed : after = (before.removeInhibitors world (fun one => one == inhibitor)).core)
  /-- the running phase ends -/
  | asked {leaving : State} {mode : LogoutMode} {type : LogoutType}
      {dialog : Option LogoutDialog}
      (running : before.phase = .running) (unlocked : world.logOutDisabled = false)
      (closed : dialog = none ∨ dialog = before.logoutDialog ∧
        (mode = before.logoutMode ∨ call.logoutMode = some mode))
      (typed : type ≠ .none)
      (same : leaving.core = { before.core with
        logoutMode := mode
        logoutType := type
        logoutDialog := dialog })
      (ended : after = (leaving.endPhase world).core)
  /-- a confirmation dialog from the running phase is answered when the session ends already -/
  | confirmed {leaving : State} {dialog : LogoutDialog} {response : LogoutResponse}
      {mode : LogoutMode} {type : LogoutType}
      (late : .queryEndSession ≤ before.phase) (opened : before.logoutDialog = some dialog)
      (normal : before.logoutMode = .normal) (answer : call.confirmation dialog = some response)
      (ends : response.endsPhase world = true) (typed : type ≠ .none)
      (same : leaving.core = { before.core with
        logoutMode := mode
        logoutType := type
        logoutDialog := none })
      (ended : after = (leaving.endPhase world).core)
  | cancelled {action : LogoutAction} {response : InhibitResponse}
      (opened : before.inhibitDialog = some action) (ends : action.endsSession = true)
      (asked : call = .inhibitDialogResponse response) (refused : response ≠ .accept)
      (handled : after = ((before.answerDialog action response).cancelEndSession world).core)
  | accepted {action : LogoutAction}
      (opened : before.inhibitDialog = some action) (ends : action.endsSession = true)
      (asked : call = .inhibitDialogResponse .accept)
      (handled : after =
        ({ before.answerDialog action .accept with logoutMode := .force }.endPhase world).core)
  | queryTimedOut (asked : call = .queryEndSessionTimeout) (armed : before.queryTimeout = true)
      (fired : after = (before.onQueryEndSessionTimeout world).core)
  | phaseTimedOut (asked : call = .phaseTimeout) (armed : before.phaseTimeout = true)
      (ending : before.phase = .endSession)
      (fired : after = ((({ before with phaseTimeout := false } : State).emit
        (.phaseTimedOut before.phase)).endPhase world).core)

namespace State

variable {world : World} {before after : State} {call : Call}

theorem addClient_routine (before : State) (transport : Transport) (startupId appId : String) :
    before.core.Routine (before.addClient transport startupId appId).core := by
  let client : Client := ⟨before.clientSerial, transport, startupId, appId, []⟩
  have core : (before.addClient transport startupId appId).core =
      before.core.addClient client.wiring := by
    simp [State.core, clientIds, addClient, Core.addClient, client]
  rw [core]
  exact .added before.core client.wiring

/-- Telling an app that it has registered makes routine moves. -/
theorem appRegistered_routine {id : String}
    (pending : before.pendingApps ≠ [] → before.phase < .application)
    (handlers : ∀ other ∈ before.registeredHandlers, other ∈ before.pendingApps) :
    before.core.Routine (before.appRegistered world id).core := by
  unfold appRegistered
  split_ifs with follows
  · have waits : id ∈ before.pendingApps := handlers id (by simpa using follows)
    have early : before.phase < .running := Nat.lt_succ_of_lt (pending (List.ne_nil_of_mem waits))
    dsimp only
    split_ifs with last
    · have unfollowed : before.registeredHandlers.filter (fun other => other != id) = [] := by
        rw [List.filter_eq_nil_iff]
        intro other followed
        by_contra different
        have left := (List.mem_erase_of_ne (by simpa using different)).mpr (handlers other followed)
        rw [last] at left
        cases left
      refine .started early (.inl rfl) ?_
      rw [last, unfollowed]
      exact @core_endPhase_startup world { before with
        pendingApps := []
        registeredHandlers := []
        phaseTimeout := false } early
    · exact .registered before.core last
  · exact .refl _

/-- Asking for an inhibit dialog that does not end the session is a routine move. -/
theorem openInhibitDialog_routine {action : LogoutAction} (stays : action.endsSession = false) :
    before.core.Routine (before.openInhibitDialog action).core := by
  have presented := Core.Routine.presented before.core stays
  unfold openInhibitDialog
  cases opened : before.inhibitDialog with
  | some _ => exact .refl _
  | none =>
      rw [show before.core.inhibitDialog = none from opened] at presented
      exact presented

theorem showDialog_routine {dialog : LogoutDialog} (running : before.phase = .running) :
    before.core.Routine (before.showDialog dialog).core := by
  unfold showDialog
  rw [if_neg (Phase.running_early running)]
  exact .shown before.core dialog running

theorem endPhase_asked_turn {leaving : State} {mode : LogoutMode} {type : LogoutType}
    {dialog : Option LogoutDialog} (running : before.phase = .running)
    (closed : dialog = none ∨ dialog = before.logoutDialog ∧ mode = before.logoutMode)
    (unforced : mode ≠ .force ∨ mode = before.logoutMode) (typed : type ≠ .none)
    (same : leaving.core = { before.core with
      logoutMode := mode
      logoutType := type
      logoutDialog := dialog }) :
    Turn world before call (leaving.endPhase world).core := by
  cases locked : world.logOutDisabled with
  | false =>
      refine .asked running locked ?_ typed same rfl
      exact closed.imp_right fun kept => ⟨kept.1, .inl kept.2⟩
  | true =>
      have leavingRunning : leaving.phase = .running := (congrArg Core.phase same).trans running
      have cleared : leaving.clearPhase.core = { leaving.core with
          phaseTimeout := false
          pendingApps := []
          queryClients := []
          nextQueryClients := [] } := rfl
      rw [endPhase_locked leavingRunning locked, cleared, same]
      rcases closed with closed | ⟨sameDialog, sameMode⟩
      · subst closed
        exact .routine ((Core.Routine.hidden before.core).trans
          (.locked { before.core with logoutDialog := none } running (.inl rfl) unforced))
      · subst sameDialog
        exact .routine (.locked before.core running (.inr sameMode) unforced)

/-- The privileges of the seat service decide only the logout type. -/
theorem requestPrivileged_cases {answer : PrivilegeAnswer} {plain interact cdm : LogoutType}
    (types : plain ≠ .none ∧ interact ≠ .none ∧ cdm ≠ .none) :
    before.requestPrivileged world answer plain interact cdm = before ∨
      answer ≠ .denied ∧ ∃ type, type ≠ .none ∧
        before.requestPrivileged world answer plain interact cdm =
          { before with logoutType := type }.endPhase world := by
  cases answer with
  | granted => exact .inr ⟨nofun, plain, types.1, rfl⟩
  | askLater => exact .inr ⟨nofun, interact, types.2.1, rfl⟩
  | denied => exact .inl rfl
  | unavailable => exact .inr ⟨nofun, cdm, types.2.2, rfl⟩

/-- The answer of a confirmation dialog fails, changes no more of the core than
an inhibit dialog does, or ends a phase. -/
theorem core_logoutDialogResponse_cases (response : LogoutResponse) :
    before.logoutMode ≠ .normal ∧ (before.logoutDialogResponse world response).core =
        { before.core with fault := some .logoutDialogMode } ∨
      before.logoutMode = .normal ∧
        ((before.logoutDialogResponse world response).core =
            { before.core with logoutDialog := none } ∨
          (∃ action : LogoutAction, action.endsSession = false ∧
            (before.logoutDialogResponse world response).core =
              (({ before with logoutDialog := none } : State).openInhibitDialog action).core) ∨
          response.endsPhase world = true ∧ ∃ mode type, mode ≠ .force ∧ type ≠ .none ∧
            before.logoutDialogResponse world response = ({ before with
              logoutDialog := none
              logoutMode := mode
              logoutType := type } : State).endPhase world) := by
  unfold logoutDialogResponse
  split_ifs with other
  · exact .inl ⟨other, rfl⟩
  · have normal := not_not.mp other
    have unforced : before.logoutMode ≠ .force := by
      rw [normal]
      nofun
    refine .inr ⟨normal, ?_⟩
    cases response with
    | cancel => exact .inl rfl
    | none => exact .inl rfl
    | deleteEvent => exact .inl rfl
    | switchUser =>
        dsimp only [requestSwitchUser]
        split_ifs
        · exact .inl rfl
        · exact .inl core_managerSwitchUser
        · exact .inr (.inl ⟨.switchUser, rfl, rfl⟩)
    | hibernate =>
        dsimp only [requestHibernate]
        split_ifs
        · exact .inl (core_emit rfl)
        · exact .inr (.inl ⟨.hibernate, rfl, rfl⟩)
    | sleep =>
        dsimp only [requestSuspend]
        split_ifs
        · exact .inl (core_emit rfl)
        · exact .inr (.inl ⟨.sleep, rfl, rfl⟩)
    | shutdown =>
        rcases @requestPrivileged_cases world { before with logoutDialog := none }
          world.stopPrivileges .shutdown .shutdownInteract .shutdownCdm (by decide) with
          same | ⟨granted, type, typed, ended⟩
        · exact .inl (congrArg core same)
        · exact .inr (.inr ⟨by simpa [LogoutResponse.endsPhase] using granted, before.logoutMode,
            type, unforced, typed, ended⟩)
    | reboot =>
        rcases @requestPrivileged_cases world { before with logoutDialog := none }
          world.restartPrivileges .reboot .rebootInteract .rebootCdm (by decide) with
          same | ⟨granted, type, typed, ended⟩
        · exact .inl (congrArg core same)
        · exact .inr (.inr ⟨by simpa [LogoutResponse.endsPhase] using granted, before.logoutMode,
            type, unforced, typed, ended⟩)
    | logout => exact .inr (.inr ⟨rfl, .noConfirmation, .logout, nofun, nofun, rfl⟩)

theorem logoutDialogResponse_turn {dialog : LogoutDialog} {response : LogoutResponse}
    (shaped : before.core.Shaped) (opened : before.logoutDialog = some dialog)
    (answer : call.confirmation dialog = some response) :
    Turn world before call (before.logoutDialogResponse world response).core := by
  have some_ : before.core.logoutDialog ≠ none := by
    rw [show before.core.logoutDialog = some dialog from opened]
    nofun
  have shown := shaped.shown some_
  have hidden := Core.Routine.hidden before.core
  rcases @core_logoutDialogResponse_cases world before response with ⟨other, faulted⟩ |
    ⟨normal, closed | ⟨action, stays, presents⟩ | ⟨ends, mode, type, unforced, typed, leaves⟩⟩
  · rw [faulted]
    exact .routine (.faulted before.core some_ other)
  · rw [closed]
    exact .routine hidden
  · rw [presents]
    exact .routine (hidden.trans
      (@openInhibitDialog_routine { before with logoutDialog := none } action stays))
  · rw [leaves]
    by_cases late : Phase.queryEndSession ≤ before.phase
    · exact .confirmed late opened normal answer ends typed rfl rfl
    · have running : before.phase = .running := Phase.eq_running shown late
      exact endPhase_asked_turn running (.inl rfl) (.inl unforced) typed rfl

/-- The answer of an inhibit dialog closes it, and may end the session or cancel
its end. -/
theorem core_inhibitDialogResponse_cases {action : LogoutAction}
    (opened : before.inhibitDialog = some action) (response : InhibitResponse) :
    action.endsSession = false ∧ (before.inhibitDialogResponse world response).core =
        (before.answerDialog action response).core ∨
      action.endsSession = true ∧
        (response = .accept ∧ before.inhibitDialogResponse world response =
            { before.answerDialog action .accept with logoutMode := .force }.endPhase world ∨
          response ≠ .accept ∧ before.inhibitDialogResponse world response =
            (before.answerDialog action response).cancelEndSession world) := by
  unfold inhibitDialogResponse
  rw [opened]
  dsimp only
  cases ends : action.endsSession with
  | false =>
      refine .inl ⟨rfl, ?_⟩
      cases response with
      | accept => exact core_doInhibitDialogAction ends
      | _ => rfl
  | true =>
      refine .inr ⟨rfl, ?_⟩
      cases response with
      | accept => exact .inl ⟨rfl, doInhibitDialogAction_ends ends⟩
      | _ => exact .inr ⟨nofun, rfl⟩

theorem inhibitDialogResponse_turn {action : LogoutAction} {response : InhibitResponse}
    (opened : before.inhibitDialog = some action)
    (asked : call = .inhibitDialogResponse response) :
    Turn world before call (before.inhibitDialogResponse world response).core := by
  rcases @core_inhibitDialogResponse_cases world before action opened response with
    ⟨stays, closed⟩ | ⟨ends, ⟨rfl, ended⟩ | ⟨other, cancelled⟩⟩
  · rw [closed]
    exact .routine (.closed before.core response opened stays)
  · rw [ended]
    exact .accepted opened ends asked rfl
  · rw [cancelled]
    exact .cancelled opened ends asked other rfl

theorem onPhaseTimeout_turn (shaped : before.core.Shaped) (asked : call = .phaseTimeout)
    (armed : before.phaseTimeout = true) :
    Turn world before call (before.onPhaseTimeout world).core := by
  rcases shaped.timed armed with starting | ending
  · have early : before.phase < .running := Nat.lt_succ_of_lt starting
    have unfollowed : before.registeredHandlers.filter
        (fun id => !before.pendingApps.contains id) = [] := by
      rw [List.filter_eq_nil_iff]
      intro id followed
      have waits : id ∈ before.pendingApps := shaped.handlers id followed
      simp [waits]
    have unfollowing : before.unfollowPending = { before with registeredHandlers := [] } := by
      rw [unfollowPending, if_pos early, unfollowed]
    rw [onPhaseTimeout, unfollowing]
    exact .routine (.started early (.inr rfl) (@core_endPhase_startup world
      ({ before with registeredHandlers := [], phaseTimeout := false }.emit
        (.phaseTimedOut before.phase)) early).of_pending)
  · have late : .running ≤ before.phase := by
      rw [show before.phase = .endSession from ending]
      exact Phase.running_le_endSession
    exact .phaseTimedOut asked armed ending (by rw [onPhaseTimeout_late late])

/-- Every call that a shaped state takes is one of the turns. -/
theorem perform_turn (shaped : before.core.Shaped)
    (performed : before.perform world call = some after) : Turn world before call after.core := by
  cases perform_kind performed with
  | quiet same =>
      rw [same]
      exact .routine (.refl _)
  | answered answer stored same handled => exact .answered answer stored same handled
  | left lost stored same emitted => exact .departed (.left lost stored same (by rw [emitted]))
  | nameLost lost removed => exact .departed (.nameLost lost (by rw [removed]))
  | busLost lost removed => exact .departed (.busLost lost (by rw [removed]))
  | called asked late same => exact .called asked late same
  | added named stored =>
      rw [stored]
      exact .routine (addClient_routine before _ _ _)
  | @registered id told reports same handled =>
      rw [handled]
      rcases same with rfl | ⟨transport, startupId, appId, _, rfl⟩
      · exact .routine (appRegistered_routine shaped.pending shaped.handlers)
      · have added := addClient_routine before transport startupId appId
        exact .routine (added.trans (appRegistered_routine shaped.pending shaped.handlers))
  | @connected id previousId told registered asked connects same registers handled =>
      refine .connected asked connects ?_
      rw [← same]
      have moved : told.core.Routine registered.core := by
        rcases registers with rfl | ⟨app, _, rfl⟩
        · exact .refl _
        · have pending : told.pendingApps ≠ [] → told.phase < .application := by
            intro some_
            rw [show told.pendingApps = before.pendingApps from congrArg Core.pendingApps same]
              at some_
            rw [show told.phase = before.phase from congrArg Core.phase same]
            exact shaped.pending some_
          have handlers : ∀ other ∈ told.registeredHandlers, other ∈ told.pendingApps := by
            rw [show told.registeredHandlers = before.registeredHandlers from
              congrArg Core.registeredHandlers same]
            rw [show told.pendingApps = before.pendingApps from congrArg Core.pendingApps same]
            exact shaped.handlers
          exact appRegistered_routine pending handlers
      rcases handled with handled | ⟨startupId, _, handled⟩
      · rw [handled]
        exact moved
      · rw [handled]
        exact moved.trans (.renamed registered.core id startupId)
  | inhibited called unforced stored =>
      rw [stored]
      exact .routine (.inhibited before.core called unforced)
  | uninhibited asked found removed => exact .uninhibited asked found (by rw [removed])
  | @logout mode asked running unlocked requested =>
      rw [requested]
      unfold userLogout
      rw [if_neg (Phase.running_early running)]
      split_ifs with prompt
      · exact .routine (showDialog_routine running)
      · have typed : LogoutType.logout ≠ .none := nofun
        exact .asked running unlocked (.inr ⟨rfl, .inr asked⟩) typed rfl rfl
  | shown running opened =>
      rw [opened]
      exact .routine (showDialog_routine running)
  | privileged running types requested =>
      rw [requested]
      rcases requestPrivileged_cases types with same | ⟨_, type, typed, ended⟩
      · rw [same]
        exact .routine (.refl _)
      · rw [ended]
        exact endPhase_asked_turn running (.inr ⟨rfl, rfl⟩) (.inr rfl) typed rfl
  | confirmed opened answer handled =>
      rw [handled]
      exact logoutDialogResponse_turn shaped opened answer
  | inhibitAnswered opened asked handled =>
      rw [handled]
      exact inhibitDialogResponse_turn opened asked
  | queryTimedOut asked armed fired => exact .queryTimedOut asked armed (by rw [fired])
  | phaseTimedOut asked armed fired =>
      rw [fired]
      exact onPhaseTimeout_turn shaped asked armed

end State

end CafeSession.Manager

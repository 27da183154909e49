import CafeSession.Manager.Changes

namespace CafeSession.Manager

open CafeSession.Xsmp

open State in
/-- A callback for the call; between the moment a client is forgotten and its
removal from the store there are only changes. -/
inductive Passage (world : World) (call : Call) : State → State → Prop
  | changed {before after : State} (changes : Changes world before after) :
      Passage world call before after
  | trans {before middle after : State} (first : Passage world call before middle)
      (second : Passage world call middle after) : Passage world call before after
  | left {before middle : State} (id : Nat) (changes : Changes world
        { before with conditionClients := before.conditionClients.erase id } middle) :
      Passage world call before (middle.removeClient id)
  | joined (state : State) (transport : Transport) (startupId appId : String) :
      Passage world call state (state.addClient transport startupId appId)
  | listed (state : State) (id : Nat) {app : String} (false_ : call = .conditionChanged app false) :
      Passage world call state { state with conditionClients := id :: state.conditionClients }
  | renamed (state : State) (id : Nat) (startupId : String) {previousId : String}
      (registers : call = .registerXsmpClient id previousId) :
      Passage world call state
        (state.updateClient id (fun client => { client with startupId := startupId }))

namespace State

/-- What a callback only adds to: the apps whose condition is followed, and the
starts of the apps that are waited for. -/
structure Starts (world : World) (before after : State) : Prop where
  apps : after.apps = before.apps
  watchedApps : before.watchedApps <:+ after.watchedApps
  started : ∃ news, after.log = news ++ before.log ∧ ∀ id ∈ after.pendingApps,
    id ∈ before.pendingApps ∨
      world.appStarts id = true ∧ ∃ phase, .startCalled id phase ∈ news

variable {world : World} {request : Call} {state before after : State}

theorem Aside.passage (same : before.Aside after) : Passage world request before after :=
  .changed same.changes

theorem changes_disconnectClient (client : Client) (state : State) :
    Changes world { state with conditionClients := state.conditionClients.erase client.id }
      (state.disconnectClient world client) := by
  have removed := @changes_removeInhibitors world (Inhibitor.hasClientId client.id)
    { state with conditionClients := state.conditionClients.erase client.id }
  simp only [disconnectClient]
  split_ifs
  · exact (removed.trans (changes_handle client exitedResponse _)).trans
      (aside_restartApp client _ _ _).changes
  · exact removed.trans (aside_restartApp client _ _ _).changes

theorem passage_departed (client : Client) (state : State) :
    Passage world request state
      ((state.disconnectClient world client).removeClient client.id) :=
  .left client.id (changes_disconnectClient client state)

theorem passage_endPhaseIfEmpty (state : State) :
    Passage world request state (state.endPhaseIfEmpty world) := by
  unfold endPhaseIfEmpty
  split_ifs
  · exact .changed (.single (.ended state))
  · exact .changed .refl

theorem passage_onClientDisconnected (client : Client) (state : State) :
    Passage world request state (state.onClientDisconnected world client) := by
  have noted : state.Aside (state.emit (.clientDisconnected client.id)) := aside_emit nofun
  exact (noted.passage.trans (passage_departed client _)).trans (passage_endPhaseIfEmpty _)

theorem passage_emitDisconnected (client : Client) (handlers : Nat) (state : State) :
    Passage world request state (emitDisconnected world client handlers state) := by
  induction handlers generalizing state with
  | zero => exact .changed .refl
  | succ handlers ih => exact (passage_onClientDisconnected client state).trans (ih _)

theorem passage_removeDBusClients (leaving : List Client) (state : State) :
    Passage world request state (state.removeDBusClients world leaving) := by
  unfold removeDBusClients
  induction leaving generalizing state with
  | nil => exact .changed .refl
  | cons client leaving ih => exact (passage_departed client state).trans (ih _)

theorem passage_removeClientsForConnection (serviceName : Option String) (state : State) :
    Passage world request state (state.removeClientsForConnection world serviceName) :=
  (passage_removeDBusClients _ state).trans (passage_endPhaseIfEmpty _)

theorem changes_onPhaseTimeout (state : State) :
    Changes world state (state.onPhaseTimeout world) := by
  have unfollowed : state.Aside state.unfollowPending := by
    unfold unfollowPending
    split_ifs
    · exact { Aside.refl state with }
    · exact .refl state
  have fired : state.Aside { state.unfollowPending with phaseTimeout := false } :=
    { unfollowed with }
  exact changes_endPhase (fired.trans (aside_emit nofun))

theorem changes_requestPrivileged (answer : PrivilegeAnswer) (plain interact cdm : LogoutType)
    (state : State) :
    Changes world state (state.requestPrivileged world answer plain interact cdm) := by
  cases answer with
  | denied => exact .refl
  | _ => exact changes_endPhase { Aside.refl state with }

theorem aside_requestSwitchUser (world : World) (state : State) :
    state.Aside (state.requestSwitchUser world) := by
  unfold requestSwitchUser
  split_ifs
  · exact .refl state
  · exact aside_managerSwitchUser world state
  · exact aside_openInhibitDialog .switchUser state

theorem aside_requestHibernate (state : State) : state.Aside state.requestHibernate := by
  unfold requestHibernate
  split_ifs
  · exact aside_emit nofun
  · exact aside_openInhibitDialog .hibernate state

theorem aside_requestSuspend (state : State) : state.Aside state.requestSuspend := by
  unfold requestSuspend
  split_ifs
  · exact aside_emit nofun
  · exact aside_openInhibitDialog .sleep state

theorem changes_logoutDialogResponse (response : LogoutResponse) (state : State) :
    Changes world state (state.logoutDialogResponse world response) := by
  have closed : state.Aside { state with logoutDialog := none } := { Aside.refl state with }
  simp only [logoutDialogResponse]
  split_ifs
  · exact Aside.changes { Aside.refl state with }
  · cases response with
    | switchUser => exact (closed.trans (aside_requestSwitchUser world _)).changes
    | hibernate => exact (closed.trans (aside_requestHibernate _)).changes
    | sleep => exact (closed.trans (aside_requestSuspend _)).changes
    | shutdown => exact closed.changes.trans (changes_requestPrivileged _ _ _ _ _)
    | reboot => exact closed.changes.trans (changes_requestPrivileged _ _ _ _ _)
    | logout => exact changes_endPhase { closed with }
    | _ => exact closed.changes

theorem aside_showDialog (dialog : LogoutDialog) (state : State) :
    state.Aside (state.showDialog dialog) := by
  unfold showDialog
  split_ifs
  · exact .refl state
  · exact { Aside.refl state with }

theorem changes_userLogout (mode : LogoutMode) (state : State) :
    Changes world state (state.userLogout world mode) := by
  unfold userLogout
  split_ifs
  · exact .refl
  · exact (aside_showDialog .logout state).changes
  · exact changes_endPhase { Aside.refl state with }

/-- A request that fails changes nothing. -/
theorem passage_settle {result : Except Error State}
    (done : ∀ after, result = .ok after → Passage world request state after) :
    Passage world request state (state.settle result) := by
  cases result with
  | ok after => exact done after rfl
  | error _ => exact .changed .refl

theorem changes_managerLogout {mode : UInt32}
    (logout : state.managerLogout world mode = .ok after) : Changes world state after := by
  unfold managerLogout at logout
  split_ifs at logout
  split at logout
  · cases logout
    exact changes_userLogout _ state
  · cases logout

theorem changes_appRegistered (id : String) (state : State) :
    Changes world state (state.appRegistered world id) := by
  simp only [appRegistered]
  split_ifs with followed last
  · exact .single (.lastRegistered state id)
  · exact .single (.registered id last)
  · exact .refl

theorem aside_conditionTrue (app : App) (state : State) :
    state.Aside (state.appConditionChanged world app true) := by
  simp only [appConditionChanged, if_true]
  split_ifs
  · exact aside_emit nofun
  · exact .refl state

theorem aside_conditionFalse_without {app : App}
    (nobody : state.clients.find? (Client.hasStartupId app.startupId) = none) :
    state.Aside (state.appConditionChanged world app false) := by
  simp only [appConditionChanged, nobody, Bool.false_eq_true, if_false]
  split_ifs
  · exact aside_emit nofun
  · exact .refl state

theorem aside_conditionFalse {app : App} {client : Client}
    (found : state.clients.find? (Client.hasStartupId app.startupId) = some client) :
    Aside { state with conditionClients := client.id :: state.conditionClients }
      (state.appConditionChanged world app false) := by
  simp only [appConditionChanged, found, Bool.false_eq_true, if_false]
  exact aside_tell Client.keepsWiring_stop _ _

theorem passage_appConditionChanged (app : App) (condition : Bool) (state : State) :
    Passage world (.conditionChanged app.id condition) state
      (state.appConditionChanged world app condition) := by
  cases condition with
  | true => exact (aside_conditionTrue app state).passage
  | false =>
      cases found : state.clients.find? (Client.hasStartupId app.startupId) with
      | none => exact (aside_conditionFalse_without found).passage
      | some client =>
          exact (Passage.listed state client.id rfl).trans (aside_conditionFalse found).passage

theorem aside_autostartDelayTimeout (app : App) (state : State) :
    state.Aside (state.autostartDelayTimeout world app) := by
  have fired : state.Aside { state with delayedApps := state.delayedApps.erase app.id } :=
    { Aside.refl state with }
  simp only [autostartDelayTimeout]
  split_ifs
  · exact fired.trans (aside_emit nofun)
  · exact fired

theorem passage_managerRegisterClient {appId startupId sender : String}
    (registered : state.managerRegisterClient world appId startupId sender = .ok after) :
    Passage world request state after := by
  unfold managerRegisterClient at registered
  split_ifs at registered
  all_goals
    dsimp only at registered
    split at registered
    · cases registered
      exact (Passage.joined state _ _ _).trans (.changed (changes_appRegistered _ _))
    · cases registered
      exact .joined state _ _ _

theorem changes_onXsmpClientRegisterRequest (id : Nat) (previousId : String) (state : State) :
    Changes world state (state.onXsmpClientRegisterRequest world id previousId).1 := by
  have connected : state.Aside (state.updateClient id connectDisconnected) := by
    refine aside_updateClient (fun client => ?_) id state
    obtain ⟨_, transport, _, _, _⟩ := client
    cases transport <;> rfl
  simp only [onXsmpClientRegisterRequest]
  split_ifs
  · exact .refl
  · exact connected.changes
  · split
    · exact connected.changes
    · next app _ =>
        have named := @aside_updateClient (fun client => { client with appId := app.appId })
          (fun _ => rfl) id (state.updateClient id connectDisconnected)
        exact (connected.trans named).changes.trans (changes_appRegistered _ _)

/-- A client that is not turned away is given its startup id at the end. -/
theorem changes_registerXsmpClient (id : Nat) (previousId : String) (state : State) :
    Changes world state (state.registerXsmpClient world id previousId) ∨
      ∃ middle, Changes world state middle ∧ Aside
        (middle.updateClient id (fun client => { client with
          startupId := (state.onXsmpClientRegisterRequest world id previousId).2 }))
        (state.registerXsmpClient world id previousId) ∧
        (state.onXsmpClientRegisterRequest world id previousId).2 ≠ "" := by
  have requested := @changes_onXsmpClientRegisterRequest world id previousId state
  simp only [registerXsmpClient]
  split_ifs with turned
  · exact .inl requested
  · exact .inr ⟨_, requested, aside_tell (Client.keepsWiring_saveCall _ _) _ _, turned⟩

theorem passage_registerXsmpClient (id : Nat) (previousId : String) (state : State) :
    Passage world (.registerXsmpClient id previousId) state
      (state.registerXsmpClient world id previousId) := by
  rcases @changes_registerXsmpClient world id previousId state with changes | registered
  · exact .changed changes
  · obtain ⟨middle, changes, named, _⟩ := registered
    exact (Passage.changed changes).trans ((Passage.renamed middle id _ rfl).trans named.passage)

theorem passage_saveYourselfRequest (id : Nat) (shutdown fast global : Bool) (state : State) :
    Passage world request state (state.saveYourselfRequest world id shutdown fast global) := by
  unfold saveYourselfRequest
  split
  · split
    · next logout => exact .changed (changes_managerLogout logout)
    · exact .changed .refl
  · exact (aside_tell (Client.keepsWiring_saveCall _ _) _ _).passage
  · exact .changed .refl

theorem aside_answered (id : Nat) (state : State) :
    state.Aside (state.updateClient id Client.answered) :=
  @aside_updateClient Client.answered (fun _ => rfl) id state

theorem changes_saveAnswered (client : Client) (call : SaveState → SaveState × List SmsMessage)
    (response : Response) (state : State) :
    Changes world state (state.saveAnswered world client call response) := by
  have told := aside_tell (Client.keepsWiring_saveCall .save call) state client.id
  have answered := told.trans (aside_answered client.id _)
  exact answered.changes.trans (changes_handle client response _)

theorem passage_perform {call : Call} (performed : state.perform world call = some after) :
    Passage world call state after := by
  cases call with
  | phaseTimeout =>
      simp only [perform] at performed
      split_ifs at performed
      cases performed
      exact .changed (changes_onPhaseTimeout state)
  | queryEndSessionTimeout =>
      simp only [perform] at performed
      split_ifs at performed
      cases performed
      exact .changed (changes_onQueryEndSessionTimeout state)
  | autostartDelayTimeout id =>
      simp only [perform] at performed
      split_ifs at performed
      obtain ⟨app, _, rfl⟩ := Option.map_eq_some_iff.mp performed
      exact (aside_autostartDelayTimeout app state).passage
  | appExited id =>
      cases performed
      exact .changed (changes_appRegistered id state)
  | conditionChanged id condition =>
      simp only [perform] at performed
      split_ifs at performed
      obtain ⟨app, found, rfl⟩ := Option.map_eq_some_iff.mp performed
      have named : app.id = id := by simpa using List.find?_some found
      rw [← named]
      exact passage_appConditionChanged app condition state
  | registerClient appId startupId sender =>
      cases performed
      exact passage_settle fun _ registered => passage_managerRegisterClient registered
  | inhibit appId toplevelXid reason flags sender =>
      cases performed
      refine passage_settle fun inhibited accepted => ?_
      simp only [managerInhibit] at accepted
      split_ifs at accepted
      all_goals cases accepted
      exact .changed (changes_addInhibitor _ state)
  | uninhibit cookie =>
      cases performed
      refine passage_settle fun removed found => ?_
      unfold managerUninhibit at found
      split at found
      · cases found
      · cases found
        exact .changed (changes_removeInhibitors _ state)
  | logout mode =>
      cases performed
      exact passage_settle fun _ logout => .changed (changes_managerLogout logout)
  | shutdown =>
      cases performed
      refine passage_settle fun shown accepted => ?_
      unfold managerShutdown at accepted
      split_ifs at accepted
      cases accepted
      exact (aside_showDialog .shutdown state).passage
  | requestShutdown =>
      cases performed
      refine passage_settle fun requested accepted => ?_
      unfold managerRequestShutdown at accepted
      split_ifs at accepted
      cases accepted
      exact .changed (changes_requestPrivileged _ _ _ _ state)
  | requestReboot =>
      cases performed
      refine passage_settle fun requested accepted => ?_
      unfold managerRequestReboot at accepted
      split_ifs at accepted
      cases accepted
      exact .changed (changes_requestPrivileged _ _ _ _ state)
  | endSessionResponse id isOk reason =>
      obtain ⟨client, _, rfl⟩ := Option.map_eq_some_iff.mp performed
      have answered := aside_answered client.id state
      exact .changed (answered.changes.trans (changes_handle client _ _))
  | busNameLost serviceName =>
      cases performed
      exact (Passage.changed (changes_removeInhibitors _ state)).trans
        (passage_removeClientsForConnection _ _)
  | busDisconnected =>
      cases performed
      have noted : state.Aside { state with dbusDisconnected := true } := { Aside.refl state with }
      exact noted.passage.trans (passage_removeClientsForConnection none _)
  | acceptConnection =>
      cases performed
      exact .joined state _ "" ""
  | registerXsmpClient id previousId =>
      obtain ⟨client, found, rfl⟩ := Option.map_eq_some_iff.mp performed
      have named : client.id = id := client?_id (Option.filter_eq_some_iff.mp found).1
      rw [← named]
      exact passage_registerXsmpClient client.id previousId state
  | saveYourselfRequest id shutdown fast global =>
      obtain ⟨client, _, rfl⟩ := Option.map_eq_some_iff.mp performed
      exact passage_saveYourselfRequest client.id shutdown fast global state
  | saveYourselfPhase2Request id =>
      obtain ⟨client, _, rfl⟩ := Option.map_eq_some_iff.mp performed
      exact .changed (changes_saveAnswered client _ _ state)
  | interactRequest id =>
      obtain ⟨client, _, rfl⟩ := Option.map_eq_some_iff.mp performed
      have told := aside_tell (Client.keepsWiring_saveCall .save (fun save => (save, [.interact])))
      exact .changed ((changes_handle client _ state).trans (told _ client.id).changes)
  | interactDone id cancelShutdown =>
      obtain ⟨client, _, rfl⟩ := Option.map_eq_some_iff.mp performed
      exact .changed (changes_handle client _ state)
  | saveYourselfDone id success =>
      obtain ⟨client, _, rfl⟩ := Option.map_eq_some_iff.mp performed
      have told := aside_tell Client.keepsWiring_doneFinished
      exact .changed ((changes_saveAnswered client _ _ state).trans (told _ client.id).changes)
  | connectionLost id =>
      obtain ⟨client, _, rfl⟩ := Option.map_eq_some_iff.mp performed
      have disconnected : state.Aside (state.updateClient client.id disconnect) := by
        refine aside_updateClient (fun one => ?_) client.id state
        obtain ⟨_, transport, _, _, _⟩ := one
        cases transport <;> rfl
      exact disconnected.passage.trans (passage_emitDisconnected client client.handlers _)
  | logoutDialogResponse response =>
      obtain ⟨dialog, _, rfl⟩ := Option.map_eq_some_iff.mp performed
      exact .changed (changes_logoutDialogResponse response state)
  | logoutDialogTimeout =>
      obtain ⟨dialog, _, rfl⟩ := Option.map_eq_some_iff.mp performed
      exact .changed (changes_logoutDialogResponse _ state)
  | inhibitDialogResponse response =>
      obtain ⟨action, _, rfl⟩ := Option.map_eq_some_iff.mp performed
      exact .changed (changes_inhibitDialogResponse response state)
  | terminate =>
      cases performed
      exact passage_settle fun _ logout => .changed (changes_managerLogout logout)

theorem step_performed {event : Event} (stepped : state.step event = some after) :
    state.perform event.world event.call = some after := by
  unfold step at stepped
  split at stepped
  · cases stepped
  · exact stepped

namespace Starts

theorem trans {middle : State} (first : before.Starts world middle)
    (second : middle.Starts world after) : before.Starts world after where
  apps := second.apps.trans first.apps
  watchedApps := first.watchedApps.trans second.watchedApps
  started := by
    obtain ⟨earlier, logged, waiting⟩ := first.started
    obtain ⟨later, laterLogged, laterWaiting⟩ := second.started
    refine ⟨later ++ earlier, by rw [laterLogged, logged, List.append_assoc], ?_⟩
    intro id pending
    rcases laterWaiting id pending with old | ⟨starts, phase, called⟩
    · rcases waiting id old with older | ⟨starts, phase, called⟩
      · exact .inl older
      · exact .inr ⟨starts, phase, List.mem_append_right later called⟩
    · exact .inr ⟨starts, phase, List.mem_append_left earlier called⟩

/-- Nothing that the callbacks add to has changed. -/
theorem of_same (apps : after.apps = before.apps) (watched : after.watchedApps = before.watchedApps)
    (pending : after.pendingApps ⊆ before.pendingApps)
    (logged : ∃ news, after.log = news ++ before.log) : before.Starts world after where
  apps := apps
  watchedApps := watched ▸ List.suffix_refl _
  started := by
    obtain ⟨news, logged⟩ := logged
    exact ⟨news, logged, fun id member => .inl (pending member)⟩

theorem refl (state : State) : state.Starts world state :=
  of_same rfl rfl (List.Subset.refl _) ⟨[], rfl⟩

theorem of_aside (same : before.Aside after) : before.Starts world after := by
  obtain ⟨news, _, logged⟩ := same.log
  exact of_same same.apps same.watchedApps (same.pendingApps ▸ List.Subset.refl _) ⟨news, logged⟩

theorem startApp (state : State) (app : App) : state.Starts world (state.startApp world app) := by
  have follows : state.Starts world { state with watchedApps := app.id :: state.watchedApps } :=
    { refl state with watchedApps := List.suffix_cons _ _ }
  have called : state.Starts world (({ state with
      watchedApps := app.id :: state.watchedApps } : State).emit (.startCalled app.id state.phase)) :=
    follows.trans (of_aside (aside_emit nofun))
  simp only [State.startApp]
  split_ifs with other disabled delayed starts
  · exact refl state
  · exact follows
  · exact { follows with }
  · refine { called with started := ⟨[.startCalled app.id state.phase], rfl, ?_⟩ }
    intro id pending
    rcases List.mem_cons.mp pending with rfl | old
    · exact .inr ⟨starts.1, state.phase, List.mem_singleton_self _⟩
    · exact .inl old
  · exact called

theorem of_stage (moved : Stage world before after) : before.Starts world after := by
  cases moved with
  | aside same => exact of_aside same
  | cleared => exact of_same rfl rfl (List.nil_subset _) ⟨[], rfl⟩
  | reset => exact of_same rfl rfl (List.nil_subset _) ⟨[], rfl⟩
  | advanced => exact of_same rfl rfl (List.nil_subset _) ⟨[.phaseEnded before.phaseEnd], rfl⟩
  | called app => exact startApp before app
  | ran => exact of_same rfl rfl (List.Subset.refl _) ⟨[.sessionRunning], rfl⟩

theorem of_stages (moved : Stages world before after) : before.Starts world after := by
  induction moved with
  | refl => exact refl before
  | tail _ last ih => exact ih.trans (of_stage last)

theorem of_changes (changes : Changes world before after) : before.Starts world after := by
  induction changes with
  | refl => exact refl before
  | @tail middle _ _ last ih =>
      refine ih.trans ?_
      cases last with
      | aside same => exact of_aside same
      | restocked inhibitors => exact of_same rfl rfl (List.Subset.refl _) ⟨[], rfl⟩
      | registered id => exact of_same rfl rfl List.erase_subset ⟨[], rfl⟩
      | ended => exact of_stages (stages_endPhase middle)
      | lastRegistered id =>
          have registered : middle.Starts world { middle.unpend id with phaseTimeout := false } :=
            of_same rfl rfl List.erase_subset ⟨[], rfl⟩
          exact registered.trans (of_stages (stages_endPhase _))
      | resumed ending =>
          have resumed : middle.Starts world { middle with phase := .running } :=
            of_same rfl rfl (List.Subset.refl _) ⟨[], rfl⟩
          exact resumed.trans (of_stages (stages_startPhase _))

theorem of_passage (passage : Passage world request before after) : before.Starts world after := by
  induction passage with
  | changed changes => exact of_changes changes
  | trans _ _ first second => exact first.trans second
  | @left before middle id changes =>
      have forgotten : before.Starts world { before with
          conditionClients := before.conditionClients.erase id } := { refl before with }
      have removed : middle.Starts world (middle.removeClient id) := { refl middle with }
      exact (forgotten.trans (of_changes changes)).trans removed
  | joined state => exact { refl state with }
  | listed state => exact { refl state with }
  | renamed state => exact { refl state with }

end Starts

end State

end CafeSession.Manager

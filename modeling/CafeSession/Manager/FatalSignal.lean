import CafeSession.Manager.Reach
import CafeSession.Manager.Roster

namespace CafeSession.Manager

open CafeSession.Transition

/-- `csm_manager_set_phase`. -/
def State.setPhase (phase : Phase) (state : State) : State :=
  { state with phase := phase }

/-- `shutdown_cb`. -/
def State.shutdownCb (state : State) : State :=
  state.setPhase .exit

inductive SignalEvent where
  | dispatched (event : Event)
  | fatalSignal

/-- The step of the session manager, a fatal signal included. -/
def State.signalStep (state : State) : SignalEvent → Option State
  | .dispatched event => state.step event
  | .fatalSignal =>
      match state.fault with
      | some _ => none
      | none => some state.shutdownCb

def signalSystem : System State SignalEvent where
  initial := managerSystem.initial
  step := State.signalStep

/-- What ends a startup phase: its timeout, or the signal of the last app it waits for. -/
def Call.endsStartup (state : State) (call : Call) : Prop :=
  call = .phaseTimeout ∨
    ∃ id, call.reports state = some id ∧ id ∈ state.registeredHandlers ∧
      state.pendingApps.erase id = []

/-- Clients may leave. -/
def Call.departs : Call → Bool
  | .connectionLost _ | .busNameLost _ | .busDisconnected => true
  | _ => false

/-- No phase ends while the session has no logout type, be it the running phase or the last one. -/
def EndsTyped (before : State) : SignalEvent → Prop
  | .fatalSignal => True
  | .dispatched event =>
      before.logoutType = .none → .running ≤ before.phase →
        ((before.phase = .running → event.world.logOutDisabled = false) →
          ¬ event.call.endsStartup before) ∧
        (.queryEndSession ≤ before.phase →
          ¬ (event.call.departs = true ∧ event.call.emptiesStore before))

/-- Without a logout type the session does not end, or a signal ends it. -/
structure Core.Accountable (core : Core) : Prop where
  timer : core.logoutType = .none → core.queryTimeout = false
  dialog : core.logoutType = .none → ∀ action, core.inhibitDialog = some action →
    action.endsSession = false
  phase : core.logoutType = .none → .queryEndSession ≤ core.phase → core.phase = .exit
  fault : core.fault ≠ some .quitType

theorem Core.accountable_of_typed {core : Core} (typed : core.logoutType ≠ .none)
    (fault : core.fault ≠ some .quitType) : core.Accountable :=
  ⟨fun none_ => absurd none_ typed, fun none_ => absurd none_ typed,
    fun none_ => absurd none_ typed, fault⟩

section

variable {world : World} {acts : Nat → Response → Prop} {drops : (Inhibitor → Bool) → Prop}
variable {before after state : State} {call : Call}

theorem Core.accountable_quit {core : Core} (typed : core.logoutType ≠ .none)
    (fault : core.fault ≠ some .quitType) : core.quit.Accountable := by
  refine accountable_of_typed typed ?_
  dsimp only [Core.quit]
  rw [if_neg typed]
  exact fault

theorem accountable_endPhase (accountable : state.core.Accountable)
    (untyped : state.logoutType = .none →
      state.phase < .running ∨ state.phase = .running ∧ world.logOutDisabled = true) :
    (state.endPhase world).core.Accountable := by
  have typed : ¬ state.phase < .running →
      ¬ (state.phase = .running ∧ world.logOutDisabled = true) → state.core.logoutType ≠ .none :=
    fun late unlocked none_ => (untyped none_).elim late unlocked
  have ending := State.endPhase_ending world state
  generalize (state.endPhase world).core = after at ending ⊢
  cases ending with
  | startup early starts =>
      obtain ⟨news, _, _, kept⟩ := starts.kept
      have bound := starts.phase
      rw [kept]
      exact ⟨fun _ => rfl, accountable.dialog,
        fun _ late => absurd (Nat.le_trans late bound) (by decide), accountable.fault⟩
  | locked running locked => exact { accountable with }
  | asked running unlocked =>
      exact Core.accountable_of_typed (typed (by simp [running, Phase.lt_def])
        (by simp [unlocked])) accountable.fault
  | ending query =>
      exact Core.accountable_of_typed (typed (by simp [query, Phase.lt_def, Phase.number])
        (by simp [query])) accountable.fault
  | emptied query =>
      exact Core.accountable_quit (typed (by simp [query, Phase.lt_def, Phase.number])
        (by simp [query])) accountable.fault
  | ended ending =>
      exact Core.accountable_quit (typed (by simp [ending, Phase.lt_def, Phase.number])
        (by simp [ending])) accountable.fault
  | quit exit =>
      exact Core.accountable_quit (typed (by simp [exit, Phase.lt_def, Phase.number])
        (by simp [exit])) accountable.fault

theorem accountable_left (typed : state.logoutType ≠ .none)
    (fault : state.fault ≠ some .quitType) : (state.endPhase world).core.Accountable :=
  accountable_endPhase (Core.accountable_of_typed typed fault) fun none_ => absurd none_ typed

theorem accountable_cancelEndSession (accountable : state.core.Accountable) :
    (state.cancelEndSession world).core.Accountable := by
  by_cases early : state.phase < .queryEndSession
  · have same : state.cancelEndSession world = state := by
      unfold State.cancelEndSession
      rw [if_pos early]
    rw [same]
    exact accountable
  · rw [State.core_cancelEndSession (Phase.not_lt_query.mp early)]
    exact ⟨fun _ => rfl, fun _ => nofun, fun _ => nofun, accountable.fault⟩

theorem accountableRules {Given : Core → Prop} :
    Rules world acts drops Given Core.Accountable where
  taken _ _ _ _ _ accountable _ := { accountable with }
  inhibited _ _ _ _ _ _ _ _ _ accountable _ := { accountable with }
  dropped _ _ _ _ _ accountable := { accountable with }
  closed _ _ _ _ _ _ _ _ _ accountable := { accountable with dialog := fun _ => nofun }
  accepted core _ action forced _ opened ends _ _ _ accountable same := by
    have typed : core.logoutType ≠ .none := fun none_ =>
      absurd ((accountable.dialog none_ action opened).symm.trans ends) (by decide)
    exact accountable_left ((congrArg Core.logoutType same).trans_ne typed)
      ((congrArg Core.fault same).trans_ne accountable.fault)
  completed state _ accountable query _ _ := by
    have typed : state.logoutType ≠ .none := fun none_ => by
      have exit := accountable.phase none_ (Phase.queryEndSession_le.mpr (.inl query))
      exact absurd (query.symm.trans exit) (by decide)
    exact @accountable_left world { state with queryTimeout := false } typed accountable.fault
  opened core _ accountable query _ _ := by
    have typed : core.logoutType ≠ .none := fun none_ => by
      have exit := accountable.phase none_ (Phase.queryEndSession_le.mpr (.inl query))
      exact absurd (query.symm.trans exit) (by decide)
    exact Core.accountable_of_typed typed accountable.fault
  deferred _ _ _ _ _ _ accountable _ := { accountable with }
  moved _ _ _ _ accountable _ _ := { accountable with }
  ended state _ accountable ending _ _ := by
    have typed : state.logoutType ≠ .none := fun none_ => by
      have exit := accountable.phase none_ (Phase.queryEndSession_le.mpr (.inr (.inl ending)))
      exact absurd (ending.symm.trans exit) (by decide)
    exact accountable_left typed accountable.fault
  cancelled _ _ _ _ _ _ accountable _ := accountable_cancelEndSession accountable

/-- In a session that ends without a logout type some client stays. -/
def Core.Staffed (stays : Nat → Prop) (core : Core) : Prop :=
  core.logoutType = .none → .queryEndSession ≤ core.phase → ∃ id ∈ core.clientIds, stays id

theorem staffed_endPhase {stays : Nat → Prop} (typed : state.logoutType ≠ .none) :
    (state.endPhase world).core.Staffed stays := by
  obtain ⟨_, _, _, kept⟩ := (@State.endPhase_frame world state).kept
  rw [kept]
  exact fun none_ => absurd none_ typed

theorem staffedRules {stays : Nat → Prop} :
    Rules world acts drops Core.Accountable (Core.Staffed stays) where
  taken _ _ _ _ _ staffed _ := staffed
  inhibited _ _ _ _ _ _ _ _ _ staffed _ := staffed
  dropped _ _ _ _ _ staffed := staffed
  closed _ _ _ _ _ _ _ _ _ staffed := staffed
  accepted core _ action forced _ opened ends _ _ accountable _ same := by
    refine staffed_endPhase ((congrArg Core.logoutType same).trans_ne fun none_ => ?_)
    exact absurd ((accountable.dialog none_ action opened).symm.trans ends) (by decide)
  completed state accountable _ query _ _ := by
    refine @staffed_endPhase world { state with queryTimeout := false } _ fun none_ => ?_
    have exit := accountable.phase none_ (Phase.queryEndSession_le.mpr (.inl query))
    exact absurd (query.symm.trans exit) (by decide)
  opened _ _ staffed _ _ _ := staffed
  deferred _ _ _ _ _ _ staffed _ := staffed
  moved _ _ _ _ staffed _ _ := staffed
  ended state accountable _ ending _ _ := by
    refine staffed_endPhase fun none_ => ?_
    have exit := accountable.phase none_ (Phase.queryEndSession_le.mpr (.inr (.inl ending)))
    exact absurd (ending.symm.trans exit) (by decide)
  cancelled _ _ _ _ _ _ _ ending := by
    rw [State.core_cancelEndSession ending]
    exact fun _ => nofun

/-- What holds while clients leave: some client stays, or the session may end. -/
def Core.Attended (stays : Nat → Prop) (core : Core) : Prop :=
  core.Accountable ∧ core.Staffed stays

theorem attendedRules {stays : Nat → Prop} :
    Rules world acts drops (fun _ => True) (Core.Attended stays) :=
  accountableRules.both staffedRules fun _ _ accountable => accountable

theorem attended_removed {stays : Nat → Prop} {client : Client}
    (attended : state.core.Attended stays) (leaves : ¬ stays client.id) :
    ((state.disconnectClient world client).removeClient client.id).core.Attended stays := by
  have rules := @attendedRules world (fun _ _ => True) (fun _ => True) stays
  obtain ⟨accountable, staffed⟩ := rules.disconnect trivial trivial attended
  rw [State.core_removeClient]
  refine ⟨{ accountable with }, fun none_ ending => ?_⟩
  obtain ⟨id, stored, stay⟩ := staffed none_ ending
  have different : id ≠ client.id := by
    rintro rfl
    exact leaves stay
  exact ⟨id, List.mem_filter.mpr ⟨stored, by simpa using different⟩, stay⟩

theorem attended_endPhaseIfEmpty {stays : Nat → Prop} (attended : state.core.Attended stays) :
    (state.endPhaseIfEmpty world).core.Attended stays := by
  unfold State.endPhaseIfEmpty
  split_ifs with last
  · have typed : state.logoutType ≠ .none := fun none_ => by
      obtain ⟨id, stored, _⟩ := attended.2 none_ last.1
      rw [show state.core.clientIds = state.clients.map Client.id from rfl, last.2] at stored
      cases stored
    exact ⟨accountable_left typed attended.1.fault, staffed_endPhase typed⟩
  · exact attended

theorem attended_emitDisconnected {stays : Nat → Prop} {client : Client} (handlers : Nat)
    (attended : state.core.Attended stays) (leaves : handlers ≠ 0 → ¬ stays client.id) :
    (state.emitDisconnected world client handlers).core.Attended stays := by
  induction handlers generalizing state with
  | zero => exact attended
  | succ handlers ih =>
      have noted : (state.emit (.clientDisconnected client.id)).core.Attended stays :=
        ⟨{ attended.1 with }, attended.2⟩
      have gone := leaves (Nat.succ_ne_zero handlers)
      exact ih (attended_endPhaseIfEmpty (attended_removed noted gone)) fun _ => gone

theorem attended_removeDBusClients {stays : Nat → Prop} {leaving : List Client}
    (attended : state.core.Attended stays) (leaves : ∀ client ∈ leaving, ¬ stays client.id) :
    (state.removeDBusClients world leaving).core.Attended stays := by
  unfold State.removeDBusClients
  induction leaving generalizing state with
  | nil => exact attended
  | cons client leaving ih =>
      have first := @attended_removed world state stays client attended
        (leaves client List.mem_cons_self)
      exact ih first fun later member => leaves later (List.mem_cons_of_mem _ member)

theorem attended_removeClientsForConnection {stays : Nat → Prop} {serviceName : Option String}
    (attended : state.core.Attended stays)
    (leaves : ∀ client ∈ state.clients, State.leavesWith serviceName client = true →
      ¬ stays client.id) :
    (state.removeClientsForConnection world serviceName).core.Attended stays := by
  refine attended_endPhaseIfEmpty (attended_removeDBusClients attended fun client member => ?_)
  obtain ⟨stored, leaving⟩ := List.mem_filter.mp member
  exact leaves client stored leaving

theorem attended_departing {core : Core} {stays : Nat → Prop} (attended : before.core.Attended stays)
    (leaves : ∀ client ∈ call.leaving before, ¬ stays client.id)
    (departing : Departing world before call core) : core.Attended stays := by
  cases departing with
  | @left client told lost stored same emitted =>
      rw [← same] at attended
      rw [emitted]
      refine attended_emitDisconnected _ attended fun some_ => leaves client ?_
      rw [lost]
      simp [Call.leaving, stored, some_]
  | @nameLost serviceName lost removed =>
      have rules := @attendedRules world (fun _ _ => True) (fun _ => True) stays
      have dropped := @Rules.removeInhibitors world _ _ _ _ before rules
        (Inhibitor.hasBusName serviceName) trivial trivial attended
      rw [removed]
      refine attended_removeClientsForConnection dropped fun client stored leaving => ?_
      obtain ⟨one, kept, same, leaving⟩ :=
        State.leavesWith_congr (State.wirings_removeInhibitors _) stored leaving
      rw [← same]
      refine leaves one ?_
      rw [lost]
      exact List.mem_filter.mpr ⟨kept, leaving⟩
  | busLost lost removed =>
      rw [removed]
      refine @attended_removeClientsForConnection world { before with dbusDisconnected := true }
        stays none attended fun client stored leaving => leaves client ?_
      rw [lost]
      exact List.mem_filter.mpr ⟨stored, leaving⟩

theorem accountable_departing {core : Core} (accountable : before.core.Accountable)
    (departs : call.departs = true)
    (staffed : before.logoutType = .none → .queryEndSession ≤ before.phase →
      ¬ (call.departs = true ∧ call.emptiesStore before))
    (departing : Departing world before call core) : core.Accountable := by
  have attended : before.core.Attended
      (fun id => ∀ one ∈ call.leaving before, one.id ≠ id) := by
    refine ⟨accountable, fun none_ ending => ?_⟩
    by_contra nobody
    refine staffed none_ ending ⟨departs, fun client stored => ?_⟩
    by_contra stays
    exact nobody ⟨client.id, List.mem_map_of_mem stored, fun one leaves same =>
      stays ⟨one, leaves, same⟩⟩
  exact (attended_departing attended (fun client leaves stays => stays client leaves rfl)
    departing).1

/-- An app that is the last one to register ends no phase that has to stay. -/
theorem accountable_appRegistered {id : String} (accountable : state.core.Accountable)
    (waits : state.logoutType = .none → .running ≤ state.phase →
      (state.phase = .running → world.logOutDisabled = false) →
        ¬ (id ∈ state.registeredHandlers ∧ state.pendingApps.erase id = [])) :
    (state.appRegistered world id).core.Accountable := by
  unfold State.appRegistered
  split_ifs with follows
  · dsimp only
    split_ifs with last
    · refine accountable_endPhase { accountable with } fun none_ => ?_
      by_contra stays
      have late := not_or.mp stays
      refine waits none_ (Nat.not_lt.mp late.1) (fun running => ?_) ⟨by simpa using follows, last⟩
      by_contra locked
      exact late.2 ⟨running, by simpa using locked⟩
    · exact { accountable with }
  · exact accountable

theorem accountable_openInhibitDialog {action : LogoutAction}
    (accountable : state.core.Accountable) (stays : action.endsSession = false) :
    (state.openInhibitDialog action).core.Accountable := by
  unfold State.openInhibitDialog
  cases opened : state.inhibitDialog with
  | some _ => exact accountable
  | none =>
      exact { accountable with
        dialog := fun _ other same => by
          cases same
          exact stays }

theorem accountable_showDialog {dialog : LogoutDialog} (accountable : state.core.Accountable) :
    (state.showDialog dialog).core.Accountable := by
  unfold State.showDialog
  split_ifs
  · exact accountable
  · exact { accountable with }

theorem accountable_requestPrivileged {answer : PrivilegeAnswer} {plain interact cdm : LogoutType}
    (types : plain ≠ .none ∧ interact ≠ .none ∧ cdm ≠ .none) (accountable : state.core.Accountable) :
    (state.requestPrivileged world answer plain interact cdm).core.Accountable := by
  rcases State.requestPrivileged_cases types with same | ⟨_, type, typed, ended⟩
  · rw [same]
    exact accountable
  · rw [ended]
    exact @accountable_left world { state with logoutType := type } typed accountable.fault

theorem accountable_logoutDialogResponse {response : LogoutResponse}
    (accountable : state.core.Accountable) :
    (state.logoutDialogResponse world response).core.Accountable := by
  rcases @State.core_logoutDialogResponse_cases world state response with ⟨_, faulted⟩ |
    ⟨_, closed | ⟨action, stays, presents⟩ | ⟨_, mode, type, _, typed, leaves⟩⟩
  · rw [faulted]
    exact { accountable with fault := nofun }
  · rw [closed]
    exact { accountable with }
  · rw [presents]
    exact @accountable_openInhibitDialog { state with logoutDialog := none } action
      { accountable with } stays
  · rw [leaves]
    exact accountable_left typed accountable.fault

theorem accountable_inhibitDialogResponse {action : LogoutAction} {response : InhibitResponse}
    (opened : state.inhibitDialog = some action) (accountable : state.core.Accountable) :
    (state.inhibitDialogResponse world response).core.Accountable := by
  have answered : (state.answerDialog action response).core.Accountable :=
    { accountable with dialog := fun _ => nofun }
  rcases @State.core_inhibitDialogResponse_cases world state action opened response with
    ⟨_, closed⟩ | ⟨ends, ⟨_, ended⟩ | ⟨_, cancelled⟩⟩
  · rw [closed]
    exact answered
  · have typed : state.logoutType ≠ .none := fun none_ =>
      absurd ((accountable.dialog none_ action opened).symm.trans ends) (by decide)
    rw [ended]
    exact accountable_left typed accountable.fault
  · rw [cancelled]
    exact accountable_cancelEndSession answered

/-- With a logout type, the query timeout may find the session in any phase. -/
theorem accountable_onQueryEndSessionTimeout (typed : state.logoutType ≠ .none)
    (fault : state.fault ≠ some .quitType) :
    (state.onQueryEndSessionTimeout world).core.Accountable := by
  obtain ⟨cleared, added, _, _, core, form⟩ := @State.onQueryEndSessionTimeout_eq world state
  have clearedTyped : cleared.logoutType ≠ .none := (congrArg Core.logoutType core).trans_ne typed
  have clearedFault : cleared.fault ≠ some .quitType := (congrArg Core.fault core).trans_ne fault
  rw [form, State.queryEndSessionComplete]
  dsimp only
  split_ifs
  · exact @accountable_left world { cleared with queryTimeout := false } clearedTyped clearedFault
  · unfold State.openInhibitDialog
    split <;> exact Core.accountable_of_typed clearedTyped clearedFault

theorem accountable_addClient {transport : Transport} {startupId appId : String}
    (accountable : state.core.Accountable) :
    (state.addClient transport startupId appId).core.Accountable :=
  { accountable with }

theorem accountable_kind (accountable : before.core.Accountable)
    (typed : EndsTyped before (.dispatched ⟨world, call⟩)) (kind : Kind world before call after) :
    after.core.Accountable := by
  have rules := @accountableRules world (fun _ _ => True) (fun _ => True) (fun _ => True)
  have departing : call.departs = true → Departing world before call after.core →
      after.core.Accountable := fun departs =>
    accountable_departing accountable departs fun none_ ending =>
      (typed none_ (Phase.running_le_of_query_le ending)).2 ending
  have registering : ∀ id, call.reports before = some id → ∀ told : State,
      told.core.Accountable → told.logoutType = before.logoutType → told.phase = before.phase →
      told.registeredHandlers = before.registeredHandlers →
      told.pendingApps = before.pendingApps →
      (told.appRegistered world id).core.Accountable := by
    intro id reports told accountable type phase handlers pending
    refine accountable_appRegistered accountable fun none_ late unlocked last => ?_
    rw [type] at none_
    rw [phase] at late unlocked
    rw [handlers, pending] at last
    exact (typed none_ late).1 unlocked (.inr ⟨id, reports, last⟩)
  cases kind with
  | quiet same =>
      rw [same]
      exact accountable
  | answered answer stored same handled =>
      rw [handled]
      exact rules.handle trivial trivial (by rw [same]; exact accountable)
  | left lost stored same emitted =>
      exact departing (by rw [lost]; rfl) (.left lost stored same (by rw [emitted]))
  | nameLost lost removed => exact departing (by rw [lost]; rfl) (.nameLost lost (by rw [removed]))
  | busLost lost removed => exact departing (by rw [lost]; rfl) (.busLost lost (by rw [removed]))
  | called asked late same =>
      rw [same]
      exact { accountable with }
  | added named stored =>
      rw [stored]
      exact accountable_addClient accountable
  | @registered id told reports same handled =>
      rw [handled]
      rcases same with rfl | ⟨transport, startupId, appId, named, rfl⟩
      · exact registering id reports told accountable rfl rfl rfl rfl
      · exact registering id reports _ (accountable_addClient accountable) rfl rfl rfl rfl
  | @connected id previousId told registered asked connects same registers handled =>
      have toldAccountable : told.core.Accountable := by
        rw [same]
        exact { accountable with }
      have connected : registered.core.Accountable := by
        rcases registers with rfl | ⟨app, reports, rfl⟩
        · exact toldAccountable
        · exact registering app reports told toldAccountable (congrArg Core.logoutType same)
            (congrArg Core.phase same) (congrArg Core.registeredHandlers same)
            (congrArg Core.pendingApps same)
      rcases handled with handled | ⟨startupId, named, handled⟩
      · rw [handled]
        exact connected
      · rw [handled]
        exact { connected with }
  | inhibited called unforced stored =>
      rw [stored]
      exact { accountable with }
  | uninhibited asked found removed =>
      rw [removed]
      exact rules.removeInhibitors trivial trivial accountable
  | @logout mode asked running unlocked requested =>
      have logoutTyped : LogoutType.logout ≠ .none := nofun
      rw [requested, State.userLogout]
      split_ifs
      · exact accountable
      · exact accountable_showDialog accountable
      · exact @accountable_left world { before with
          logoutMode := mode
          logoutType := .logout } logoutTyped accountable.fault
  | shown running opened =>
      rw [opened]
      exact accountable_showDialog accountable
  | privileged running types requested =>
      rw [requested]
      exact accountable_requestPrivileged types accountable
  | confirmed opened answer handled =>
      rw [handled]
      exact accountable_logoutDialogResponse accountable
  | inhibitAnswered opened asked handled =>
      rw [handled]
      exact accountable_inhibitDialogResponse opened accountable
  | queryTimedOut asked armed fired =>
      rw [fired]
      refine accountable_onQueryEndSessionTimeout (fun none_ => ?_) accountable.fault
      exact absurd ((accountable.timer none_).symm.trans armed) (by decide)
  | phaseTimedOut asked armed fired =>
      have unfollowed : before.unfollowPending.core.Accountable := by
        unfold State.unfollowPending
        split_ifs
        · exact { accountable with }
        · exact accountable
      have same : before.unfollowPending.phase = before.phase ∧
          before.unfollowPending.logoutType = before.logoutType := by
        unfold State.unfollowPending
        split_ifs <;> exact ⟨rfl, rfl⟩
      rw [fired, State.onPhaseTimeout]
      refine accountable_endPhase { unfollowed with } fun none_ => ?_
      rw [show (({ before.unfollowPending with phaseTimeout := false } : State).emit
        (.phaseTimedOut before.phase)).phase = before.phase from same.1]
      by_contra stays
      have late := not_or.mp stays
      refine (typed (same.2.symm.trans none_) (Nat.not_lt.mp late.1)).1 (fun running => ?_)
        (.inl asked)
      by_contra locked
      exact late.2 ⟨running, by simpa using locked⟩

theorem accountable_created (world : World) (apps : List App) :
    (State.start world apps).core.Accountable := by
  have starting : Phase.initialization ≤ .running := by decide
  have starts := @State.core_startPhase world (State.created apps) starting
  obtain ⟨news, _, _, kept⟩ := starts.kept
  have bound := starts.phase
  rw [State.start, kept]
  exact ⟨fun _ => rfl, fun _ => nofun, fun _ late => absurd (Nat.le_trans late bound) (by decide),
    nofun⟩

end

theorem accountable_step {before after : State} {event : SignalEvent}
    (accountable : before.core.Accountable) (typed : EndsTyped before event)
    (stepped : before.signalStep event = some after) : after.core.Accountable := by
  cases event with
  | dispatched event =>
      have performed : before.perform event.world event.call = some after := by
        cases fault : before.fault with
        | some _ => simp [State.signalStep, State.step, fault] at stepped
        | none => simpa [State.signalStep, State.step, fault] using stepped
      exact accountable_kind accountable typed (State.perform_kind performed)
  | fatalSignal =>
      cases fault : before.fault with
      | some _ => simp [State.signalStep, fault] at stepped
      | none =>
          obtain rfl : before.shutdownCb = after := by
            simpa [State.signalStep, fault] using stepped
          exact { accountable with phase := fun _ _ => rfl }

/-- Wherever the fatal signals come in, the session manager does not quit without a
logout type, as long as nothing ends a phase of a session that has none. -/
theorem quits_with_logout_type {state : State}
    (reached : signalSystem.ReachableBy EndsTyped state) : state.fault ≠ some .quitType := by
  have accountable : state.core.Accountable := by
    induction reached with
    | initial first =>
        obtain ⟨world, apps, _, rfl⟩ := first
        exact accountable_created world apps
    | step _ typed stepped ih => exact accountable_step ih typed stepped
  exact accountable.fault

/-- Two clients have registered when the signal comes; one of them leaves the bus. -/
def signalBeforeLoss : List SignalEvent :=
  [.dispatched ⟨.permissive, .registerClient "editor" "10a" ":1.4"⟩,
    .dispatched ⟨.permissive, .registerClient "viewer" "10b" ":1.5"⟩, .fatalSignal,
    .dispatched ⟨.permissive, .busNameLost ":1.4"⟩]

theorem signal_leaves_a_client :
    ∃ state, signalSystem.run (State.start .permissive []) signalBeforeLoss = some state ∧
      state.phase = .exit ∧ state.fault ≠ some .quitType := by
  obtain ⟨state, run⟩ : ∃ state,
      signalSystem.run (State.start .permissive []) signalBeforeLoss = some state := ⟨_, rfl⟩
  have meets : signalSystem.Meets EndsTyped (State.start .permissive []) signalBeforeLoss := by
    refine ⟨fun _ _ => ⟨fun _ => ?_, fun late => absurd late (by decide)⟩, fun _ first => ?_⟩
    · rintro (timeout | ⟨id, reports, _⟩)
      · cases timeout
      · cases reports
    cases first
    refine ⟨fun _ _ => ⟨fun _ => ?_, fun late => absurd late (by decide)⟩, fun _ second => ?_⟩
    · rintro (timeout | ⟨id, reports, _⟩)
      · cases timeout
      · cases reports
    cases second
    refine ⟨trivial, fun _ signal => ?_⟩
    cases signal
    refine ⟨fun _ _ => ⟨fun _ => ?_, fun _ => ?_⟩, fun _ _ => trivial⟩
    · rintro (timeout | ⟨id, reports, _⟩)
      · cases timeout
      · cases reports
    · rintro ⟨_, empties⟩
      obtain ⟨one, leaves, same⟩ := empties ⟨2, .dbus ":1.5", "10b", "viewer", []⟩ (by decide)
      revert one
      decide
  have reached : signalSystem.ReachableBy EndsTyped state :=
    .of_run (.initial ⟨.permissive, [], List.nodup_nil, rfl⟩) meets run
  refine ⟨state, run, ?_, quits_with_logout_type reached⟩
  cases run
  decide

/-- The last client leaves the bus behind the signal, and the session that nobody has
logged out of quits. -/
theorem signal_then_last_client_aborts :
    ∃ state, signalSystem.run (State.start .permissive [])
        [.dispatched ⟨.permissive, .registerClient "editor" "10a" ":1.4"⟩, .fatalSignal,
          .dispatched ⟨.permissive, .busNameLost ":1.4"⟩] = some state ∧
      state.logoutType = .none ∧ state.fault = some .quitType := by
  refine ⟨_, rfl, ?_, ?_⟩ <;> decide

end CafeSession.Manager

import CafeSession.Manager.Force
import CafeSession.Manager.Kinds

namespace CafeSession.Manager

open CafeSession.Transition CafeSession.Xsmp State

/-- Answers of clients that do not cancel, disconnections and timeouts. -/
def Call.endsSession : Call → Bool
  | .phaseTimeout | .queryEndSessionTimeout | .autostartDelayTimeout _ | .logoutDialogTimeout
  | .endSessionResponse .. | .saveYourselfPhase2Request _ | .interactRequest _
  | .interactDone _ false | .saveYourselfDone ..
  | .busNameLost _ | .busDisconnected | .connectionLost _ => true
  | _ => false

/-- The clients that leave, in order, and each as often as its handler runs. -/
def Call.exits (before : State) : Call → List Nat
  | .connectionLost id =>
      match before.client? id with
      | some client => List.replicate client.handlers id
      | none => []
  | .busNameLost serviceName =>
      (before.clients.filter (leavesWith (some serviceName))).map Client.id
  | .busDisconnected => (before.clients.filter (leavesWith none)).map Client.id
  | _ => []

/-- The inhibitors that go with a lost name, before its clients do. -/
def Call.unnames (call : Call) (inhibitor : Inhibitor) : Bool :=
  match call with
  | .busNameLost serviceName => inhibitor.hasBusName serviceName
  | _ => false

/-- Whenever the end of the query or of the end-session phase is checked, no
inhibitor of the logout is left. -/
structure KeepsForce (before : State) (event : Event) : Prop where
  answer : before.phase ≠ .exit → ∀ id response, event.call.answer = some (id, response) →
    Clears [id] before.queryClients before.inhibitors
  leaving : before.phase = .queryEndSession →
    Clears (event.call.exits before) before.queryClients
      (before.inhibitors.filter (fun one => !event.call.unnames one))
  timeout : event.call = .queryEndSessionTimeout → before.logoutInhibited = false

variable {world : World} {state first second after : State}
variable {opened otherOpened : List LogoutAction}

theorem State.Forced.of_core {after : State} (forced : state.Forced opened)
    (same : after.core = state.core) (dialogs : after.dialogs = state.dialogs) :
    after.Forced opened where
  mode := (congrArg Core.logoutMode same).trans forced.mode
  ending := by
    rw [show after.phase = state.phase from congrArg Core.phase same]
    exact forced.ending
  closed := (congrArg Core.inhibitDialog same).trans forced.closed
  opened := dialogs.trans forced.opened

namespace Paired

theorem updateClient {update : Client → Client} (paired : Paired opened otherOpened first second)
    (id : Nat) (same : ∀ client, (update client).wiring = client.wiring) :
    Paired opened otherOpened (first.updateClient id update) (second.updateClient id update) where
  alike := paired.alike.updateClient id update
  forced := paired.forced.of_core (core_updateClient same) rfl
  otherForced := paired.otherForced.of_core (core_updateClient same) rfl

theorem tell {call : Client → Except String (Client × List ClientMessage)}
    (paired : Paired opened otherOpened first second) (keeps : KeepsWiring call) (id : Nat) :
    Paired opened otherOpened (first.tell call id) (second.tell call id) where
  alike := paired.alike.tell id
  forced := paired.forced.of_core (core_tell keeps id) (dialogs_tell id)
  otherForced := paired.otherForced.of_core (core_tell keeps id) (dialogs_tell id)

theorem handle {client : Client} {response : Response}
    (paired : Paired opened otherOpened first second) (goes : response.cancel = false)
    (clears : first.phase ≠ .exit → Clears [client.id] first.queryClients first.inhibitors)
    (otherClears : second.phase ≠ .exit →
      Clears [client.id] second.queryClients second.inhibitors) :
    Paired opened otherOpened (first.handleClientEndSessionResponse world client response)
      (second.handleClientEndSessionResponse world client response) where
  alike := paired.alike.handle paired.forced paired.otherForced goes clears otherClears
  forced := (paired.forced.handle goes clears).1
  otherForced := (paired.otherForced.handle goes otherClears).1

theorem endPhase (paired : Paired opened otherOpened first second) :
    Paired opened otherOpened (first.endPhase world) (second.endPhase world) where
  alike := paired.alike.endPhase paired.forced.ending
  forced := paired.forced.endPhase
  otherForced := paired.otherForced.endPhase

theorem map (paired : Paired opened otherOpened first second) (change : State → State)
    (alike : (change first).Alike (change second))
    (kept : ∀ state, (change state).logoutMode = state.logoutMode ∧
      (change state).phase = state.phase ∧
      (change state).inhibitDialog = state.inhibitDialog ∧
      (change state).dialogs = state.dialogs) :
    Paired opened otherOpened (change first) (change second) := by
  have forced : ∀ (state : State) (opened : List LogoutAction), state.Forced opened →
      (change state).Forced opened := by
    intro state opened forced
    obtain ⟨mode, phase, closed, dialogs⟩ := kept state
    exact ⟨mode.trans forced.mode, phase ▸ forced.ending, closed.trans forced.closed,
      dialogs.trans forced.opened⟩
  exact ⟨alike, forced first _ paired.forced, forced second _ paired.otherForced⟩

theorem onQueryEndSessionTimeout (paired : Paired opened otherOpened first second)
    (free : first.logoutInhibited = false) (otherFree : second.logoutInhibited = false) :
    Paired opened otherOpened (first.onQueryEndSessionTimeout world)
      (second.onQueryEndSessionTimeout world) := by
  have fired : ∀ state : State, state.logoutMode = .force → state.logoutInhibited = false →
      state.onQueryEndSessionTimeout world =
        { state with queryTimeout := false, queryClients := [] }.endPhase world := by
    intro state mode free
    unfold State.onQueryEndSessionTimeout
    dsimp only
    rw [if_pos mode]
    exact queryEndSessionComplete_free free
  rw [fired first paired.forced.mode free, fired second paired.otherForced.mode otherFree]
  refine endPhase (paired.map (fun state => { state with
    queryTimeout := false, queryClients := [] }) ?_ fun _ => ⟨rfl, rfl, rfl, rfl⟩)
  cases paired.alike with
  | besides inhibitors idleEnabled log same => exact .besides _ _ log same

theorem onPhaseTimeout (paired : Paired opened otherOpened first second) :
    Paired opened otherOpened (first.onPhaseTimeout world) (second.onPhaseTimeout world) := by
  have late : ∀ {state : State}, .queryEndSession ≤ state.phase → .running ≤ state.phase :=
    fun ending => Phase.running_le_of_query_le ending
  rw [onPhaseTimeout_late (late paired.forced.ending),
    onPhaseTimeout_late (late paired.otherForced.ending)]
  refine endPhase (paired.map (fun state => ({ state with phaseTimeout := false } : State).emit
    (.phaseTimedOut state.phase)) ?_ fun _ => ⟨rfl, rfl, rfl, dialogs_emit rfl⟩)
  cases paired.alike with
  | besides inhibitors idleEnabled log same =>
      have stopped : ({ first with phaseTimeout := false } : State).Alike { first with
          phaseTimeout := false
          inhibitors := inhibitors
          idleEnabled := idleEnabled
          log := log } := .besides inhibitors idleEnabled log same
      exact stopped.emit rfl

theorem autostartDelayTimeout (app : App) (paired : Paired opened otherOpened first second) :
    Paired opened otherOpened (first.autostartDelayTimeout world app)
      (second.autostartDelayTimeout world app) := by
  refine paired.map (State.autostartDelayTimeout world app) ?_ fun state => ?_
  · have fired : ({ first with
        delayedApps := first.delayedApps.erase app.id } : State).Alike { second with
        delayedApps := second.delayedApps.erase app.id } := by
      cases paired.alike with
      | besides inhibitors idleEnabled log same => exact .besides _ _ log same
    unfold State.autostartDelayTimeout
    dsimp only
    split_ifs
    · exact fired.emit (by rw [paired.alike.common.phase])
    · exact fired
  · unfold State.autostartDelayTimeout
    dsimp only
    split_ifs
    · exact ⟨rfl, rfl, rfl, dialogs_emit rfl⟩
    · exact ⟨rfl, rfl, rfl, rfl⟩

/-- The confirmation dialog of an earlier request fails its assertion. -/
theorem logoutDialogResponse (response : LogoutResponse)
    (paired : Paired opened otherOpened first second) :
    Paired opened otherOpened (first.logoutDialogResponse world response)
      (second.logoutDialogResponse world response) := by
  have fails : ∀ state : State, state.logoutMode = .force →
      state.logoutDialogResponse world response =
        { state with fault := some .logoutDialogMode } := by
    intro state mode
    have other : state.logoutMode ≠ .normal := by
      rw [mode]
      nofun
    unfold State.logoutDialogResponse
    rw [if_pos other]
  rw [fails first paired.forced.mode, fails second paired.otherForced.mode]
  refine paired.map (fun state => { state with fault := some .logoutDialogMode }) ?_
    fun _ => ⟨rfl, rfl, rfl, rfl⟩
  cases paired.alike with
  | besides inhibitors idleEnabled log same => exact .besides _ _ log same

end Paired

/-- The check that the client's answer leads to finds no inhibitor. -/
def Core.Clearing (id : Nat) (core : Core) : Prop :=
  core.phase ≠ .exit → Clears [id] core.queryClients core.inhibitors

theorem paired_answered {client : Client} {response : Response} {asked otherAsked : State}
    (told : Paired opened otherOpened asked otherAsked)
    (same : asked.core = first.core) (otherSame : otherAsked.core = second.core)
    (goes : response.cancel = false) (clears : first.core.Clearing client.id)
    (otherClears : second.core.Clearing client.id) :
    Paired opened otherOpened (asked.handleClientEndSessionResponse world client response)
      (otherAsked.handleClientEndSessionResponse world client response) := by
  rw [← same] at clears
  rw [← otherSame] at otherClears
  exact told.handle goes clears otherClears

theorem paired_saveAnswered {client : Client} {response : Response}
    {call : SaveState → SaveState × List SmsMessage}
    (paired : Paired opened otherOpened first second) (goes : response.cancel = false)
    (clears : first.core.Clearing client.id) (otherClears : second.core.Clearing client.id) :
    Paired opened otherOpened (first.saveAnswered world client call response)
      (second.saveAnswered world client call response) := by
  have told := (paired.tell (Client.keepsWiring_saveCall .save call) client.id).updateClient
    client.id (fun client => show client.answered.wiring = client.wiring from rfl)
  exact paired_answered told (core_saveAnswered _ _) (core_saveAnswered _ _) goes clears otherClears

theorem State.Alike.dbusClient? (alike : first.Alike second) (id : Nat) :
    second.dbusClient? id = first.dbusClient? id := by
  cases alike
  rfl

theorem State.Alike.xsmpClient? (alike : first.Alike second) (id : Nat) :
    second.xsmpClient? id = first.xsmpClient? id := by
  cases alike
  rfl

theorem paired_perform {call : Call} (paired : Paired opened otherOpened first second)
    (ends : call.endsSession = true) (keeps : KeepsForce first ⟨world, call⟩)
    (otherKeeps : KeepsForce second ⟨world, call⟩)
    (performed : first.perform world call = some after) :
    ∃ other, second.perform world call = some other ∧ Paired opened otherOpened after other := by
  have common := paired.alike.common
  cases call with
  | phaseTimeout =>
      obtain ⟨armed, rfl⟩ := by simpa [perform] using performed
      exact ⟨_, if_pos (common.phaseTimeout.trans armed), paired.onPhaseTimeout⟩
  | queryEndSessionTimeout =>
      obtain ⟨armed, rfl⟩ := by simpa [perform] using performed
      exact ⟨_, if_pos (common.queryTimeout.trans armed),
        paired.onQueryEndSessionTimeout (keeps.timeout rfl) (otherKeeps.timeout rfl)⟩
  | autostartDelayTimeout id =>
      have same : second.perform world (.autostartDelayTimeout id) =
          if first.delayedApps.contains id then
            (first.app? id).map fun app => second.autostartDelayTimeout world app
          else none := by
        cases paired.alike
        rfl
      obtain ⟨delayed, app, found, rfl⟩ := by simpa [perform] using performed
      refine ⟨second.autostartDelayTimeout world app, ?_, paired.autostartDelayTimeout app⟩
      simp [same, delayed, found]
  | endSessionResponse id isOk reason =>
      obtain ⟨client, found, rfl⟩ := Option.map_eq_some_iff.mp performed
      obtain ⟨rfl, _⟩ := dbusClient?_mem found
      refine ⟨second.endSessionResponse world client isOk reason, ?_, ?_⟩
      · exact Option.map_eq_some_iff.mpr
          ⟨client, (paired.alike.dbusClient? client.id).trans found, rfl⟩
      · have told := paired.updateClient client.id
          (fun client => show client.answered.wiring = client.wiring from rfl)
        exact paired_answered told (core_answered _) (core_answered _) rfl
          (fun more => keeps.answer more _ _ rfl) (fun more => otherKeeps.answer more _ _ rfl)
  | saveYourselfPhase2Request id =>
      obtain ⟨client, found, rfl⟩ := Option.map_eq_some_iff.mp performed
      obtain ⟨rfl, _⟩ := xsmpClient?_mem found
      refine ⟨second.saveYourselfPhase2Request world client, ?_, ?_⟩
      · exact Option.map_eq_some_iff.mpr
          ⟨client, (paired.alike.xsmpClient? client.id).trans found, rfl⟩
      · exact paired_saveAnswered paired rfl (fun more => keeps.answer more _ _ rfl)
          (fun more => otherKeeps.answer more _ _ rfl)
  | interactRequest id =>
      obtain ⟨client, found, rfl⟩ := Option.map_eq_some_iff.mp performed
      obtain ⟨rfl, _⟩ := xsmpClient?_mem found
      refine ⟨second.interactRequest world client, ?_, ?_⟩
      · exact Option.map_eq_some_iff.mpr
          ⟨client, (paired.alike.xsmpClient? client.id).trans found, rfl⟩
      · have handled : Paired opened otherOpened
            (first.handleClientEndSessionResponse world client
              ⟨false, false, false, some "This program is blocking logout."⟩)
            (second.handleClientEndSessionResponse world client
              ⟨false, false, false, some "This program is blocking logout."⟩) :=
          paired.handle rfl (fun more => keeps.answer more _ _ rfl)
            fun more => otherKeeps.answer more _ _ rfl
        exact handled.tell (Client.keepsWiring_saveCall _ _) client.id
  | interactDone id cancelShutdown =>
      obtain ⟨client, found, rfl⟩ := Option.map_eq_some_iff.mp performed
      obtain ⟨rfl, _⟩ := xsmpClient?_mem found
      refine ⟨second.interactDone world client cancelShutdown, ?_, ?_⟩
      · exact Option.map_eq_some_iff.mpr
          ⟨client, (paired.alike.xsmpClient? client.id).trans found, rfl⟩
      · cases cancelShutdown with
        | true => cases ends
        | false =>
            exact paired.handle rfl (fun more => keeps.answer more _ _ rfl)
              (fun more => otherKeeps.answer more _ _ rfl)
  | saveYourselfDone id success =>
      obtain ⟨client, found, rfl⟩ := Option.map_eq_some_iff.mp performed
      obtain ⟨rfl, _⟩ := xsmpClient?_mem found
      refine ⟨second.saveYourselfDone world client, ?_, ?_⟩
      · exact Option.map_eq_some_iff.mpr
          ⟨client, (paired.alike.xsmpClient? client.id).trans found, rfl⟩
      · exact (paired_saveAnswered paired rfl (fun more => keeps.answer more _ _ rfl)
          (fun more => otherKeeps.answer more _ _ rfl)).tell Client.keepsWiring_doneFinished _
  | busNameLost serviceName =>
      cases performed
      exact ⟨_, rfl, paired.busNameLost keeps.leaving otherKeeps.leaving⟩
  | busDisconnected =>
      cases performed
      exact ⟨_, rfl, paired.busDisconnected (by simpa [Call.unnames, Call.exits] using keeps.leaving)
        (by simpa [Call.unnames, Call.exits] using otherKeeps.leaving)⟩
  | connectionLost id =>
      obtain ⟨client, found, rfl⟩ := Option.map_eq_some_iff.mp performed
      obtain ⟨rfl, _⟩ := xsmpClient?_mem found
      refine ⟨second.connectionLost world client, ?_, ?_⟩
      · exact Option.map_eq_some_iff.mpr
          ⟨client, (paired.alike.xsmpClient? client.id).trans found, rfl⟩
      · have stored : first.client? client.id = some client :=
          (Option.filter_eq_some_iff.mp found).1
        have otherStored : second.client? client.id = some client := by
          cases paired.alike
          exact stored
        have clears : first.phase = .queryEndSession →
            Clears (List.replicate client.handlers client.id) first.queryClients
              first.inhibitors := by
          simpa [Call.unnames, Call.exits, stored] using keeps.leaving
        have otherClears : second.phase = .queryEndSession →
            Clears (List.replicate client.handlers client.id) second.queryClients
              second.inhibitors := by
          simpa [Call.unnames, Call.exits, otherStored] using otherKeeps.leaving
        exact (paired.updateClient client.id wiring_disconnect).emitDisconnected _ clears otherClears
  | logoutDialogTimeout =>
      obtain ⟨dialog, shown, rfl⟩ := Option.map_eq_some_iff.mp performed
      refine ⟨second.logoutDialogResponse world dialog.defaultResponse, ?_,
        paired.logoutDialogResponse _⟩
      exact Option.map_eq_some_iff.mpr ⟨dialog, common.logoutDialog.trans shown, rfl⟩
  | _ => cases ends

theorem paired_step {event : Event} (paired : Paired opened otherOpened first second)
    (ends : event.call.endsSession = true) (keeps : KeepsForce first event)
    (otherKeeps : KeepsForce second event) (stepped : first.step event = some after) :
    ∃ other, second.step event = some other ∧ Paired opened otherOpened after other := by
  unfold step at stepped ⊢
  rw [paired.alike.common.fault]
  cases fault : first.fault with
  | some _ => simp [fault] at stepped
  | none =>
      rw [fault] at stepped
      exact paired_perform paired ends keeps otherKeeps stepped

theorem paired_run {events : List Event} (paired : Paired opened otherOpened first second)
    (ends : ∀ event ∈ events, event.call.endsSession = true)
    (keeps : managerSystem.Meets KeepsForce first events)
    (otherKeeps : managerSystem.Meets KeepsForce second events)
    (run : managerSystem.run first events = some after) :
    ∃ other, managerSystem.run second events = some other ∧
      Paired opened otherOpened after other := by
  induction events generalizing first second with
  | nil =>
      cases run
      exact ⟨second, rfl, paired⟩
  | cons event events ih =>
      obtain ⟨next, stepped, rest⟩ := Option.bind_eq_some_iff.mp run
      obtain ⟨other, otherStepped, nextPaired⟩ :=
        paired_step paired (ends event (by simp)) keeps.1 otherKeeps.1 stepped
      obtain ⟨last, otherRun, lastPaired⟩ := ih nextPaired
        (fun one member => ends one (by simp [member])) (keeps.2 next stepped)
        (otherKeeps.2 other otherStepped) rest
      exact ⟨last, Option.bind_eq_some_iff.mpr ⟨other, otherStepped, otherRun⟩, lastPaired⟩

def Effect.endedPhase : Effect → Option Phase
  | .phaseEnded ended => some ended.phase
  | _ => none

/-- The phases that have ended, newest first, and the one that runs. -/
def State.phases (state : State) : List Phase :=
  state.phase :: state.log.filterMap Effect.endedPhase

theorem State.Alike.phases (alike : first.Alike second) : second.phases = first.phases := by
  have blind : ∀ log : List Effect,
      (log.map Effect.blind).filterMap Effect.endedPhase = log.filterMap Effect.endedPhase := by
    intro log
    rw [List.filterMap_map]
    refine List.filterMap_congr fun effect _ => ?_
    cases effect <;> rfl
  cases alike with
  | besides inhibitors idleEnabled log same =>
      unfold State.phases
      rw [← blind log, ← blind first.log, same]

/-- While a logout is forced, two sessions that differ in their inhibitors go
through the same phases, and neither opens an inhibit dialog. -/
theorem forced_runs_agree {events : List Event} (alike : first.Alike second)
    (mode : first.logoutMode = .force)
    (ending : first.phase = .queryEndSession ∨ first.phase = .endSession)
    (closed : first.inhibitDialog = none) (otherClosed : second.inhibitDialog = none)
    (ends : ∀ event ∈ events, event.call.endsSession = true)
    (keeps : managerSystem.Meets KeepsForce first events)
    (otherKeeps : managerSystem.Meets KeepsForce second events)
    (run : managerSystem.run first events = some after) :
    ∃ other, managerSystem.run second events = some other ∧ other.phases = after.phases ∧
      after.dialogs = first.dialogs ∧ other.dialogs = second.dialogs := by
  have onwards : Phase.queryEndSession ≤ first.phase :=
    Phase.queryEndSession_le.mpr (ending.imp_right .inl)
  have otherOnwards : Phase.queryEndSession ≤ second.phase := by
    rw [alike.common.phase]
    exact onwards
  have paired : Paired first.dialogs second.dialogs first second :=
    ⟨alike, ⟨mode, onwards, closed, rfl⟩,
      ⟨alike.common.logoutMode.trans mode, otherOnwards, otherClosed, rfl⟩⟩
  obtain ⟨other, otherRun, last⟩ := paired_run paired ends keeps otherKeeps run
  exact ⟨other, otherRun, last.alike.phases, last.forced.opened, last.otherForced.opened⟩

/-- A forced logout whose query times out, with an inhibitor of the logout and
without: the one opens an inhibit dialog, the other quits. -/
theorem forced_logout_inhibited :
    ∃ first second, afterCalls [.inhibit "editor" 0 "unsaved" 1 ":1.2", .logout 2] = some first ∧
      afterCalls [.inhibit "editor" 0 "unsaved" 1 ":1.2", .logout 2, .uninhibit 1] = some second ∧
      first.Alike second ∧ first.logoutMode = .force ∧ first.phase = .queryEndSession ∧
      first.inhibitDialog = none ∧
      ∃ after other, first.step ⟨.permissive, .queryEndSessionTimeout⟩ = some after ∧
        second.step ⟨.permissive, .queryEndSessionTimeout⟩ = some other ∧
        after.phase = .queryEndSession ∧ other.phase = .exit ∧
        after.inhibitDialog = some .logout := by
  refine ⟨_, _, rfl, rfl, ?_, rfl, rfl, rfl, _, _, rfl, rfl, rfl, rfl, rfl⟩
  exact .besides [] true _ rfl

/-- With an inhibitor that is not of the logout, the answer of the only client
ends the query all the same. -/
theorem forced_logout_suspend_inhibited :
    ∃ first second after other, afterCalls [.registerClient "panel" "" ":1.1",
        .inhibit "player" 0 "playing" 4 ":1.2", .logout 2] = some first ∧
      afterCalls [.registerClient "panel" "" ":1.1", .inhibit "player" 0 "playing" 4 ":1.2",
        .logout 2, .uninhibit 1] = some second ∧
      managerSystem.run first [⟨.permissive, .endSessionResponse 1 true ""⟩] = some after ∧
      managerSystem.run second [⟨.permissive, .endSessionResponse 1 true ""⟩] = some other ∧
      other.phases = after.phases ∧ after.dialogs = first.dialogs ∧
      other.dialogs = second.dialogs := by
  obtain ⟨first, start⟩ : ∃ state, afterCalls [.registerClient "panel" "" ":1.1",
      .inhibit "player" 0 "playing" 4 ":1.2", .logout 2] = some state := ⟨_, rfl⟩
  obtain ⟨second, otherStart⟩ : ∃ state, afterCalls [.registerClient "panel" "" ":1.1",
      .inhibit "player" 0 "playing" 4 ":1.2", .logout 2, .uninhibit 1] = some state := ⟨_, rfl⟩
  obtain ⟨after, run⟩ : ∃ state, managerSystem.run first
      [⟨.permissive, .endSessionResponse 1 true ""⟩] = some state := by
    cases start
    exact ⟨_, rfl⟩
  have alike : first.Alike second := by
    cases start
    cases otherStart
    exact .besides [] true _ rfl
  have ends : ∀ event ∈ [Event.mk .permissive (.endSessionResponse 1 true "")],
      event.call.endsSession = true := by
    intro event member
    rw [List.mem_singleton.mp member]
    rfl
  have keeps : managerSystem.Meets KeepsForce first
      [⟨.permissive, .endSessionResponse 1 true ""⟩] := by
    cases start
    exact ⟨⟨fun _ _ _ _ => clears_of_free (by decide), fun _ => trivial, nofun⟩,
      fun _ _ => trivial⟩
  have otherKeeps : managerSystem.Meets KeepsForce second
      [⟨.permissive, .endSessionResponse 1 true ""⟩] := by
    cases otherStart
    exact ⟨⟨fun _ _ _ _ => clears_of_free (by decide), fun _ => trivial, nofun⟩,
      fun _ _ => trivial⟩
  obtain ⟨other, otherRun, same⟩ := forced_runs_agree alike (by cases start; rfl)
    (by cases start; exact .inl rfl) (by cases start; rfl) (by cases otherStart; rfl) ends keeps
    otherKeeps run
  exact ⟨first, second, after, other, start, otherStart, run, otherRun, same⟩

end CafeSession.Manager

import CafeSession.Manager.Kinds

namespace CafeSession.Manager

namespace State

variable {world : World} {state : State}

theorem dropInhibitors_eq (matching : Inhibitor → Bool) :
    ∃ idleEnabled, state.dropInhibitors matching = { state with
      inhibitors := state.inhibitors.filter (fun one => !matching one)
      idleEnabled := idleEnabled } := by
  unfold dropInhibitors
  split_ifs with some_
  · exact ⟨_, rfl⟩
  · have all : state.inhibitors.filter (fun one => !matching one) = state.inhibitors := by
      simpa using some_
    exact ⟨state.idleEnabled, by rw [all]⟩

theorem core_dropInhibitors (matching : Inhibitor → Bool) :
    (state.dropInhibitors matching).core =
      { state.core with inhibitors := state.inhibitors.filter (fun one => !matching one) } := by
  obtain ⟨idleEnabled, dropped⟩ := @dropInhibitors_eq state matching
  rw [dropped]
  rfl

/-- The removals do not reach a dialog that is gone. -/
theorem removeInhibitors_undialogued (closed : state.inhibitDialog = none)
    (matching : Inhibitor → Bool) :
    state.removeInhibitors world matching = state.dropInhibitors matching := by
  have still : (state.dropInhibitors matching).inhibitDialog = none :=
    (congrArg Core.inhibitDialog (core_dropInhibitors matching)).trans closed
  simp only [removeInhibitors, inhibitDialogResponse, still, ite_self]

theorem core_cancelEndSession (ending : .queryEndSession ≤ state.phase) :
    (state.cancelEndSession world).core = { state.core with
      phase := .running
      phaseTimeout := false
      pendingApps := []
      inhibitors := state.inhibitors.filter (fun one => !one.isJit)
      logoutMode := .normal
      queryClients := []
      queryTimeout := false
      nextQueryClients := []
      logoutType := .none
      inhibitDialog := none
      marks := .sessionCancelled :: state.core.marks } := by
  unfold cancelEndSession
  rw [if_neg (Phase.not_lt_query.mpr ending)]
  dsimp only
  obtain ⟨told, telling⟩ : ∃ told, (({ state with inhibitDialog := none } : State).dropInhibitors
      Inhibitor.isJit).tellClients Client.cancelEndSession = told := ⟨_, rfl⟩
  have toldCore : told.core = { state.core with
      inhibitors := state.inhibitors.filter (fun one => !one.isJit)
      inhibitDialog := none } := by
    rw [← telling, core_tellClients Client.keepsWiring_cancelEndSession, core_dropInhibitors]
    rfl
  rw [telling, core_startPhase_running rfl]
  have reset : ({ told.emit .sessionCancelled with
      phase := .running
      logoutMode := .normal
      logoutType := .none } : State).resetPhase.core = { (told.emit .sessionCancelled).core with
      phase := .running
      phaseTimeout := false
      pendingApps := []
      logoutMode := .normal
      queryClients := []
      queryTimeout := false
      nextQueryClients := []
      logoutType := .none } := rfl
  have noted : (told.emit .sessionCancelled).core =
      { told.core with marks := .sessionCancelled :: told.core.marks } := rfl
  rw [reset, noted, toldCore]

theorem core_restartApp (client : Client) (app : Option App) (isConditionClient : Bool) :
    (state.restartApp world client app isConditionClient).core = state.core := by
  unfold restartApp
  split
  · rfl
  · split
    · rfl
    · split_ifs with ending
      · rfl
      · rfl
      · rfl
      · exact core_emit (by simpa [Effect.isMark] using ending)

theorem core_managerSwitchUser : (state.managerSwitchUser world).core = state.core := by
  unfold managerSwitchUser
  split_ifs
  · rfl
  · exact core_emit rfl

theorem core_doInhibitDialogAction {action : LogoutAction} (stays : action.endsSession = false) :
    (state.doInhibitDialogAction world action).core = state.core := by
  cases action with
  | switchUser => exact core_managerSwitchUser
  | hibernate => exact core_emit rfl
  | sleep => exact core_emit rfl
  | shutdown => cases stays
  | reboot => cases stays
  | logout => cases stays

theorem doInhibitDialogAction_ends {action : LogoutAction} (ends : action.endsSession = true) :
    state.doInhibitDialogAction world action =
      { state with logoutMode := .force }.endPhase world := by
  cases action <;> first | rfl | cases ends

theorem core_doPhaseEndSessionPart2 (some_ : state.nextQueryClients ≠ []) :
    ∃ asked : List Nat, asked.Sublist state.nextQueryClients.reverse ∧
      (state.doPhaseEndSessionPart2 world).core = { state.core with
        queryClients := asked ++ state.queryClients
        nextQueryClients := [] } := by
  obtain ⟨asked, sublist, core⟩ := @core_ask_foldl state _
    (Client.keepsWiring_endSession (state.endSessionFlags world true)) state.nextQueryClients
  refine ⟨asked, sublist, ?_⟩
  unfold doPhaseEndSessionPart2
  rw [if_pos some_]
  exact congrArg (fun core : Core => { core with nextQueryClients := [] }) core

theorem clientIds_inhibitUnresponsive (id : Nat) :
    (state.inhibitUnresponsive world id).clientIds = state.clientIds := by
  unfold inhibitUnresponsive
  split <;> rfl

theorem core_inhibitUnresponsive (ids : List Nat) :
    ∃ added : List Inhibitor,
      (∀ inhibitor ∈ added, inhibitor.OfClient state.clientIds ∧
        inhibitor.hasFlag inhibitorFlagLogout = true) ∧
      (ids.foldl (inhibitUnresponsive world) state).core =
        { state.core with inhibitors := state.inhibitors ++ added } := by
  induction ids generalizing state with
  | nil => exact ⟨[], nofun, by rw [List.append_nil]; rfl⟩
  | cons id ids ih =>
      obtain ⟨added, jit, rest⟩ := @ih (state.inhibitUnresponsive world id)
      rw [clientIds_inhibitUnresponsive] at jit
      rw [List.foldl_cons, rest]
      unfold inhibitUnresponsive
      cases found : state.client? id with
      | none => exact ⟨added, jit, rfl⟩
      | some client =>
          have stored : client.id ∈ state.clientIds :=
            List.mem_map_of_mem (List.mem_of_find?_eq_some found)
          obtain ⟨inhibitor, jitOne, one⟩ : ∃ inhibitor : Inhibitor,
              (inhibitor.OfClient state.clientIds ∧
                inhibitor.hasFlag inhibitorFlagLogout = true) ∧
              state.addJitInhibitor world client notResponding = state.addInhibitor inhibitor :=
            ⟨_, ⟨⟨client.id, stored, rfl⟩, Inhibitor.newForClient_hasFlag _ _ _ _ _⟩, rfl⟩
          refine ⟨inhibitor :: added, ?_, ?_⟩
          · intro other member
            rcases List.mem_cons.mp member with same | old
            · rw [same]
              exact jitOne
            · exact jit other old
          · dsimp only
            rw [one, List.append_cons]
            rfl

/-- The query timeout completes the query with nobody left to wait for. -/
theorem onQueryEndSessionTimeout_eq :
    ∃ (cleared : State) (added : List Inhibitor),
      (∀ inhibitor ∈ added, inhibitor.OfClient state.clientIds ∧
        inhibitor.hasFlag inhibitorFlagLogout = true) ∧
      (state.logoutMode = .force ∨ state.queryClients = [] → added = []) ∧
      cleared.core = { state.core with
        queryClients := []
        queryTimeout := false
        inhibitors := state.inhibitors ++ added } ∧
      state.onQueryEndSessionTimeout world = cleared.queryEndSessionComplete world := by
  obtain ⟨inhibited, inhibiting⟩ : ∃ inhibited, (if state.logoutMode = .force then
      { state with queryTimeout := false }
      else state.queryClients.foldl (inhibitUnresponsive world)
        { state with queryTimeout := false }) = inhibited := ⟨_, rfl⟩
  obtain ⟨added, jit, nobody, core⟩ : ∃ added : List Inhibitor,
      (∀ inhibitor ∈ added, inhibitor.OfClient state.clientIds ∧
        inhibitor.hasFlag inhibitorFlagLogout = true) ∧
      (state.logoutMode = .force ∨ state.queryClients = [] → added = []) ∧
      inhibited.core = { state.core with
        queryTimeout := false
        inhibitors := state.inhibitors ++ added } := by
    rw [← inhibiting]
    split_ifs with forced
    · exact ⟨[], nofun, fun _ => rfl, by rw [List.append_nil]; rfl⟩
    · by_cases none_ : state.queryClients = []
      · have same : ∀ other : State,
            state.queryClients.foldl (inhibitUnresponsive world) other = other := by
          intro other
          rw [none_]
          rfl
        rw [same]
        exact ⟨[], nofun, fun _ => rfl, by rw [List.append_nil]; rfl⟩
      · obtain ⟨added, jit, core⟩ := @core_inhibitUnresponsive world
          { state with queryTimeout := false } state.queryClients
        refine ⟨added, jit, fun quiet => ?_, core⟩
        rcases quiet with force | nobody
        · exact absurd force forced
        · exact absurd nobody none_
  refine ⟨{ inhibited with queryClients := [] }, added, jit, nobody, ?_, ?_⟩
  · exact congrArg (fun core : Core => { core with queryClients := [] }) core
  · rw [← inhibiting]
    rfl

theorem core_removeClient (id : Nat) :
    (state.removeClient id).core = state.core.removeClient id := by
  have ids : (state.removeClient id).clientIds =
      state.clientIds.filter (fun other => other != id) := by
    simp only [clientIds, removeClient, List.filter_map]
    rfl
  have wirings : (state.removeClient id).clients.map Client.wiring =
      (state.clients.map Client.wiring).filter (fun wiring => wiring.id != id) := by
    simp only [removeClient, List.filter_map]
    rfl
  simp only [core, ids, wirings]
  rfl

/-- Removing inhibitors is just that, or the dialog's last row goes away with them. -/
theorem core_removeInhibitors (world : World) (state : State) (matching : Inhibitor → Bool) :
    ((state.inhibitDialog ≠ none → state.inhibitors ≠ [] →
        state.inhibitors.filter (fun one => !matching one) ≠ []) ∧
      (state.removeInhibitors world matching).core =
        { state.core with inhibitors := state.inhibitors.filter (fun one => !matching one) }) ∨
      ∃ action, state.inhibitors ≠ [] ∧
        (∀ inhibitor ∈ state.inhibitors, matching inhibitor = true) ∧
        state.inhibitDialog = some action ∧
        if action.endsSession then
          ∃ forced : State, forced.core = { state.core with
              inhibitors := []
              inhibitDialog := none
              logoutMode := .force
              marks := .inhibitDialogAnswered action .accept :: state.core.marks } ∧
            state.removeInhibitors world matching = forced.endPhase world
        else
          (state.removeInhibitors world matching).core = { state.core with
            inhibitors := []
            inhibitDialog := none
            marks := .inhibitDialogAnswered action .accept :: state.core.marks } := by
  have core := @core_dropInhibitors state matching
  obtain ⟨dropped, dropping⟩ : ∃ dropped, state.dropInhibitors matching = dropped := ⟨_, rfl⟩
  rw [dropping] at core
  unfold removeInhibitors
  rw [dropping]
  dsimp only
  split_ifs with emptied
  · simp only [Bool.and_eq_true, List.any_eq_true, List.isEmpty_iff] at emptied
    obtain ⟨⟨one, member, _⟩, empty⟩ := emptied
    have filtered : state.inhibitors.filter (fun one => !matching one) = [] :=
      (congrArg Core.inhibitors core).symm.trans empty
    unfold inhibitDialogResponse
    have same : dropped.inhibitDialog = state.inhibitDialog := congrArg Core.inhibitDialog core
    cases opened : dropped.inhibitDialog with
    | none => exact .inl ⟨fun shown => absurd (same.symm.trans opened) shown, core⟩
    | some action =>
        refine .inr ⟨action, List.ne_nil_of_mem member, ?_,
          same.symm.trans opened, ?_⟩
        · intro inhibitor stored
          have out := List.filter_eq_nil_iff.mp filtered inhibitor stored
          simpa using out
        · rw [filtered] at core
          have closed : (dropped.answerDialog action .accept).core = { state.core with
              inhibitors := []
              inhibitDialog := none
              marks := .inhibitDialogAnswered action .accept :: state.core.marks } := by
            have answered : (dropped.answerDialog action .accept).core = { dropped.core with
                inhibitDialog := none
                marks := .inhibitDialogAnswered action .accept :: dropped.core.marks } := rfl
            rw [answered, core]
          dsimp only
          split_ifs with ends
          · refine ⟨{ dropped.answerDialog action .accept with logoutMode := .force }, ?_, ?_⟩
            · exact congrArg (fun core : Core => { core with logoutMode := .force }) closed
            · exact doInhibitDialogAction_ends ends
          · rw [core_doInhibitDialogAction (by simpa using ends)]
            exact closed
  · refine .inl ⟨fun _ some_ filtered => emptied ?_, core⟩
    have empty : dropped.inhibitors = [] := (congrArg Core.inhibitors core).trans filtered
    obtain ⟨one, member⟩ := List.exists_mem_of_ne_nil _ some_
    have hit : matching one = true := by
      simpa using List.filter_eq_nil_iff.mp filtered one member
    rw [empty, List.any_eq_true.mpr ⟨one, member, hit⟩]
    rfl

end State

/-- The changes that answers and departures are made of.  `acts id response`
says that the client may answer so; `drops matching` that the inhibitors that
match may be removed. -/
structure Rules (world : World) (acts : Nat → Response → Prop)
    (drops : (Inhibitor → Bool) → Prop) (Given P : Core → Prop) : Prop where
  taken : ∀ core id response, acts id response → Given core → P core →
    .queryEndSession ≤ core.phase → P { core with queryClients := core.queryClients.erase id }
  inhibited : ∀ core id response inhibitor, acts id response → response.isOk = false →
    inhibitor.clientId = some id → inhibitor.hasFlag inhibitorFlagLogout = true → Given core →
    P core → .queryEndSession ≤ core.phase →
    P { core with inhibitors := core.inhibitors ++ [inhibitor] }
  /-- an open inhibit dialog keeps a row -/
  dropped : ∀ core matching, drops matching →
    (core.inhibitDialog ≠ none → core.inhibitors ≠ [] →
      core.inhibitors.filter (fun one => !matching one) ≠ []) → Given core → P core →
    P { core with inhibitors := core.inhibitors.filter (fun one => !matching one) }
  /-- an inhibit dialog that loses its last row, and does not end the session -/
  closed : ∀ core matching action, drops matching → core.inhibitDialog = some action →
    action.endsSession = false → core.inhibitors ≠ [] →
    (∀ inhibitor ∈ core.inhibitors, matching inhibitor = true) → Given core → P core →
    P { core with
      inhibitors := []
      inhibitDialog := none
      marks := .inhibitDialogAnswered action .accept :: core.marks }
  /-- one that does -/
  accepted : ∀ core matching action (forced : State), drops matching →
    core.inhibitDialog = some action → action.endsSession = true → core.inhibitors ≠ [] →
    (∀ inhibitor ∈ core.inhibitors, matching inhibitor = true) → Given core → P core →
    forced.core = { core with
      inhibitors := []
      inhibitDialog := none
      logoutMode := .force
      marks := .inhibitDialogAnswered action .accept :: core.marks } →
    P (forced.endPhase world).core
  completed : ∀ state : State, Given state.core → P state.core →
    state.phase = .queryEndSession → state.queryClients = [] → state.logoutInhibited = false →
    P ({ state with queryTimeout := false }.endPhase world).core
  opened : ∀ core, Given core → P core → core.phase = .queryEndSession →
    core.queryClients = [] → core.inhibitors.any (Inhibitor.hasFlag inhibitorFlagLogout) = true →
    P { core with
      queryTimeout := false
      inhibitDialog := some (core.inhibitDialog.getD core.logoutType.action) }
  deferred : ∀ core id response, acts id response → response.doLast = true → Given core →
    P core → core.phase = .endSession →
    P { core with nextQueryClients := id :: core.nextQueryClients }
  moved : ∀ core asked, asked.Sublist core.nextQueryClients.reverse → Given core → P core →
    core.phase = .endSession → core.queryClients = [] →
    P { core with queryClients := asked, nextQueryClients := [] }
  ended : ∀ state : State, Given state.core → P state.core → state.phase = .endSession →
    state.queryClients = [] → state.nextQueryClients = [] → P (state.endPhase world).core
  cancelled : ∀ (state : State) id response, acts id response → response.cancel = true →
    Given state.core → P state.core → .queryEndSession ≤ state.phase →
    P (state.cancelEndSession world).core

namespace Rules

variable {world : World} {acts : Nat → Response → Prop} {drops : (Inhibitor → Bool) → Prop}
variable {Given P : Core → Prop} {state : State}

/-- A property together with one that is kept where it holds. -/
theorem both {Base Other : Core → Prop} (given : Rules world acts drops Base Given)
    (rules : Rules world acts drops Other P)
    (implies : ∀ core, Base core → Given core → Other core) :
    Rules world acts drops Base (fun core => Given core ∧ P core) where
  taken core id response acting base holds ending :=
    ⟨given.taken core id response acting base holds.1 ending,
      rules.taken core id response acting (implies core base holds.1) holds.2 ending⟩
  inhibited core id response inhibitor acting refuses jit logout base holds ending :=
    ⟨given.inhibited core id response inhibitor acting refuses jit logout base holds.1 ending,
      rules.inhibited core id response inhibitor acting refuses jit logout
        (implies core base holds.1) holds.2 ending⟩
  dropped core matching dropping rows base holds :=
    ⟨given.dropped core matching dropping rows base holds.1,
      rules.dropped core matching dropping rows (implies core base holds.1) holds.2⟩
  closed core matching action dropping opened stays some_ last base holds :=
    ⟨given.closed core matching action dropping opened stays some_ last base holds.1,
      rules.closed core matching action dropping opened stays some_ last
        (implies core base holds.1) holds.2⟩
  accepted core matching action forced dropping opened ends some_ last base holds same :=
    ⟨given.accepted core matching action forced dropping opened ends some_ last base holds.1 same,
      rules.accepted core matching action forced dropping opened ends some_ last
        (implies core base holds.1) holds.2 same⟩
  completed state base holds query nobody free :=
    ⟨given.completed state base holds.1 query nobody free,
      rules.completed state (implies _ base holds.1) holds.2 query nobody free⟩
  opened core base holds query nobody inhibited :=
    ⟨given.opened core base holds.1 query nobody inhibited,
      rules.opened core (implies core base holds.1) holds.2 query nobody inhibited⟩
  deferred core id response acting last base holds ending :=
    ⟨given.deferred core id response acting last base holds.1 ending,
      rules.deferred core id response acting last (implies core base holds.1) holds.2 ending⟩
  moved core asked sublist base holds ending nobody :=
    ⟨given.moved core asked sublist base holds.1 ending nobody,
      rules.moved core asked sublist (implies core base holds.1) holds.2 ending nobody⟩
  ended state base holds ending nobody noNext :=
    ⟨given.ended state base holds.1 ending nobody noNext,
      rules.ended state (implies _ base holds.1) holds.2 ending nobody noNext⟩
  cancelled state id response acting cancel base holds ending :=
    ⟨given.cancelled state id response acting cancel base holds.1 ending,
      rules.cancelled state id response acting cancel (implies _ base holds.1) holds.2 ending⟩

theorem removeInhibitors (rules : Rules world acts drops Given P) {matching : Inhibitor → Bool}
    (dropping : drops matching) (given : Given state.core) (holds : P state.core) :
    P (state.removeInhibitors world matching).core := by
  rcases State.core_removeInhibitors world state matching with ⟨rows, core⟩ |
    ⟨action, some_, last, opened, core⟩
  · rw [core]
    exact rules.dropped state.core matching dropping rows given holds
  · cases ends : action.endsSession with
    | false =>
        rw [ends] at core
        rw [core]
        exact rules.closed _ _ action dropping opened ends some_ last given holds
    | true =>
        rw [ends] at core
        obtain ⟨forced, same, ended⟩ := core
        rw [ended]
        exact rules.accepted _ _ action forced dropping opened ends some_ last given holds same

variable (rules : Rules world acts drops (fun _ => True) P)
include rules

theorem queryEndSessionComplete (query : state.phase = .queryEndSession)
    (nobody : state.queryClients = []) (holds : P state.core) :
    P (state.queryEndSessionComplete world).core := by
  unfold State.queryEndSessionComplete
  dsimp only
  have stopped : ({ state with queryTimeout := false } : State).logoutInhibited =
      state.logoutInhibited := rfl
  rw [stopped]
  cases inhibited : state.logoutInhibited with
  | false => exact rules.completed state trivial holds query nobody inhibited
  | true =>
      have opened := rules.opened state.core trivial holds query nobody inhibited
      unfold State.openInhibitDialog
      cases dialog : state.inhibitDialog with
      | none =>
          rw [show state.core.inhibitDialog = none from dialog] at opened
          exact opened
      | some action =>
          rw [show state.core.inhibitDialog = some action from dialog] at opened
          exact opened

theorem endSessionNoted {id : Nat} {doLast : Bool} (ending : state.phase = .endSession)
    (noted : P (if doLast = true then
      { state with nextQueryClients := id :: state.nextQueryClients } else state : State).core) :
    P (state.endSessionAnswered world id doLast).core := by
  obtain ⟨later, notes⟩ : ∃ later, (if doLast = true then
      { state with nextQueryClients := id :: state.nextQueryClients } else state) = later :=
    ⟨_, rfl⟩
  have laterPhase : later.phase = .endSession := by
    rw [← notes]
    split_ifs <;> exact ending
  rw [notes] at noted
  unfold State.endSessionAnswered
  rw [notes]
  dsimp only
  split_ifs with waits last
  · exact noted
  · have nobody : later.queryClients = [] := by
      by_contra some_
      exact waits (.inl some_)
    obtain ⟨asked, sublist, core⟩ := @State.core_doPhaseEndSessionPart2 world later last
    rw [core, nobody, List.append_nil]
    exact rules.moved later.core asked sublist trivial noted laterPhase nobody
  · have nobody : later.queryClients = [] := by
      by_contra some_
      exact waits (.inl some_)
    exact rules.ended later trivial noted laterPhase nobody (not_not.mp last)

theorem endSessionAnswered {id : Nat} {response : Response} (acting : acts id response)
    (ending : state.phase = .endSession) (holds : P state.core) :
    P (state.endSessionAnswered world id response.doLast).core := by
  refine rules.endSessionNoted ending ?_
  split_ifs with last
  · exact rules.deferred state.core id response acting last trivial holds ending
  · exact holds

theorem noteTaken {client : Client} {response : Response} (acting : acts client.id response)
    (dropping : drops (Inhibitor.hasClientId client.id))
    (ending : .queryEndSession ≤ state.phase)
    (taken : P { state.core with queryClients := state.queryClients.erase client.id }) :
    P (state.noteAnswer world client response).core := by
  unfold State.noteAnswer
  dsimp only
  split_ifs with refuses
  · simp only [Bool.and_eq_true, Bool.not_eq_true'] at refuses
    exact rules.inhibited _ client.id response _ acting refuses.1 rfl
      (Inhibitor.newForClient_hasFlag _ _ _ _ _) trivial taken ending
  · exact rules.removeInhibitors dropping trivial taken

theorem answerNoted {id : Nat} {response : Response} (acting : acts id response)
    (holds : P state.core) : P (state.answerNoted world id response.doLast).core := by
  unfold State.answerNoted
  split
  · next query =>
      split_ifs with nobody
      · exact rules.queryEndSessionComplete query nobody holds
      · exact holds
  · next ending => exact rules.endSessionAnswered acting ending holds
  · exact holds

theorem handle {client : Client} {response : Response} (acting : acts client.id response)
    (dropping : drops (Inhibitor.hasClientId client.id)) (holds : P state.core) :
    P (state.handleClientEndSessionResponse world client response).core := by
  unfold State.handleClientEndSessionResponse
  split_ifs with early cancel
  · exact holds
  · exact rules.cancelled state client.id response acting cancel trivial holds
      (Phase.not_lt_query.mp early)
  · have ending := Phase.not_lt_query.mp early
    have taken := rules.taken state.core client.id response acting trivial holds ending
    exact rules.answerNoted acting (rules.noteTaken acting dropping ending taken)

/-- What is left to do once the inhibitors of the client have been removed. -/
theorem disconnectRemoved {client : Client} (acting : acts client.id exitedResponse)
    (dropping : drops (Inhibitor.hasClientId client.id))
    (removed : P (({ state with conditionClients := state.conditionClients.erase client.id } :
      State).removeInhibitors world (Inhibitor.hasClientId client.id)).core) :
    P (state.disconnectClient world client).core := by
  unfold State.disconnectClient
  dsimp only
  rw [State.core_restartApp]
  split_ifs
  · exact rules.handle acting dropping removed
  · exact removed

theorem disconnect {client : Client} (acting : acts client.id exitedResponse)
    (dropping : drops (Inhibitor.hasClientId client.id)) (holds : P state.core) :
    P (state.disconnectClient world client).core :=
  rules.disconnectRemoved acting dropping (rules.removeInhibitors dropping trivial holds)

theorem onQueryEndSessionTimeout (query : state.phase = .queryEndSession)
    (cleared : ∀ added : List Inhibitor,
      (∀ inhibitor ∈ added, inhibitor.OfClient state.clientIds ∧
        inhibitor.hasFlag inhibitorFlagLogout = true) →
      P { state.core with
        queryClients := []
        queryTimeout := false
        inhibitors := state.inhibitors ++ added }) :
    P (state.onQueryEndSessionTimeout world).core := by
  obtain ⟨empty, added, jit, _, core, form⟩ := @State.onQueryEndSessionTimeout_eq world state
  rw [form]
  refine rules.queryEndSessionComplete ((congrArg Core.phase core).trans query)
    (congrArg Core.queryClients core) ?_
  rw [core]
  exact cleared added jit

end Rules

end CafeSession.Manager

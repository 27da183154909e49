import CafeSession.Manager.Reach
import CafeSession.Manager.Survivors

namespace CafeSession.Manager

open State

/-- In the query the timeout is armed or a dialog that ends the session is open. -/
def Core.Live (core : Core) : Prop :=
  core.phase = .queryEndSession → core.queryTimeout = true ∨ core.Ending

/-- Where a dialog that keeps the session running is open during the query, the
event does not complete the query while logging out is inhibited. -/
structure KeepsQueryLive (before : State) (event : Event) : Prop where
  timeout : before.phase = .queryEndSession → before.core.Aside →
    event.call = .queryEndSessionTimeout →
    before.logoutInhibited = false ∧ (before.logoutMode = .force ∨ before.queryClients = [])
  answer : before.phase = .queryEndSession → before.core.Aside → ∀ id response,
    event.call.answer = some (id, response) →
    response.cancel = true ∨ (∃ other ∈ before.queryClients, other ≠ id) ∨
      (response.isOk = true ∨ before.logoutMode = .force) ∧
        ∀ inhibitor ∈ before.inhibitors, inhibitor.hasFlag inhibitorFlagLogout = true →
          inhibitor.hasClientId id = true
  leaving : before.phase = .queryEndSession → before.core.Aside →
    event.call.leaving before ≠ [] →
    (∃ other ∈ before.queryClients, ∀ client ∈ event.call.leaving before, client.id ≠ other) ∨
      ∀ inhibitor ∈ before.inhibitors, inhibitor.hasFlag inhibitorFlagLogout = true →
        event.call.removes before inhibitor = true

section

variable {world : World} {acts : Nat → Response → Prop} {drops : (Inhibitor → Bool) → Prop}
variable {state : State}

theorem live_endPhase : (state.endPhase world).core.Live := by
  have ending := endPhase_ending world state
  generalize (state.endPhase world).core = after at ending ⊢
  cases ending with
  | startup early starts =>
      intro query
      have bound := starts.phase
      rw [query] at bound
      exact absurd bound (by decide)
  | locked running => exact fun query => absurd (running.symm.trans query) (by decide)
  | asked => exact fun _ => .inl rfl
  | ending | emptied | ended | quit => exact nofun

/-- The query stays live where it does not complete, inhibited, beside a dialog
that keeps the session running. -/
theorem liveRules {Given : Core → Prop}
    (settled : ∀ core, Given core → core.phase = .queryEndSession → core.queryClients = [] →
      core.inhibitors.any (Inhibitor.hasFlag inhibitorFlagLogout) = true → ¬ core.Aside) :
    Rules world acts drops Given Core.Live where
  taken _ _ _ _ _ live _ := live
  inhibited _ _ _ _ _ _ _ _ _ live _ := live
  dropped _ _ _ _ _ live := live
  closed core _ action _ opened stays _ _ _ live query := by
    refine (live query).imp_right ?_
    rintro ⟨other, shown, ends⟩
    cases opened.symm.trans shown
    cases stays.symm.trans ends
  accepted _ _ _ _ _ _ _ _ _ _ _ _ := live_endPhase
  completed _ _ _ _ _ _ := live_endPhase
  opened core given live query nobody inhibited _ := by
    have calm := settled core given query nobody inhibited
    refine .inr ⟨_, rfl, ?_⟩
    cases dialog : core.inhibitDialog with
    | none => exact core.logoutType.action_endsSession
    | some action =>
        cases ends : action.endsSession with
        | true => exact ends
        | false => exact absurd ⟨action, dialog, ends⟩ calm
  deferred _ _ _ _ _ _ live _ := live
  moved _ _ _ _ _ ending _ query := absurd (ending.symm.trans query) (by decide)
  ended _ _ _ _ _ _ := live_endPhase
  cancelled _ _ _ _ _ _ _ ending query := by
    rw [core_cancelEndSession ending] at query
    cases query

theorem liveEmptied : Emptied world Core.Live := fun _ _ _ _ _ => live_endPhase

theorem live_removeInhibitors {matching : Inhibitor → Bool} (live : state.core.Live) :
    (state.removeInhibitors world matching).core.Live := by
  rcases core_removeInhibitors world state matching with ⟨_, core⟩ | ⟨action, _, _, opened, core⟩
  · rw [core]
    exact live
  · split_ifs at core with ends
    · obtain ⟨forced, _, ended⟩ := core
      rw [ended]
      exact live_endPhase
    · rw [core]
      intro query
      refine (live query).imp_right ?_
      rintro ⟨other, shown, ending⟩
      cases opened.symm.trans shown
      exact absurd ending ends

/-- The query is complete: it leads on, or a dialog opens for it. -/
theorem live_queryEndSessionComplete (settled : state.logoutInhibited = true → ¬ state.core.Aside) :
    (state.queryEndSessionComplete world).core.Live := by
  unfold queryEndSessionComplete
  dsimp only
  rw [show ({ state with queryTimeout := false } : State).logoutInhibited =
    state.logoutInhibited from rfl]
  cases inhibited : state.logoutInhibited with
  | false => exact live_endPhase
  | true =>
      intro _
      right
      unfold openInhibitDialog
      cases dialog : state.inhibitDialog with
      | none => exact ⟨_, rfl, state.logoutType.action_endsSession⟩
      | some action =>
          cases ends : action.endsSession with
          | true => exact ⟨action, rfl, ends⟩
          | false => exact absurd ⟨action, dialog, ends⟩ (settled inhibited)

theorem live_of_shaped {core : Core} (shaped : core.Shaped) (waits : core.queryClients ≠ []) :
    core.Live := by
  intro query
  left
  cases timed : core.queryTimeout with
  | true => rfl
  | false => exact absurd (shaped.waited query timed) waits

/-- No dialog but those that end the session opens while answers are given. -/
theorem calmDepartures : Departures world acts drops (fun core => ¬ core.Aside) where
  rules := {
    taken := fun _ _ _ _ _ calm _ => calm
    inhibited := fun _ _ _ _ _ _ _ _ _ calm _ => calm
    dropped := fun _ _ _ _ _ calm => calm
    closed := fun _ _ _ _ _ _ _ _ _ _ => by
      rintro ⟨_, opened, _⟩
      cases opened
    accepted := fun _ _ _ forced _ _ _ _ _ _ _ same => by
      rintro ⟨_, opened, _⟩
      rw [endPhase_frame.inhibitDialog, same] at opened
      cases opened
    completed := fun _ _ calm _ _ _ => by
      rintro ⟨action, opened, stays⟩
      rw [endPhase_frame.inhibitDialog] at opened
      exact calm ⟨action, opened, stays⟩
    opened := fun core _ calm _ _ _ => by
      rintro ⟨action, opened, stays⟩
      cases dialog : core.inhibitDialog with
      | none =>
          rw [dialog] at opened
          cases opened
          cases stays.symm.trans core.logoutType.action_endsSession
      | some shown =>
          rw [dialog] at opened
          cases opened
          exact calm ⟨shown, dialog, stays⟩
    deferred := fun _ _ _ _ _ _ calm _ => calm
    moved := fun _ _ _ _ calm _ _ => calm
    ended := fun _ _ calm _ _ _ => by
      rintro ⟨action, opened, stays⟩
      rw [endPhase_frame.inhibitDialog] at opened
      exact calm ⟨action, opened, stays⟩
    cancelled := fun _ _ _ _ _ _ _ ending => by
      rintro ⟨_, opened, _⟩
      rw [core_cancelEndSession ending] at opened
      cases opened }
  gone _ _ _ _ calm _ := calm
  noted _ _ _ calm := calm

theorem calmEmptied : Emptied world (fun core => ¬ core.Aside) := by
  rintro state _ calm _ _ ⟨action, opened, stays⟩
  rw [endPhase_frame.inhibitDialog] at opened
  exact calm ⟨action, opened, stays⟩

theorem liveDepartures {Q : Core → Prop} (departures : Departures world acts drops Q)
    (settled : ∀ core, core.Shaped ∧ Q core → core.phase = .queryEndSession →
      core.queryClients = [] →
      core.inhibitors.any (Inhibitor.hasFlag inhibitorFlagLogout) = true → ¬ core.Aside) :
    Departures world acts drops (fun core => Q core ∧ core.Live) :=
  departures.beside (liveRules settled) (fun _ _ _ _ _ live _ => live) (fun _ _ _ live => live)

theorem freeDepartures (agrees : ∀ id response, acts id response → response.isOk = true) :
    Departures world acts drops (fun core => core.Free ∧ core.Live) := by
  have free : Departures world acts drops Core.Free := withinDepartures agrees
  refine liveDepartures free ?_
  rintro core ⟨_, free⟩ _ _ inhibited
  obtain ⟨inhibitor, member, hit⟩ := List.any_eq_true.mp inhibited
  exact absurd ((free inhibitor member).symm.trans hit) (by decide)

theorem freeEmptied : Emptied world (fun core => core.Free ∧ core.Live) :=
  (withinEmptied _).both liveEmptied

/-- An answer that leaves nobody inhibiting does not strand the query. -/
theorem live_answerNoted {id : Nat} {doLast : Bool} (shaped : state.core.Shaped)
    (free : state.core.Free) : (state.answerNoted world id doLast).core.Live := by
  by_cases query : state.phase = .queryEndSession
  · unfold answerNoted
    rw [query]
    dsimp only
    split_ifs with nobody
    · refine live_queryEndSessionComplete fun inhibited => ?_
      exact absurd (inhibited.symm.trans (free_logoutInhibited free)) (by decide)
    · exact live_of_shaped shaped nobody
  · have outside : Departures world (fun _ _ => True) (fun _ => True)
        (fun core => core.phase ≠ .queryEndSession) := outsideDepartures
    have left := @Rules.answerNoted world _ _ _ state outside.both id
      ⟨true, doLast, false, none⟩ trivial ⟨shaped, query⟩
    exact fun still => absurd still left.2

/-- The client's own inhibitors are the last that keep the session from ending. -/
theorem live_handle {client : Client} {response : Response} (shaped : state.core.Shaped)
    (agrees : response.isOk = true ∨ state.logoutMode = .force)
    (own : ∀ inhibitor ∈ state.inhibitors, inhibitor.hasFlag inhibitorFlagLogout = true →
      inhibitor.hasClientId client.id = true) :
    (state.handleClientEndSessionResponse world client response).core.Live := by
  unfold handleClientEndSessionResponse
  split_ifs with early cancel
  · intro query
    exact absurd (Phase.queryEndSession_le.mpr (.inl query)) (Phase.not_query_le.mpr early)
  · intro query
    rw [core_cancelEndSession (Phase.not_lt_query.mp early)] at query
    cases query
  · have ending := Phase.not_lt_query.mp early
    have base := shapedRules world (fun _ _ => True) (fun _ => True)
    have taken := base.taken state.core client.id response trivial trivial shaped ending
    have noted := @Rules.noteTaken world _ _ _ state base client response trivial trivial
      ending taken
    refine live_answerNoted noted ?_
    have removes : (!response.isOk && state.logoutMode != .force) = false := by
      rcases agrees with isOk | force
      · simp [isOk]
      · simp [force]
    unfold noteAnswer
    dsimp only
    rw [removes, if_neg Bool.false_ne_true]
    have within := @within_removeInhibitors world
      { state with queryClients := state.queryClients.erase client.id }
      (fun inhibitor => inhibitor.hasFlag inhibitorFlagLogout = true →
        inhibitor.hasClientId client.id = true) (Inhibitor.hasClientId client.id) own
    intro inhibitor member
    obtain ⟨owned, stays⟩ := within inhibitor member
    by_contra logout
    rw [Bool.not_eq_false] at logout
    exact absurd (stays.symm.trans (owned logout)) (by decide)

theorem live_answered {before : State} {call : Call} {client : Client} {response : Response}
    (answer : call.answer = some (client.id, response)) (same : state.core = before.core)
    (shaped : before.core.Shaped) (live : before.core.Live)
    (keeps : before.phase = .queryEndSession → before.core.Aside → ∀ id response,
      call.answer = some (id, response) →
      response.cancel = true ∨ (∃ other ∈ before.queryClients, other ≠ id) ∨
        (response.isOk = true ∨ before.logoutMode = .force) ∧
          ∀ inhibitor ∈ before.inhibitors, inhibitor.hasFlag inhibitorFlagLogout = true →
            inhibitor.hasClientId id = true) :
    (state.handleClientEndSessionResponse world client response).core.Live := by
  rw [← same] at shaped live
  by_cases query : before.phase = .queryEndSession
  swap
  · have outside : Departures world (fun _ _ => True) (fun _ => True)
        (fun core => core.phase ≠ .queryEndSession) := outsideDepartures
    rw [← show state.core.phase = before.phase from congrArg Core.phase same] at query
    have left := @Rules.handle world _ _ _ state outside.both client response trivial trivial
      ⟨shaped, query⟩
    exact fun still => absurd still left.2
  by_cases aside : before.core.Aside
  swap
  · have calm : Departures world (fun _ _ => True) (fun _ => True)
        (fun core => ¬ core.Aside) := calmDepartures
    have departures := liveDepartures calm fun _ given _ _ _ => given.2
    rw [← same] at aside
    exact (@Rules.handle world _ _ _ state departures.both client response trivial trivial
      ⟨shaped, aside, live⟩).2.2
  have stateQuery : state.phase = .queryEndSession := (congrArg Core.phase same).trans query
  rcases keeps query aside client.id response answer with cancel | ⟨other, waits, others⟩ | own
  · have late : Phase.queryEndSession ≤ state.phase :=
      Phase.queryEndSession_le.mpr (.inl stateQuery)
    unfold handleClientEndSessionResponse
    rw [if_neg (Phase.not_lt_query.mpr late), if_pos cancel, core_cancelEndSession late]
    exact nofun
  · by_cases cancel : response.cancel = true
    · have late : Phase.queryEndSession ≤ state.phase :=
        Phase.queryEndSession_le.mpr (.inl stateQuery)
      unfold handleClientEndSessionResponse
      rw [if_neg (Phase.not_lt_query.mpr late), if_pos cancel, core_cancelEndSession late]
      exact nofun
    have departures : Departures world
        (fun id response => id ≠ other ∧ response.cancel = false) (fun _ => True)
        (Core.Waits other) := waitsDepartures fun _ _ acting => acting
    rw [← show state.core.queryClients = before.queryClients from
      congrArg Core.queryClients same] at waits
    have left := @Rules.handle world _ _ _ state departures.both client response
      ⟨others.symm, by simpa using cancel⟩ trivial ⟨shaped, stateQuery, waits⟩
    exact live_of_shaped left.1 left.2.some
  · rw [← show state.logoutMode = before.logoutMode from congrArg Core.logoutMode same,
      ← show state.inhibitors = before.inhibitors from congrArg Core.inhibitors same] at own
    exact live_handle shaped own.1 own.2

theorem live_depart {client : Client} (shaped : state.core.Shaped)
    (own : ∀ inhibitor ∈ state.inhibitors, inhibitor.hasFlag inhibitorFlagLogout = true →
      inhibitor.hasClientId client.id = true) :
    ((state.disconnectClient world client).removeClient client.id).core.Shaped ∧
      ((state.disconnectClient world client).removeClient client.id).core.Free ∧
      ((state.disconnectClient world client).removeClient client.id).core.Live := by
  have departures : Departures world (fun _ response => response.isOk = true) (fun _ => True)
      Core.Free := withinDepartures fun _ _ agrees => agrees
  have free : (({ state with
      conditionClients := state.conditionClients.erase client.id } : State).removeInhibitors world
        (Inhibitor.hasClientId client.id)).core.Free := by
    refine within_forget own fun inhibitor owned stays => ?_
    by_contra logout
    rw [Bool.not_eq_false] at logout
    exact absurd (stays.symm.trans (owned logout)) (by decide)
  obtain ⟨leftShaped, leftFree⟩ := departures.departRemoved rfl trivial shaped free
  refine ⟨leftShaped, leftFree, ?_⟩
  have removedShaped := @Rules.removeInhibitors world _ _ _ _
    { state with conditionClients := state.conditionClients.erase client.id }
    (shapedRules world (fun _ _ => True) (fun _ => True)) (Inhibitor.hasClientId client.id)
    trivial trivial shaped
  have disconnected : (state.disconnectClient world client).core.Live := by
    unfold disconnectClient
    dsimp only
    rw [core_restartApp]
    split_ifs with query
    · refine live_handle removedShaped (.inl rfl) fun inhibitor member logout => ?_
      exact absurd ((free inhibitor member).symm.trans logout) (by decide)
    · exact fun still => absurd still query
  rw [core_removeClient]
  exact disconnected

theorem live_removeDBusClients {leaving : List Client} (some_ : leaving ≠ [])
    (shaped : state.core.Shaped)
    (own : ∀ inhibitor ∈ state.inhibitors, inhibitor.hasFlag inhibitorFlagLogout = true →
      ∃ client ∈ leaving, inhibitor.hasClientId client.id = true) :
    (state.removeDBusClients world leaving).core.Shaped ∧
      (state.removeDBusClients world leaving).core.Free ∧
      (state.removeDBusClients world leaving).core.Live := by
  unfold removeDBusClients
  induction leaving generalizing state with
  | nil => exact absurd rfl some_
  | cons client leaving ih =>
      rw [List.foldl_cons]
      by_cases last : leaving = []
      · rw [last]
        refine live_depart shaped fun inhibitor member logout => ?_
        obtain ⟨one, owner, owned⟩ := own inhibitor member logout
        rw [last, List.mem_singleton] at owner
        rw [← owner]
        exact owned
      · have departures : Departures world (fun _ response => response.isOk = true)
            (fun _ => True) (Core.Within fun inhibitor =>
              inhibitor.hasFlag inhibitorFlagLogout = true →
                ∃ one ∈ leaving, inhibitor.hasClientId one.id = true) :=
          withinDepartures fun _ _ agrees => agrees
        have others := @within_forget world state _ (fun inhibitor =>
          inhibitor.hasFlag inhibitorFlagLogout = true →
            ∃ one ∈ leaving, inhibitor.hasClientId one.id = true) client own
          fun inhibitor owned stays logout => by
            obtain ⟨one, owner, hit⟩ := owned logout
            rcases List.mem_cons.mp owner with rfl | later
            · exact absurd (stays.symm.trans hit) (by decide)
            · exact ⟨one, later, hit⟩
        have rest := departures.departRemoved rfl trivial shaped others
        exact ih last rest.1 rest.2

theorem live_endPhaseIfEmpty (live : state.core.Live) :
    (state.endPhaseIfEmpty world).core.Live := by
  unfold endPhaseIfEmpty
  split_ifs
  · exact live_endPhase
  · exact live

theorem live_emitDisconnected {client : Client} (handlers : Nat) (some_ : handlers ≠ 0)
    (shaped : state.core.Shaped)
    (own : ∀ inhibitor ∈ state.inhibitors, inhibitor.hasFlag inhibitorFlagLogout = true →
      inhibitor.hasClientId client.id = true) :
    (state.emitDisconnected world client handlers).core.Live := by
  cases handlers with
  | zero => exact absurd rfl some_
  | succ handlers =>
      have departures : Departures world (fun _ response => response.isOk = true) (fun _ => True)
          (fun core => core.Free ∧ core.Live) := freeDepartures fun _ _ agrees => agrees
      have first := @live_depart world (state.emit (.clientDisconnected client.id)) client
        { shaped with } own
      have left := @Departures.endPhaseIfEmpty world _ _ freeEmptied first
      exact (departures.emitDisconnected freeEmptied rfl trivial handlers left).2.2

theorem live_removeClientsForConnection {serviceName : Option String} (shaped : state.core.Shaped)
    (live : state.core.Live)
    (own : state.clients.filter (leavesWith serviceName) ≠ [] →
      ∀ inhibitor ∈ state.inhibitors, inhibitor.hasFlag inhibitorFlagLogout = true →
        ∃ client ∈ state.clients.filter (leavesWith serviceName),
          inhibitor.hasClientId client.id = true) :
    (state.removeClientsForConnection world serviceName).core.Live := by
  refine live_endPhaseIfEmpty ?_
  by_cases none_ : state.clients.filter (leavesWith serviceName) = []
  · rw [none_]
    exact live
  · exact (live_removeDBusClients none_ shaped (own none_)).2.2

theorem live_departed {before : State} {call : Call} {after : Core} (shaped : before.core.Shaped)
    (live : before.core.Live)
    (leaving : before.phase = .queryEndSession → before.core.Aside → call.leaving before ≠ [] →
      (∃ other ∈ before.queryClients, ∀ client ∈ call.leaving before, client.id ≠ other) ∨
        ∀ inhibitor ∈ before.inhibitors, inhibitor.hasFlag inhibitorFlagLogout = true →
          call.removes before inhibitor = true)
    (departing : Departing world before call after) : after.Live := by
  by_cases query : before.phase = .queryEndSession
  swap
  · have departures : Departures world (fun _ _ => True) (fun _ => True)
        (fun core => core.phase ≠ .queryEndSession) := outsideDepartures
    have left := departures.departed outsideEmptied (fun _ _ => trivial) (fun _ _ => trivial)
      (fun _ _ => trivial) departing ⟨shaped, query⟩
    exact fun still => absurd still left.2
  by_cases aside : before.core.Aside
  swap
  · have calm : Departures world (fun _ _ => True) (fun _ => True)
        (fun core => ¬ core.Aside) := calmDepartures
    have departures := liveDepartures calm fun _ given _ _ _ => given.2
    exact (departures.departed (calmEmptied.both liveEmptied) (fun _ _ => trivial)
      (fun _ _ => trivial) (fun _ _ => trivial) departing ⟨shaped, aside, live⟩).2.2
  by_cases survives : ∃ other ∈ before.queryClients,
      ∀ client ∈ call.leaving before, client.id ≠ other
  · obtain ⟨other, waits, others⟩ := survives
    have departures : Departures world
        (fun id response => id ≠ other ∧ response.cancel = false) (fun _ => True)
        (Core.Waits other) := waitsDepartures fun _ _ acting => acting
    have left := departures.departed (waitsEmptied other)
      (fun client leaves => ⟨others client leaves, rfl⟩) (fun _ _ => trivial) (fun _ _ => trivial)
      departing ⟨shaped, query, waits⟩
    exact live_of_shaped left.1 left.2.some
  have all : call.leaving before ≠ [] → ∀ inhibitor ∈ before.inhibitors,
      inhibitor.hasFlag inhibitorFlagLogout = true → call.removes before inhibitor = true :=
    fun some_ => (leaving query aside some_).resolve_left survives
  cases departing with
  | @left client told lost stored same emitted =>
      rw [emitted]
      by_cases silent : client.handlers = 0
      · rw [silent]
        rw [← same] at live
        exact live
      · have leaves : call.leaving before ≠ [] := by
          rw [lost]
          refine List.ne_nil_of_mem (a := client) ?_
          simp [Call.leaving, stored, silent]
        rw [← same] at shaped
        refine live_emitDisconnected _ silent shaped fun inhibitor member logout => ?_
        rw [show told.inhibitors = before.inhibitors from congrArg Core.inhibitors same] at member
        have removed := all leaves inhibitor member logout
        rw [lost] at removed
        exact owned_of_connectionLost removed
  | @nameLost serviceName lost removed =>
      have base := shapedRules world (fun _ _ => True) (fun _ => True)
      have dropped := @Rules.removeInhibitors world _ _ _ _ before base
        (Inhibitor.hasBusName serviceName) trivial trivial shaped
      rw [removed]
      refine live_removeClientsForConnection dropped (live_removeInhibitors live) ?_
      intro some_ inhibitor member logout
      have leaves : call.leaving before ≠ [] := by
        rw [lost]
        intro none_
        have same := @leaving_removeInhibitors world before (Inhibitor.hasBusName serviceName)
          (some serviceName)
        rw [show before.clients.filter (leavesWith (some serviceName)) = [] from none_] at same
        exact some_ (List.eq_nil_of_length_eq_zero same)
      refine owned_of_nameLost member fun kept => ?_
      rw [← lost]
      exact all leaves inhibitor kept logout
  | busLost lost removed =>
      rw [removed]
      refine live_removeClientsForConnection shaped live fun some_ inhibitor member logout => ?_
      rw [lost] at all
      exact owned_of_busDisconnected (all some_ inhibitor member logout)

end

theorem accept_leads_on {world : World} {state : State} {action : LogoutAction}
    (query : state.phase = .queryEndSession) (opened : state.inhibitDialog = some action)
    (ends : action.endsSession = true) :
    .endSession ≤ (state.inhibitDialogResponse world .accept).phase := by
  unfold inhibitDialogResponse
  rw [opened]
  dsimp only
  rw [doInhibitDialogAction_ends ends]
  exact @endPhase_leads_on world
    { state.answerDialog action .accept with logoutMode := .force }
    (Phase.queryEndSession_le.mpr (.inl query))

theorem cancel_resumes {world : World} {state : State} {action : LogoutAction}
    (query : state.phase = .queryEndSession) (opened : state.inhibitDialog = some action)
    (ends : action.endsSession = true) :
    (state.inhibitDialogResponse world .cancel).phase = .running := by
  have ending : Phase.queryEndSession ≤ (state.answerDialog action .cancel).phase :=
    Phase.queryEndSession_le.mpr (.inl query)
  unfold inhibitDialogResponse
  rw [opened]
  dsimp only
  rw [if_pos ends]
  exact congrArg Core.phase (core_cancelEndSession ending)

theorem live_routine {before after : Core} (moved : before.Routine after) (live : before.Live) :
    after.Live := by
  induction moved with
  | refl => exact live
  | trans _ _ first second => exact second (first live)
  | started early noted starts =>
      intro query
      have bound := starts.phase
      rw [query] at bound
      exact absurd bound (by decide)
  | locked core running closed unforced =>
      exact fun query => absurd (running.symm.trans query) (by decide)
  | shown core dialog running =>
      exact fun query => absurd (running.symm.trans query) (by decide)
  | presented core stays =>
      intro query
      refine (live query).imp_right ?_
      rintro ⟨action, opened, ends⟩
      refine ⟨action, ?_, ends⟩
      dsimp only
      rw [opened]
      rfl
  | closed core response opened stays =>
      intro query
      refine (live query).imp_right ?_
      rintro ⟨action, shown, ends⟩
      cases opened.symm.trans shown
      cases stays.symm.trans ends
  | _ => exact live

theorem live_turn {before : State} {event : Event} {after : Core} (shaped : before.core.Shaped)
    (live : before.core.Live) (keeps : KeepsQueryLive before event)
    (turn : Turn event.world before event.call after) : after.Live := by
  cases turn with
  | routine moved => exact live_routine moved live
  | connected asked connects moved => exact live_routine moved live
  | called asked late same =>
      rw [same]
      exact live
  | @answered client response asked answer stored same handled =>
      rw [handled]
      exact live_answered answer same shaped live keeps.answer
  | departed departing => exact live_departed shaped live keeps.leaving departing
  | uninhibited asked found removed =>
      rw [removed]
      exact live_removeInhibitors live
  | asked running unlocked closed typed same ended =>
      rw [ended]
      exact live_endPhase
  | confirmed late opened normal answer ends typed same ended =>
      rw [ended]
      exact live_endPhase
  | @cancelled action response opened ends asked refused handled =>
      have late := (shaped.dialog action opened ends).1
      rw [handled, @core_cancelEndSession event.world (before.answerDialog action response) late]
      exact nofun
  | accepted opened ends asked handled =>
      rw [handled]
      exact live_endPhase
  | queryTimedOut asked armed fired =>
      have query : before.phase = .queryEndSession := shaped.asked armed
      obtain ⟨cleared, added, _, quiet, core, form⟩ :=
        @onQueryEndSessionTimeout_eq event.world before
      rw [fired, form]
      refine live_queryEndSessionComplete fun inhibited aside => ?_
      rw [core] at aside
      obtain ⟨free, nobody⟩ := keeps.timeout query aside asked
      have same : cleared.inhibitors = before.inhibitors := by
        have all := congrArg Core.inhibitors core
        rw [quiet nobody, List.append_nil] at all
        exact all
      rw [State.logoutInhibited, same] at inhibited
      exact absurd (free.symm.trans inhibited) (by decide)
  | phaseTimedOut asked armed ending fired =>
      rw [fired]
      exact live_endPhase

/-- In every run whose events do not complete the query, inhibited, beside a
dialog that keeps the session running, each state of the query has its timeout
armed, or a dialog whose ACCEPT ends the session and whose CANCEL resumes it. -/
theorem query_has_way_out {state : State}
    (reached : managerSystem.ReachableBy KeepsQueryLive state)
    (query : state.phase = .queryEndSession) :
    state.queryTimeout = true ∨
      ∃ action, state.inhibitDialog = some action ∧ action.endsSession = true ∧
        ∀ world, .endSession ≤ (state.inhibitDialogResponse world .accept).phase ∧
          (state.inhibitDialogResponse world .cancel).phase = .running := by
  have live : state.core.Live := by
    refine reached_invariant (fun apps _ => nofun) (fun _ _ => live_routine) ?_ reached
    exact fun before event after shaped live keeps turn => live_turn shaped live keeps turn
  refine (live query).imp_right ?_
  rintro ⟨action, opened, ends⟩
  exact ⟨action, opened, ends, fun world =>
    ⟨accept_leads_on query opened ends, cancel_resumes query opened ends⟩⟩

/-- A request to suspend, inhibited, and then a logout whose query, inhibited
too, times out. -/
theorem suspend_dialog_strands_query :
    (afterCalls [.inhibit "player" 0 "playing" 4 ":1.1", .inhibit "editor" 0 "unsaved" 1 ":1.2",
        .shutdown, .logoutDialogResponse .sleep, .logout 1, .queryEndSessionTimeout]).map
      (fun state => (state.phase, state.queryTimeout, state.inhibitDialog)) =
      some (.queryEndSession, false, some .sleep) := by
  decide

/-- A query that times out inhibited, with no other dialog in the way. -/
theorem inhibited_query_has_way_out :
    ∃ state, afterCalls [.inhibit "editor" 0 "unsaved" 1 ":1.2", .logout 1,
        .queryEndSessionTimeout] = some state ∧
      (state.queryTimeout = true ∨
        ∃ action, state.inhibitDialog = some action ∧ action.endsSession = true ∧
          ∀ world, .endSession ≤ (state.inhibitDialogResponse world .accept).phase ∧
            (state.inhibitDialogResponse world .cancel).phase = .running) := by
  obtain ⟨state, run⟩ : ∃ state, afterCalls [.inhibit "editor" 0 "unsaved" 1 ":1.2", .logout 1,
      .queryEndSessionTimeout] = some state := ⟨_, rfl⟩
  have query : state.phase = .queryEndSession := by
    cases run
    rfl
  refine ⟨state, run, query_has_way_out (afterCalls_reached ?_ run) query⟩
  refine ⟨⟨nofun, nofun, nofun⟩, fun inhibited stepped => ?_⟩
  cases stepped
  refine ⟨⟨nofun, nofun, nofun⟩, fun asked stepped => ?_⟩
  cases stepped
  refine ⟨⟨fun _ aside => ?_, fun _ _ _ _ => nofun, fun _ _ some_ => absurd rfl some_⟩,
    fun _ _ => trivial⟩
  obtain ⟨action, opened, _⟩ := aside
  cases opened

end CafeSession.Manager

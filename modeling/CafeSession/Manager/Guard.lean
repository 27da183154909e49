import CafeSession.Manager.Reach
import CafeSession.Manager.Survivors

namespace CafeSession.Manager

open State

/-- The end of the query is justified by what it found, or by an ACCEPT just before it. -/
def Effect.Justified (effect : Effect) (earlier : List Effect) : Prop :=
  match effect with
  | .phaseEnded ended =>
      ended.phase = .queryEndSession →
        ended.waiting = [] ∧ ended.logoutInhibited = false ∨
          ∃ action marks, action.endsSession = true ∧
            earlier = .inhibitDialogAnswered action .accept :: marks
  | _ => True

/-- Every end of the query is justified; the newest effect comes first. -/
def Justified : List Effect → Prop
  | [] => True
  | effect :: earlier => effect.Justified earlier ∧ Justified earlier

/-- The connection of one or more clients is lost. -/
def Call.losesConnection : Call → Bool
  | .connectionLost _ | .busNameLost _ | .busDisconnected => true
  | _ => false

/-- During the query, no confirmation dialog is answered so that it ends the
phase while clients are waited for or inhibit, and the last client does not
leave an inhibitor of somebody else. -/
structure KeepsGuard (before : State) (event : Event) : Prop where
  confirmation : before.phase = .queryEndSession → before.logoutMode = .normal →
    ∀ dialog response, before.logoutDialog = some dialog →
    event.call.confirmation dialog = some response → response.endsPhase event.world = true →
    before.queryClients = [] ∧ before.logoutInhibited = false
  leaving : before.phase = .queryEndSession → event.call.losesConnection = true →
    (∃ client ∈ before.clients, ∀ one ∈ event.call.leaving before, one.id ≠ client.id) ∨
      ∀ inhibitor ∈ before.inhibitors, inhibitor.hasFlag inhibitorFlagLogout = true →
        event.call.removes before inhibitor = true

theorem justified_append {news earlier : List Effect} (justified : Justified earlier)
    (startup : ∀ effect ∈ news, ∃ ended, effect = .phaseEnded ended ∧ ended.phase < .running) :
    Justified (news ++ earlier) := by
  induction news with
  | nil => exact justified
  | cons effect news ih =>
      obtain ⟨ended, rfl, early⟩ := startup effect (by simp)
      refine ⟨fun query => ?_, ih fun other member => startup other (by simp [member])⟩
      rw [query] at early
      exact absurd early (by decide)

section

variable {world : World} {acts : Nat → Response → Prop} {drops : (Inhibitor → Bool) → Prop}
variable {state : State}

theorem justified_endPhase (justified : Justified state.core.marks)
    (passed : state.phase = .queryEndSession →
      (Effect.phaseEnded state.phaseEnd).Justified state.core.marks) :
    Justified (state.endPhase world).core.marks := by
  have other : ∀ ended : PhaseEnd, ended.phase ≠ .queryEndSession → ∀ marks,
      (Effect.phaseEnded ended).Justified marks := fun _ other _ query => absurd query other
  have ending := endPhase_ending world state
  generalize (state.endPhase world).core = after at ending ⊢
  cases ending with
  | startup early starts =>
      obtain ⟨news, startup, _, kept⟩ := starts.kept
      rw [kept]
      exact justified_append justified startup
  | locked | quit => exact justified
  | asked running => exact ⟨other _ (running.trans_ne (by decide)) _, justified⟩
  | ending query => exact ⟨passed query, justified⟩
  | emptied query empty =>
      have next : state.advance.phaseEnd.phase = .endSession := by
        change state.phase.next = _
        rw [query]
        rfl
      exact ⟨other _ (next.trans_ne (by decide)) _, passed query, justified⟩
  | ended ending => exact ⟨other _ (ending.trans_ne (by decide)) _, justified⟩

/-- The rules of answers and departures end the query only when it is over. -/
theorem justifiedRules {Given : Core → Prop} :
    Rules world acts drops Given (fun core => Justified core.marks) where
  taken _ _ _ _ _ justified _ := justified
  inhibited _ _ _ _ _ _ _ _ _ justified _ := justified
  dropped _ _ _ _ _ justified := justified
  closed _ _ _ _ _ _ _ _ _ justified := ⟨trivial, justified⟩
  accepted core _ action forced _ _ ends _ _ _ justified same := by
    have marks := congrArg Core.marks same
    refine justified_endPhase ?_ fun _ _ => .inr ⟨action, core.marks, ends, marks⟩
    rw [marks]
    exact ⟨trivial, justified⟩
  completed _ _ justified _ nobody free :=
    justified_endPhase justified fun _ _ => .inl ⟨nobody, free⟩
  opened _ _ justified _ _ _ := justified
  deferred _ _ _ _ _ _ justified _ := justified
  moved _ _ _ _ justified _ _ := justified
  ended _ _ justified ending _ _ :=
    justified_endPhase justified fun query => absurd (ending.symm.trans query) (by decide)
  cancelled _ _ _ _ _ _ justified ending := by
    rw [core_cancelEndSession ending]
    exact ⟨trivial, justified⟩

theorem justifiedDepartures {Q : Core → Prop} (departures : Departures world acts drops Q) :
    Departures world acts drops (fun core => Q core ∧ Justified core.marks) :=
  departures.beside justifiedRules (fun _ _ _ _ _ justified _ => justified)
    (fun _ _ _ justified => ⟨trivial, justified⟩)

/-- The last client has left, and nobody inhibits: the query is over. -/
theorem freeJustifiedEmptied :
    Emptied world (fun core => core.Free ∧ Justified core.marks) := by
  intro state shaped holds ending empty
  refine ⟨withinEmptied _ state shaped holds.1 ending empty, ?_⟩
  refine justified_endPhase holds.2 fun query _ => .inl ⟨?_, free_logoutInhibited holds.1⟩
  rw [List.eq_nil_iff_forall_not_mem]
  intro id member
  have stored := (shaped.waiting query).2 id member
  rw [show state.core.clientIds = state.clients.map Client.id from rfl, empty] at stored
  cases stored

theorem outsideJustifiedEmptied :
    Emptied world (fun core => core.phase ≠ .queryEndSession ∧ Justified core.marks) :=
  fun state shaped holds ending empty =>
    ⟨outsideEmptied state shaped holds.1 ending empty,
      justified_endPhase holds.2 fun query => absurd query holds.1⟩

theorem staysJustifiedEmptied (id : Nat) :
    Emptied world (fun core => id ∈ core.clientIds ∧ Justified core.marks) := by
  intro state _ holds _ empty
  have stays := holds.1
  rw [show state.core.clientIds = state.clients.map Client.id from rfl, empty] at stays
  cases stays

theorem justified_removeClientsForConnection {serviceName : Option String}
    (shaped : state.core.Shaped) (justified : Justified state.core.marks)
    (own : ∀ inhibitor ∈ state.inhibitors, inhibitor.hasFlag inhibitorFlagLogout = true →
      ∃ client ∈ state.clients.filter (leavesWith serviceName),
        inhibitor.hasClientId client.id = true) :
    Justified (state.removeClientsForConnection world serviceName).core.marks := by
  have departures : Departures world (fun _ _ => True) (fun _ => True)
      (fun core => True ∧ Justified core.marks) := justifiedDepartures (shapedDepartures world _ _)
  have left := @Departures.removeDBusClients world _ _ _ state departures
    (state.clients.filter (leavesWith serviceName)) (fun _ _ => trivial) (fun _ _ => trivial)
    ⟨shaped, trivial, justified⟩
  have free : (state.removeDBusClients world
      (state.clients.filter (leavesWith serviceName))).core.Free := by
    refine within_removeDBusClients shaped fun inhibitor member => ?_
    cases logout : inhibitor.hasFlag inhibitorFlagLogout with
    | false => exact .inl rfl
    | true => exact .inr (own inhibitor member logout)
  exact (Departures.endPhaseIfEmpty freeJustifiedEmptied ⟨left.1, free, left.2.2⟩).2.2

theorem justified_emitDisconnected {client : Client} (handlers : Nat)
    (shaped : state.core.Shaped) (justified : Justified state.core.marks)
    (own : ∀ inhibitor ∈ state.inhibitors, inhibitor.hasFlag inhibitorFlagLogout = true →
      inhibitor.hasClientId client.id = true) :
    Justified (state.emitDisconnected world client handlers).core.marks := by
  cases handlers with
  | zero => exact justified
  | succ handlers =>
      have within : Departures world (fun _ response => response.isOk = true) (fun _ => True)
          Core.Free := withinDepartures fun _ _ agrees => agrees
      have departures := justifiedDepartures within
      have free := @within_forget world (state.emit (.clientDisconnected client.id)) _
        (fun inhibitor => inhibitor.hasFlag inhibitorFlagLogout = false) client own
        fun inhibitor owned stays => by
          by_contra logout
          rw [Bool.not_eq_false] at logout
          exact absurd (stays.symm.trans (owned logout)) (by decide)
      have base := @justifiedRules world (fun _ _ => True) (fun _ => True) (fun _ => True)
      have removed := @Rules.removeInhibitors world _ _ _ _
        { state.emit (.clientDisconnected client.id) with
          conditionClients := (state.emit (.clientDisconnected client.id)).conditionClients.erase
            client.id } base (Inhibitor.hasClientId client.id) trivial trivial ⟨trivial, justified⟩
      have first := @Departures.departRemoved world _ _ _
        (state.emit (.clientDisconnected client.id)) departures client rfl trivial { shaped with }
        ⟨free, removed⟩
      have left := @Departures.endPhaseIfEmpty world _ _ freeJustifiedEmptied first
      exact (departures.emitDisconnected freeJustifiedEmptied rfl trivial handlers left).2.2

theorem justified_departed {before : State} {call : Call} {after : Core}
    (shaped : before.core.Shaped) (justified : Justified before.core.marks)
    (leaving : before.phase = .queryEndSession → call.losesConnection = true →
      (∃ client ∈ before.clients, ∀ one ∈ call.leaving before, one.id ≠ client.id) ∨
        ∀ inhibitor ∈ before.inhibitors, inhibitor.hasFlag inhibitorFlagLogout = true →
          call.removes before inhibitor = true)
    (departing : Departing world before call after) : Justified after.marks := by
  by_cases query : before.phase = .queryEndSession
  swap
  · have outside : Departures world (fun _ _ => True) (fun _ => True)
        (fun core => core.phase ≠ .queryEndSession) := outsideDepartures
    exact ((justifiedDepartures outside).departed outsideJustifiedEmptied (fun _ _ => trivial)
      (fun _ _ => trivial) (fun _ _ => trivial) departing ⟨shaped, query, justified⟩).2.2
  have loses : call.losesConnection = true := by
    cases departing with
    | left lost => rw [lost]; rfl
    | nameLost lost => rw [lost]; rfl
    | busLost lost => rw [lost]; rfl
  rcases leaving query loses with ⟨client, stored, others⟩ | all
  · have stays : Departures world (fun id _ => id ≠ client.id) (fun _ => True)
        (fun core => client.id ∈ core.clientIds) := staysDepartures fun _ _ other => other
    exact ((justifiedDepartures stays).departed (staysJustifiedEmptied client.id)
      (fun one leaves => others one leaves) (fun _ _ => trivial) (fun _ _ => trivial) departing
      ⟨shaped, List.mem_map_of_mem stored, justified⟩).2.2
  cases departing with
  | @left client told lost stored same emitted =>
      rw [emitted]
      rw [← same] at shaped justified
      refine justified_emitDisconnected _ shaped justified fun inhibitor member logout => ?_
      rw [show told.inhibitors = before.inhibitors from congrArg Core.inhibitors same] at member
      have removed := all inhibitor member logout
      rw [lost] at removed
      exact owned_of_connectionLost removed
  | @nameLost serviceName lost removed =>
      have base := (shapedRules world (fun _ _ => True) (fun _ => True)).both
        (@justifiedRules world _ _ Core.Shaped) fun _ _ given => given
      have dropped := @Rules.removeInhibitors world _ _ _ _ before base
        (Inhibitor.hasBusName serviceName) trivial trivial ⟨shaped, justified⟩
      rw [removed]
      refine justified_removeClientsForConnection dropped.1 dropped.2
        fun inhibitor member logout => owned_of_nameLost member fun kept => ?_
      rw [← lost]
      exact all inhibitor kept logout
  | busLost lost removed =>
      rw [removed]
      rw [lost] at all
      exact justified_removeClientsForConnection shaped justified fun inhibitor member logout =>
        owned_of_busDisconnected (all inhibitor member logout)

end

theorem justified_routine {before after : Core} (moved : before.Routine after)
    (justified : Justified before.marks) : Justified after.marks := by
  induction moved with
  | refl => exact justified
  | trans _ _ first second => exact second (first justified)
  | started early noted starts =>
      obtain ⟨news, startup, _, kept⟩ := starts.kept
      rw [kept]
      rcases noted with rfl | rfl
      · exact justified_append justified startup
      · exact justified_append ⟨trivial, justified⟩ startup
  | closed => exact ⟨trivial, justified⟩
  | _ => exact justified

theorem justified_turn {before : State} {event : Event} {after : Core}
    (shaped : before.core.Shaped) (justified : Justified before.core.marks)
    (keeps : KeepsGuard before event) (turn : Turn event.world before event.call after) :
    Justified after.marks := by
  cases turn with
  | routine moved => exact justified_routine moved justified
  | connected asked connects moved => exact justified_routine moved justified
  | called asked late same =>
      rw [same]
      exact ⟨trivial, justified⟩
  | @answered client response asked answer stored same handled =>
      have rules := (shapedRules event.world (fun _ _ => True) (fun _ => True)).both
        (@justifiedRules event.world _ _ Core.Shaped) fun _ _ given => given
      rw [← same] at shaped justified
      rw [handled]
      exact (rules.handle trivial trivial ⟨shaped, justified⟩).2
  | departed departing => exact justified_departed shaped justified keeps.leaving departing
  | uninhibited asked found removed =>
      have rules := @justifiedRules event.world (fun _ _ => True) (fun _ => True) (fun _ => True)
      rw [removed]
      exact rules.removeInhibitors trivial trivial justified
  | @asked leaving mode type dialog running unlocked closed typed same ended =>
      have phase : leaving.phase = .running := (congrArg Core.phase same).trans running
      rw [ended]
      refine justified_endPhase ?_ fun query => absurd (phase.symm.trans query) (by decide)
      rw [same]
      exact justified
  | @confirmed leaving dialog response mode type late opened normal answer ends typed same ended =>
      rw [ended]
      refine justified_endPhase (by rw [same]; exact justified) fun query _ => .inl ?_
      have phase : leaving.phase = before.phase := congrArg Core.phase same
      obtain ⟨nobody, free⟩ := keeps.confirmation (phase.symm.trans query) normal dialog response
        opened answer ends
      refine ⟨(congrArg Core.queryClients same).trans nobody, ?_⟩
      have inhibitors : leaving.inhibitors = before.inhibitors := congrArg Core.inhibitors same
      rw [show leaving.phaseEnd.logoutInhibited = leaving.logoutInhibited from rfl,
        State.logoutInhibited, inhibitors]
      exact free
  | @cancelled action response opened ends asked refused handled =>
      have late := (shaped.dialog action opened ends).1
      rw [handled, @core_cancelEndSession event.world (before.answerDialog action response) late]
      exact ⟨trivial, trivial, justified⟩
  | @accepted action opened ends asked handled =>
      rw [handled]
      exact justified_endPhase ⟨trivial, justified⟩
        fun _ _ => .inr ⟨action, before.core.marks, ends, rfl⟩
  | queryTimedOut asked armed fired =>
      have query : before.phase = .queryEndSession := shaped.asked armed
      have rules := @justifiedRules event.world (fun _ _ => True) (fun _ => True) (fun _ => True)
      rw [fired]
      exact rules.onQueryEndSessionTimeout query fun _ _ => justified
  | phaseTimedOut asked armed ending fired =>
      rw [fired]
      exact justified_endPhase ⟨trivial, justified⟩
        fun query => absurd (ending.symm.trans query) (by decide)

/-- In every run whose events keep to the guard, the query is left for the end
of the session only when nobody is waited for and nobody inhibits, or on the
ACCEPT of an inhibit dialog. -/
theorem query_ends_guarded {state : State}
    (reached : managerSystem.ReachableBy KeepsGuard state) : Justified state.core.marks := by
  refine reached_invariant (fun apps _ => trivial) (fun _ _ => justified_routine) ?_ reached
  exact fun before event after shaped justified keeps turn =>
    justified_turn shaped justified keeps turn

/-- The only client leaves while another application inhibits; and a logout
dialog is answered while the query of a shutdown waits for a client. -/
theorem query_ends_unguarded :
    (∃ state, afterCalls [.inhibit "editor" 0 "unsaved" 1 ":1.2",
        .registerClient "panel" "" ":1.3", .logout 1, .busNameLost ":1.3"] = some state ∧
      ¬ Justified state.core.marks) ∧
    ∃ state, afterCalls [.registerClient "panel" "" ":1.3", .logout 0, .requestShutdown,
        .logoutDialogResponse .logout] = some state ∧ ¬ Justified state.core.marks := by
  constructor
  · obtain ⟨state, run⟩ : ∃ state, afterCalls [.inhibit "editor" 0 "unsaved" 1 ":1.2",
        .registerClient "panel" "" ":1.3", .logout 1, .busNameLost ":1.3"] = some state := ⟨_, rfl⟩
    refine ⟨state, run, fun justified => ?_⟩
    cases run
    rcases justified.2.1 rfl with ⟨_, free⟩ | ⟨action, marks, _, accepted⟩
    · exact absurd free (by decide)
    · cases accepted
  · obtain ⟨state, run⟩ : ∃ state, afterCalls [.registerClient "panel" "" ":1.3", .logout 0,
        .requestShutdown, .logoutDialogResponse .logout] = some state := ⟨_, rfl⟩
    refine ⟨state, run, fun justified => ?_⟩
    cases run
    rcases justified.1 rfl with ⟨nobody, _⟩ | ⟨action, marks, _, accepted⟩
    · exact absurd nobody (by decide)
    · cases accepted

/-- The only client agrees, and the session ends. -/
theorem answered_query_ends_guarded :
    ∃ state, afterCalls [.registerClient "panel" "" ":1.3", .logout 1,
        .endSessionResponse 1 true ""] = some state ∧
      state.phase = .endSession ∧ Justified state.core.marks := by
  obtain ⟨state, run⟩ : ∃ state, afterCalls [.registerClient "panel" "" ":1.3", .logout 1,
      .endSessionResponse 1 true ""] = some state := ⟨_, rfl⟩
  have ending : state.phase = .endSession := by
    cases run
    rfl
  refine ⟨state, run, ending, query_ends_guarded (afterCalls_reached ?_ run)⟩
  refine ⟨⟨nofun, nofun⟩, fun registered stepped => ?_⟩
  cases stepped
  refine ⟨⟨nofun, nofun⟩, fun asked stepped => ?_⟩
  cases stepped
  exact ⟨⟨fun _ _ _ _ _ => nofun, fun _ => nofun⟩, fun _ _ => trivial⟩

end CafeSession.Manager

import CafeSession.Manager.Shape

namespace CafeSession.Manager

/-- The clients that a call takes out of the store. -/
def Call.leaving (before : State) : Call → List Client
  | .connectionLost id =>
      before.clients.filter (fun client => client.id == id && client.handlers != 0)
  | .busNameLost serviceName => before.clients.filter (State.leavesWith (some serviceName))
  | .busDisconnected => before.clients.filter (State.leavesWith none)
  | _ => []

/-- All clients leave, if any of them does. -/
def Call.emptiesStore (before : State) (call : Call) : Prop :=
  ∀ client ∈ before.clients, ∃ one ∈ call.leaving before, one.id = client.id

/-- What the end of a phase leaves as it was. -/
structure Core.PhaseFrame (before after : Core) : Prop where
  fault : after.fault = before.fault ∨ after.fault = some .quitType
  kept : ∃ news : List Effect, (∀ effect ∈ news, ∃ ended, effect = .phaseEnded ended) ∧
    Progress before.phase news after.phase ∧
    after = { before with
      phase := after.phase
      phaseTimeout := after.phaseTimeout
      pendingApps := after.pendingApps
      registeredHandlers := after.registeredHandlers
      queryClients := after.queryClients
      queryTimeout := after.queryTimeout
      nextQueryClients := after.nextQueryClients
      marks := news ++ before.marks
      fault := after.fault }

theorem Core.fault_quit {core : Core} :
    core.quit.fault = core.fault ∨ core.quit.fault = some .quitType := by
  unfold Core.quit
  dsimp only
  split_ifs
  · exact .inr rfl
  · exact .inl rfl

namespace Core.PhaseFrame

variable {before after : Core} (frame : before.PhaseFrame after)
include frame

theorem clientIds : after.clientIds = before.clientIds := by
  obtain ⟨_, _, _, kept⟩ := frame.kept
  rw [kept]

theorem clientSerial : after.clientSerial = before.clientSerial := by
  obtain ⟨_, _, _, kept⟩ := frame.kept
  rw [kept]

theorem wirings : after.wirings = before.wirings := by
  obtain ⟨_, _, _, kept⟩ := frame.kept
  rw [kept]

theorem inhibitors : after.inhibitors = before.inhibitors := by
  obtain ⟨_, _, _, kept⟩ := frame.kept
  rw [kept]

theorem inhibitDialog : after.inhibitDialog = before.inhibitDialog := by
  obtain ⟨_, _, _, kept⟩ := frame.kept
  rw [kept]

theorem logoutDialog : after.logoutDialog = before.logoutDialog := by
  obtain ⟨_, _, _, kept⟩ := frame.kept
  rw [kept]

theorem logoutMode : after.logoutMode = before.logoutMode := by
  obtain ⟨_, _, _, kept⟩ := frame.kept
  rw [kept]

end Core.PhaseFrame

inductive Departing (world : World) (before : State) (call : Call) (after : Core) : Prop
  | left {client : Client} {told : State} (lost : call = .connectionLost client.id)
      (stored : client ∈ before.clients) (same : told.core = before.core)
      (emitted : after = (told.emitDisconnected world client client.handlers).core)
  | nameLost {serviceName : String} (lost : call = .busNameLost serviceName)
      (removed : after = (before.busNameLost world serviceName).core)
  | busLost (lost : call = .busDisconnected)
      (removed : after = (before.busDisconnected world).core)

namespace State

variable {world : World} {state : State}

/-- Ending a phase changes nothing but the phase, what is waited for and the
record of what was done. -/
theorem endPhase_frame : state.core.PhaseFrame (state.endPhase world).core := by
  have ended : ∀ {other : State} {now next : Phase}, other.phase = now → now.next = next →
      now ≠ .exit → Progress other.phase [.phaseEnded other.phaseEnd] next := by
    rintro other now next rfl rfl more
    exact progress_advance more
  have ending := endPhase_ending world state
  generalize (state.endPhase world).core = after at ending ⊢
  cases ending with
  | startup early starts =>
      obtain ⟨news, startup, progress, kept⟩ := starts.kept
      refine ⟨.inl (by rw [kept]), news, fun effect member => ?_, progress, by rw [kept]⟩
      obtain ⟨ended, same, _⟩ := startup effect member
      exact ⟨ended, same⟩
  | locked running locked => exact ⟨.inl rfl, [], nofun, .refl, rfl⟩
  | asked running unlocked sublist =>
      exact ⟨.inl rfl, [.phaseEnded state.phaseEnd], by simp, ended running rfl (by decide), rfl⟩
  | ending query clients sublist =>
      exact ⟨.inl rfl, [.phaseEnded state.phaseEnd], by simp, ended query rfl (by decide), rfl⟩
  | emptied query empty =>
      have next : state.advance.phase = .endSession := by simp [advance, query, Phase.next]
      have crossed : Progress state.phase [.phaseEnded state.phaseEnd] .endSession :=
        ended query rfl (by decide)
      rw [← next] at crossed
      have exits : Progress state.advance.phase [.phaseEnded state.advance.phaseEnd] .exit :=
        ended next rfl (by decide)
      exact ⟨Core.fault_quit, [.phaseEnded state.advance.phaseEnd, .phaseEnded state.phaseEnd],
        by simp, crossed.trans exits, rfl⟩
  | ended ending =>
      exact ⟨Core.fault_quit, [.phaseEnded state.phaseEnd], by simp, ended ending rfl (by decide),
        rfl⟩
  | quit exit =>
      refine ⟨Core.fault_quit, [], nofun, ?_, rfl⟩
      rw [show state.core.phase = .exit from exit]
      exact .refl

theorem wirings_removeInhibitors (matching : Inhibitor → Bool) :
    (state.removeInhibitors world matching).core.wirings = state.core.wirings := by
  rcases core_removeInhibitors world state matching with ⟨_, core⟩ | ⟨action, _, _, _, core⟩
  · rw [core]
  · split_ifs at core
    · obtain ⟨forced, same, ended⟩ := core
      rw [ended, (@endPhase_frame world forced).wirings, same]
    · rw [core]

theorem clientIds_removeInhibitors (matching : Inhibitor → Bool) :
    (state.removeInhibitors world matching).core.clientIds = state.core.clientIds := by
  rcases core_removeInhibitors world state matching with ⟨_, core⟩ | ⟨action, _, _, _, core⟩
  · rw [core]
  · split_ifs at core
    · obtain ⟨forced, same, ended⟩ := core
      rw [ended, (@endPhase_frame world forced).clientIds, same]
    · rw [core]

theorem leavesWith_of_wiring (serviceName : Option String) {one other : Client}
    (equal : one.wiring = other.wiring) :
    leavesWith serviceName one = leavesWith serviceName other := by
  have sameName : one.busName = other.busName := congrArg Wiring.busName equal
  unfold leavesWith
  rw [sameName]

theorem leavesWith_congr {first second : State} (same : first.core.wirings = second.core.wirings)
    {serviceName : Option String} {client : Client} (stored : client ∈ first.clients)
    (leaves : leavesWith serviceName client = true) :
    ∃ one ∈ second.clients, one.id = client.id ∧ leavesWith serviceName one = true := by
  have member : client.wiring ∈ first.core.wirings := List.mem_map_of_mem stored
  rw [same] at member
  obtain ⟨one, kept, equal⟩ := List.mem_map.mp member
  refine ⟨one, kept, congrArg Wiring.id equal, ?_⟩
  rw [leavesWith_of_wiring serviceName equal]
  exact leaves

theorem length_filter_wirings {p : Client → Bool}
    (wired : ∀ one other : Client, one.wiring = other.wiring → p one = p other)
    {first second : List Client} (same : first.map Client.wiring = second.map Client.wiring) :
    (first.filter p).length = (second.filter p).length := by
  induction first generalizing second with
  | nil =>
      rw [List.map_nil, eq_comm, List.map_eq_nil_iff] at same
      rw [same]
  | cons one first ih =>
      cases second with
      | nil => cases same
      | cons other second =>
          obtain ⟨equal, rest⟩ := List.cons.inj same
          rw [List.filter_cons, List.filter_cons, wired one other equal]
          split_ifs
          · exact congrArg Nat.succ (ih rest)
          · exact ih rest

theorem leaving_removeInhibitors (matching : Inhibitor → Bool) (serviceName : Option String) :
    ((state.removeInhibitors world matching).clients.filter (leavesWith serviceName)).length =
      (state.clients.filter (leavesWith serviceName)).length := by
  refine length_filter_wirings (fun one other equal => ?_) (wirings_removeInhibitors _)
  rw [leavesWith_of_wiring serviceName equal]

/-- While the query runs, the client is not waited for, and no inhibitor names it. -/
structure Absent (id : Nat) (core : Core) : Prop where
  untold : core.phase = .queryEndSession → id ∉ core.queryClients
  unnamed : ∀ inhibitor ∈ core.inhibitors, inhibitor.hasClientId id = false

theorem endPhase_leads_on (ending : .queryEndSession ≤ state.phase) :
    .endSession ≤ (state.endPhase world).core.phase := by
  have ends := endPhase_ending world state
  generalize (state.endPhase world).core = after at ends ⊢
  cases ends with
  | startup early starts => exact absurd early (Nat.not_lt.mpr (Phase.running_le_of_query_le ending))
  | locked running | asked running => exact absurd ending (Phase.running_early running)
  | ending => exact Phase.endSession_le_endSession
  | emptied | ended | quit => exact Phase.endSession_le_exit

theorem endPhase_leaves_query (ending : .queryEndSession ≤ state.phase) :
    (state.endPhase world).core.phase ≠ .queryEndSession := by
  intro query
  have later := @endPhase_leads_on world state ending
  rw [query] at later
  exact absurd later (by decide)

theorem absent_endPhase {id : Nat} (ending : .queryEndSession ≤ state.phase)
    (unnamed : ∀ inhibitor ∈ state.inhibitors, inhibitor.hasClientId id = false) :
    Absent id (state.endPhase world).core where
  untold query := absurd query (endPhase_leaves_query ending)
  unnamed := by
    rw [endPhase_frame.inhibitors]
    exact unnamed

/-- Nobody answers for a client that has left but the session manager. -/
theorem absentRules (id : Nat) (world : World) (drops : (Inhibitor → Bool) → Prop) :
    Rules world (fun _ response => response = exitedResponse) drops Core.Shaped (Absent id) where
  taken core other _ _ _ absent _ :=
    ⟨fun query member => absent.untold query (List.mem_of_mem_erase member), absent.unnamed⟩
  inhibited _ _ response _ same refuses := by
    rw [same] at refuses
    cases refuses
  dropped _ _ _ _ _ absent :=
    ⟨absent.untold, fun one member => absent.unnamed one (List.mem_of_mem_filter member)⟩
  closed _ _ _ _ _ _ _ _ _ absent := ⟨absent.untold, nofun⟩
  accepted core _ action forced _ opened ends _ _ shaped _ same := by
    have phase : forced.phase = core.phase := congrArg Core.phase same
    have none_ : forced.inhibitors = [] := congrArg Core.inhibitors same
    refine absent_endPhase ?_ ?_
    · rw [phase]
      exact (shaped.dialog action opened ends).1
    · rw [none_]
      nofun
  completed state _ absent query _ _ :=
    absent_endPhase (Phase.queryEndSession_le.mpr (.inl query)) absent.unnamed
  opened _ _ absent _ _ _ := { absent with }
  deferred _ _ _ _ _ _ absent _ := { absent with }
  moved _ _ _ _ absent ending _ :=
    ⟨fun query => absurd (ending.symm.trans query) (by decide), absent.unnamed⟩
  ended state _ absent ending _ _ :=
    absent_endPhase (Phase.queryEndSession_le.mpr (.inr (.inl ending))) absent.unnamed
  cancelled state _ response same cancel := by
    rw [same] at cancel
    cases cancel

theorem unnamed_removeInhibitors (id : Nat) :
    ∀ inhibitor ∈ (state.removeInhibitors world (Inhibitor.hasClientId id)).core.inhibitors,
      inhibitor.hasClientId id = false := by
  rcases core_removeInhibitors world state (Inhibitor.hasClientId id) with
    ⟨_, core⟩ | ⟨action, _, _, _, core⟩
  · rw [core]
    intro inhibitor member
    simpa using (List.mem_filter.mp member).2
  · split_ifs at core
    · obtain ⟨forced, same, ended⟩ := core
      rw [ended, endPhase_frame.inhibitors, same]
      nofun
    · rw [core]
      nofun

theorem absent_disconnectClient (shaped : state.core.Shaped) (client : Client) :
    Absent client.id (state.disconnectClient world client).core := by
  let leaver : Nat → Response → Prop := fun _ response => response = exitedResponse
  let everything : (Inhibitor → Bool) → Prop := fun _ => True
  have base := shapedRules world leaver everything
  have rules := base.both (absentRules client.id world everything) fun _ _ given => given
  have removed : (({ state with conditionClients := state.conditionClients.erase client.id } :
      State).removeInhibitors world (Inhibitor.hasClientId client.id)).core.Shaped :=
    base.removeInhibitors trivial trivial shaped
  have unnamed := @unnamed_removeInhibitors world
    { state with conditionClients := state.conditionClients.erase client.id } client.id
  unfold disconnectClient
  dsimp only
  rw [core_restartApp]
  split_ifs with query
  · have ending := Phase.queryEndSession_le.mpr (.inl query)
    have taken := base.taken _ client.id exitedResponse rfl trivial removed ending
    unfold handleClientEndSessionResponse
    rw [if_neg (Phase.not_lt_query.mpr ending)]
    have noted := @Rules.noteTaken world leaver everything _ _ rules client exitedResponse
      rfl trivial ending ⟨taken, fun _ => (removed.waiting query).1.not_mem_erase, unnamed⟩
    exact (rules.answerNoted rfl noted).2
  · exact ⟨fun still => absurd still query, unnamed⟩

end State

/-- What a property that is kept by the changes of `Rules` needs to be kept when
clients leave.  Their removal from the store may still end the phase; that a
property is kept there is `Emptied`. -/
structure Departures (world : World) (acts : Nat → Response → Prop)
    (drops : (Inhibitor → Bool) → Prop) (P : Core → Prop) : Prop where
  rules : Rules world acts drops Core.Shaped P
  gone : ∀ core id, acts id exitedResponse → core.Shaped → P core → State.Absent id core →
    P (core.removeClient id)
  /-- the handler of 'disconnected' starts -/
  noted : ∀ core id, acts id exitedResponse → P core →
    P { core with marks := .clientDisconnected id :: core.marks }

/-- The property is kept when the last client has left. -/
def Emptied (world : World) (P : Core → Prop) : Prop :=
  ∀ state : State, state.core.Shaped → P state.core → .queryEndSession ≤ state.phase →
    state.clients = [] → P (state.endPhase world).core

theorem Emptied.both {world : World} {P Q : Core → Prop} (first : Emptied world P)
    (second : Emptied world Q) : Emptied world (fun core => P core ∧ Q core) :=
  fun state shaped holds ending empty =>
    ⟨first state shaped holds.1 ending empty, second state shaped holds.2 ending empty⟩

namespace Departures

open State

variable {world : World} {acts : Nat → Response → Prop} {drops : (Inhibitor → Bool) → Prop}
variable {P : Core → Prop} {state : State}

theorem shaped_gone {core : Core} {id : Nat} (shaped : core.Shaped) (absent : Absent id core) :
    (core.removeClient id).Shaped :=
  { shaped with
    distinct := shaped.distinct.filter _
    fresh := fun other member => shaped.fresh other (List.mem_of_mem_filter member)
    waiting := fun query => ⟨(shaped.waiting query).1, fun other member =>
      List.mem_filter.mpr ⟨(shaped.waiting query).2 other member, by
        simp only [bne_iff_ne]
        rintro rfl
        exact absent.untold query member⟩⟩ }

variable (departures : Departures world acts drops P)
include departures

theorem both : Rules world acts drops (fun _ => True) (fun core => core.Shaped ∧ P core) :=
  (shapedRules world acts drops).both departures.rules fun _ _ given => given

/-- Departures of one property give those of another that is kept where it holds. -/
theorem beside {Q : Core → Prop}
    (rules : Rules world acts drops (fun core => core.Shaped ∧ P core) Q)
    (gone : ∀ core id, acts id exitedResponse → core.Shaped → P core → Q core → Absent id core →
      Q (core.removeClient id))
    (noted : ∀ core id, acts id exitedResponse → Q core →
      Q { core with marks := .clientDisconnected id :: core.marks }) :
    Departures world acts drops (fun core => P core ∧ Q core) where
  rules := departures.rules.both rules fun _ shaped holds => ⟨shaped, holds⟩
  gone core id acting shaped holds absent :=
    ⟨departures.gone core id acting shaped holds.1 absent,
      gone core id acting shaped holds.1 holds.2 absent⟩
  noted core id acting holds :=
    ⟨departures.noted core id acting holds.1, noted core id acting holds.2⟩

/-- A client is disconnected and then removed from the store; its inhibitors go first. -/
theorem departRemoved {client : Client} (acting : acts client.id exitedResponse)
    (dropping : drops (Inhibitor.hasClientId client.id)) (shaped : state.core.Shaped)
    (removed : P (({ state with conditionClients := state.conditionClients.erase client.id } :
      State).removeInhibitors world (Inhibitor.hasClientId client.id)).core) :
    ((state.disconnectClient world client).removeClient client.id).core.Shaped ∧
      P ((state.disconnectClient world client).removeClient client.id).core := by
  have absent := @absent_disconnectClient world state shaped client
  have removedShaped := @Rules.removeInhibitors world acts drops _ _
    { state with conditionClients := state.conditionClients.erase client.id }
    (shapedRules world acts drops) _ dropping trivial shaped
  obtain ⟨shaped, disconnected⟩ := departures.both.disconnectRemoved acting dropping
    ⟨removedShaped, removed⟩
  rw [core_removeClient]
  exact ⟨shaped_gone shaped absent, departures.gone _ client.id acting shaped disconnected absent⟩

theorem depart {client : Client} (acting : acts client.id exitedResponse)
    (dropping : drops (Inhibitor.hasClientId client.id))
    (holds : state.core.Shaped ∧ P state.core) :
    ((state.disconnectClient world client).removeClient client.id).core.Shaped ∧
      P ((state.disconnectClient world client).removeClient client.id).core := by
  have forgotten : ({ state with conditionClients := state.conditionClients.erase client.id } :
      State).core.Shaped ∧ P ({ state with
        conditionClients := state.conditionClients.erase client.id } : State).core := holds
  exact departures.departRemoved acting dropping holds.1
    (departures.both.removeInhibitors dropping trivial forgotten).2

omit departures in
theorem endPhaseIfEmpty (emptied : Emptied world P) (holds : state.core.Shaped ∧ P state.core) :
    (state.endPhaseIfEmpty world).core.Shaped ∧ P (state.endPhaseIfEmpty world).core := by
  unfold State.endPhaseIfEmpty
  split_ifs with last
  · have notRunning : state.phase ≠ .running := fun running =>
      Phase.running_early running last.1
    exact ⟨shaped_endPhase holds.1 (Phase.running_le_of_query_le last.1)
      fun running => absurd running notRunning,
      emptied state holds.1 holds.2 last.1 last.2⟩
  · exact holds

theorem noteDisconnected {client : Client} (acting : acts client.id exitedResponse)
    (holds : state.core.Shaped ∧ P state.core) :
    (state.emit (.clientDisconnected client.id)).core.Shaped ∧
      P (state.emit (.clientDisconnected client.id)).core :=
  ⟨{ holds.1 with }, departures.noted state.core client.id acting holds.2⟩

theorem onClientDisconnected (emptied : Emptied world P) {client : Client}
    (acting : acts client.id exitedResponse) (dropping : drops (Inhibitor.hasClientId client.id))
    (holds : state.core.Shaped ∧ P state.core) :
    (state.onClientDisconnected world client).core.Shaped ∧
      P (state.onClientDisconnected world client).core :=
  endPhaseIfEmpty emptied
    (departures.depart acting dropping (departures.noteDisconnected acting holds))

theorem emitDisconnected (emptied : Emptied world P) {client : Client}
    (acting : acts client.id exitedResponse)
    (dropping : drops (Inhibitor.hasClientId client.id)) (handlers : Nat)
    (holds : state.core.Shaped ∧ P state.core) :
    (state.emitDisconnected world client handlers).core.Shaped ∧
      P (state.emitDisconnected world client handlers).core := by
  induction handlers generalizing state with
  | zero => exact holds
  | succ handlers ih => exact ih (departures.onClientDisconnected emptied acting dropping holds)

theorem removeDBusClients {leaving : List Client}
    (acting : ∀ client ∈ leaving, acts client.id exitedResponse)
    (dropping : ∀ client ∈ leaving, drops (Inhibitor.hasClientId client.id))
    (holds : state.core.Shaped ∧ P state.core) :
    (state.removeDBusClients world leaving).core.Shaped ∧
      P (state.removeDBusClients world leaving).core := by
  unfold State.removeDBusClients
  induction leaving generalizing state with
  | nil => exact holds
  | cons client leaving ih =>
      have first := departures.depart (acting client (by simp)) (dropping client (by simp)) holds
      exact ih (fun later member => acting later (by simp [member]))
        (fun later member => dropping later (by simp [member])) first

theorem removeClientsForConnection (emptied : Emptied world P) {serviceName : Option String}
    (acting : ∀ client ∈ state.clients, leavesWith serviceName client = true →
      acts client.id exitedResponse)
    (dropping : ∀ client ∈ state.clients, leavesWith serviceName client = true →
      drops (Inhibitor.hasClientId client.id))
    (holds : state.core.Shaped ∧ P state.core) :
    (state.removeClientsForConnection world serviceName).core.Shaped ∧
      P (state.removeClientsForConnection world serviceName).core := by
  refine endPhaseIfEmpty emptied (departures.removeDBusClients ?_ ?_ holds)
  · intro client member
    obtain ⟨stored, leaves⟩ := List.mem_filter.mp member
    exact acting client stored leaves
  · intro client member
    obtain ⟨stored, leaves⟩ := List.mem_filter.mp member
    exact dropping client stored leaves

theorem departed (emptied : Emptied world P) {before : State} {call : Call} {after : Core}
    (acting : ∀ client ∈ call.leaving before, acts client.id exitedResponse)
    (dropping : ∀ client ∈ call.leaving before, drops (Inhibitor.hasClientId client.id))
    (named : ∀ serviceName, call = .busNameLost serviceName →
      drops (Inhibitor.hasBusName serviceName))
    (departing : Departing world before call after)
    (holds : before.core.Shaped ∧ P before.core) : after.Shaped ∧ P after := by
  cases departing with
  | @left client told lost stored same emitted =>
      rw [← same] at holds
      rw [emitted]
      by_cases silent : client.handlers = 0
      · rw [silent]
        exact holds
      · have leaves : client ∈ call.leaving before := by
          rw [lost]
          simp [Call.leaving, stored, silent]
        exact departures.emitDisconnected emptied (acting client leaves) (dropping client leaves) _ holds
  | @nameLost serviceName lost removed =>
      have leaves : ∀ client ∈ (before.removeInhibitors world
          (Inhibitor.hasBusName serviceName)).clients, leavesWith (some serviceName) client = true →
          ∃ one ∈ call.leaving before, one.id = client.id := by
        intro client stored leaves
        obtain ⟨one, member, same, leaves⟩ :=
          leavesWith_congr (wirings_removeInhibitors _) stored leaves
        refine ⟨one, ?_, same⟩
        rw [lost]
        exact List.mem_filter.mpr ⟨member, leaves⟩
      have dropped := departures.both.removeInhibitors (named serviceName lost) trivial holds
      rw [removed]
      refine departures.removeClientsForConnection emptied ?_ ?_ dropped
      · intro client stored leaving
        obtain ⟨one, member, same⟩ := leaves client stored leaving
        exact same ▸ acting one member
      · intro client stored leaving
        obtain ⟨one, member, same⟩ := leaves client stored leaving
        exact same ▸ dropping one member
  | busLost lost removed =>
      have leaves : ∀ client ∈ before.clients, leavesWith none client = true →
          client ∈ call.leaving before := by
        intro client stored leaving
        rw [lost]
        exact List.mem_filter.mpr ⟨stored, leaving⟩
      have disconnected : ({ before with dbusDisconnected := true } : State).core.Shaped ∧
          P ({ before with dbusDisconnected := true } : State).core := holds
      rw [removed]
      exact departures.removeClientsForConnection emptied
        (fun client stored leaving => acting client (leaves client stored leaving))
        (fun client stored leaving => dropping client (leaves client stored leaving)) disconnected

end Departures

/-- The shape alone needs nothing of the clients that leave. -/
theorem shapedDepartures (world : World) (acts : Nat → Response → Prop)
    (drops : (Inhibitor → Bool) → Prop) : Departures world acts drops (fun _ => True) where
  rules := by constructor <;> intros <;> trivial
  gone _ _ _ _ _ _ := trivial
  noted _ _ _ _ := trivial

end CafeSession.Manager

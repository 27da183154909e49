import CafeSession.Manager.Reach
import CafeSession.Manager.Survivors

namespace CafeSession.Manager

open CafeSession.Transition State

/-- The event is a request of the client that connects the handler. -/
def State.connects (id : Nat) (state : State) (event : Event) : Bool :=
  match event.call with
  | .registerXsmpClient client previousId => client == id && state.connectsHandler previousId
  | _ => false

/-- How often the handler of the client is connected in the run. -/
def connections (id : Nat) : State → List Event → Nat
  | _, [] => 0
  | state, event :: events =>
      (if state.connects id event then 1 else 0) +
        match state.step event with
        | some next => connections id next events
        | none => 0

/-- How often `on_client_disconnected` has run for the client. -/
def State.disconnections (id : Nat) (state : State) : Nat :=
  state.log.count (.clientDisconnected id)

theorem disconnections_roster (id : Nat) (state : State) :
    state.disconnections id = state.core.roster.disconnected.count id := by
  unfold disconnections
  change _ = ((state.log.filter Effect.isMark).filterMap Effect.disconnected).count id
  induction state.log with
  | nil => rfl
  | cons effect log ih =>
      have dropped : ∀ {other : Effect}, other.disconnected = none →
          other ≠ .clientDisconnected id →
          (other :: log).count (.clientDisconnected id) =
            (((other :: log).filter Effect.isMark).filterMap Effect.disconnected).count id := by
        intro other none_ different
        rw [List.count_cons_of_ne different, ih, List.filter_cons]
        split_ifs
        · rw [List.filterMap_cons_none none_]
        · rfl
      cases effect with
      | clientDisconnected client =>
          have kept : (Effect.clientDisconnected client :: log).filter Effect.isMark =
              .clientDisconnected client :: log.filter Effect.isMark := rfl
          rw [kept, List.count_cons, ih]
          simp [Effect.disconnected, List.count_cons]
      | _ => exact dropped rfl nofun

namespace Roster

/-- Clients may be added and named, and nobody has left. -/
structure Grows (before after : Roster) : Prop where
  wirings : ∀ wiring ∈ before.wirings, ∃ startupId,
    { wiring with startupId := startupId } ∈ after.wirings
  clientSerial : before.clientSerial ≤ after.clientSerial
  disconnected : after.disconnected = before.disconnected

theorem Grows.of_eq {before after : Roster} (same : after = before) : before.Grows after := by
  subst same
  exact ⟨fun wiring member => ⟨wiring.startupId, member⟩, Nat.le_refl _, rfl⟩

theorem Grows.trans {before middle after : Roster} (first : before.Grows middle)
    (second : middle.Grows after) : before.Grows after where
  wirings := fun wiring member => by
    obtain ⟨_, kept⟩ := first.wirings wiring member
    obtain ⟨startupId, stored⟩ := second.wirings _ kept
    exact ⟨startupId, stored⟩
  clientSerial := Nat.le_trans first.clientSerial second.clientSerial
  disconnected := second.disconnected.trans first.disconnected

/-- The XSMP client has so many handlers, and none of them has run. -/
structure Tracks (id handlers : Nat) (roster : Roster) : Prop where
  wired : ∃ startupId, ⟨id, startupId, none, handlers⟩ ∈ roster.wirings
  connected : id ∉ roster.disconnected

theorem Tracks.grows {id handlers : Nat} {before after : Roster}
    (tracks : before.Tracks id handlers) (grows : before.Grows after) :
    after.Tracks id handlers where
  wired := by
    obtain ⟨_, member⟩ := tracks.wired
    exact grows.wirings _ member
  connected := by
    rw [grows.disconnected]
    exact tracks.connected

/-- Nobody has left whose id has not been given out. -/
def Past (roster : Roster) : Prop :=
  ∀ id ∈ roster.disconnected, id < roster.clientSerial

theorem Past.grows {before after : Roster} (past : before.Past) (grows : before.Grows after) :
    after.Past := by
  intro id member
  rw [grows.disconnected] at member
  exact Nat.lt_of_lt_of_le (past id member) grows.clientSerial

end Roster

theorem Core.Routine.grows {before after : Core} (moved : before.Routine after) :
    before.roster.Grows after.roster := by
  induction moved with
  | trans _ _ first second => exact first.trans second
  | added core wiring =>
      exact ⟨fun wiring member => ⟨wiring.startupId, List.mem_append_left _ member⟩,
        Nat.le_succ _, rfl⟩
  | renamed core id startupId =>
      refine ⟨fun wiring member => ?_, Nat.le_refl _, rfl⟩
      have renamed := List.mem_map_of_mem
        (f := fun one : Wiring => if one.id = id then { one with startupId := startupId } else one)
        member
      split_ifs at renamed
      · exact ⟨startupId, renamed⟩
      · exact ⟨wiring.startupId, renamed⟩
  | started early noted starts =>
      obtain ⟨news, startup, _, kept⟩ := starts.kept
      have nobody : news.filterMap Effect.disconnected = [] := by
        rw [List.filterMap_eq_nil_iff]
        intro effect member
        obtain ⟨_, rfl, _⟩ := startup effect member
        rfl
      refine .of_eq ?_
      rw [kept]
      rcases noted with rfl | rfl
      · simp [Core.roster, nobody]
      · rw [Core.roster, Core.roster, List.filterMap_append, nobody]
        rfl
  | _ => exact .of_eq rfl

section

variable {world : World} {before after : State} {call : Call}

/-- Only the turns of the clients themselves touch the client objects. -/
theorem turn_grows {after : Core} (shaped : before.core.Shaped) (turn : Turn world before call after) :
    before.core.roster.Grows after.roster ∨
      (∃ id previousId, call = .registerXsmpClient id previousId ∧
        before.connectsHandler previousId = true ∧
        (before.core.connectDisconnected id).roster.Grows after.roster) ∨
      Departing world before call after := by
  cases turn with
  | routine moved => exact .inl moved.grows
  | called asked late same =>
      rw [same]
      exact .inl (.of_eq rfl)
  | connected asked connects moved => exact .inr (.inl ⟨_, _, asked, connects, moved.grows⟩)
  | @answered client response asked answer stored same handled =>
      have rules : Rules world (fun _ _ => True) (fun _ => True) (fun _ => True)
          (fun core => core.roster = before.core.roster) :=
        @rosterRules world _ _ _ fun roster => roster = before.core.roster
      rw [handled]
      exact .inl (.of_eq (rules.handle trivial trivial (congrArg Core.roster same)))
  | departed departing => exact .inr (.inr departing)
  | uninhibited asked found removed =>
      rw [removed]
      exact .inl (.of_eq roster_removeInhibitors)
  | asked running unlocked closed typed same ended =>
      rw [ended]
      refine .inl (.of_eq (endPhase_roster.trans ?_))
      rw [same]
      rfl
  | confirmed late opened normal answer ends typed same ended =>
      rw [ended]
      refine .inl (.of_eq (endPhase_roster.trans ?_))
      rw [same]
      rfl
  | @cancelled action response opened ends asked refused handled =>
      have late := (shaped.dialog action opened ends).1
      rw [handled, @core_cancelEndSession world (before.answerDialog action response) late]
      exact .inl (.of_eq rfl)
  | accepted opened ends asked handled =>
      rw [handled]
      exact .inl (.of_eq endPhase_roster)
  | queryTimedOut asked armed fired =>
      have rules : Rules world (fun _ _ => True) (fun _ => True) (fun _ => True)
          (fun core => core.roster = before.core.roster) :=
        @rosterRules world _ _ _ fun roster => roster = before.core.roster
      rw [fired]
      exact .inl (.of_eq (rules.onQueryEndSessionTimeout (shaped.asked armed) fun _ _ => rfl))
  | phaseTimedOut asked armed ending fired =>
      rw [fired]
      exact .inl (.of_eq endPhase_roster)

/-- The other clients that leave do not touch the client's connection. -/
theorem tracksDepartures {acts : Nat → Response → Prop} {drops : (Inhibitor → Bool) → Prop}
    {id handlers : Nat} (others : ∀ other response, acts other response → other ≠ id) :
    Departures world acts drops (fun core => core.roster.Tracks id handlers) where
  rules := @rosterRules world acts drops _ (Roster.Tracks id handlers)
  gone core other acting _ tracks _ :=
    { wired := by
        obtain ⟨startupId, member⟩ := tracks.wired
        exact ⟨startupId, List.mem_filter.mpr
          ⟨member, by simpa using (others other _ acting).symm⟩⟩
      connected := tracks.connected }
  noted core other acting tracks :=
    { wired := tracks.wired
      connected := by
        rw [show ({ core with marks := .clientDisconnected other :: core.marks } : Core).roster
          = { core.roster with disconnected := other :: core.roster.disconnected } from rfl]
        exact List.not_mem_cons_of_ne_of_not_mem (others other _ acting).symm tracks.connected }

theorem tracksEmptied (id handlers : Nat) :
    Emptied world (fun core => core.roster.Tracks id handlers) := by
  intro state _ tracks _ _
  rw [endPhase_roster]
  exact tracks

theorem pastDepartures {acts : Nat → Response → Prop} {drops : (Inhibitor → Bool) → Prop}
    {serial : Nat} (issued : ∀ id response, acts id response → id < serial) :
    Departures world acts drops (fun core =>
      serial ≤ core.roster.clientSerial ∧ core.roster.Past) where
  rules := @rosterRules world acts drops _ fun roster => serial ≤ roster.clientSerial ∧ roster.Past
  gone _ _ _ _ past _ := past
  noted core id acting past :=
    ⟨past.1, fun other member => by
      rcases List.mem_cons.mp member with rfl | old
      · exact Nat.lt_of_lt_of_le (issued _ _ acting) past.1
      · exact past.2 other old⟩

theorem pastEmptied (serial : Nat) : Emptied world (fun core =>
    serial ≤ core.roster.clientSerial ∧ core.roster.Past) := by
  intro state _ past _ _
  rw [endPhase_roster]
  exact past

theorem wired_client {id handlers : Nat} (shaped : before.core.Shaped)
    (tracks : before.core.roster.Tracks id handlers) {client : Client}
    (stored : client ∈ before.clients) (same : client.id = id) :
    client.busName = none ∧ client.handlers = handlers := by
  obtain ⟨startupId, member⟩ := tracks.wired
  obtain ⟨one, oneStored, wiring⟩ := List.mem_map.mp member
  have oneId : one.id = id := congrArg Wiring.id wiring
  have unique : client = one :=
    List.inj_on_of_nodup_map shaped.distinct stored oneStored (same.trans oneId.symm)
  rw [unique]
  exact ⟨congrArg Wiring.busName wiring, congrArg Wiring.handlers wiring⟩

theorem leavesWith_busName {serviceName : Option String} {client : Client}
    (leaves : leavesWith serviceName client = true) : client.busName ≠ none := by
  intro none_
  cases serviceName <;> simp [leavesWith, none_] at leaves

theorem leaving_stored {client : Client} (leaves : client ∈ call.leaving before) :
    client ∈ before.clients := by
  cases call with
  | connectionLost id => exact List.mem_of_mem_filter leaves
  | busNameLost serviceName => exact List.mem_of_mem_filter leaves
  | busDisconnected => exact List.mem_of_mem_filter leaves
  | _ => cases leaves

theorem leaving_others {id handlers : Nat} (shaped : before.core.Shaped)
    (tracks : before.core.roster.Tracks id handlers) (other : call ≠ .connectionLost id) :
    ∀ client ∈ call.leaving before, client.id ≠ id := by
  intro client leaves same
  cases call with
  | connectionLost lost =>
      simp only [Call.leaving, List.mem_filter, Bool.and_eq_true, beq_iff_eq] at leaves
      exact other (congrArg Call.connectionLost (leaves.2.1.symm.trans same))
  | busNameLost serviceName =>
      obtain ⟨stored, leaves⟩ := List.mem_filter.mp leaves
      exact leavesWith_busName leaves (wired_client shaped tracks stored same).1
  | busDisconnected =>
      obtain ⟨stored, leaves⟩ := List.mem_filter.mp leaves
      exact leavesWith_busName leaves (wired_client shaped tracks stored same).1
  | _ => cases leaves

end

theorem past_turn {before : State} {event : Event} {after : Core} (shaped : before.core.Shaped)
    (past : before.core.roster.Past) (turn : Turn event.world before event.call after) :
    after.roster.Past := by
  rcases turn_grows shaped turn with grows | ⟨id, _, _, _, grows⟩ | departing
  · exact past.grows grows
  · have connected : (before.core.connectDisconnected id).roster.Past := past
    exact connected.grows grows
  · have departures : Departures event.world (fun id _ => id < before.clientSerial)
        (fun _ => True) (fun core => before.clientSerial ≤ core.roster.clientSerial ∧
          core.roster.Past) := pastDepartures fun _ _ issued => issued
    refine (departures.departed (pastEmptied _) (fun client leaves => ?_) (fun _ _ => trivial)
      (fun _ _ => trivial) departing ⟨shaped, Nat.le_refl _, past⟩).2.2
    exact shaped.fresh client.id (List.mem_map_of_mem (leaving_stored leaves))

theorem past_reached {state : State} (reached : managerSystem.Reachable state) :
    state.core.roster.Past := by
  refine @reached_invariant _ (fun core => core.roster.Past) (fun apps _ => nofun)
    (fun _ _ moved past => past.grows moved.grows) ?_ state reached
  exact fun before event after shaped past _ turn => past_turn shaped past turn

theorem tracks_connect {core : Core} {id handlers : Nat} (tracks : core.roster.Tracks id handlers) :
    (core.connectDisconnected id).roster.Tracks id (handlers + 1) where
  wired := by
    obtain ⟨startupId, member⟩ := tracks.wired
    exact ⟨startupId, List.mem_map.mpr ⟨_, member, by simp [Wiring.connect]⟩⟩
  connected := tracks.connected

theorem tracks_connect_other {core : Core} {id other handlers : Nat} (different : other ≠ id)
    (tracks : core.roster.Tracks id handlers) :
    (core.connectDisconnected other).roster.Tracks id handlers where
  wired := by
    obtain ⟨startupId, member⟩ := tracks.wired
    exact ⟨startupId, List.mem_map.mpr ⟨_, member, by simp [different.symm]⟩⟩
  connected := tracks.connected

/-- The request connects the handler once, whatever becomes of it. -/
theorem registerXsmpClient_grows {world : World} {state : State} {id : Nat} {previousId : String}
    (connects : state.connectsHandler previousId = true) :
    (state.core.connectDisconnected id).roster.Grows
      (state.registerXsmpClient world id previousId).core.roster := by
  obtain ⟨told, registered, same, registers, handled⟩ :=
    @registerXsmpClient_cases world state id previousId connects
  have tells : registered.core.roster = told.core.roster := by
    rcases registers with rfl | ⟨app, _, rfl⟩
    · rfl
    · unfold appRegistered
      dsimp only
      split_ifs
      · exact endPhase_roster
      · rfl
      · rfl
  rw [← same]
  rcases handled with core | ⟨startupId, _, core⟩
  · rw [core]
    exact .of_eq tells
  · have renamed := (Core.Routine.renamed registered.core id startupId).grows
    rw [tells] at renamed
    rw [core]
    exact renamed

theorem tracks_step {id handlers : Nat} {before after : State} {event : Event}
    (shaped : before.core.Shaped) (tracks : before.core.roster.Tracks id handlers)
    (other : event.call ≠ .connectionLost id) (stepped : before.step event = some after) :
    after.core.roster.Tracks id (handlers + if before.connects id event then 1 else 0) := by
  obtain ⟨fault, turn⟩ := step_turn shaped stepped
  cases connects : before.connects id event with
  | true =>
      unfold State.connects at connects
      cases call : event.call with
      | registerXsmpClient client previousId =>
          simp only [call, Bool.and_eq_true, beq_iff_eq] at connects
          obtain ⟨rfl, connects⟩ := connects
          simp only [step, fault, call, perform, Option.map_eq_some_iff] at stepped
          obtain ⟨stored, found, rfl⟩ := stepped
          obtain ⟨same, _⟩ := xsmpClient?_mem found
          rw [same]
          exact (tracks_connect tracks).grows (registerXsmpClient_grows connects)
      | _ => simp [call] at connects
  | false =>
      rcases turn_grows shaped turn with grows | ⟨client, previousId, asked, taken, grows⟩ |
        departing
      · exact tracks.grows grows
      · have different : client ≠ id := by
          rintro rfl
          simp [State.connects, asked, taken] at connects
        exact (tracks_connect_other different tracks).grows grows
      · have departures : Departures event.world (fun other _ => other ≠ id) (fun _ => True)
            (fun core => core.roster.Tracks id handlers) := tracksDepartures fun _ _ other => other
        exact (departures.departed (tracksEmptied id handlers)
          (leaving_others shaped tracks other) (fun _ _ => trivial) (fun _ _ => trivial) departing
          ⟨shaped, tracks⟩).2

theorem tracks_run {id handlers : Nat} {before after : State} {events : List Event}
    (reached : managerSystem.Reachable before) (tracks : before.core.roster.Tracks id handlers)
    (others : ∀ event ∈ events, event.call ≠ .connectionLost id)
    (run : managerSystem.run before events = some after) :
    after.core.roster.Tracks id (handlers + connections id before events) := by
  induction events generalizing before handlers with
  | nil =>
      cases run
      exact tracks
  | cons event events ih =>
      obtain ⟨next, stepped, rest⟩ := Option.bind_eq_some_iff.mp run
      have first := tracks_step (shaped_reached reached) tracks (others event (by simp)) stepped
      have later := ih (.step reached trivial stepped) first
        (fun one member => others one (by simp [member])) rest
      have count : connections id before (event :: events) =
          (if before.connects id event then 1 else 0) + connections id next events := by
        rw [connections, show before.step event = some next from stepped]
      rw [count, ← Nat.add_assoc]
      exact later

/-- The loss of the connection runs every handler, and the first one removes the client. -/
theorem lost_connection {id : Nat} {world lost : World} {before accepted connected after : State}
    {events : List Event} (reached : managerSystem.Reachable before)
    (serial : before.clientSerial = id)
    (accept : before.step ⟨world, .acceptConnection⟩ = some accepted)
    (run : managerSystem.run accepted events = some connected)
    (others : ∀ event ∈ events, event.call ≠ .connectionLost id)
    (loss : connected.step ⟨lost, .connectionLost id⟩ = some after) :
    after.disconnections id = connections id accepted events ∧
      ((∃ client ∈ after.clients, client.id = id) ↔ connections id accepted events = 0) := by
  subst serial
  have acceptedReached : managerSystem.Reachable accepted := .step reached trivial accept
  obtain ⟨fault, _⟩ := step_turn (shaped_reached reached) accept
  have added : accepted = before.acceptXsmpConnection := by
    simp only [step, fault, perform, Option.some.injEq] at accept
    exact accept.symm
  have tracks : accepted.core.roster.Tracks before.clientSerial 0 := by
    rw [added]
    refine ⟨?_, fun left => ?_⟩
    · exact ⟨"", List.mem_map.mpr
        ⟨_, List.mem_append_right _ (List.mem_singleton_self _), rfl⟩⟩
    · exact Nat.lt_irrefl _ (past_reached reached _ left)
  have tracked := tracks_run acceptedReached tracks others run
  rw [Nat.zero_add] at tracked
  have connectedReached := System.Reachable.of_run acceptedReached run
  have shaped := shaped_reached connectedReached
  obtain ⟨alive, _⟩ := step_turn shaped loss
  simp only [step, alive, perform, Option.map_eq_some_iff] at loss
  obtain ⟨client, found, rfl⟩ := loss
  obtain ⟨same, stored⟩ := xsmpClient?_mem found
  have handlers := (wired_client shaped tracked stored same).2
  have told : (connected.updateClient client.id disconnect).core = connected.core :=
    core_disconnect client.id
  have member : client.id ∈ connected.core.roster.clientIds := List.mem_map_of_mem stored
  have disconnected := @disconnected_emitDisconnected lost
    (connected.updateClient client.id disconnect) client client.handlers
  have clientIds := @clientIds_emitDisconnected lost
    (connected.updateClient client.id disconnect) client client.handlers
  rw [told, same, handlers] at disconnected clientIds
  rw [same] at member
  unfold connectionLost
  rw [same, handlers]
  constructor
  · rw [disconnections_roster, disconnected, List.count_append, List.count_replicate_self,
      List.count_eq_zero.mpr tracked.connected, Nat.add_zero]
  · rw [← List.mem_map, show ((connected.updateClient before.clientSerial disconnect).emitDisconnected
      lost client _).clients.map Client.id = _ from clientIds]
    split_ifs with none_
    · exact ⟨fun _ => none_, fun _ => member⟩
    · simp [none_]

/-- The handler runs exactly once and the client leaves the store, if and only if
exactly one of the client's requests has connected the handler. -/
theorem lost_connection_once_iff {id : Nat} {world lost : World}
    {before accepted connected after : State} {events : List Event}
    (reached : managerSystem.Reachable before) (serial : before.clientSerial = id)
    (accept : before.step ⟨world, .acceptConnection⟩ = some accepted)
    (run : managerSystem.run accepted events = some connected)
    (others : ∀ event ∈ events, event.call ≠ .connectionLost id)
    (loss : connected.step ⟨lost, .connectionLost id⟩ = some after) :
    (after.disconnections id = 1 ∧ ∀ client ∈ after.clients, client.id ≠ id) ↔
      connections id accepted events = 1 := by
  obtain ⟨count, stored⟩ := lost_connection reached serial accept run others loss
  rw [count]
  constructor
  · exact fun once => once.1
  · intro once
    refine ⟨once, fun client member same => ?_⟩
    have never := stored.mp ⟨client, member, same⟩
    omega

/-- A client that retries with no id after a rejected request is disconnected
twice, and one that has made no request stays in the store. -/
theorem lost_connection_twice_or_never :
    (∃ state, afterCalls [.acceptConnection, .registerXsmpClient 1 "10d3c2a", .registerXsmpClient 1 "",
        .connectionLost 1] = some state ∧ state.disconnections 1 = 2) ∧
    ∃ state, afterCalls [.acceptConnection, .connectionLost 1] = some state ∧
      state.disconnections 1 = 0 ∧ ∃ client ∈ state.clients, client.id = 1 := by
  decide

/-- A client that registers once is disconnected once. -/
theorem lost_connection_of_registered :
    ∃ state, afterCalls [.acceptConnection, .registerXsmpClient 1 "", .connectionLost 1] =
        some state ∧
      state.disconnections 1 = 1 ∧ ∀ client ∈ state.clients, client.id ≠ 1 := by
  have started : managerSystem.Reachable (State.start .permissive []) :=
    .initial ⟨.permissive, [], List.nodup_nil, rfl⟩
  have others : ∀ event ∈ [Event.mk .permissive (.registerXsmpClient 1 "")],
      event.call ≠ .connectionLost 1 := by
    intro event member
    rw [List.mem_singleton.mp member]
    nofun
  have once := @lost_connection_once_iff 1 .permissive .permissive _ _ _ _ _ started rfl rfl rfl
    others rfl
  exact ⟨_, rfl, once.mpr rfl⟩

end CafeSession.Manager

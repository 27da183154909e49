import CafeSession.Manager.Membership
import CafeSession.Manager.Speeches

namespace CafeSession.Manager

open CafeSession.Xsmp CafeSession.Transition

namespace State

/-- What has been said can be followed. -/
structure Followed (state : State) : Prop where
  distinct : state.clientIds.Nodup
  fresh : ∀ id ∈ state.clientIds, id < state.clientSerial
  /-- nobody is spoken to before being there -/
  unheard : ∀ id, state.clientSerial ≤ id → state.signalsTo id = []
  /-- clients that are gone included -/
  followed : ∀ id, ∃ outlook, Outlook.heard (state.signalsTo id) = some outlook
  met : ∀ id, (id, true) ∈ state.lines → ∃ outlook,
    Outlook.heard (state.signalsTo id) = some outlook ∧ outlook.Meets state.phase state.logoutMode
  last : ∀ id ∈ state.nextQueryClients, state.Foreign id

variable {world : World} {state before middle after : State}

theorem unlisted_of_serial {id : Nat} (followed : state.Followed) (new : state.clientSerial ≤ id)
    (dbus : Bool) : (id, dbus) ∉ state.lines := by
  intro listed
  have stored : id ∈ state.clientIds := by
    rw [← clientIds_lines]
    exact List.mem_map_of_mem listed
  exact absurd (followed.fresh id stored) (Nat.not_lt.mpr new)

namespace Followed

/-- The rule for a step: it leaves the store, and each D-Bus client makes of what
it hears what the phase has become. -/
theorem step (followed : before.Followed) (lines : after.lines = before.lines)
    (serial : after.clientSerial = before.clientSerial)
    (last : ∀ id ∈ after.nextQueryClients, before.Foreign id)
    (silent : ∀ id, (id, true) ∉ before.lines → after.signalsTo id = before.signalsTo id)
    (met : ∀ id outlook, (id, true) ∈ before.lines →
      Outlook.heard (before.signalsTo id) = some outlook →
      outlook.Meets before.phase before.logoutMode → ∃ next,
        Outlook.heard (after.signalsTo id) = some next ∧ next.Meets after.phase after.logoutMode) :
    after.Followed := by
  have ids : after.clientIds = before.clientIds := by
    rw [← clientIds_lines, lines, clientIds_lines]
  have spoken : ∀ id, (id, true) ∈ before.lines → ∃ next,
      Outlook.heard (after.signalsTo id) = some next ∧
        next.Meets after.phase after.logoutMode := by
    intro id listed
    obtain ⟨outlook, heard, meets⟩ := followed.met id listed
    exact met id outlook listed heard meets
  exact {
    distinct := ids ▸ followed.distinct
    fresh := fun id stored => serial ▸ followed.fresh id (ids ▸ stored)
    unheard := fun id new => by
      rw [serial] at new
      rw [silent id (unlisted_of_serial followed new true)]
      exact followed.unheard id new
    followed := fun id => by
      by_cases listed : (id, true) ∈ before.lines
      · obtain ⟨next, heard, _⟩ := spoken id listed
        exact ⟨next, heard⟩
      · rw [silent id listed]
        exact followed.followed id
    met := fun id listed => spoken id (lines ▸ listed)
    last := fun id asked => by
      unfold Foreign
      rw [lines, serial]
      exact last id asked }

theorem silent (followed : before.Followed) (same : before.Silent after) : after.Followed := by
  refine followed.step same.lines same.clientSerial
    (fun id asked => followed.last id (same.last asked)) (fun id _ => same.signals id) ?_
  intro id outlook _ heard meets
  refine ⟨outlook, by rw [same.signals]; exact heard, ?_⟩
  rw [same.phase]
  exact meets.moded same.forced

/-- The rule for a step that says one thing to every D-Bus client. -/
theorem spoken {message : ClientMessage} (followed : before.Followed)
    (lines : after.lines = before.lines) (serial : after.clientSerial = before.clientSerial)
    (last : after.nextQueryClients ⊆ before.nextQueryClients)
    (said : ∀ id, after.signalsTo id =
      before.signalsTo id ++ if (id, true) ∈ before.lines then [message] else [])
    (heard : ∀ outlook : Outlook, outlook.Meets before.phase before.logoutMode → ∃ next,
      outlook.hear message = some next ∧ next.Meets after.phase after.logoutMode) :
    after.Followed := by
  refine followed.step lines serial (fun id asked => followed.last id (last asked)) ?_ ?_
  · intro id unlisted
    rw [said, if_neg unlisted, List.append_nil]
  · intro id outlook listed before_heard meets
    obtain ⟨next, hears, met⟩ := heard outlook meets
    refine ⟨next, ?_, met⟩
    rw [said, if_pos listed, Outlook.heard_snoc before_heard]
    exact hears

/-- Before the running phase ends nobody has been told anything. -/
theorem resting (followed : before.Followed) (lines : after.lines = before.lines)
    (serial : after.clientSerial = before.clientSerial)
    (last : after.nextQueryClients ⊆ before.nextQueryClients)
    (said : ∀ id, after.signalsTo id = before.signalsTo id)
    (early : before.phase < .queryEndSession) (still : after.phase < .queryEndSession) :
    after.Followed := by
  refine followed.step lines serial (fun id asked => followed.last id (last asked))
    (fun id _ => said id) ?_
  intro id outlook _ heard meets
  refine ⟨.resting, ?_, still⟩
  rw [said, heard, meets.resting early]

theorem endPhase (followed : state.Followed) : (state.endPhase world).Followed := by
  have frame := @endPhase_frame world state
  have lines := lines_of_wirings frame.wirings
  have serial : (state.endPhase world).clientSerial = state.clientSerial := frame.clientSerial
  have mode : (state.endPhase world).logoutMode = state.logoutMode := frame.logoutMode
  have last : (state.endPhase world).nextQueryClients ⊆ state.nextQueryClients := by
    have cleared : (state.endPhase world).nextQueryClients = [] := endPhase_last
    rw [cleared]
    exact List.nil_subset _
  have distinct := followed.distinct
  have ending := endPhase_ending world state
  obtain ⟨core, same⟩ : ∃ core, (state.endPhase world).core = core := ⟨_, rfl⟩
  rw [same] at ending
  have phase : (state.endPhase world).phase = core.phase := congrArg Core.phase same
  cases ending with
  | startup early starts =>
      exact followed.resting lines serial last (signalsTo_endPhase_startup early)
        (Nat.lt_succ_of_lt early) (phase ▸ Nat.lt_succ_of_le starts.phase)
  | locked running locked =>
      rw [endPhase_locked running locked]
      exact followed.silent { Silent.refl state with last := List.nil_subset _ }
  | asked running unlocked sublist =>
      refine followed.spoken lines serial last
        (signalsTo_endPhase_running distinct running unlocked) ?_
      intro outlook meets
      rw [meets.resting (running ▸ by decide)]
      refine ⟨_, rfl, phase, fun forced => ?_⟩
      rw [mode]
      exact of_decide_eq_true forced
  | ending query clients sublist =>
      refine followed.spoken lines serial last (signalsTo_endPhase_query distinct query clients) ?_
      intro outlook meets
      rw [query] at meets
      obtain ⟨forceful, queried, forced⟩ := meets.queried
      have refusable : (forceful && !decide (state.logoutMode = .force)) = false := by
        cases forceful with
        | false => rfl
        | true => simp [forced rfl]
      refine ⟨.ending, ?_, phase⟩
      rw [queried]
      simp [Outlook.hear, endSessionFlags, refusable]
  | emptied query empty =>
      have nobody : ∀ id, (id, true) ∉ state.lines := by
        intro id listed
        rw [lines_nil empty] at listed
        cases listed
      have said : ∀ id, (state.endPhase world).signalsTo id = state.signalsTo id := by
        intro id
        have ending : state.advance.resetPhase.phase = .endSession := by
          simp [resetPhase, clearPhase, advance, query, Phase.next]
        have stopped := @signalsTo_endPhase_endSession world state.advance.resetPhase distinct
          ending id
        have unlisted : (id, true) ∉ state.advance.resetPhase.lines := nobody id
        rw [if_neg unlisted, List.append_nil] at stopped
        rw [endPhase_query_empty query empty, ← signalsTo_advance]
        exact stopped
      exact followed.step lines serial (fun id asked => followed.last id (last asked))
        (fun id _ => said id) fun id _ listed => absurd listed (nobody id)
  | ended ending =>
      refine followed.spoken lines serial last (signalsTo_endPhase_endSession distinct ending) ?_
      intro outlook meets
      obtain ⟨next, hears, _, stopping⟩ := meets.stop
      refine ⟨next, hears, ?_⟩
      rw [stopping ending]
      exact .inr phase
  | quit exit =>
      have said : ∀ id, (state.endPhase world).signalsTo id = state.signalsTo id := by
        intro id
        rw [endPhase_exit exit, signalsTo_quit]
        rfl
      refine followed.silent {
        phase := phase.trans exit.symm
        lines := lines
        clientSerial := serial
        forced := fun _ force => mode.trans force
        last := last
        signals := said }

theorem cancelEndSession (followed : state.Followed) :
    (state.cancelEndSession world).Followed := by
  by_cases early : state.phase < .queryEndSession
  · have same : state.cancelEndSession world = state := if_pos early
    rw [same]
    exact followed
  have late := Phase.not_lt_query.mp early
  have core := @core_cancelEndSession world state late
  obtain ⟨wirings, serial⟩ := @wirings_cancelEndSession world state
  have last : (state.cancelEndSession world).nextQueryClients = [] :=
    (congrArg Core.nextQueryClients core :)
  have running : (state.cancelEndSession world).phase = .running := (congrArg Core.phase core :)
  refine followed.spoken (lines_of_wirings wirings) serial (last ▸ List.nil_subset _)
    (signalsTo_cancelEndSession followed.distinct late) ?_
  intro outlook meets
  have resumed : Phase.running < .queryEndSession := by decide
  exact ⟨.resting, meets.cancel late, running ▸ resumed⟩

/-- A Stop for one client is understood in every phase. -/
theorem stopped (followed : state.Followed) (addressee : Nat) :
    (state.tell Client.stop addressee).Followed := by
  have core := @core_tell state _ Client.keepsWiring_stop addressee
  have said := @signalsTo_tell state _ _ Client.signalling_stop followed.distinct addressee
  have phase : (state.tell Client.stop addressee).phase = state.phase := congrArg Core.phase core
  have mode : (state.tell Client.stop addressee).logoutMode = state.logoutMode :=
    congrArg Core.logoutMode core
  have last : (state.tell Client.stop addressee).nextQueryClients = state.nextQueryClients :=
    congrArg Core.nextQueryClients core
  refine followed.step (lines_tell Client.keepsWiring_stop addressee)
    (congrArg Core.clientSerial core) (fun id asked => followed.last id (last ▸ asked)) ?_ ?_
  · intro id unlisted
    have other : ¬ (addressee = id ∧ (addressee, true) ∈ state.lines) := by
      rintro ⟨rfl, listed⟩
      exact unlisted listed
    rw [said, if_neg other, List.append_nil]
  · intro id outlook listed heard meets
    rw [said, phase, mode]
    split_ifs with addressed
    · obtain ⟨next, hears, met, _⟩ := meets.stop
      exact ⟨next, (Outlook.heard_snoc heard _).trans hears, met⟩
    · rw [List.append_nil]
      exact ⟨outlook, heard, meets⟩

/-- The second part of the end-session phase is not for D-Bus clients. -/
theorem askLast (followed : state.Followed) : (state.askLast world).Followed := by
  obtain ⟨asked, core⟩ := @core_askLast world state
  have signalling := Client.signalling_endSession (state.endSessionFlags world true)
  have said : ∀ (ids : List Nat) (other : State), other.clientIds.Nodup →
      (∀ id ∈ ids, (id, true) ∉ other.lines) → ∀ id,
        (ids.foldl (ask (Client.endSession (state.endSessionFlags world true))) other).signalsTo id =
          other.signalsTo id := by
    intro ids other distinct foreign id
    induction ids generalizing other with
    | nil => rfl
    | cons first rest ih =>
        have lines := @lines_ask other _ signalling.wiring first
        have stored : (ask (Client.endSession (state.endSessionFlags world true)) other
            first).clientIds.Nodup := by
          rw [← clientIds_lines, lines, clientIds_lines]
          exact distinct
        have unlisted : ¬ (first = id ∧ (first, true) ∈ other.lines) := fun both =>
          foreign first List.mem_cons_self both.2
        rw [List.foldl_cons, ih _ stored fun one member =>
          lines ▸ foreign one (List.mem_cons_of_mem _ member), signalsTo_ask,
          signalsTo_tell signalling distinct, if_neg unlisted, List.append_nil]
  exact followed.silent {
    phase := (congrArg Core.phase core :)
    lines := lines_of_wirings (by rw [core])
    clientSerial := (congrArg Core.clientSerial core :)
    forced := fun _ force => (congrArg Core.logoutMode core :).trans force
    last := List.nil_subset _
    signals := said state.nextQueryClients state followed.distinct
      fun id member => (followed.last id member).2 }

theorem removeClient (followed : state.Followed) (gone : Nat) :
    (state.removeClient gone).Followed := by
  have listed : ∀ line ∈ (state.removeClient gone).lines, line ∈ state.lines := by
    intro line member
    obtain ⟨client, stored, same⟩ := List.mem_map.mp member
    exact List.mem_map.mpr ⟨client, (List.mem_filter.mp stored).1, same⟩
  have ids : (state.removeClient gone).clientIds.Sublist state.clientIds :=
    List.filter_sublist.map Client.id
  exact {
    distinct := followed.distinct.sublist ids
    fresh := fun id stored => followed.fresh id (ids.subset stored)
    unheard := followed.unheard
    followed := followed.followed
    met := fun id member => followed.met id (listed _ member)
    last := fun id asked =>
      ⟨(followed.last id asked).1, fun member => (followed.last id asked).2 (listed _ member)⟩ }

theorem addClient (followed : state.Followed) {client : Client}
    (named : client.id = state.clientSerial)
    (welcome : client.isDBus = true → state.phase < .queryEndSession) :
    ({ state with
      clients := state.clients ++ [client]
      clientSerial := state.clientSerial + 1 } : State).Followed := by
  have listed : ∀ line ∈ ({ state with
      clients := state.clients ++ [client]
      clientSerial := state.clientSerial + 1 } : State).lines,
      line ∈ state.lines ∨ line = client.line := by
    intro line member
    obtain ⟨one, stored, same⟩ := List.mem_map.mp member
    rcases List.mem_append.mp stored with old | new
    · exact .inl (List.mem_map.mpr ⟨one, old, same⟩)
    · rw [List.mem_singleton.mp new] at same
      exact .inr same.symm
  have ids : ({ state with
      clients := state.clients ++ [client]
      clientSerial := state.clientSerial + 1 } : State).clientIds =
      state.clientIds ++ [state.clientSerial] := by
    simp only [clientIds, List.map_append, List.map_cons, List.map_nil, named]
  exact {
    distinct := by
      rw [ids]
      refine List.nodup_append.mpr ⟨followed.distinct, List.nodup_singleton _, ?_⟩
      rintro id stored _ new rfl
      exact Nat.lt_irrefl _ (List.mem_singleton.mp new ▸ followed.fresh id stored)
    fresh := fun id stored => by
      rw [ids] at stored
      rcases List.mem_append.mp stored with old | new
      · exact Nat.lt_succ_of_lt (followed.fresh id old)
      · rw [List.mem_singleton.mp new]
        exact Nat.lt_succ_self _
    unheard := fun id new => followed.unheard id (Nat.le_of_succ_le new)
    followed := followed.followed
    met := fun id member => by
      rcases listed _ member with old | new
      · exact followed.met id old
      · have serial : id = state.clientSerial := (congrArg Prod.fst new).trans named
        have dbus : client.isDBus = true := (congrArg Prod.snd new).symm
        -- the new client has heard nothing yet
        refine ⟨.resting, ?_, welcome dbus⟩
        have nothing : state.signalsTo id = [] := followed.unheard id (serial ▸ Nat.le_refl _)
        change Outlook.heard (state.signalsTo id) = _
        rw [nothing]
        rfl
    last := fun id asked =>
      (followed.last id asked).speech (@Speech.joined .permissive state client named welcome) }

theorem speech (followed : before.Followed) (speech : Speech world before after) :
    after.Followed := by
  induction speech with
  | silent same => exact followed.silent same
  | trans _ _ first second => exact second (first followed)
  | ended state => exact followed.endPhase
  | cancelled state => exact followed.cancelEndSession
  | stopped state id => exact followed.stopped id
  | deferred state id foreign =>
      exact { followed with
        last := fun other asked => by
          rcases List.mem_cons.mp asked with new | old
          · exact new ▸ foreign
          · exact followed.last other old }
  | last state => exact followed.askLast
  | left state id => exact followed.removeClient id
  | joined state client named welcome => exact followed.addClient named welcome

end Followed

theorem followed_start (world : World) (apps : List App) : (start world apps).Followed := by
  have starting : (created apps).phase ≤ .running := by
    change Phase.initialization ≤ .running
    decide
  have started := @core_startPhase world (created apps) starting
  obtain ⟨news, _, _, kept⟩ := started.kept
  have said : ∀ id, (start world apps).signalsTo id = [] := signalsTo_startPhase starting
  have ids : (start world apps).clientIds = [] := (congrArg Core.clientIds kept :)
  have wirings : (start world apps).core.wirings = (created apps).core.wirings := by
    rw [start, kept]
  have lines : (start world apps).lines = [] := lines_of_wirings wirings
  have last : (start world apps).nextQueryClients = [] := (congrArg Core.nextQueryClients kept :)
  exact {
    distinct := ids ▸ List.nodup_nil
    fresh := fun id stored => by
      rw [ids] at stored
      cases stored
    unheard := fun id _ => said id
    followed := fun id => ⟨.resting, by rw [said]; rfl⟩
    met := fun id listed => by
      rw [lines] at listed
      cases listed
    last := fun id asked => by
      rw [last] at asked
      cases asked }

theorem followed_step {event : Event} (shaped : before.core.Shaped) (followed : before.Followed)
    (stepped : before.step event = some after) : after.Followed :=
  followed.speech (speech_perform shaped (step_performed stepped))

end State

theorem followed_reached {state : State} (reached : managerSystem.Reachable state) :
    state.Followed := by
  induction reached with
  | initial start =>
      obtain ⟨world, apps, _, rfl⟩ := start
      exact State.followed_start world apps
  | step reached _ stepped ih => exact State.followed_step (shaped_reached reached) ih stepped

/-- In every run the signals sent to a client can be followed, also when the client
is gone, and a D-Bus client of the store expects what the phase is. -/
theorem dbus_client_follows {state : State} (reached : managerSystem.Reachable state) (id : Nat) :
    ∃ outlook, Outlook.heard (state.signalsTo id) = some outlook ∧
      ∀ client ∈ state.clients, client.id = id → client.isDBus = true →
        outlook.Meets state.phase state.logoutMode := by
  have followed := followed_reached reached
  obtain ⟨outlook, heard⟩ := followed.followed id
  refine ⟨outlook, heard, ?_⟩
  intro client stored named dbus
  obtain ⟨other, same, meets⟩ :=
    followed.met id (List.mem_map.mpr ⟨client, stored, Prod.ext named dbus⟩)
  cases heard.symm.trans same
  exact meets

/-- The client is asked, agrees, and is to end its session. -/
theorem registered_client_follows : ∃ state,
    afterCalls [.registerClient "pluma" "" ":1.7", .requestShutdown,
      .endSessionResponse 1 true ""] = some state ∧
    state.signalsTo 1 = [.queryEndSession {}, .endSession {}] ∧
    (∃ outlook, Outlook.heard (state.signalsTo 1) = some outlook ∧
      ∀ client ∈ state.clients, client.id = 1 → client.isDBus = true →
        outlook.Meets state.phase state.logoutMode) := by
  obtain ⟨state, run⟩ : ∃ state, afterCalls [.registerClient "pluma" "" ":1.7", .requestShutdown,
      .endSessionResponse 1 true ""] = some state := ⟨_, rfl⟩
  have reached : managerSystem.Reachable state :=
    afterCalls_reached (System.meets_of_forall fun _ _ _ => trivial) run
  exact ⟨state, run, by cases run; rfl, dbus_client_follows reached 1⟩

end CafeSession.Manager

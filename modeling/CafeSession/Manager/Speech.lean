import CafeSession.Manager.Signals
import CafeSession.Manager.Departures

namespace CafeSession.Manager

open CafeSession.Xsmp

namespace State

variable {world : World} {state before middle after : State} {message : ClientMessage}
variable {call : Client → Except String (Client × List ClientMessage)}

theorem lines_of_wirings (same : after.core.wirings = before.core.wirings) :
    after.lines = before.lines := by
  have read : ∀ state : State, state.lines =
      state.core.wirings.map fun wiring => (wiring.id, wiring.busName.isSome) := by
    intro state
    simp only [lines, core, List.map_map]
    apply List.map_congr_left
    rintro ⟨id, transport, startupId, appId, unanswered⟩ _
    cases transport <;> rfl
  rw [read, read, same]

theorem signalsTo_tell (signalling : Signalling call message) (distinct : state.clientIds.Nodup)
    (addressee id : Nat) :
    (state.tell call addressee).signalsTo id =
      state.signalsTo id ++ if addressee = id ∧ (addressee, true) ∈ state.lines then [message]
        else [] := by
  unfold tell
  cases found : state.client? addressee with
  | none =>
      have nobody : (addressee, true) ∉ state.lines := fun listed => by
        obtain ⟨client, stored⟩ := client?_of_lines listed
        cases found.symm.trans stored
      simp [nobody]
  | some client =>
      have line := mem_lines_client distinct found true
      dsimp only [Option.map_some]
      cases kind : client.isDBus with
      | true =>
          obtain ⟨left, called⟩ := signalling.dbus client kind
          have written := signalsTo_written [message] addressee id
            (state.updateClient addressee (told call))
          have heard : [message].filter ClientMessage.isSignal = [message] := by
            rw [List.filter_cons_of_pos signalling.signal, List.filter_nil]
          rw [heard] at written
          simp only [called, line.mpr kind, and_true]
          exact written
      | false =>
          have unlisted : (addressee, true) ∉ state.lines := fun listed => by
            cases kind.symm.trans (line.mp listed)
          have nothing : (if addressee = id ∧ (addressee, true) ∈ state.lines then [message]
              else []) = [] := if_neg fun both => unlisted both.2
          rw [nothing, List.append_nil]
          cases called : call client with
          | error _ => rfl
          | ok result =>
              have quiet := signalling.xsmp client result.1 result.2 kind called
              have written := signalsTo_written result.2 addressee id
                (state.updateClient addressee (told call))
              rw [quiet, ite_self, List.append_nil] at written
              exact written

theorem signalsTo_tell_silenced (silenced : Silenced call) (addressee id : Nat) :
    (state.tell call addressee).signalsTo id = state.signalsTo id := by
  unfold tell
  split
  · next left messages called =>
      obtain ⟨client, found, said⟩ := Option.map_eq_some_iff.mp called
      have written := signalsTo_written messages addressee id
        (state.updateClient addressee (told call))
      rw [silenced client left messages said, ite_self, List.append_nil] at written
      exact written
  · rfl

/-- Waiting for the answer is not heard. -/
theorem signalsTo_ask (addressee id : Nat) :
    (state.ask call addressee).signalsTo id = (state.tell call addressee).signalsTo id := by
  unfold ask tell
  cases (state.client? addressee).map call with
  | none => rfl
  | some result => cases result <;> rfl

theorem lines_tell (keeps : KeepsWiring call) (id : Nat) :
    (state.tell call id).lines = state.lines :=
  lines_of_wirings (congrArg Core.wirings (core_tell keeps id))

theorem lines_ask (keeps : KeepsWiring call) (id : Nat) :
    (state.ask call id).lines = state.lines := by
  unfold ask
  split
  · exact lines_tell keeps id
  · rfl

/-- Speaking to the clients one after the other; nobody is spoken to twice. -/
theorem signalsTo_foldl {speak : State → Nat → State} {message : ClientMessage}
    (lines_speak : ∀ state id, (speak state id).lines = state.lines)
    (spoken : ∀ (state : State) addressee id, state.clientIds.Nodup →
      (speak state addressee).signalsTo id = state.signalsTo id ++
        if addressee = id ∧ (addressee, true) ∈ state.lines then [message] else [])
    {ids : List Nat} (distinct : ids.Nodup) (stored : state.clientIds.Nodup) (id : Nat) :
    (ids.foldl speak state).signalsTo id = state.signalsTo id ++
      if id ∈ ids ∧ (id, true) ∈ state.lines then [message] else [] := by
  induction ids generalizing state with
  | nil => simp
  | cons first rest ih =>
      have same := lines_speak state first
      have ids : (speak state first).clientIds = state.clientIds := by
        rw [← clientIds_lines, same, clientIds_lines]
      obtain ⟨fresh, later⟩ := List.nodup_cons.mp distinct
      rw [List.foldl_cons, ih later (ids ▸ stored), spoken state first id stored, same,
        List.append_assoc]
      by_cases heard : first = id
      · rw [← heard]
        simp [fresh]
      · have other : id ≠ first := fun same => heard same.symm
        simp [heard, other]

/-- Speaking to every client of the store: the D-Bus clients hear it. -/
theorem signalsTo_everyone {speak : State → Nat → State}
    (lines_speak : ∀ state id, (speak state id).lines = state.lines)
    (spoken : ∀ (state : State) addressee id, state.clientIds.Nodup →
      (speak state addressee).signalsTo id = state.signalsTo id ++
        if addressee = id ∧ (addressee, true) ∈ state.lines then [message] else [])
    (distinct : state.clientIds.Nodup) (id : Nat) :
    (state.clientIds.foldl speak state).signalsTo id =
      state.signalsTo id ++ if (id, true) ∈ state.lines then [message] else [] := by
  have stored : (id ∈ state.clientIds ∧ (id, true) ∈ state.lines) ↔ (id, true) ∈ state.lines := by
    rw [← clientIds_lines]
    exact and_iff_right_of_imp fun listed => List.mem_map_of_mem listed
  have all := signalsTo_foldl lines_speak spoken distinct distinct id
  simp only [stored] at all
  exact all

theorem signalsTo_askClients (signalling : Signalling call message)
    (distinct : state.clientIds.Nodup) (id : Nat) :
    (state.askClients call).signalsTo id =
      state.signalsTo id ++ if (id, true) ∈ state.lines then [message] else [] :=
  signalsTo_everyone (fun _ => lines_ask signalling.wiring)
    (fun _ addressee id distinct =>
      (signalsTo_ask addressee id).trans (signalsTo_tell signalling distinct addressee id))
    distinct id

theorem signalsTo_tellClients (signalling : Signalling call message)
    (distinct : state.clientIds.Nodup) (id : Nat) :
    (state.tellClients call).signalsTo id =
      state.signalsTo id ++ if (id, true) ∈ state.lines then [message] else [] :=
  signalsTo_everyone (fun _ => lines_tell signalling.wiring)
    (fun _ addressee id distinct => signalsTo_tell signalling distinct addressee id) distinct id

theorem signalsTo_startApps (id : Nat) : (state.startApps world).signalsTo id = state.signalsTo id := by
  have one : ∀ (state : State) app, (state.startApp world app).signalsTo id = state.signalsTo id := by
    intro state app
    have called := @signalsTo_emit (.startCalled app.id state.phase) id rfl
      { state with watchedApps := app.id :: state.watchedApps }
    simp only [startApp]
    split_ifs
    · rfl
    · rfl
    · rfl
    · exact called
    · exact called
  unfold startApps
  induction state.apps generalizing state with
  | nil => rfl
  | cons app apps ih => rw [List.foldl_cons, ih, one]

theorem signalsTo_advance (id : Nat) : state.advance.signalsTo id = state.signalsTo id :=
  @signalsTo_emit (.phaseEnded state.phaseEnd) id rfl
    { state.clearPhase with phase := state.phase.next }

theorem startPhase_running (running : state.phase = .running) :
    state.startPhase world = (state.resetPhase.emit .sessionRunning).updateIdle := by
  simp only [startPhase, startPhaseWith, running]

theorem signalsTo_startPhase (starting : state.phase ≤ .running) (id : Nat) :
    (state.startPhase world).signalsTo id = state.signalsTo id := by
  obtain ⟨steps, left⟩ : ∃ steps, state.phase.number + steps = 6 :=
    (Nat.exists_eq_add_of_le starting).imp fun _ same => same.symm
  induction steps generalizing state with
  | zero =>
      have running : state.phase = .running := by
        cases phase : state.phase <;> simp [phase, Phase.number] at left
        rfl
      rw [startPhase_running running]
      exact @signalsTo_emit .sessionRunning id rfl state.resetPhase
  | succ steps ih =>
      have early : state.phase < .running := by
        change state.phase.number < 6
        omega
      obtain ⟨started, starts⟩ : ∃ started, state.resetPhase.startApps world = started := ⟨_, rfl⟩
      have said : started.signalsTo id = state.signalsTo id := starts ▸ signalsTo_startApps id
      have samePhase : started.phase = state.phase := starts ▸ phase_startApps world _
      rw [startPhase_startup early starts]
      split_ifs with nobody waits
      · have startedEarly : started.phase < .running := samePhase ▸ early
        have more : started.phase ≠ .exit := fun exit => by
          rw [exit] at startedEarly
          exact absurd startedEarly (by decide)
        have number : started.advance.phase.number = state.phase.number + 1 := by
          rw [show started.advance.phase = started.phase.next from rfl, Phase.number_next more,
            samePhase]
        have next : started.advance.phase ≤ .running := by
          change started.advance.phase.number ≤ 6
          omega
        rw [endPhase_startup startedEarly, ih next (by omega), signalsTo_advance, said]
      · exact said
      · exact said

theorem signalsTo_endPhase_startup (early : state.phase < .running) (id : Nat) :
    (state.endPhase world).signalsTo id = state.signalsTo id := by
  have more : state.phase ≠ .exit := fun exit => by
    rw [exit] at early
    exact absurd early (by decide)
  have next : state.advance.phase ≤ .running := by
    change state.phase.next.number ≤ 6
    rw [Phase.number_next more]
    exact early
  rw [endPhase_startup early, signalsTo_startPhase next, signalsTo_advance]

variable (distinct : state.clientIds.Nodup)
include distinct

/-- The session is to end: every D-Bus client hears QueryEndSession. -/
theorem signalsTo_endPhase_running (running : state.phase = .running)
    (unlocked : world.logOutDisabled = false) (id : Nat) :
    (state.endPhase world).signalsTo id = state.signalsTo id ++
      if (id, true) ∈ state.lines then
        [.queryEndSession { forceful := decide (state.logoutMode = .force) }] else [] := by
  have asked := @signalsTo_askClients state.advance.resetPhase _ _
    (Client.signalling_queryEndSession { forceful := decide (state.logoutMode = .force) })
    distinct id
  rw [endPhase_running running unlocked, ← signalsTo_advance]
  exact asked

theorem signalsTo_endPhase_query (query : state.phase = .queryEndSession)
    (clients : state.clients ≠ []) (id : Nat) :
    (state.endPhase world).signalsTo id = state.signalsTo id ++
      if (id, true) ∈ state.lines then [.endSession (state.endSessionFlags world false)] else [] := by
  have asked := @signalsTo_askClients { state.advance.resetPhase with phaseTimeout := true } _ _
    (Client.signalling_endSession (state.endSessionFlags world false)) distinct id
  rw [endPhase_query query clients, ← signalsTo_advance]
  exact asked

omit distinct in
theorem signalsTo_quit (id : Nat) : state.quit.signalsTo id = state.signalsTo id := by
  unfold quit
  split
  · rfl
  · exact signalsTo_emit rfl state

theorem signalsTo_endPhase_endSession (ending : state.phase = .endSession) (id : Nat) :
    (state.endPhase world).signalsTo id =
      state.signalsTo id ++ if (id, true) ∈ state.lines then [.stop] else [] := by
  obtain ⟨saved, saving⟩ : ∃ saved, state.advance.maybeSaveSession world = saved := ⟨_, rfl⟩
  have said : saved.signalsTo id = state.signalsTo id := by
    rw [← saving, ← @signalsTo_advance state id]
    unfold maybeSaveSession
    split_ifs
    · exact signalsTo_emit rfl _
    · rfl
  have clients : saved.clients = state.clients := by
    rw [← saving]
    unfold maybeSaveSession
    split_ifs <;> rfl
  have stored : saved.resetPhase.clientIds.Nodup := by
    have ids : saved.resetPhase.clientIds = state.clientIds := congrArg (List.map Client.id) clients
    rw [ids]
    exact distinct
  have lines : saved.resetPhase.lines = state.lines := congrArg (List.map Client.line) clients
  have told := signalsTo_tellClients Client.signalling_stop stored id
  rw [endPhase_endSession ending, saving, signalsTo_quit, ← said, ← lines]
  exact told

/-- The logout is off: every D-Bus client hears CancelEndSession. -/
theorem signalsTo_cancelEndSession (late : .queryEndSession ≤ state.phase) (id : Nat) :
    (state.cancelEndSession world).signalsTo id =
      state.signalsTo id ++ if (id, true) ∈ state.lines then [.cancelEndSession] else [] := by
  obtain ⟨dropped, dropping⟩ : ∃ dropped, ({ state with inhibitDialog := none } :
      State).dropInhibitors Inhibitor.isJit = dropped := ⟨_, rfl⟩
  have kept : dropped.clients = state.clients ∧ dropped.log = state.log := by
    rw [← dropping]
    unfold dropInhibitors
    split_ifs <;> exact ⟨rfl, rfl⟩
  have ids : dropped.clientIds = state.clientIds := congrArg (List.map Client.id) kept.1
  have lines : dropped.lines = state.lines := congrArg (List.map Client.line) kept.1
  have log : dropped.signalsTo id = state.signalsTo id := by
    rw [signalsTo, kept.2]
    rfl
  have told := signalsTo_tellClients Client.signalling_cancelEndSession
    (ids ▸ distinct : dropped.clientIds.Nodup) id
  unfold cancelEndSession
  rw [if_neg (Phase.not_lt_query.mpr late)]
  simp only [dropping]
  rw [startPhase_running rfl, ← log, ← lines, ← told]
  exact (@signalsTo_emit .sessionRunning id rfl _).trans (@signalsTo_emit .sessionCancelled id rfl _)

end State

end CafeSession.Manager

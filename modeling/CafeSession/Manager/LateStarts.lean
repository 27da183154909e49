import CafeSession.Manager.Reach

namespace CafeSession.Manager

open CafeSession.Transition

/-- An app was started or restarted while the session was ending. -/
def Effect.lateStart : Effect → Bool
  | .startCalled _ phase | .restartCalled _ phase => decide (.queryEndSession ≤ phase)
  | _ => false

/-- No app has been started while the session was ending. -/
def State.Undisturbed (state : State) : Prop :=
  ∀ effect ∈ state.log, effect.lateStart = false

instance (state : State) : Decidable state.Undisturbed :=
  inferInstanceAs (Decidable (∀ effect ∈ state.log, effect.lateStart = false))

def Core.Undisturbed (core : Core) : Prop :=
  ∀ effect ∈ core.marks, effect.lateStart = false

/-- While the session ends, neither a delay nor a condition starts an app. -/
def StartsInTime (before : State) (event : Event) : Prop :=
  .queryEndSession ≤ before.phase → event.call.startsApp event.world before = false

theorem Effect.isMark_of_lateStart {effect : Effect} (late : effect.lateStart = true) :
    effect.isMark = true := by
  cases effect with
  | startCalled app phase => exact late
  | restartCalled app phase => exact late
  | _ => cases late

theorem undisturbed_core {state : State} : state.core.Undisturbed ↔ state.Undisturbed := by
  constructor
  · intro undisturbed effect member
    cases late : effect.lateStart with
    | false => rfl
    | true =>
        have mark := List.mem_filter.mpr ⟨member, Effect.isMark_of_lateStart late⟩
        exact late.symm.trans (undisturbed effect mark)
  · exact fun undisturbed effect member => undisturbed effect (List.mem_of_mem_filter member)

section

variable {world : World} {acts : Nat → Response → Prop} {drops : (Inhibitor → Bool) → Prop}
variable {state : State}

theorem Core.Undisturbed.cons {core : Core} (undisturbed : core.Undisturbed) {effect : Effect}
    (quiet : effect.lateStart = false) :
    ∀ other ∈ effect :: core.marks, other.lateStart = false :=
  List.forall_mem_cons.mpr ⟨quiet, undisturbed⟩

/-- The end of a phase starts apps before the session ends only. -/
theorem undisturbed_endPhase (undisturbed : state.core.Undisturbed) :
    (state.endPhase world).core.Undisturbed := by
  obtain ⟨news, ended, _, kept⟩ := (@State.endPhase_frame world state).kept
  rw [kept]
  intro effect member
  rcases List.mem_append.mp member with new | old
  · obtain ⟨_, rfl⟩ := ended effect new
    rfl
  · exact undisturbed effect old

theorem undisturbedRules {Given : Core → Prop} :
    Rules world acts drops Given Core.Undisturbed where
  taken _ _ _ _ _ undisturbed _ := undisturbed
  inhibited _ _ _ _ _ _ _ _ _ undisturbed _ := undisturbed
  dropped _ _ _ _ _ undisturbed := undisturbed
  closed _ _ _ _ _ _ _ _ _ undisturbed := undisturbed.cons rfl
  accepted core _ action forced _ _ _ _ _ _ undisturbed same := by
    refine undisturbed_endPhase ?_
    rw [same]
    exact undisturbed.cons rfl
  completed _ _ undisturbed _ _ _ := undisturbed_endPhase undisturbed
  opened _ _ undisturbed _ _ _ := undisturbed
  deferred _ _ _ _ _ _ undisturbed _ := undisturbed
  moved _ _ _ _ undisturbed _ _ := undisturbed
  ended _ _ undisturbed _ _ _ := undisturbed_endPhase undisturbed
  cancelled _ _ _ _ _ _ undisturbed ending := by
    rw [State.core_cancelEndSession ending]
    exact undisturbed.cons rfl

theorem undisturbedDepartures : Departures world acts drops Core.Undisturbed where
  rules := undisturbedRules
  gone _ _ _ _ undisturbed _ := undisturbed
  noted _ _ _ undisturbed := undisturbed.cons rfl

end

theorem undisturbed_routine {before after : Core} (moved : before.Routine after)
    (undisturbed : before.Undisturbed) : after.Undisturbed := by
  induction moved with
  | trans _ _ first second => exact second (first undisturbed)
  | started early noted starts =>
      obtain ⟨news, startup, _, kept⟩ := starts.kept
      rw [kept]
      intro effect member
      rcases List.mem_append.mp member with new | old
      · obtain ⟨_, rfl, _⟩ := startup effect new
        rfl
      · rcases noted with rfl | rfl
        · exact undisturbed effect old
        · exact undisturbed.cons rfl effect old
  | closed => exact undisturbed.cons rfl
  | _ => exact undisturbed

theorem undisturbed_turn {before : State} {event : Event} {after : Core}
    (shaped : before.core.Shaped) (undisturbed : before.core.Undisturbed)
    (inTime : StartsInTime before event) (turn : Turn event.world before event.call after) :
    after.Undisturbed := by
  have rules := @undisturbedRules event.world (fun _ _ => True) (fun _ => True) (fun _ => True)
  cases turn with
  | routine moved => exact undisturbed_routine moved undisturbed
  | connected asked connects moved => exact undisturbed_routine moved undisturbed
  | answered answer stored same handled =>
      rw [handled]
      exact rules.handle trivial trivial (by rw [same]; exact undisturbed)
  | called asked late same => exact absurd asked (by simp [inTime late])
  | departed departing =>
      have departures := @undisturbedDepartures event.world (fun _ _ => True) (fun _ => True)
      exact (departures.departed (fun _ _ holds _ _ => undisturbed_endPhase holds)
        (fun _ _ => trivial) (fun _ _ => trivial) (fun _ _ => trivial) departing
        ⟨shaped, undisturbed⟩).2
  | uninhibited asked found removed =>
      rw [removed]
      exact rules.removeInhibitors trivial trivial undisturbed
  | asked running unlocked closed typed same ended =>
      rw [ended]
      exact undisturbed_endPhase (by rw [same]; exact undisturbed)
  | confirmed late opened normal answer ends typed same ended =>
      rw [ended]
      exact undisturbed_endPhase (by rw [same]; exact undisturbed)
  | @cancelled action response opened ends asked refused handled =>
      have late := (shaped.dialog action opened ends).1
      rw [handled, @State.core_cancelEndSession event.world (before.answerDialog action response) late]
      exact List.forall_mem_cons.mpr ⟨rfl, undisturbed.cons rfl⟩
  | accepted opened ends asked handled =>
      rw [handled]
      exact undisturbed_endPhase (undisturbed.cons rfl)
  | queryTimedOut asked armed fired =>
      rw [fired]
      exact rules.onQueryEndSessionTimeout (shaped.asked armed) fun _ _ => undisturbed
  | phaseTimedOut asked armed ending fired =>
      rw [fired]
      exact undisturbed_endPhase (undisturbed.cons rfl)

/-- The two callbacks do not look at the phase. -/
theorem startsApp_logged {world : World} {before after : State} {call : Call}
    (asked : call.startsApp world before = true)
    (performed : before.perform world call = some after) :
    ∃ id, .startCalled id before.phase ∈ after.log := by
  cases call with
  | autostartDelayTimeout id =>
      obtain ⟨_, app, found, rfl⟩ := by simpa [State.perform] using performed
      have enabled : world.appDisabled app.id = false := by
        rw [State.app?_id found]
        simpa [Call.startsApp] using asked
      exact ⟨app.id, by simp [State.autostartDelayTimeout, enabled, State.emit]⟩
  | conditionChanged id condition =>
      obtain ⟨_, app, found, rfl⟩ := by simpa [State.perform] using performed
      cases condition with
      | false => cases asked
      | true =>
          have stopped : (!world.appRunning app.id &&
              (before.clients.find? (Client.hasStartupId app.startupId)).isNone) = true := by
            rw [State.app?_id found]
            simpa [Call.startsApp, found] using asked
          refine ⟨app.id, ?_⟩
          unfold State.appConditionChanged
          simp only [if_true, stopped]
          exact List.mem_cons_self
  | _ => cases asked

theorem step_undisturbed_iff {before after : State} {event : Event}
    (reached : managerSystem.Reachable before) (undisturbed : before.Undisturbed)
    (stepped : before.step event = some after) :
    after.Undisturbed ↔ StartsInTime before event := by
  have shaped := shaped_reached reached
  obtain ⟨alive, turn⟩ := State.step_turn shaped stepped
  constructor
  · intro still late
    cases asked : event.call.startsApp event.world before with
    | false => rfl
    | true =>
        rw [State.step, alive] at stepped
        obtain ⟨id, logged⟩ := startsApp_logged asked stepped
        have quiet := still _ logged
        simp [Effect.lateStart, late] at quiet
  · intro inTime
    exact undisturbed_core.mp
      (undisturbed_turn shaped (undisturbed_core.mpr undisturbed) inTime turn)

theorem undisturbed_start {start : State} (initial : managerSystem.initial start) :
    start.Undisturbed := by
  obtain ⟨world, apps, _, rfl⟩ := initial
  exact undisturbed_core.mp (undisturbed_routine (State.start_routine world apps) nofun)

/-- No app is started while the session ends, exactly in the runs in which neither
a delay runs out for an enabled app then, nor a condition comes true for an app
that does not run and has no client. -/
theorem no_late_start_iff {start finish : State} {events : List Event}
    (initial : managerSystem.initial start) (run : managerSystem.run start events = some finish) :
    managerSystem.Always State.Undisturbed start events ↔
      managerSystem.Meets StartsInTime start events :=
  System.always_iff_meets managerSystem.Reachable State.Undisturbed
    (fun _ _ _ reached stepped => .step reached trivial stepped)
    (fun _ _ _ reached undisturbed stepped => step_undisturbed_iff reached undisturbed stepped)
    run (.initial initial) (undisturbed_start initial)

/-- An app that is started some seconds after the session has come up. -/
def delayedApp : App where
  id := "/org/gnome/SessionManager/App1"
  appId := "updates.desktop"
  startupId := "106c5a1"
  phase := .application
  autostartDelay := 20
  autorestart := false

/-- The delay has run out before the logout. -/
theorem no_late_start_of_early_delay :
    managerSystem.Always State.Undisturbed (State.start .permissive [delayedApp])
      [⟨.permissive, .autostartDelayTimeout delayedApp.id⟩, ⟨.permissive, .logout 2⟩] := by
  have initial : managerSystem.initial (State.start .permissive [delayedApp]) :=
    ⟨.permissive, [delayedApp], by decide, rfl⟩
  refine (no_late_start_iff initial rfl).mpr ⟨fun late => absurd late (by decide), fun next _ => ?_⟩
  exact ⟨fun _ => rfl, fun _ _ => trivial⟩

/-- The delay of an app runs out while the clients are asked whether the session may end. -/
theorem delayed_app_starts_during_logout :
    ∃ state, managerSystem.run (State.start .permissive [delayedApp])
        [⟨.permissive, .logout 2⟩, ⟨.permissive, .autostartDelayTimeout delayedApp.id⟩] =
          some state ∧
      state.phase = .queryEndSession ∧ ¬ state.Undisturbed := by
  refine ⟨_, rfl, ?_, ?_⟩ <;> decide

end CafeSession.Manager

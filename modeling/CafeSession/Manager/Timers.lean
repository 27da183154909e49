import CafeSession.Manager.Reach

namespace CafeSession.Manager

open CafeSession.Transition

structure Core.Timed (core : Core) : Prop where
  armed : core.phaseTimeout = true ↔
    core.phase < .application ∧ core.pendingApps ≠ [] ∨ core.phase = .endSession
  followed : core.registeredHandlers = core.pendingApps
  pending : core.pendingApps ≠ [] → core.phase < .application
  distinct : core.pendingApps.Nodup
  apps : core.appIds.Nodup

namespace Core

theorem Timed.idle {core : Core} (timed : core.Timed) (late : .running ≤ core.phase) :
    core.pendingApps = [] := by
  by_contra waits
  exact absurd (timed.pending waits) (Nat.not_lt.mpr (Nat.le_of_succ_le late))

theorem Timed.unfollowed {core : Core} (timed : core.Timed) (late : .running ≤ core.phase) :
    core.registeredHandlers = [] :=
  timed.followed.trans (timed.idle late)

/-- With nothing to wait for, only the end-session phase has the timeout armed. -/
theorem timed_of_idle {core : Core} (followed : core.registeredHandlers = [])
    (pending : core.pendingApps = []) (apps : core.appIds.Nodup)
    (armed : core.phaseTimeout = true ↔ core.phase = .endSession) : core.Timed where
  armed := by simp [armed, pending]
  followed := followed.trans pending.symm
  pending := fun waits => absurd pending waits
  distinct := by
    rw [pending]
    exact List.nodup_nil
  apps := apps

theorem Started.timed_of {before after : Core} (starts : before.Started after)
    (unfollowed : before.registeredHandlers = []) (apps : before.appIds.Nodup) : after.Timed := by
  obtain ⟨news, _, _, kept⟩ := starts.kept
  have notEnding : after.phase ≠ .endSession := by
    intro ending
    have bound := starts.phase
    rw [ending] at bound
    exact absurd bound (by decide)
  have sameApps : after.appIds = before.appIds := by rw [kept]
  refine ⟨?_, ?_, starts.pending, (List.nodup_reverse.mpr apps).sublist starts.apps, ?_⟩
  · simp only [starts.timed, notEnding, or_false]
    exact ⟨fun waits => ⟨starts.pending waits, waits⟩, fun both => both.2⟩
  · have handlers := congrArg Core.registeredHandlers kept
    simpa [unfollowed] using handlers
  · rw [sameApps]
    exact apps

end Core

section

variable {world : World} {acts : Nat → Response → Prop} {drops : (Inhibitor → Bool) → Prop}
variable {state : State}

theorem timed_endPhase (late : .running ≤ state.phase) (unfollowed : state.registeredHandlers = [])
    (apps : state.core.appIds.Nodup) : (state.endPhase world).core.Timed := by
  have ending := State.endPhase_ending world state
  generalize (state.endPhase world).core = after at ending ⊢
  cases ending with
  | startup early starts => exact absurd early (Nat.not_lt.mpr late)
  | locked running locked => exact Core.timed_of_idle unfollowed rfl apps (by simp [State.core, running])
  | asked | ending => exact Core.timed_of_idle unfollowed rfl apps (by simp)
  | emptied | ended | quit => exact Core.timed_of_idle unfollowed rfl apps (by simp [Core.quit])

theorem timed_cancelEndSession (timed : state.core.Timed) (ending : .queryEndSession ≤ state.phase) :
    (state.cancelEndSession world).core.Timed := by
  have late : .running ≤ state.core.phase := Phase.running_le_of_query_le ending
  rw [State.core_cancelEndSession ending]
  exact Core.timed_of_idle (timed.unfollowed late) rfl timed.apps (by simp)

/-- The phase is left by a state that only differs in what the timers do not depend on. -/
theorem timed_left {core : Core} (timed : core.Timed) (late : .running ≤ core.phase)
    (phase : state.phase = core.phase)
    (handlers : state.registeredHandlers = core.registeredHandlers)
    (apps : state.core.appIds = core.appIds) : (state.endPhase world).core.Timed := by
  refine timed_endPhase ?_ (handlers.trans (timed.unfollowed late)) ?_
  · rw [phase]
    exact late
  · rw [apps]
    exact timed.apps

theorem timedRules : Rules world acts drops Core.Shaped Core.Timed where
  taken _ _ _ _ _ timed _ := { timed with }
  inhibited _ _ _ _ _ _ _ _ _ timed _ := { timed with }
  dropped _ _ _ _ _ timed := { timed with }
  closed _ _ _ _ _ _ _ _ _ timed := { timed with }
  accepted core _ action forced _ opened ends _ _ shaped timed same :=
    timed_left timed (Phase.running_le_of_query_le (shaped.dialog action opened ends).1)
      (congrArg Core.phase same) (congrArg Core.registeredHandlers same)
      (by rw [same])
  completed state _ timed query _ _ := by
    have late : .running ≤ state.core.phase := by
      rw [show state.core.phase = .queryEndSession from query]
      exact Phase.running_le_query
    exact timed_left timed late rfl rfl rfl
  opened _ _ timed _ _ _ := { timed with }
  deferred _ _ _ _ _ _ timed _ := { timed with }
  moved _ _ _ _ timed _ _ := { timed with }
  ended state _ timed ending _ _ := by
    have late : .running ≤ state.core.phase := by
      rw [show state.core.phase = .endSession from ending]
      exact Phase.running_le_endSession
    exact timed_left timed late rfl rfl rfl
  cancelled _ _ _ _ _ _ timed ending := timed_cancelEndSession timed ending

theorem timedDepartures : Departures world acts drops Core.Timed where
  rules := timedRules
  gone _ _ _ _ timed _ := { timed with }
  noted _ _ _ timed := { timed with }

end

theorem timed_routine {before after : Core} (moved : before.Routine after)
    (timed : before.Timed) : after.Timed := by
  induction moved with
  | trans _ _ first second => exact second (first timed)
  | @registered core id waits =>
      have some_ : core.pendingApps ≠ [] := fun none_ => waits (by rw [none_]; rfl)
      have early := timed.pending some_
      exact { timed with
        armed := by
          rw [timed.armed]
          simp [some_, waits]
        followed := by
          rw [timed.followed, timed.distinct.erase_eq_filter]
        pending := fun _ => early
        distinct := timed.distinct.erase id }
  | started early noted starts => exact starts.timed_of rfl timed.apps
  | locked core running closed unforced =>
      exact Core.timed_of_idle (timed.unfollowed (Phase.running_late running)) rfl timed.apps
        (by simp [running])
  | _ => exact { timed with }

theorem timed_turn {before : State} {event : Event} {after : Core} (shaped : before.core.Shaped)
    (timed : before.core.Timed) (turn : Turn event.world before event.call after) :
    after.Timed := by
  have rules := (State.shapedRules event.world (fun _ _ => True) (fun _ => True)).both
    timedRules fun _ _ given => given
  cases turn with
  | routine moved => exact timed_routine moved timed
  | connected asked connects moved => exact timed_routine moved { timed with }
  | answered answer stored same handled =>
      rw [← same] at shaped timed
      rw [handled]
      exact (rules.handle trivial trivial ⟨shaped, timed⟩).2
  | called asked late same =>
      rw [same]
      exact { timed with }
  | departed departing =>
      have departures := @timedDepartures event.world (fun _ _ => True) (fun _ => True)
      have emptied : Emptied event.world Core.Timed := fun state _ timed ending _ =>
        timed_left timed (Phase.running_le_of_query_le ending) rfl rfl rfl
      exact (departures.departed emptied (fun _ _ => trivial) (fun _ _ => trivial)
        (fun _ _ => trivial) departing ⟨shaped, timed⟩).2
  | uninhibited asked found removed =>
      rw [removed]
      exact (rules.removeInhibitors trivial trivial ⟨shaped, timed⟩).2
  | asked running unlocked closed typed same ended =>
      rw [ended]
      exact timed_left timed (Phase.running_late running) (congrArg Core.phase same)
        (congrArg Core.registeredHandlers same) (by rw [same])
  | confirmed late opened normal answer ends typed same ended =>
      rw [ended]
      exact timed_left timed (Phase.running_le_of_query_le late) (congrArg Core.phase same)
        (congrArg Core.registeredHandlers same) (by rw [same])
  | @cancelled action response opened ends asked refused handled =>
      have noted : (before.answerDialog action response).core.Timed := { timed with }
      rw [handled]
      exact timed_cancelEndSession noted (shaped.dialog action opened ends).1
  | @accepted action opened ends asked handled =>
      rw [handled]
      exact timed_left timed (Phase.running_le_of_query_le (shaped.dialog action opened ends).1)
        rfl rfl rfl
  | queryTimedOut asked armed fired =>
      have query := shaped.asked armed
      rw [fired]
      exact (rules.onQueryEndSessionTimeout query fun inhibitors added =>
        ⟨shaped.unanswered query added, { timed with }⟩).2
  | phaseTimedOut asked armed ending fired =>
      have late : .running ≤ before.core.phase := by
        rw [show before.core.phase = .endSession from ending]
        exact Phase.running_le_endSession
      rw [fired]
      exact timed_left timed late rfl rfl rfl

theorem timed_reached {state : State} (reached : managerSystem.Reachable state) :
    state.core.Timed := by
  refine reached_invariant (fun apps distinct => ?_) (fun _ _ => timed_routine) ?_ reached
  · exact Core.timed_of_idle rfl rfl distinct (by simp [State.created, State.core])
  · exact fun before event after shaped timed _ turn => timed_turn shaped timed turn

/-- In every reachable state the timeouts are armed and the apps are followed
exactly as the phase needs it, and the signal of an app that is not waited for,
as in every phase from the application phase on, does nothing. -/
theorem timers_match_phase {state : State} (reached : managerSystem.Reachable state) :
    (state.phaseTimeout = true ↔
      state.phase < .application ∧ state.pendingApps ≠ [] ∨ state.phase = .endSession) ∧
    (state.queryTimeout = true → state.phase = .queryEndSession) ∧
    (state.pendingApps ≠ [] → state.phase < .application) ∧
    (∀ id, id ∈ state.registeredHandlers ↔ id ∈ state.pendingApps) ∧
    ∀ (world : World) (id : String), id ∉ state.pendingApps →
      state.appRegistered world id = state := by
  have timed := timed_reached reached
  have followed : state.registeredHandlers = state.pendingApps := timed.followed
  refine ⟨timed.armed, (shaped_reached reached).asked, timed.pending, fun id => ?_,
    fun world id gone => ?_⟩
  · rw [followed]
  · unfold State.appRegistered
    rw [if_neg (by simpa [followed] using gone)]

def panelApp : App where
  id := "/org/gnome/SessionManager/App1"
  appId := "panel.desktop"
  startupId := "106c5a1"
  phase := .panel
  autostartDelay := 0
  autorestart := true

/-- The session waits for its panel, with the timeout armed. -/
theorem panel_is_waited_for :
    (State.start .permissive [panelApp]).phaseTimeout = true ∧
      panelApp.id ∈ (State.start .permissive [panelApp]).registeredHandlers := by
  have initial : managerSystem.initial (State.start .permissive [panelApp]) :=
    ⟨.permissive, [panelApp], by decide, rfl⟩
  obtain ⟨armed, _, _, followed, _⟩ := timers_match_phase (.initial initial)
  exact ⟨armed.mpr (.inl (by decide)), (followed panelApp.id).mpr (by decide)⟩

end CafeSession.Manager

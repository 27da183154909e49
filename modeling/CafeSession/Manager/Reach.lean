import CafeSession.Manager.Turns

namespace CafeSession.Manager

open CafeSession.Transition

namespace Core

variable {before after : Core}

theorem Routine.shaped (moved : before.Routine after) (shaped : before.Shaped) : after.Shaped := by
  induction moved with
  | refl => exact shaped
  | trans _ _ first second => exact second (first shaped)
  | added core wiring =>
      exact { shaped with
        distinct := by
          refine List.nodup_append.mpr ⟨shaped.distinct, List.nodup_singleton _, ?_⟩
          rintro id member _ new rfl
          exact Nat.lt_irrefl _ (List.mem_singleton.mp new ▸ shaped.fresh id member)
        fresh := fun id member => by
          rcases List.mem_append.mp member with old | new
          · exact Nat.lt_succ_of_lt (shaped.fresh id old)
          · rw [List.mem_singleton.mp new]
            exact Nat.lt_succ_self _
        waiting := fun query => ⟨(shaped.waiting query).1, fun id member =>
          List.mem_append_left _ ((shaped.waiting query).2 id member)⟩ }
  | renamed core id startupId => exact { shaped with }
  | @registered core id waits =>
      exact { shaped with
        pending := fun _ => shaped.pending fun none_ => waits (by rw [none_]; rfl)
        handlers := fun other followed => by
          obtain ⟨followed, different⟩ := List.mem_filter.mp followed
          exact (List.mem_erase_of_ne (by simpa using different)).mpr
            (shaped.handlers other followed) }
  | started early noted starts =>
      refine starts.shaped early rfl { shaped with
        timed := fun timed => by cases timed
        pending := fun some_ => absurd rfl some_
        handlers := List.forall_mem_nil _ }
  | locked core running closed unforced => exact shaped.cleared running _ _
  | inhibited core called unforced =>
      exact { shaped with
        jit := fun other member jit => by
          rcases List.mem_append.mp member with old | new
          · exact shaped.jit other old jit
          · rw [List.mem_singleton.mp new, Inhibitor.isJit, called] at jit
            cases jit }
  | shown core dialog running =>
      exact { shaped with
        shown := fun _ => by
          rw [running]
          exact Phase.running_le_running }
  | hidden core => exact { shaped with shown := fun some_ => absurd rfl some_ }
  | presented core stays =>
      exact { shaped with
        dialog := fun other opened ends => by
          cases dialog : core.inhibitDialog with
          | none =>
              rw [dialog] at opened
              cases opened
              cases stays.symm.trans ends
          | some action =>
              rw [dialog] at opened
              cases opened
              exact shaped.dialog action dialog ends }
  | closed core response opened stays =>
      exact { shaped with
        dialog := fun other open_ => by cases open_ }
  | faulted core opened other =>
      exact { shaped with
        fault := fun quit => by cases quit }

end Core

namespace State

variable {world : World} {before after state : State} {call : Call}

theorem shaped_turn {after : Core} (shaped : before.core.Shaped)
    (turn : Turn world before call after) : after.Shaped := by
  have departures := shapedDepartures world (fun _ _ => True) (fun _ => True)
  have rules := shapedRules world (fun _ _ => True) (fun _ => True)
  cases turn with
  | routine moved => exact moved.shaped shaped
  | connected asked connects moved => exact moved.shaped { shaped with }
  | answered answer stored same handled =>
      rw [← same] at shaped
      rw [handled]
      exact rules.handle trivial trivial shaped
  | called asked late same =>
      rw [same]
      exact { shaped with }
  | departed departing =>
      exact (departures.departed (fun _ _ _ _ _ => trivial) (fun _ _ => trivial)
        (fun _ _ => trivial) (fun _ _ => trivial) departing ⟨shaped, trivial⟩).1
  | uninhibited asked found removed =>
      rw [removed]
      exact rules.removeInhibitors trivial trivial shaped
  | @asked leaving mode type dialog running unlocked closed typed same ended =>
      have left : leaving.core.Shaped := by
        rw [same]
        exact { shaped with
          shown := fun _ => Phase.running_late running
          typed := fun _ => typed }
      have late : .running ≤ leaving.phase := by
        rw [show leaving.phase = before.phase from congrArg Core.phase same, running]
        exact Phase.running_le_running
      rw [ended]
      exact shaped_endPhase left late fun _ => (congrArg Core.logoutType same).trans_ne typed
  | @confirmed leaving dialog response mode type late opened normal answer ends typed same ended =>
      have left : leaving.core.Shaped := by
        rw [same]
        exact { shaped with
          shown := fun some_ => absurd rfl some_
          typed := fun _ => typed }
      have phase : leaving.phase = before.phase := congrArg Core.phase same
      rw [ended]
      exact shaped_endPhase left (phase ▸ Phase.running_le_of_query_le late)
        fun _ => (congrArg Core.logoutType same).trans_ne typed
  | cancelled opened ends asked refused handled =>
      rw [handled]
      exact shaped_cancelEndSession { shaped with dialog := nofun }
  | @accepted action opened ends asked handled =>
      have closed : ({ before.answerDialog action .accept with logoutMode := .force } :
          State).core.Shaped := { shaped with dialog := nofun }
      have late := (shaped.dialog action opened ends).1
      rw [handled]
      exact shaped_endPhase closed (Phase.running_le_of_query_le late) fun _ => shaped.typed late
  | queryTimedOut asked armed fired =>
      have query : before.phase = .queryEndSession := shaped.asked armed
      rw [fired]
      exact rules.onQueryEndSessionTimeout query fun inhibitors added =>
        shaped.unanswered query added
  | phaseTimedOut asked armed ending fired =>
      have late : .running ≤ before.phase := by
        rw [ending]
        exact Phase.running_le_endSession
      have noted : (({ before with phaseTimeout := false } : State).emit
          (.phaseTimedOut before.phase)).core.Shaped := { shaped with timed := nofun }
      rw [fired]
      exact shaped_endPhase noted late fun running =>
        absurd (ending.symm.trans running) (by decide)

theorem step_turn {event : Event} (shaped : before.core.Shaped)
    (stepped : before.step event = some after) :
    before.fault = none ∧ Turn event.world before event.call after.core := by
  unfold step at stepped
  cases fault : before.fault with
  | some _ => simp [fault] at stepped
  | none =>
      rw [fault] at stepped
      exact ⟨rfl, perform_turn shaped stepped⟩

theorem shaped_created (apps : List App) : (created apps).core.Shaped := by
  have notEnding : ¬ Phase.queryEndSession ≤ Phase.initialization := by decide
  exact ⟨List.nodup_nil, nofun, nofun, fun some_ => absurd rfl some_, nofun,
    fun some_ => absurd rfl some_, fun some_ => absurd rfl some_, nofun, nofun, nofun,
    fun some_ => absurd rfl some_, fun ending => absurd ending notEnding, nofun, nofun, nofun⟩

/-- The phases before the main loop runs make routine moves. -/
theorem start_routine (world : World) (apps : List App) :
    (created apps).core.Routine (State.start world apps).core := by
  have early : Phase.initialization < .running := by decide
  have starting : Phase.initialization ≤ .running := by decide
  exact .started early (.inl rfl) (core_startPhase starting)

end State

theorem shaped_reached {state : State} (reached : managerSystem.Reachable state) :
    state.core.Shaped := by
  induction reached with
  | initial first =>
      obtain ⟨world, apps, _, rfl⟩ := first
      exact (State.start_routine world apps).shaped (State.shaped_created apps)
  | step _ _ stepped ih => exact State.shaped_turn ih (State.step_turn ih stepped).2

/-- The invariant rule for the reachable states: what the routine moves keep
from the creation on, and the turns that meet the condition keep. -/
theorem reached_invariant {condition : State → Event → Prop} {P : Core → Prop}
    (created : ∀ apps : List App, (apps.map App.id).Nodup → P (State.created apps).core)
    (routine : ∀ before after : Core, before.Routine after → P before → P after)
    (kept : ∀ (before : State) (event : Event) (after : Core), before.core.Shaped →
      P before.core → condition before event → Turn event.world before event.call after → P after)
    {state : State} (reached : managerSystem.ReachableBy condition state) : P state.core := by
  induction reached with
  | initial first =>
      obtain ⟨world, apps, distinct, rfl⟩ := first
      exact routine _ _ (State.start_routine world apps) (created apps distinct)
  | step before meets stepped ih =>
      have shaped := shaped_reached before.reachable
      exact kept _ _ _ shaped ih meets (State.step_turn shaped stepped).2

end CafeSession.Manager

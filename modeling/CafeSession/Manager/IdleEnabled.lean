import CafeSession.Manager.Passages

namespace CafeSession.Manager

open CafeSession.Xsmp

namespace State

/-- What idle detection depends on: the store, the bit, and whether the session has run. -/
def idleView (state : State) : List Inhibitor × Bool × Bool :=
  (state.inhibitors, state.idleEnabled, decide (.sessionRunning ∈ state.log))

def IdleFollows (state : State) : Prop :=
  .sessionRunning ∈ state.log → state.idleEnabled = !state.idleInhibited

variable {world : World} {state before after : State}

namespace IdleFollows

theorem of_view (holds : before.IdleFollows) (same : after.idleView = before.idleView) :
    after.IdleFollows := by
  simp only [idleView, Prod.mk.injEq, decide_eq_decide] at same
  obtain ⟨inhibitors, enabled, ran⟩ := same
  intro runs
  rw [enabled, idleInhibited, inhibitors]
  exact holds (ran.mp runs)

theorem updateIdle : state.updateIdle.IdleFollows := fun _ => rfl

theorem emit (holds : state.IdleFollows) {effect : Effect} (other : effect ≠ .sessionRunning) :
    (state.emit effect).IdleFollows :=
  holds.of_view (by simp [idleView, State.emit, other.symm])

theorem aside (holds : before.IdleFollows) (same : before.Aside after) : after.IdleFollows := by
  obtain ⟨news, quiet, logged⟩ := same.log
  refine holds.of_view ?_
  have ran : (Effect.sessionRunning ∈ after.log) = (.sessionRunning ∈ before.log) := by
    simp [logged, quiet]
  simp only [idleView, same.inhibitors, same.idleEnabled, ran]

theorem startApp (holds : state.IdleFollows) (app : App) :
    (state.startApp world app).IdleFollows := by
  have called : ({ state with watchedApps := app.id :: state.watchedApps }.emit
      (.startCalled app.id state.phase)).IdleFollows :=
    emit holds nofun
  simp only [State.startApp]
  split_ifs
  · exact holds
  · exact holds
  · exact holds
  · exact called
  · exact called

theorem stages (holds : before.IdleFollows) (moved : Stages world before after) :
    after.IdleFollows := by
  induction moved with
  | refl => exact holds
  | @tail middle _ _ last ih =>
      cases last with
      | aside same => exact ih.aside same
      | cleared => exact ih
      | reset => exact ih
      | advanced => exact ih.of_view (by simp [idleView, State.advance, clearPhase])
      | called app => exact ih.startApp app
      | ran => exact updateIdle

theorem changes (holds : before.IdleFollows) (made : Changes world before after) :
    after.IdleFollows := by
  induction made with
  | refl => exact holds
  | @tail middle _ _ last ih =>
      cases last with
      | aside same => exact ih.aside same
      | restocked inhibitors => exact updateIdle
      | registered => exact ih
      | ended => exact ih.stages (stages_endPhase middle)
      | lastRegistered id =>
          have registered : ({ middle.unpend id with phaseTimeout := false } : State).IdleFollows :=
            ih
          exact registered.stages (stages_endPhase _)
      | resumed ending =>
          have resumed : ({ middle with phase := .running } : State).IdleFollows := ih
          exact resumed.stages (stages_startPhase _)

theorem passage {call : Call} (holds : before.IdleFollows)
    (passage : Passage world call before after) : after.IdleFollows := by
  induction passage with
  | changed made => exact holds.changes made
  | trans _ _ first second => exact second (first holds)
  | @left before middle id made =>
      have forgotten : ({ before with
          conditionClients := before.conditionClients.erase id } : State).IdleFollows := holds
      have left : middle.IdleFollows := forgotten.changes made
      exact left
  | joined => exact holds
  | listed => exact holds
  | renamed => exact holds

end IdleFollows

end State

theorem idleFollows_reached {state : State} (reached : managerSystem.Reachable state) :
    state.IdleFollows := by
  refine reached.invariant ?_ ?_
  · rintro first ⟨world, apps, _, rfl⟩
    have created : (State.created apps).IdleFollows := nofun
    exact created.stages (State.stages_startPhase _)
  · intro before event after holds _ stepped
    exact holds.passage (State.passage_perform (State.step_performed stepped))

end CafeSession.Manager

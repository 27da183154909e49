import Mathlib.Logic.Relation
import CafeSession.Manager.Core

namespace CafeSession.Manager

open CafeSession.Xsmp

def Client.name (client : Client) : Nat × String := (client.id, client.startupId)

namespace State

def names (state : State) : List (Nat × String) := state.clients.map Client.name

/-- A change beside the phases and the stores. -/
structure Aside (before after : State) : Prop where
  apps : after.apps = before.apps
  phase : after.phase = before.phase
  names : after.names = before.names
  conditionClients : after.conditionClients = before.conditionClients
  watchedApps : after.watchedApps = before.watchedApps
  inhibitors : after.inhibitors = before.inhibitors
  idleEnabled : after.idleEnabled = before.idleEnabled
  pendingApps : after.pendingApps = before.pendingApps
  log : ∃ news, .sessionRunning ∉ news ∧ after.log = news ++ before.log

variable {world : World} {state before middle after : State}
variable {call : Client → Except String (Client × List ClientMessage)}

namespace Aside

theorem refl (state : State) : state.Aside state where
  apps := rfl
  phase := rfl
  names := rfl
  conditionClients := rfl
  watchedApps := rfl
  inhibitors := rfl
  idleEnabled := rfl
  pendingApps := rfl
  log := ⟨[], List.not_mem_nil, rfl⟩

theorem trans (first : before.Aside middle) (second : middle.Aside after) :
    before.Aside after where
  apps := second.apps.trans first.apps
  phase := second.phase.trans first.phase
  names := second.names.trans first.names
  conditionClients := second.conditionClients.trans first.conditionClients
  watchedApps := second.watchedApps.trans first.watchedApps
  inhibitors := second.inhibitors.trans first.inhibitors
  idleEnabled := second.idleEnabled.trans first.idleEnabled
  pendingApps := second.pendingApps.trans first.pendingApps
  log := by
    obtain ⟨earlier, quiet, logged⟩ := first.log
    obtain ⟨later, laterQuiet, laterLogged⟩ := second.log
    refine ⟨later ++ earlier, ?_, by rw [laterLogged, logged, List.append_assoc]⟩
    rw [List.mem_append, not_or]
    exact ⟨laterQuiet, quiet⟩

theorem foldl {Item : Type} {step : State → Item → State}
    (kept : ∀ state item, Aside state (step state item)) (items : List Item) (state : State) :
    state.Aside (items.foldl step state) := by
  induction items generalizing state with
  | nil => exact refl state
  | cons item items ih => exact (kept state item).trans (ih _)

end Aside

theorem aside_emit {effect : Effect} (other : effect ≠ .sessionRunning) :
    state.Aside (state.emit effect) :=
  { Aside.refl state with log := ⟨[effect], by simpa using other.symm, rfl⟩ }

theorem names_updateClient {update : Client → Client}
    (same : ∀ client, (update client).name = client.name) (id : Nat) (state : State) :
    (state.updateClient id update).names = state.names := by
  simp only [names, updateClient, List.map_map]
  apply List.map_congr_left
  intro client _
  simp only [Function.comp]
  split_ifs
  · exact same client
  · rfl

theorem aside_updateClient {update : Client → Client}
    (same : ∀ client, (update client).name = client.name) (id : Nat) (state : State) :
    state.Aside (state.updateClient id update) :=
  { Aside.refl state with names := names_updateClient same id state }

theorem name_told (keeps : KeepsWiring call) (client : Client) :
    (told call client).name = client.name :=
  congrArg (fun wiring : Wiring => (wiring.id, wiring.startupId)) (keeps client)

theorem aside_tell (keeps : KeepsWiring call) (state : State) (id : Nat) :
    state.Aside (state.tell call id) := by
  unfold tell
  split
  · next messages _ =>
      have updated := aside_updateClient (name_told keeps) id state
      refine updated.trans { Aside.refl _ with
        log := ⟨(messages.map (Effect.sent id)).reverse, ?_, rfl⟩ }
      simp
  · exact Aside.refl state

theorem aside_ask (keeps : KeepsWiring call) (state : State) (id : Nat) :
    state.Aside (state.ask call id) := by
  unfold ask
  split
  · exact { aside_tell keeps state id with }
  · exact Aside.refl state

theorem aside_quit (state : State) : state.Aside state.quit := by
  unfold quit
  split
  · exact { Aside.refl state with }
  · exact aside_emit nofun

theorem aside_maybeSaveSession (world : World) (state : State) :
    state.Aside (state.maybeSaveSession world) := by
  unfold maybeSaveSession
  split_ifs
  · exact aside_emit nofun
  · exact Aside.refl state

theorem aside_doPhaseQueryEndSession (state : State) : state.Aside state.doPhaseQueryEndSession :=
  { Aside.foldl (aside_ask (Client.keepsWiring_queryEndSession _)) state.clientIds state with }

theorem aside_endSessionOfClients (world : World) (state : State) :
    state.Aside (state.endSessionOfClients world) := by
  have timed : state.Aside { state with phaseTimeout := true } := { Aside.refl state with }
  exact timed.trans (Aside.foldl (aside_ask (Client.keepsWiring_endSession _)) state.clientIds _)

theorem aside_tellClients (keeps : KeepsWiring call) (state : State) :
    state.Aside (state.tellClients call) :=
  Aside.foldl (aside_tell keeps) state.clientIds state

end State

open State in
/-- What `end_phase` and `start_phase` do on their way. -/
inductive Stage (world : World) : State → State → Prop
  | aside {before after : State} (same : before.Aside after) : Stage world before after
  | cleared (state : State) : Stage world state state.clearPhase
  | reset (state : State) : Stage world state state.resetPhase
  | advanced (state : State) : Stage world state state.advance
  | called (state : State) (app : App) : Stage world state (state.startApp world app)
  | ran (state : State) : Stage world state (state.emit .sessionRunning).updateIdle

abbrev Stages (world : World) : State → State → Prop :=
  Relation.ReflTransGen (Stage world)

namespace State

variable {world : World}

theorem stages_startApps (state : State) : Stages world state (state.startApps world) := by
  unfold startApps
  induction state.apps generalizing state with
  | nil => exact .refl
  | cons app apps ih => exact (Relation.ReflTransGen.single (.called state app)).trans (ih _)

theorem stages_startPhaseWith {endPhase : State → State}
    (onwards : ∀ state, Stages world state (endPhase state)) (state : State) :
    Stages world state (startPhaseWith endPhase world state) := by
  have reset : Stages world state state.resetPhase := .single (.reset state)
  by_cases early : state.phase < .running
  · have started := reset.trans (stages_startApps _)
    rw [startPhaseWith_startup early]
    split_ifs
    · exact started.trans (onwards _)
    · exact started.tail (.aside { Aside.refl _ with })
    · exact started
  unfold startPhaseWith
  cases phase : state.phase with
  | running => exact reset.tail (.ran _)
  | queryEndSession => exact reset.tail (.aside (aside_doPhaseQueryEndSession _))
  | endSession =>
      dsimp only
      split_ifs
      · exact reset.tail (.aside (aside_endSessionOfClients world _))
      · exact reset.trans (onwards _)
  | exit =>
      have told := aside_tellClients Client.keepsWiring_stop state.resetPhase
      exact (reset.tail (.aside told)).trans (onwards _)
  | _ => exact absurd (by rw [phase]; decide) early

theorem stages_endPhaseWith {startPhase : State → State}
    (onwards : ∀ state, Stages world state (startPhase state)) (state : State) :
    Stages world state (endPhaseWith startPhase world state) := by
  have cleared : Stages world state state.clearPhase := .single (.cleared state)
  have left : Stages world state state.advance := .single (.advanced state)
  unfold endPhaseWith
  cases state.phase with
  | running =>
      dsimp only
      split_ifs
      · exact cleared
      · exact left.trans (onwards _)
  | endSession =>
      have saved := aside_maybeSaveSession world state.advance
      exact (left.tail (.aside saved)).trans (onwards _)
  | exit => exact cleared.tail (.aside (aside_quit _))
  | _ => exact left.trans (onwards _)

theorem stages_endPhase (state : State) : Stages world state (state.endPhase world) := by
  unfold endPhase
  induction 10 - state.phase.number generalizing state with
  | zero => exact .refl
  | succ fuel ih => exact stages_endPhaseWith (stages_startPhaseWith ih) state

theorem stages_startPhase (state : State) : Stages world state (state.startPhase world) :=
  stages_startPhaseWith stages_endPhase state

end State

/-- The beginning of `app_registered`. -/
def State.unpend (id : String) (state : State) : State :=
  { state with
      pendingApps := state.pendingApps.erase id
      registeredHandlers := state.registeredHandlers.filter (fun other => other != id) }

open State in
inductive Change (world : World) : State → State → Prop
  | aside {before after : State} (same : before.Aside after) : Change world before after
  /-- the store of the inhibitors has changed -/
  | restocked (state : State) (inhibitors : List Inhibitor) :
      Change world state { state with inhibitors := inhibitors }.updateIdle
  /-- an app that is not the last one pending is not waited for any more -/
  | registered {state : State} (id : String) (more : state.pendingApps.erase id ≠ []) :
      Change world state (state.unpend id)
  | ended (state : State) : Change world state (state.endPhase world)
  | lastRegistered (state : State) (id : String) :
      Change world state ({ state.unpend id with phaseTimeout := false }.endPhase world)
  | resumed {state : State} (ending : .queryEndSession ≤ state.phase) :
      Change world state ({ state with phase := .running }.startPhase world)

abbrev Changes (world : World) : State → State → Prop :=
  Relation.ReflTransGen (Change world)

namespace State

variable {world : World} {state before middle after : State}

theorem Aside.changes (same : before.Aside after) : Changes world before after :=
  .single (.aside same)

theorem changes_endPhase (same : before.Aside middle) :
    Changes world before (middle.endPhase world) :=
  same.changes.tail (.ended middle)

theorem changes_dropInhibitors (matching : Inhibitor → Bool) (state : State) :
    Changes world state (state.dropInhibitors matching) := by
  unfold dropInhibitors
  split_ifs
  · exact .single (.restocked state _)
  · exact .refl

theorem changes_addInhibitor (inhibitor : Inhibitor) (state : State) :
    Changes world state (state.addInhibitor inhibitor) :=
  .single (.restocked state _)

theorem aside_managerSwitchUser (world : World) (state : State) :
    state.Aside (state.managerSwitchUser world) := by
  unfold managerSwitchUser
  split_ifs
  · exact .refl state
  · exact aside_emit nofun

theorem changes_doInhibitDialogAction (action : LogoutAction) (state : State) :
    Changes world state (state.doInhibitDialogAction world action) := by
  have slept : ∀ effect ≠ .sessionRunning, Changes world state (state.emit effect) :=
    fun _ other => (aside_emit other).changes
  cases action with
  | switchUser => exact (aside_managerSwitchUser world state).changes
  | hibernate => exact slept .hibernated nofun
  | sleep => exact slept .suspended nofun
  | _ => exact changes_endPhase { Aside.refl state with }

theorem changes_cancelEndSession (state : State) :
    Changes world state (state.cancelEndSession world) := by
  unfold cancelEndSession
  split_ifs with early
  · exact .refl
  · obtain ⟨closed, closing⟩ : ∃ closed : State, { state with inhibitDialog := none } = closed :=
      ⟨_, rfl⟩
    have closes : state.Aside closed := by
      rw [← closing]
      exact { Aside.refl state with }
    obtain ⟨dropped, dropping⟩ : ∃ dropped, closed.dropInhibitors Inhibitor.isJit = dropped :=
      ⟨_, rfl⟩
    have drops : Changes world closed dropped := dropping ▸ changes_dropInhibitors _ closed
    have tells := aside_tellClients Client.keepsWiring_cancelEndSession dropped
    have cancels : Aside _ ((dropped.tellClients Client.cancelEndSession).emit .sessionCancelled) :=
      aside_emit nofun
    have leaves := tells.trans cancels
    have ending : dropped.phase = state.phase := by
      rw [← dropping, ← closing]
      unfold dropInhibitors
      split_ifs <;> rfl
    have late : .queryEndSession ≤ dropped.phase := by
      rw [ending]
      exact Phase.not_lt_query.mp early
    simp only [closing, dropping]
    have forgets : dropped.Aside { (dropped.tellClients Client.cancelEndSession).emit
        .sessionCancelled with logoutMode := .normal, logoutType := .none } := { leaves with }
    exact ((closes.changes.trans drops).trans forgets.changes).tail
      (.resumed (forgets.phase ▸ late))

theorem aside_answerDialog (action : LogoutAction) (response : InhibitResponse) (state : State) :
    state.Aside (state.answerDialog action response) := by
  have closed : state.Aside { state with inhibitDialog := none } := { Aside.refl state with }
  exact closed.trans (aside_emit nofun)

theorem changes_inhibitDialogResponse (response : InhibitResponse) (state : State) :
    Changes world state (state.inhibitDialogResponse world response) := by
  unfold inhibitDialogResponse
  split
  · exact .refl
  · next action _ =>
      have closed : Changes world state (state.answerDialog action response) :=
        (aside_answerDialog action response state).changes
      cases response with
      | accept => exact closed.trans (changes_doInhibitDialogAction action _)
      | _ =>
          dsimp only
          split_ifs
          · exact closed.trans (changes_cancelEndSession _)
          · exact closed

theorem aside_openInhibitDialog (action : LogoutAction) (state : State) :
    state.Aside (state.openInhibitDialog action) := by
  unfold openInhibitDialog
  split
  · exact .refl state
  · have opened : state.Aside { state with inhibitDialog := some action } :=
      { Aside.refl state with }
    exact opened.trans (aside_emit nofun)

theorem changes_removeInhibitors (matching : Inhibitor → Bool) (state : State) :
    Changes world state (state.removeInhibitors world matching) := by
  have dropped := @changes_dropInhibitors world matching state
  simp only [removeInhibitors]
  split_ifs
  · exact dropped.trans (changes_inhibitDialogResponse .accept _)
  · exact dropped

theorem changes_queryEndSessionComplete (state : State) :
    Changes world state (state.queryEndSessionComplete world) := by
  have stopped : state.Aside { state with queryTimeout := false } := { Aside.refl state with }
  simp only [queryEndSessionComplete]
  split_ifs
  · exact changes_endPhase stopped
  · exact (stopped.trans (aside_openInhibitDialog _ _)).changes

theorem changes_foldl {Item : Type} {step : State → Item → State}
    (kept : ∀ state item, Changes world state (step state item)) (items : List Item)
    (state : State) : Changes world state (items.foldl step state) := by
  induction items generalizing state with
  | nil => exact .refl
  | cons item items ih => exact (kept state item).trans (ih _)

theorem changes_inhibitUnresponsive (state : State) (id : Nat) :
    Changes world state (state.inhibitUnresponsive world id) := by
  unfold inhibitUnresponsive
  split
  · exact .refl
  · exact changes_addInhibitor _ state

theorem changes_onQueryEndSessionTimeout (state : State) :
    Changes world state (state.onQueryEndSessionTimeout world) := by
  obtain ⟨fired, firing⟩ : ∃ fired : State, { state with queryTimeout := false } = fired :=
    ⟨_, rfl⟩
  have fires : state.Aside fired := by
    rw [← firing]
    exact { Aside.refl state with }
  obtain ⟨inhibited, inhibiting⟩ : ∃ inhibited, (if state.logoutMode = .force then fired
      else state.queryClients.foldl (inhibitUnresponsive world) fired) = inhibited := ⟨_, rfl⟩
  have inhibits : Changes world fired inhibited := by
    rw [← inhibiting]
    split_ifs
    · exact .refl
    · exact changes_foldl changes_inhibitUnresponsive _ fired
  have answered : inhibited.Aside { inhibited with queryClients := [] } :=
    { Aside.refl inhibited with }
  simp only [onQueryEndSessionTimeout, firing, inhibiting]
  exact ((fires.changes.trans inhibits).trans answered.changes).trans
    (changes_queryEndSessionComplete _)

theorem changes_doPhaseEndSessionPart2 (state : State) :
    Changes world state (state.doPhaseEndSessionPart2 world) := by
  unfold doPhaseEndSessionPart2
  split_ifs
  · exact Aside.changes { Aside.foldl (aside_ask (Client.keepsWiring_endSession _))
      state.nextQueryClients state with }
  · exact .single (.ended state)

theorem changes_endSessionAnswered (id : Nat) (doLast : Bool) (state : State) :
    Changes world state (state.endSessionAnswered world id doLast) := by
  obtain ⟨noted, noting⟩ : ∃ noted, (if doLast then
      { state with nextQueryClients := id :: state.nextQueryClients } else state) = noted :=
    ⟨_, rfl⟩
  have notes : state.Aside noted := by
    rw [← noting]
    split_ifs
    · exact { Aside.refl state with }
    · exact .refl state
  simp only [endSessionAnswered, noting]
  split_ifs
  · exact notes.changes
  · exact notes.changes.trans (changes_doPhaseEndSessionPart2 noted)
  · exact changes_endPhase notes

theorem changes_answerNoted (id : Nat) (doLast : Bool) (state : State) :
    Changes world state (state.answerNoted world id doLast) := by
  unfold answerNoted
  split
  · split_ifs
    · exact changes_queryEndSessionComplete state
    · exact .refl
  · exact changes_endSessionAnswered id doLast state
  · exact .refl

theorem changes_noteAnswer (client : Client) (response : Response) (state : State) :
    Changes world state (state.noteAnswer world client response) := by
  have taken : state.Aside { state with queryClients := state.queryClients.erase client.id } :=
    { Aside.refl state with }
  simp only [noteAnswer]
  split_ifs
  · exact taken.changes.trans (changes_addInhibitor _ _)
  · exact taken.changes.trans (changes_removeInhibitors _ _)

theorem changes_handle (client : Client) (response : Response) (state : State) :
    Changes world state (state.handleClientEndSessionResponse world client response) := by
  unfold handleClientEndSessionResponse
  split_ifs
  · exact .refl
  · exact changes_cancelEndSession state
  · exact (changes_noteAnswer client response state).trans (changes_answerNoted _ _ _)

theorem aside_restartApp (client : Client) (app : Option App) (isConditionClient : Bool)
    (state : State) : state.Aside (state.restartApp world client app isConditionClient) := by
  unfold restartApp
  split
  · exact .refl state
  · cases app with
    | none => exact .refl state
    | some app =>
        dsimp only
        split_ifs
        · exact .refl state
        · exact .refl state
        · exact .refl state
        · exact aside_emit nofun

end State

end CafeSession.Manager

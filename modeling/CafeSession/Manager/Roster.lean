import CafeSession.Manager.Departures

namespace CafeSession.Manager

structure Roster where
  clientIds : List Nat
  wirings : List Wiring
  clientSerial : Nat
  /-- a client is in here once for each run of its handler -/
  disconnected : List Nat

def Roster.removeClient (id : Nat) (roster : Roster) : Roster :=
  { roster with
      clientIds := roster.clientIds.filter (fun other => other != id)
      wirings := roster.wirings.filter (fun wiring => wiring.id != id) }

def Effect.disconnected : Effect → Option Nat
  | .clientDisconnected id => some id
  | _ => none

def Core.roster (core : Core) : Roster where
  clientIds := core.clientIds
  wirings := core.wirings
  clientSerial := core.clientSerial
  disconnected := core.marks.filterMap Effect.disconnected

namespace State

variable {world : World} {acts : Nat → Response → Prop} {drops : (Inhibitor → Bool) → Prop}
variable {state : State}

theorem endPhase_roster : (state.endPhase world).core.roster = state.core.roster := by
  obtain ⟨news, ended, _, kept⟩ := (@endPhase_frame world state).kept
  have nobody : news.filterMap Effect.disconnected = [] := by
    rw [List.filterMap_eq_nil_iff]
    intro effect member
    obtain ⟨_, rfl⟩ := ended effect member
    rfl
  rw [kept]
  simp [Core.roster, nobody]

/-- Answers and the removal of inhibitors keep what is said of the client objects. -/
theorem rosterRules {Given : Core → Prop} {Q : Roster → Prop} :
    Rules world acts drops Given (fun core => Q core.roster) where
  taken _ _ _ _ _ holds _ := holds
  inhibited _ _ _ _ _ _ _ _ _ holds _ := holds
  dropped _ _ _ _ _ holds := holds
  closed _ _ _ _ _ _ _ _ _ holds := holds
  accepted _ _ _ forced _ _ _ _ _ _ holds same := by
    rw [endPhase_roster, same]
    exact holds
  completed _ _ holds _ _ _ := by
    rw [endPhase_roster]
    exact holds
  opened _ _ holds _ _ _ := holds
  deferred _ _ _ _ _ _ holds _ := holds
  moved _ _ _ _ holds _ _ := holds
  ended _ _ holds _ _ _ := by
    rw [endPhase_roster]
    exact holds
  cancelled _ _ _ _ _ _ holds ending := by
    rw [core_cancelEndSession ending]
    exact holds

theorem roster_removeInhibitors {matching : Inhibitor → Bool} :
    (state.removeInhibitors world matching).core.roster = state.core.roster := by
  have rules : Rules world (fun _ _ => True) (fun _ => True) (fun _ => True)
      (fun core => core.roster = state.core.roster) :=
    @rosterRules world _ _ _ fun roster => roster = state.core.roster
  exact rules.removeInhibitors trivial trivial rfl

theorem roster_disconnectClient {client : Client} :
    (state.disconnectClient world client).core.roster = state.core.roster := by
  have rules : Rules world (fun _ _ => True) (fun _ => True) (fun _ => True)
      (fun core => core.roster = state.core.roster) :=
    @rosterRules world _ _ _ fun roster => roster = state.core.roster
  exact rules.disconnect trivial trivial rfl

theorem roster_onClientDisconnected {client : Client} :
    (state.onClientDisconnected world client).core.roster =
      { state.core.roster with
        disconnected := client.id :: state.core.roster.disconnected }.removeClient client.id := by
  have left : (((state.emit (.clientDisconnected client.id)).disconnectClient world
      client).removeClient client.id).core.roster =
      (state.emit (.clientDisconnected client.id)).core.roster.removeClient client.id := by
    rw [core_removeClient]
    exact congrArg (Roster.removeClient client.id) roster_disconnectClient
  unfold onClientDisconnected endPhaseIfEmpty
  dsimp only
  split_ifs
  · rw [endPhase_roster]
    exact left
  · exact left

theorem disconnected_emitDisconnected {client : Client} (handlers : Nat) :
    (state.emitDisconnected world client handlers).core.roster.disconnected =
      List.replicate handlers client.id ++ state.core.roster.disconnected := by
  induction handlers generalizing state with
  | zero => rfl
  | succ handlers ih =>
      have first : (state.onClientDisconnected world client).core.roster.disconnected =
          client.id :: state.core.roster.disconnected :=
        congrArg Roster.disconnected roster_onClientDisconnected
      rw [emitDisconnected, ih, first, List.replicate_succ', List.append_assoc]
      rfl

/-- The first of them takes the client out of the store. -/
theorem clientIds_emitDisconnected {client : Client} (handlers : Nat) :
    (state.emitDisconnected world client handlers).core.roster.clientIds =
      if handlers = 0 then state.core.roster.clientIds
      else state.core.roster.clientIds.filter (fun id => id != client.id) := by
  induction handlers generalizing state with
  | zero => rfl
  | succ handlers ih =>
      have first : (state.onClientDisconnected world client).core.roster.clientIds =
          state.core.roster.clientIds.filter (fun id => id != client.id) :=
        congrArg Roster.clientIds roster_onClientDisconnected
      rw [emitDisconnected, ih, first]
      simp

end State

end CafeSession.Manager

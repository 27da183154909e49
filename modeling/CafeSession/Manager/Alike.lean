import CafeSession.Manager.Core

namespace CafeSession.Manager

open CafeSession.Xsmp

/-- The effect without what it says of the inhibitors. -/
def Effect.blind : Effect → Effect
  | .phaseEnded ended => .phaseEnded { ended with logoutInhibited := false }
  | effect => effect

namespace State

inductive Alike (first : State) : State → Prop
  | besides (inhibitors : List Inhibitor) (idleEnabled : Bool) (log : List Effect)
      (same : log.map Effect.blind = first.log.map Effect.blind) :
      Alike first { first with
        inhibitors := inhibitors
        idleEnabled := idleEnabled
        log := log }

variable {world : World} {first second : State}

namespace Alike

/-- The parts that alike states have in common. -/
structure Common (first second : State) : Prop where
  clients : second.clients = first.clients
  phase : second.phase = first.phase
  logoutMode : second.logoutMode = first.logoutMode
  phaseTimeout : second.phaseTimeout = first.phaseTimeout
  queryClients : second.queryClients = first.queryClients
  queryTimeout : second.queryTimeout = first.queryTimeout
  logoutDialog : second.logoutDialog = first.logoutDialog
  fault : second.fault = first.fault

theorem common (alike : first.Alike second) : Common first second := by
  cases alike
  exact ⟨rfl, rfl, rfl, rfl, rfl, rfl, rfl, rfl⟩

theorem clientIds (alike : first.Alike second) : second.clientIds = first.clientIds := by
  rw [State.clientIds, alike.common.clients, State.clientIds]

theorem emit (alike : first.Alike second) {effect other : Effect}
    (same : other.blind = effect.blind) : (first.emit effect).Alike (second.emit other) := by
  cases alike with
  | besides inhibitors idleEnabled log kept =>
      refine .besides inhibitors idleEnabled (other :: log) ?_
      change other.blind :: log.map Effect.blind = effect.blind :: first.log.map Effect.blind
      rw [same, kept]

theorem foldl {Item : Type*} {step : State → Item → State}
    (kept : ∀ {first second : State} (item : Item), first.Alike second →
      (step first item).Alike (step second item))
    (items : List Item) (alike : first.Alike second) :
    (items.foldl step first).Alike (items.foldl step second) := by
  induction items generalizing first second with
  | nil => exact alike
  | cons item items ih => exact ih (kept item alike)

variable {call : Client → Except String (Client × List ClientMessage)}

theorem updateClient (alike : first.Alike second) (id : Nat) (update : Client → Client) :
    (first.updateClient id update).Alike (second.updateClient id update) := by
  cases alike with
  | besides inhibitors idleEnabled log same => exact .besides inhibitors idleEnabled log same

theorem removeClient (alike : first.Alike second) (id : Nat) :
    (first.removeClient id).Alike (second.removeClient id) := by
  cases alike with
  | besides inhibitors idleEnabled log same => exact .besides inhibitors idleEnabled log same

theorem tell (alike : first.Alike second) (id : Nat) :
    (first.tell call id).Alike (second.tell call id) := by
  cases alike with
  | besides inhibitors idleEnabled log same =>
      unfold State.tell
      have found : ({ first with
          inhibitors := inhibitors
          idleEnabled := idleEnabled
          log := log } : State).client? id = first.client? id := rfl
      rw [found]
      split
      · refine .besides inhibitors idleEnabled _ ?_
        simp [same]
      · exact .besides inhibitors idleEnabled log same

theorem tellClients (alike : first.Alike second) :
    (first.tellClients call).Alike (second.tellClients call) := by
  unfold State.tellClients
  rw [alike.clientIds]
  exact foldl (fun id alike => tell alike id) first.clientIds alike

theorem waiting (alike : first.Alike second) (ids : List Nat) :
    { first with queryClients := ids }.Alike { second with queryClients := ids } := by
  cases alike with
  | besides inhibitors idleEnabled log same => exact .besides inhibitors idleEnabled log same

theorem deferring (alike : first.Alike second) (ids : List Nat) :
    { first with nextQueryClients := ids }.Alike { second with nextQueryClients := ids } := by
  cases alike with
  | besides inhibitors idleEnabled log same => exact .besides inhibitors idleEnabled log same

theorem ask (alike : first.Alike second) (id : Nat) :
    (first.ask call id).Alike (second.ask call id) := by
  have asked := (@tell first second call alike id).waiting (id :: first.queryClients)
  unfold State.ask
  cases alike with
  | besides inhibitors idleEnabled log same =>
      have found : ({ first with
          inhibitors := inhibitors
          idleEnabled := idleEnabled
          log := log } : State).client? id = first.client? id := rfl
      rw [found]
      split
      · exact asked
      · exact .besides inhibitors idleEnabled log same

theorem clearPhase (alike : first.Alike second) : first.clearPhase.Alike second.clearPhase := by
  cases alike with
  | besides inhibitors idleEnabled log same => exact .besides inhibitors idleEnabled log same

theorem resetPhase (alike : first.Alike second) : first.resetPhase.Alike second.resetPhase := by
  cases alike with
  | besides inhibitors idleEnabled log same => exact .besides inhibitors idleEnabled log same

theorem advance (alike : first.Alike second) : first.advance.Alike second.advance := by
  cases alike with
  | besides inhibitors idleEnabled log same =>
      refine .besides inhibitors idleEnabled _ ?_
      simp [State.advance, Effect.blind, State.phaseEnd, same]

theorem quit (alike : first.Alike second) : first.quit.Alike second.quit := by
  cases alike with
  | besides inhibitors idleEnabled log same =>
      unfold State.quit
      dsimp only
      split
      · exact .besides inhibitors idleEnabled log same
      · exact (besides inhibitors idleEnabled log same).emit rfl

theorem maybeSaveSession (alike : first.Alike second) :
    (first.maybeSaveSession world).Alike (second.maybeSaveSession world) := by
  unfold State.maybeSaveSession
  split_ifs
  · exact alike.emit rfl
  · exact alike

theorem endSessionOfClients (alike : first.Alike second) :
    (first.endSessionOfClients world).Alike (second.endSessionOfClients world) := by
  cases alike with
  | besides inhibitors idleEnabled log same =>
      exact foldl (fun id alike => ask alike id) first.clientIds
        (.besides inhibitors idleEnabled log same)

theorem endPhase (alike : first.Alike second) (ending : .queryEndSession ≤ first.phase) :
    (first.endPhase world).Alike (second.endPhase world) := by
  have exits : ∀ {first second : State}, first.Alike second → first.phase = .endSession →
      (first.endPhase world).Alike (second.endPhase world) := by
    intro first second alike ends
    rw [endPhase_endSession ends, endPhase_endSession (alike.common.phase.trans ends)]
    exact alike.advance.maybeSaveSession.resetPhase.tellClients.clearPhase.quit
  rcases Phase.queryEndSession_le.mp ending with query | ends | exit
  · have secondQuery := alike.common.phase.trans query
    by_cases empty : first.clients = []
    · have advanced : first.advance.resetPhase.phase = .endSession := by
        simp [State.resetPhase, State.clearPhase, State.advance, query, Phase.next]
      rw [endPhase_query_empty query empty,
        endPhase_query_empty secondQuery (alike.common.clients.trans empty)]
      exact exits alike.advance.resetPhase advanced
    · have some_ : second.clients ≠ [] := by
        rw [alike.common.clients]
        exact empty
      rw [endPhase_query query empty, endPhase_query secondQuery some_]
      exact alike.advance.resetPhase.endSessionOfClients
  · exact exits alike ends
  · rw [endPhase_exit exit, endPhase_exit (alike.common.phase.trans exit)]
    exact alike.clearPhase.quit

end Alike

end State

end CafeSession.Manager

import CafeSession.Idle.Presence
import CafeSession.Manager.IdleEnabled

namespace CafeSession.Idle

open CafeSession.Transition CafeSession.Manager

structure Session where
  manager : State
  presence : Presence

/-- The event is a call of `update_idle`, which only the manager makes. -/
def Presence.Event.isUpdateIdle : Presence.Event → Bool
  | .setIdleEnabled _ => true
  | _ => false

namespace Session

inductive Event where
  /-- a callback of the manager, with what `update_idle` tells the presence object in it -/
  | manager (event : Manager.Event) (told : List Bool)
  | presence (event : Presence.Event)

def tell (told : List Bool) (presence : Presence) : Presence :=
  told.foldl (fun presence enabled => presence.setIdleEnabled enabled) presence

def step (session : Session) : Event → Option Session
  | .manager event told =>
      (session.manager.step event).bind fun after =>
        if told.getLastD session.manager.idleEnabled = after.idleEnabled then
          some ⟨after, tell told session.presence⟩
        else
          none
  | .presence event =>
      if session.manager.fault = none ∧ !event.isUpdateIdle then
        some { session with presence := session.presence.handle event }
      else
        none

end Session

/-- The idle delay is loaded when the manager is created. -/
def sessionSystem : System Session Session.Event where
  initial session := ∃ delay told, managerSystem.initial session.manager ∧
    told.getLastD false = session.manager.idleEnabled ∧
    session.presence = Session.tell told (Presence.created.setIdleTimeout delay)
  step := Session.step

/-- The idle watch is there, and it is the only one in the monitor. -/
def Presence.HasIdleWatch (presence : Presence) : Prop :=
  0 < presence.idleWatchId ∧ presence.idleMonitor.watches.map Watch.id = [presence.idleWatchId]

namespace Presence

variable {presence : Presence}

theorem Armed.hasIdleWatch_iff (armed : presence.Armed) :
    presence.HasIdleWatch ↔ presence.screensaverActive = false ∧
      presence.idleEnabled = true ∧ 0 < presence.idleTimeout := by
  have wanted : presence.wantsWatch = true ↔ presence.screensaverActive = false ∧
      presence.idleEnabled = true ∧ 0 < presence.idleTimeout := by
    simp [wantsWatch, and_assoc]
  rw [← wanted, ← armed.wanted, HasIdleWatch, UInt32.pos_iff_ne_zero]
  refine and_iff_left_of_imp fun known => ?_
  rw [armed.only, if_neg known]
  rfl

theorem idleEnabled_setIdleEnabled (enabled : Bool) :
    (presence.setIdleEnabled enabled).idleEnabled = enabled := by
  have kept := @settings_setIdleEnabled presence enabled
  simp only [settings, Prod.mk.injEq] at kept
  exact kept.2.2.1

theorem idleEnabled_setIdleTimeout (timeout : UInt32) :
    (presence.setIdleTimeout timeout).idleEnabled = presence.idleEnabled := by
  have kept := @settings_setIdleTimeout presence timeout
  simp only [settings, Prod.mk.injEq] at kept
  exact kept.2.2.1

theorem idleEnabled_setSessionIdle (isIdle : Bool) :
    (presence.setSessionIdle isIdle).idleEnabled = presence.idleEnabled :=
  congrArg Prod.fst (presence.watching_setSessionIdle isIdle)

/-- Nothing else says whether idle detection is on. -/
theorem idleEnabled_handle {event : Event} (other : event.isUpdateIdle = false) :
    (presence.handle event).idleEnabled = presence.idleEnabled := by
  cases event with
  | alarm watch condition =>
      simp only [handle, handleAlarm, onIdleTimeout]
      split_ifs
      · exact idleEnabled_setSessionIdle condition
      · rfl
  | screensaverActiveChanged isActive =>
      simp only [handle, onScreensaverActiveChanged]
      split_ifs
      · rw [idleEnabled_setSessionIdle, idleEnabled_resetIdleWatch]
      · rfl
  | screensaverProxyDestroy =>
      simp only [handle, onScreensaverProxyDestroy, idleEnabled_resetIdleWatch,
        idleEnabled_setSessionIdle]
  | setIdleEnabled enabled => cases other
  | setIdleTimeout timeout => exact idleEnabled_setIdleTimeout timeout
  | setStatus status => exact congrArg Prod.fst (presence.watching_setStatus status)

end Presence

namespace Session

/-- The two objects agree, and the watch is as it should be. -/
structure Consistent (session : Session) : Prop where
  manager : managerSystem.Reachable session.manager
  armed : session.presence.Armed
  told : session.presence.idleEnabled = session.manager.idleEnabled

theorem armed_tell {presence : Presence} (armed : presence.Armed) (told : List Bool) :
    (tell told presence).Armed := by
  induction told generalizing presence with
  | nil => exact armed
  | cons enabled told ih => exact ih (armed.handle (.setIdleEnabled enabled))

theorem idleEnabled_tell (presence : Presence) (told : List Bool) :
    (tell told presence).idleEnabled = told.getLastD presence.idleEnabled := by
  induction told generalizing presence with
  | nil => rfl
  | cons enabled told ih =>
      have rest := ih (presence.setIdleEnabled enabled)
      rw [Presence.idleEnabled_setIdleEnabled] at rest
      exact rest.trans List.getLastD_cons.symm

theorem consistent_initial {session : Session} (initial : sessionSystem.initial session) :
    session.Consistent := by
  obtain ⟨delay, told, manager, last, presence⟩ := initial
  have armed := Presence.armed_created.handle (.setIdleTimeout delay)
  refine ⟨.initial manager, ?_, ?_⟩
  · rw [presence]
    exact armed_tell armed told
  · rw [presence, idleEnabled_tell, Presence.idleEnabled_setIdleTimeout]
    exact last

theorem Consistent.step {before after : Session} (consistent : before.Consistent) {event : Event}
    (stepped : before.step event = some after) : after.Consistent := by
  cases event with
  | manager event told =>
      obtain ⟨manager, moved, rest⟩ := Option.bind_eq_some_iff.mp stepped
      split_ifs at rest with last
      cases rest
      refine ⟨.step consistent.manager trivial moved, armed_tell consistent.armed told, ?_⟩
      rw [idleEnabled_tell, consistent.told]
      exact last
  | presence event =>
      simp only [Session.step] at stepped
      split_ifs at stepped with lives
      cases stepped
      have other : event.isUpdateIdle = false := by simpa using lives.2
      exact ⟨consistent.manager, consistent.armed.handle event,
        (Presence.idleEnabled_handle other).trans consistent.told⟩

theorem consistent_reached {session : Session} (reached : sessionSystem.Reachable session) :
    session.Consistent :=
  reached.invariant (fun _ initial => consistent_initial initial)
    fun _ _ _ consistent _ stepped => consistent.step stepped

/-- Once the session has run, idle detection is on just while nothing inhibits
it, and there is a watch just while one is wanted. -/
theorem idle_detection_armed {session : Session} (reached : sessionSystem.Reachable session)
    (ran : .sessionRunning ∈ session.manager.log) :
    (session.presence.idleEnabled = true ↔
      ∀ inhibitor ∈ session.manager.inhibitors,
        inhibitor.hasFlag inhibitorFlagIdle = false) ∧
    (session.presence.HasIdleWatch ↔ session.presence.screensaverActive = false ∧
      session.presence.idleEnabled = true ∧ 0 < session.presence.idleTimeout) := by
  have consistent := consistent_reached reached
  have follows := idleFollows_reached consistent.manager ran
  refine ⟨?_, consistent.armed.hasIdleWatch_iff⟩
  rw [consistent.told, follows]
  simp [State.idleInhibited]

/-- A film is played: the session runs, and nothing watches for its idleness. -/
theorem inhibited_session_unwatched :
    ∃ session, sessionSystem.Reachable session ∧ .sessionRunning ∈ session.manager.log ∧
      session.manager.inhibitors ≠ [] ∧ ¬ session.presence.HasIdleWatch := by
  have started : sessionSystem.Reachable
      ⟨State.start .permissive [], tell [true] (Presence.created.setIdleTimeout 600000)⟩ :=
    .initial ⟨600000, [true], ⟨.permissive, [], List.nodup_nil, rfl⟩, rfl, rfl⟩
  obtain ⟨inhibited, stepped, ran, stored, idle⟩ : ∃ inhibited,
      (State.start .permissive []).step
        ⟨.permissive, .inhibit "player" 0 "film" inhibitorFlagIdle ":1.7"⟩ = some inhibited ∧
      .sessionRunning ∈ inhibited.log ∧ inhibited.inhibitors ≠ [] ∧
      inhibited.idleEnabled = false :=
    ⟨_, rfl, by decide, by decide, by decide⟩
  have reached : sessionSystem.Reachable
      ⟨inhibited, tell [true, false] (Presence.created.setIdleTimeout 600000)⟩ := by
    have told : sessionSystem.step
        ⟨State.start .permissive [], tell [true] (Presence.created.setIdleTimeout 600000)⟩
        (.manager ⟨.permissive, .inhibit "player" 0 "film" inhibitorFlagIdle ":1.7"⟩ [false]) =
        some ⟨inhibited, tell [true, false] (Presence.created.setIdleTimeout 600000)⟩ := by
      have last : [false].getLastD (State.start .permissive []).idleEnabled =
          inhibited.idleEnabled := idle.symm
      simp only [sessionSystem, Session.step, stepped, Option.bind_some]
      rw [if_pos last]
      rfl
    exact .step started trivial told
  have off : (tell [true, false] (Presence.created.setIdleTimeout 600000)).idleEnabled = false := by
    decide
  have armed := (idle_detection_armed reached ran).2
  refine ⟨_, reached, ran, stored, fun watched => ?_⟩
  exact absurd (off.symm.trans (armed.mp watched).2.1) Bool.false_ne_true

end Session

end CafeSession.Idle

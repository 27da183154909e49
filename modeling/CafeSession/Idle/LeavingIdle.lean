import CafeSession.Idle.Presence

/-! # Leaving the idle state

Beside the presence object goes a ghost: whether the status is IDLE because
`set_session_idle` made it so.  Such a status is left when the watch that saw
the session idle sees it in use again, or on a word of the screensaver, so one
of the two has to be there. -/

namespace CafeSession.Idle

open CafeSession.Transition

structure Tracked where
  presence : Presence
  /-- The status is IDLE since `set_session_idle` made it so. -/
  madeIdle : Bool
deriving DecidableEq, Repr

namespace Tracked

def created : Tracked where
  presence := .created
  madeIdle := false

def handle (tracked : Tracked) (event : Presence.Event) : Tracked where
  presence := tracked.presence.handle event
  madeIdle :=
    match event with
    | .setStatus _ => false
    | _ => decide ((tracked.presence.handle event).status = statusIdle) &&
        (decide (tracked.presence.status ≠ statusIdle) || tracked.madeIdle)

/-- Something is there that can end the idle state. -/
def CanLeave (tracked : Tracked) : Prop :=
  tracked.madeIdle = true →
    tracked.presence.idleWatchId ≠ 0 ∨ tracked.presence.screensaverActive = true

/-- While the session is made idle and the screensaver is not active, idle
detection is not switched off. -/
def KeepsWatch (tracked : Tracked) (event : Presence.Event) : Prop :=
  event = .setIdleEnabled false ∨ event = .setIdleTimeout 0 →
    tracked.madeIdle = true → tracked.presence.screensaverActive = true

end Tracked

def trackedSystem : System Tracked Presence.Event where
  initial tracked := tracked = .created
  step tracked event := some (tracked.handle event)

namespace Presence

variable {presence : Presence}

theorem savedStatus_setStatus (status : UInt32) :
    (presence.setStatus status).savedStatus = presence.savedStatus := by
  unfold setStatus
  split_ifs <;> rfl

theorem status_setStatus (status : UInt32) : (presence.setStatus status).status = status := by
  unfold setStatus
  split_ifs with other
  · rfl
  · exact (not_not.mp other).symm

theorem savedStatus_setSessionIdle (isIdle : Bool) (saved : presence.savedStatus ≠ statusIdle) :
    (presence.setSessionIdle isIdle).savedStatus ≠ statusIdle := by
  unfold setSessionIdle
  split_ifs with idle already same
  · exact saved
  · rw [savedStatus_setStatus]
    exact already
  · exact saved
  · exact (by decide : statusAvailable ≠ statusIdle)

/-- What the session was saved in is not IDLE, so restoring it leaves the idle state. -/
theorem status_setSessionIdle_false (saved : presence.savedStatus ≠ statusIdle) :
    (presence.setSessionIdle false).status ≠ statusIdle := by
  simp only [setSessionIdle, Bool.false_eq_true, if_false]
  split_ifs with same
  · exact same
  · exact (status_setStatus presence.savedStatus).trans_ne saved

theorem savedStatus_handle (saved : presence.savedStatus ≠ statusIdle) (event : Event) :
    (presence.handle event).savedStatus ≠ statusIdle := by
  cases event with
  | alarm watch condition =>
      simp only [handle, handleAlarm, onIdleTimeout]
      split_ifs
      · exact savedStatus_setSessionIdle condition saved
      · exact saved
  | screensaverActiveChanged isActive =>
      simp only [handle, onScreensaverActiveChanged]
      split_ifs
      · exact savedStatus_setSessionIdle isActive (by rwa [savedStatus_resetIdleWatch])
      · exact saved
  | screensaverProxyDestroy =>
      simp only [handle, onScreensaverProxyDestroy, savedStatus_resetIdleWatch]
      exact savedStatus_setSessionIdle false saved
  | setIdleEnabled enabled =>
      have kept := @settings_setIdleEnabled presence enabled
      simp only [settings, Prod.mk.injEq] at kept
      simpa only [handle, kept.2.1] using saved
  | setIdleTimeout timeout =>
      have kept := @settings_setIdleTimeout presence timeout
      simp only [settings, Prod.mk.injEq] at kept
      simpa only [handle, kept.2.1] using saved
  | setStatus status => simpa only [handle, savedStatus_setStatus] using saved

end Presence

namespace Tracked

open Presence

/-- What runs keep: the watch as it should be, and a status that was made idle. -/
structure Consistent (tracked : Tracked) : Prop where
  armed : tracked.presence.Armed
  saved : tracked.presence.savedStatus ≠ statusIdle
  idle : tracked.madeIdle = true → tracked.presence.status = statusIdle

theorem consistent_created : created.Consistent :=
  ⟨armed_created, by decide, nofun⟩

variable {tracked : Tracked} {event : Presence.Event}

theorem idle_handle (made : (tracked.handle event).madeIdle = true) :
    (tracked.handle event).presence.status = statusIdle := by
  cases event <;> simp_all [handle]

theorem Consistent.handle (consistent : tracked.Consistent) (event : Presence.Event) :
    (tracked.handle event).Consistent :=
  ⟨consistent.armed.handle event, savedStatus_handle consistent.saved event, idle_handle⟩

theorem canLeave_iff (consistent : tracked.Consistent) :
    tracked.CanLeave ↔ (tracked.madeIdle = true → tracked.presence.screensaverActive = true ∨
      tracked.presence.idleEnabled = true ∧ 0 < tracked.presence.idleTimeout) := by
  unfold CanLeave
  rw [consistent.armed.wanted, wantsWatch]
  refine forall_congr' fun _ => ?_
  cases tracked.presence.screensaverActive <;> simp

theorem madeIdle_settings {presence : Presence} (consistent : tracked.Consistent)
    (same : presence.status = tracked.presence.status) :
    (decide (presence.status = statusIdle) &&
      (decide (tracked.presence.status ≠ statusIdle) || tracked.madeIdle)) = tracked.madeIdle := by
  have idle := consistent.idle
  cases made : tracked.madeIdle <;> simp_all

theorem canLeave_alarm (consistent : tracked.Consistent) (holds : tracked.CanLeave)
    (watch : UInt32) (condition : Bool) :
    (tracked.handle (.alarm watch condition)).CanLeave := by
  intro made
  have only := consistent.armed.only
  simp only [Tracked.handle, Presence.handle, handleAlarm] at made ⊢
  split_ifs at made ⊢ with found
  · have there : tracked.presence.idleWatchId ≠ 0 := by
      intro gone
      simp [only, gone] at found
    have kept := tracked.presence.watching_setSessionIdle condition
    simp only [watching, Prod.mk.injEq] at kept
    exact .inl (by rwa [onIdleTimeout, kept.2.2.1])
  · exact holds ((madeIdle_settings consistent rfl).symm.trans made)

theorem canLeave_screensaver (consistent : tracked.Consistent) (holds : tracked.CanLeave)
    (isActive : Bool) : (tracked.handle (.screensaverActiveChanged isActive)).CanLeave := by
  intro made
  have idle := idle_handle made
  simp only [Tracked.handle, Presence.handle, onScreensaverActiveChanged] at made idle ⊢
  split_ifs at made idle ⊢ with other
  · cases isActive with
    | false => exact absurd idle (status_setSessionIdle_false (by simpa using consistent.saved))
    | true =>
        have kept := ({ tracked.presence with screensaverActive := true }
          |>.resetIdleWatch).watching_setSessionIdle true
        simp only [watching, Prod.mk.injEq, screensaverActive_resetIdleWatch] at kept
        exact .inr kept.2.2.2.2
  · exact holds ((madeIdle_settings consistent rfl).symm.trans made)

theorem canLeave_destroy (consistent : tracked.Consistent) :
    (tracked.handle .screensaverProxyDestroy).CanLeave := by
  intro made
  have idle := idle_handle made
  simp only [Tracked.handle, Presence.handle, onScreensaverProxyDestroy,
    status_resetIdleWatch] at idle
  exact absurd idle (status_setSessionIdle_false consistent.saved)

/-- A step keeps a way out of the idle state just when it keeps the watch that
is the only one. -/
theorem canLeave_handle (consistent : tracked.Consistent) (holds : tracked.CanLeave) :
    (tracked.handle event).CanLeave ↔ tracked.KeepsWatch event := by
  have before := (canLeave_iff consistent).mp holds
  have after := canLeave_iff (consistent.handle event)
  cases event with
  | alarm watch condition =>
      exact iff_of_true (canLeave_alarm consistent holds _ _) (by simp [KeepsWatch])
  | screensaverActiveChanged isActive =>
      exact iff_of_true (canLeave_screensaver consistent holds _) (by simp [KeepsWatch])
  | screensaverProxyDestroy =>
      exact iff_of_true (canLeave_destroy consistent) (by simp [KeepsWatch])
  | setIdleEnabled enabled =>
      have kept := @settings_setIdleEnabled tracked.presence enabled
      simp only [settings, Prod.mk.injEq] at kept
      obtain ⟨status, _, enabledIs, timeout, active⟩ := kept
      have made : (tracked.handle (.setIdleEnabled enabled)).madeIdle = tracked.madeIdle :=
        madeIdle_settings consistent status
      rw [after, made]
      simp only [Tracked.handle, Presence.handle, enabledIs, timeout, active, KeepsWatch]
      cases enabled with
      | false => simp
      | true =>
          refine iff_of_true (fun idle => ?_) (by simp)
          exact (before idle).imp_right fun on => ⟨rfl, on.2⟩
  | setIdleTimeout timeout =>
      have kept := @settings_setIdleTimeout tracked.presence timeout
      simp only [settings, Prod.mk.injEq] at kept
      obtain ⟨status, _, enabledIs, timeoutIs, active⟩ := kept
      have made : (tracked.handle (.setIdleTimeout timeout)).madeIdle = tracked.madeIdle :=
        madeIdle_settings consistent status
      rw [after, made]
      simp only [Tracked.handle, Presence.handle, enabledIs, timeoutIs, active, KeepsWatch]
      by_cases zero : timeout = 0
      · simp [zero]
      · refine iff_of_true (fun idle => ?_) (by simp [zero])
        exact (before idle).imp_right fun on => ⟨on.1, UInt32.pos_iff_ne_zero.mpr zero⟩
  | setStatus status =>
      refine iff_of_true (fun made => ?_) (by simp [KeepsWatch])
      cases made

/-- In a run from the start the idle state can be left in every state just
when each step keeps the watch that is the only way out. -/
theorem idle_can_be_left_iff (events : List Presence.Event) :
    trackedSystem.Always CanLeave .created events ↔
      trackedSystem.Meets KeepsWatch .created events := by
  obtain ⟨finish, run⟩ : ∃ finish, trackedSystem.run .created events = some finish := by
    generalize created = start
    induction events generalizing start with
    | nil => exact ⟨start, rfl⟩
    | cons event events ih => exact ih (start.handle event)
  refine System.always_iff_meets Consistent CanLeave ?_ ?_ run consistent_created nofun
  · intro before event after consistent stepped
    cases stepped
    exact consistent.handle event
  · intro before event after consistent holds stepped
    cases stepped
    exact canLeave_handle consistent holds

/-- An inhibitor of idle detection that comes when the session is idle takes the watch away. -/
theorem inhibitor_keeps_session_idle :
    ¬ ∀ tracked, trackedSystem.Reachable tracked → tracked.CanLeave := by
  intro always
  have reached : trackedSystem.Reachable
      (((created.handle (.setIdleEnabled true)).handle (.alarm 1 true)).handle
        (.setIdleEnabled false)) :=
    .step (.step (.step (.initial rfl) trivial rfl) trivial rfl) trivial rfl
  have idle := always _ reached
  revert idle
  unfold CanLeave
  decide

end Tracked

end CafeSession.Idle

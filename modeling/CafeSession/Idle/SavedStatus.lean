import CafeSession.Idle.LeavingIdle

namespace CafeSession.Idle

open CafeSession.Transition

namespace Presence

variable {presence : Presence} {event : Event}

/-- What becomes of the two statuses when nobody sets the status: nothing, or
`set_session_idle` enters the idle state, or it leaves it. -/
def Moves (before after : Presence) : Prop :=
  (after.status = before.status ∧ after.savedStatus = before.savedStatus) ∨
    (before.status ≠ statusIdle ∧ after.status = statusIdle ∧
      after.savedStatus = before.status) ∨
    (before.status = statusIdle ∧ after.status = before.savedStatus ∧
      after.savedStatus = statusAvailable)

theorem moves_setSessionIdle (presence : Presence) (isIdle : Bool) :
    presence.Moves (presence.setSessionIdle isIdle) := by
  cases isIdle with
  | true =>
      by_cases idle : presence.status = statusIdle
      · simp [Moves, setSessionIdle, idle]
      · refine .inr (.inl ⟨idle, ?_, ?_⟩)
        · simp [setSessionIdle, idle, status_setStatus]
        · simp [setSessionIdle, idle, savedStatus_setStatus]
  | false =>
      by_cases idle : presence.status = statusIdle
      · refine .inr (.inr ⟨idle, ?_, ?_⟩)
        · simp [setSessionIdle, idle, status_setStatus]
        · simp [setSessionIdle, idle]
      · simp [Moves, setSessionIdle, idle]

theorem moves_handle (presence : Presence) (event : Event)
    (own : ∀ status, event ≠ .setStatus status) : presence.Moves (presence.handle event) := by
  cases event with
  | alarm watch condition =>
      simp only [handle, handleAlarm, onIdleTimeout]
      split_ifs
      · exact moves_setSessionIdle presence condition
      · exact .inl ⟨rfl, rfl⟩
  | screensaverActiveChanged isActive =>
      simp only [handle, onScreensaverActiveChanged]
      split_ifs
      · have moved := moves_setSessionIdle
          ({ presence with screensaverActive := isActive }.resetIdleWatch) isActive
        simpa [Moves] using moved
      · exact .inl ⟨rfl, rfl⟩
  | screensaverProxyDestroy =>
      have moved := moves_setSessionIdle { presence with screensaverActive := false } false
      simpa [Moves, handle, onScreensaverProxyDestroy] using moved
  | setIdleEnabled enabled =>
      have kept := @settings_setIdleEnabled presence enabled
      simp only [settings, Prod.mk.injEq] at kept
      exact .inl ⟨kept.1, kept.2.1⟩
  | setIdleTimeout timeout =>
      have kept := @settings_setIdleTimeout presence timeout
      simp only [settings, Prod.mk.injEq] at kept
      exact .inl ⟨kept.1, kept.2.1⟩
  | setStatus status => exact absurd rfl (own status)

end Presence

structure Remembered where
  presence : Presence
  /-- The last status other than IDLE. -/
  recent : UInt32
  /-- The idle state was entered with the status it ended saved. -/
  kept : Bool
deriving DecidableEq, Repr

namespace Remembered

open Presence

def created : Remembered where
  presence := .created
  recent := statusAvailable
  kept := true

/-- `set_session_idle` saves the status it ends; `SetStatus` may find it saved. -/
def savesStatus (presence : Presence) : Presence.Event → Bool
  | .setStatus _ => decide (presence.savedStatus = presence.status)
  | _ => true

def handle (remembered : Remembered) (event : Presence.Event) : Remembered where
  presence := remembered.presence.handle event
  recent :=
    if (remembered.presence.handle event).status = statusIdle then remembered.recent
    else (remembered.presence.handle event).status
  kept :=
    if remembered.presence.status ≠ statusIdle then savesStatus remembered.presence event
    else remembered.kept

/-- `set_session_idle (FALSE)` moves the status away from IDLE. -/
def Leaves (remembered : Remembered) (event : Presence.Event) : Prop :=
  remembered.presence.status = statusIdle ∧
    (remembered.handle event).presence.status ≠ statusIdle ∧
    ∀ status, event ≠ .setStatus status

/-- The user's status is restored. -/
def Restores (remembered : Remembered) (event : Presence.Event) : Prop :=
  remembered.Leaves event → (remembered.handle event).presence.status = remembered.recent

/-- The idle state that is left was entered by `set_session_idle`, or from the
status that was saved already. -/
def Remembers (remembered : Remembered) (event : Presence.Event) : Prop :=
  remembered.Leaves event → remembered.kept = true

structure Consistent (remembered : Remembered) : Prop where
  saved : remembered.presence.savedStatus ≠ statusIdle
  awake : remembered.presence.status ≠ statusIdle → remembered.recent = remembered.presence.status
  idle : remembered.presence.status = statusIdle →
    (remembered.kept = true ↔ remembered.presence.savedStatus = remembered.recent)

theorem consistent_created : created.Consistent :=
  ⟨by decide, fun _ => rfl, nofun⟩

variable {remembered : Remembered} {event : Presence.Event}

/-- A status that stays IDLE leaves the saved one alone. -/
theorem savedStatus_stays (saved : remembered.presence.savedStatus ≠ statusIdle)
    (was : remembered.presence.status = statusIdle)
    (idle : (remembered.handle event).presence.status = statusIdle) :
    (remembered.handle event).presence.savedStatus = remembered.presence.savedStatus := by
  by_cases asked : ∃ status, event = .setStatus status
  · obtain ⟨status, same⟩ := asked
    rw [same]
    exact savedStatus_setStatus status
  · have own : ∀ status, event ≠ .setStatus status := fun status same => asked ⟨status, same⟩
    rcases moves_handle remembered.presence event own with same | entered | left
    · exact same.2
    · exact absurd was entered.1
    · exact absurd (left.2.1.symm.trans idle) saved

/-- The idle state is entered with the status it ends saved, or with what was saved before. -/
theorem savesStatus_iff (awake : remembered.presence.status ≠ statusIdle)
    (idle : (remembered.handle event).presence.status = statusIdle) :
    savesStatus remembered.presence event = true ↔
      (remembered.handle event).presence.savedStatus = remembered.presence.status := by
  by_cases asked : ∃ status, event = .setStatus status
  · obtain ⟨status, same⟩ := asked
    subst same
    have kept : (remembered.handle (.setStatus status)).presence.savedStatus =
        remembered.presence.savedStatus := savedStatus_setStatus status
    rw [kept]
    exact decide_eq_true_iff
  · have own : ∀ status, event ≠ .setStatus status := fun status same => asked ⟨status, same⟩
    have saves : savesStatus remembered.presence event = true := by
      cases event with
      | setStatus status => exact absurd rfl (own status)
      | _ => rfl
    rcases moves_handle remembered.presence event own with same | entered | left
    · exact absurd (same.1.symm.trans idle) awake
    · exact iff_of_true saves entered.2.2
    · exact absurd left.1 awake

theorem Consistent.handle (consistent : remembered.Consistent) (event : Presence.Event) :
    (remembered.handle event).Consistent := by
  constructor
  case saved => exact savedStatus_handle consistent.saved event
  case awake => exact fun away => if_neg away
  case idle =>
    intro idle
    have recent : (remembered.handle event).recent = remembered.recent := if_pos idle
    rw [recent]
    by_cases was : remembered.presence.status = statusIdle
    · have kept : (remembered.handle event).kept = remembered.kept := if_neg (not_not.mpr was)
      rw [kept, consistent.idle was, savedStatus_stays consistent.saved was idle]
    · have kept : (remembered.handle event).kept = savesStatus remembered.presence event := if_pos was
      rw [kept, consistent.awake was, savesStatus_iff was idle]

/-- What is restored is what was saved. -/
theorem status_of_leaves (leaves : remembered.Leaves event) :
    (remembered.handle event).presence.status = remembered.presence.savedStatus := by
  obtain ⟨was, away, own⟩ := leaves
  rcases moves_handle remembered.presence event own with same | entered | left
  · exact absurd (same.1.trans was) away
  · exact absurd was entered.1
  · exact left.2.1

theorem restores_iff (consistent : remembered.Consistent) :
    remembered.Restores event ↔ remembered.Remembers event := by
  refine forall_congr' fun leaves => ?_
  rw [status_of_leaves leaves, consistent.idle leaves.1]

end Remembered

def rememberedSystem : System Remembered Presence.Event where
  initial remembered := remembered = .created
  step remembered event := some (remembered.handle event)

namespace Remembered

/-- In a run from the start each leaving of the idle state restores the user's status
just when each leaves an idle state that was entered with that status saved. -/
theorem status_restored_iff (events : List Presence.Event) :
    rememberedSystem.Meets Restores .created events ↔
      rememberedSystem.Meets Remembers .created events := by
  refine System.meets_congr Consistent ?_ ?_ consistent_created events
  · intro before event after consistent stepped
    cases stepped
    exact consistent.handle event
  · intro remembered event consistent
    exact restores_iff consistent

/-- A busy user who sets the status to IDLE comes back available. -/
theorem busy_forgotten :
    ¬ rememberedSystem.Meets Restores .created
      [.setStatus 2, .setStatus 3, .screensaverActiveChanged true,
        .screensaverActiveChanged false] := by
  intro meets
  have last := ((((meets.2 _ rfl).2 _ rfl).2 _ rfl).1 ⟨by decide, by decide, nofun⟩)
  revert last
  decide

end Remembered

end CafeSession.Idle

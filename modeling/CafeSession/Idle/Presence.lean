import CafeSession.Serial.Counter
import CafeSession.Transition.System

/-! # Presence

`CsmPresence` with the idle monitor that it creates for itself: the status of
the session, and the watch that says when nobody uses it.  An alarm of the
monitor reaches the watch it belongs to, if that is still registered. -/

namespace CafeSession.Idle

open CafeSession.Transition

structure Watch where
  id : UInt32
  interval : UInt32
deriving DecidableEq, Repr

structure IdleMonitor where
  watchSerial : UInt32
  watches : List Watch
deriving DecidableEq, Repr

namespace IdleMonitor

def init : IdleMonitor where
  watchSerial := 1
  watches := []

/-- `gs_idle_monitor_add_watch`, with the id that it returns. -/
def addWatch (interval : UInt32) (monitor : IdleMonitor) : UInt32 × IdleMonitor :=
  (monitor.watchSerial,
    { watchSerial := Serial.next monitor.watchSerial
      watches := monitor.watches.filter (fun watch => watch.id ≠ monitor.watchSerial) ++
        [⟨monitor.watchSerial, interval⟩] })

/-- `gs_idle_monitor_remove_watch`. -/
def removeWatch (id : UInt32) (monitor : IdleMonitor) : IdleMonitor :=
  { monitor with watches := monitor.watches.filter (fun watch => watch.id ≠ id) }

end IdleMonitor

def statusAvailable : UInt32 := 0
def statusIdle : UInt32 := 3

structure Presence where
  status : UInt32
  savedStatus : UInt32
  idleEnabled : Bool
  idleMonitor : IdleMonitor
  /-- 0 when there is no watch -/
  idleWatchId : UInt32
  idleTimeout : UInt32
  screensaverActive : Bool
deriving DecidableEq, Repr

namespace Presence

/-- `csm_presence_new`: the construct properties have their defaults. -/
def created : Presence where
  status := statusAvailable
  savedStatus := statusAvailable
  idleEnabled := false
  idleMonitor := .init
  idleWatchId := 0
  idleTimeout := 300000
  screensaverActive := false

/-- `csm_presence_set_status`. -/
def setStatus (status : UInt32) (presence : Presence) : Presence :=
  if status ≠ presence.status then { presence with status := status } else presence

def setSessionIdle (isIdle : Bool) (presence : Presence) : Presence :=
  if isIdle then
    if presence.status = statusIdle then presence
    else { presence with savedStatus := presence.status }.setStatus statusIdle
  else
    if presence.status ≠ statusIdle then presence
    else { presence.setStatus presence.savedStatus with savedStatus := statusAvailable }

def onIdleTimeout (condition : Bool) (presence : Presence) : Presence :=
  presence.setSessionIdle condition

/-- The idle watch is wanted. -/
def wantsWatch (presence : Presence) : Bool :=
  !presence.screensaverActive && presence.idleEnabled && decide (0 < presence.idleTimeout)

def removeIdleWatch (presence : Presence) : Presence :=
  if 0 < presence.idleWatchId then
    { presence with
        idleMonitor := presence.idleMonitor.removeWatch presence.idleWatchId
        idleWatchId := 0 }
  else
    presence

def resetIdleWatch (presence : Presence) : Presence :=
  let removed := presence.removeIdleWatch
  if removed.wantsWatch then
    let (id, monitor) := removed.idleMonitor.addWatch removed.idleTimeout
    { removed with idleMonitor := monitor, idleWatchId := id }
  else
    removed

def onScreensaverActiveChanged (isActive : Bool) (presence : Presence) : Presence :=
  if presence.screensaverActive ≠ isActive then
    ({ presence with screensaverActive := isActive }.resetIdleWatch).setSessionIdle isActive
  else
    presence

def onScreensaverProxyDestroy (presence : Presence) : Presence :=
  ({ presence with screensaverActive := false }.setSessionIdle false).resetIdleWatch

/-- `csm_presence_set_idle_enabled`. -/
def setIdleEnabled (enabled : Bool) (presence : Presence) : Presence :=
  if presence.idleEnabled ≠ enabled then { presence with idleEnabled := enabled }.resetIdleWatch
  else presence

/-- `csm_presence_set_idle_timeout`. -/
def setIdleTimeout (timeout : UInt32) (presence : Presence) : Presence :=
  if timeout ≠ presence.idleTimeout then { presence with idleTimeout := timeout }.resetIdleWatch
  else presence

/-- `handle_alarm_notify_event`, for the transition of the watch. -/
def handleAlarm (id : UInt32) (condition : Bool) (presence : Presence) : Presence :=
  if presence.idleMonitor.watches.any (fun watch => watch.id = id) then
    presence.onIdleTimeout condition
  else
    presence

inductive Event where
  | alarm (watch : UInt32) (condition : Bool)
  | screensaverActiveChanged (isActive : Bool)
  | screensaverProxyDestroy
  | setIdleEnabled (enabled : Bool)
  | setIdleTimeout (timeout : UInt32)
  | setStatus (status : UInt32)
deriving DecidableEq, Repr

def handle (presence : Presence) : Event → Presence
  | .alarm watch condition => presence.handleAlarm watch condition
  | .screensaverActiveChanged isActive => presence.onScreensaverActiveChanged isActive
  | .screensaverProxyDestroy => presence.onScreensaverProxyDestroy
  | .setIdleEnabled enabled => presence.setIdleEnabled enabled
  | .setIdleTimeout timeout => presence.setIdleTimeout timeout
  | .setStatus status => presence.setStatus status

/-- The watch is there when it is wanted, and it is the only one. -/
structure Armed (presence : Presence) : Prop where
  serial : 0 < presence.idleMonitor.watchSerial.toNat ∧
    presence.idleMonitor.watchSerial.toNat ≤ Serial.period
  wanted : presence.idleWatchId ≠ 0 ↔ presence.wantsWatch = true
  only : presence.idleMonitor.watches =
    if presence.idleWatchId = 0 then [] else [⟨presence.idleWatchId, presence.idleTimeout⟩]

section Statuses

variable (presence : Presence) (status : UInt32) (isIdle : Bool)

/-- The fields that have to do with the watch. -/
def watching (presence : Presence) : Bool × IdleMonitor × UInt32 × UInt32 × Bool :=
  (presence.idleEnabled, presence.idleMonitor, presence.idleWatchId, presence.idleTimeout,
    presence.screensaverActive)

@[simp] theorem watching_setStatus : (presence.setStatus status).watching = presence.watching := by
  unfold setStatus
  split_ifs <;> rfl

@[simp] theorem watching_setSessionIdle :
    (presence.setSessionIdle isIdle).watching = presence.watching := by
  have kept := presence.watching_setStatus presence.savedStatus
  unfold setSessionIdle
  split_ifs
  · rfl
  · exact watching_setStatus _ _
  · rfl
  · simpa [watching] using kept

end Statuses

variable {presence before after : Presence}

theorem Armed.of_watching (armed : before.Armed) (same : after.watching = before.watching) :
    after.Armed := by
  simp only [watching, Prod.mk.injEq] at same
  obtain ⟨enabled, monitor, id, timeout, active⟩ := same
  obtain ⟨serial, wanted, only⟩ := armed
  refine ⟨by rwa [monitor], ?_, by rw [monitor, id, timeout, only]⟩
  rw [wantsWatch, id, enabled, timeout, active]
  exact wanted

/-- The watch that is known is the only one, whatever is wanted now. -/
structure Tidy (presence : Presence) : Prop where
  serial : 0 < presence.idleMonitor.watchSerial.toNat ∧
    presence.idleMonitor.watchSerial.toNat ≤ Serial.period
  only : ∃ interval, presence.idleMonitor.watches =
    if presence.idleWatchId = 0 then [] else [⟨presence.idleWatchId, interval⟩]

theorem Armed.tidy (armed : presence.Armed) : presence.Tidy :=
  ⟨armed.serial, presence.idleTimeout, armed.only⟩

theorem removeIdleWatch_eq (tidy : presence.Tidy) :
    presence.removeIdleWatch = { presence with
      idleMonitor := { presence.idleMonitor with watches := [] }
      idleWatchId := 0 } := by
  obtain ⟨interval, only⟩ := tidy.only
  unfold removeIdleWatch
  by_cases none_ : presence.idleWatchId = 0
  · rw [if_neg (by simp [none_])]
    rw [if_pos none_] at only
    rw [← only, ← none_]
  · rw [if_pos (UInt32.pos_iff_ne_zero.mpr none_)]
    rw [if_neg none_] at only
    simp [IdleMonitor.removeWatch, only]

/-- A reset leaves the watch just when it is wanted. -/
theorem Tidy.resetIdleWatch (tidy : presence.Tidy) : presence.resetIdleWatch.Armed := by
  have wants : presence.removeIdleWatch.wantsWatch = presence.wantsWatch := by
    rw [removeIdleWatch_eq tidy]
    rfl
  obtain ⟨positive, low⟩ := tidy.serial
  have next := Serial.toNat_next low
  have known : presence.idleMonitor.watchSerial ≠ 0 := by
    intro zero
    rw [zero] at positive
    exact absurd positive (by decide)
  unfold Presence.resetIdleWatch
  dsimp only
  rw [wants]
  split_ifs with wanted
  · rw [removeIdleWatch_eq tidy]
    refine ⟨?_, iff_of_true known wanted, ?_⟩
    · simp only [IdleMonitor.addWatch, next]
      have value : Serial.period = 2147483647 := rfl
      split_ifs <;> omega
    · simp [IdleMonitor.addWatch, known]
  · rw [removeIdleWatch_eq tidy]
    exact ⟨⟨positive, low⟩, iff_of_false (not_not.mpr rfl) wanted, rfl⟩

theorem Armed.handle (armed : presence.Armed) (event : Event) : (presence.handle event).Armed := by
  have tidy := armed.tidy
  cases event with
  | alarm watch condition =>
      simp only [Presence.handle, handleAlarm, onIdleTimeout]
      split_ifs
      · exact armed.of_watching (watching_setSessionIdle _ _)
      · exact armed
  | screensaverActiveChanged isActive =>
      simp only [Presence.handle, onScreensaverActiveChanged]
      split_ifs
      · have changed : ({ presence with screensaverActive := isActive } : Presence).Tidy :=
          ⟨tidy.serial, tidy.only⟩
        exact changed.resetIdleWatch.of_watching (watching_setSessionIdle _ _)
      · exact armed
  | screensaverProxyDestroy =>
      have left : ({ presence with screensaverActive := false } : Presence).Tidy :=
        ⟨tidy.serial, tidy.only⟩
      have same := watching_setSessionIdle { presence with screensaverActive := false } false
      refine Tidy.resetIdleWatch ?_
      simp only [watching, Prod.mk.injEq] at same
      obtain ⟨_, monitor, id, _, _⟩ := same
      exact ⟨by rw [monitor]; exact left.serial, by rw [monitor, id]; exact left.only⟩
  | setIdleEnabled enabled =>
      simp only [Presence.handle, Presence.setIdleEnabled]
      split_ifs
      · exact Tidy.resetIdleWatch ⟨tidy.serial, tidy.only⟩
      · exact armed
  | setIdleTimeout timeout =>
      simp only [Presence.handle, Presence.setIdleTimeout]
      split_ifs
      · exact Tidy.resetIdleWatch ⟨tidy.serial, tidy.only⟩
      · exact armed
  | setStatus status => exact armed.of_watching (watching_setStatus _ _)

theorem armed_created : created.Armed :=
  ⟨by decide, by decide, rfl⟩

def settings (presence : Presence) : UInt32 × UInt32 × Bool × UInt32 × Bool :=
  (presence.status, presence.savedStatus, presence.idleEnabled, presence.idleTimeout,
    presence.screensaverActive)

theorem settings_removeIdleWatch : presence.removeIdleWatch.settings = presence.settings := by
  unfold removeIdleWatch
  split_ifs <;> rfl

theorem settings_resetIdleWatch : presence.resetIdleWatch.settings = presence.settings := by
  simp only [resetIdleWatch]
  split_ifs
  · exact settings_removeIdleWatch
  · exact settings_removeIdleWatch

@[simp] theorem status_resetIdleWatch : presence.resetIdleWatch.status = presence.status :=
  congrArg Prod.fst settings_resetIdleWatch

@[simp] theorem savedStatus_resetIdleWatch :
    presence.resetIdleWatch.savedStatus = presence.savedStatus :=
  congrArg (fun settings => settings.2.1) settings_resetIdleWatch

@[simp] theorem idleEnabled_resetIdleWatch :
    presence.resetIdleWatch.idleEnabled = presence.idleEnabled :=
  congrArg (fun settings => settings.2.2.1) settings_resetIdleWatch

@[simp] theorem screensaverActive_resetIdleWatch :
    presence.resetIdleWatch.screensaverActive = presence.screensaverActive :=
  congrArg (fun settings => settings.2.2.2.2) settings_resetIdleWatch

theorem settings_setIdleEnabled (enabled : Bool) :
    (presence.setIdleEnabled enabled).settings =
      { presence with idleEnabled := enabled }.settings := by
  unfold setIdleEnabled
  split_ifs with other
  · exact settings_resetIdleWatch
  · rw [← not_not.mp other]

theorem settings_setIdleTimeout (timeout : UInt32) :
    (presence.setIdleTimeout timeout).settings =
      { presence with idleTimeout := timeout }.settings := by
  unfold setIdleTimeout
  split_ifs with other
  · exact settings_resetIdleWatch
  · rw [not_not.mp other]

end Presence

/-- The presence object by itself, whatever its callers do. -/
def presenceSystem : System Presence Presence.Event where
  initial presence := presence = .created
  step presence event := some (presence.handle event)

theorem armed_reached {presence : Presence} (reached : presenceSystem.Reachable presence) :
    presence.Armed := by
  refine reached.invariant ?_ ?_
  · intro first initial
    cases initial
    exact Presence.armed_created
  · intro before event after armed _ stepped
    cases stepped
    exact armed.handle event

end CafeSession.Idle

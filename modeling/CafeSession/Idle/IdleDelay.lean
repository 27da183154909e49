import CafeSession.Idle.Alarms

namespace CafeSession.Idle

open CafeSession.Numbers

/-- How wide `long` is. -/
inductive DataModel where
  | ilp32
  | lp64
deriving DecidableEq, Repr

def DataModel.longBits : DataModel → Nat
  | .ilp32 => 32
  | .lp64 => 64

def keyIdleDelay : String := "idle-delay"

section Settings

variable (overflow : Overflow)

/-- `load_idle_delay_from_gsettings`; `none` is an overflow that is undefined. -/
def loadIdleDelayFromGsettings (model : DataModel) (setting : Int32) (presence : Presence) :
    Option Presence :=
  (signed overflow model.longBits (setting.toInt * 60000)).map fun timeout =>
    presence.setIdleTimeout (UInt32.ofInt timeout)

/-- `on_gsettings_key_changed`; the other keys change nothing. -/
def onGsettingsKeyChanged (key : String) (setting : Int32) (presence : Presence) :
    Option Presence :=
  if key = keyIdleDelay then
    (signed overflow 32 (setting.toInt * 60000)).map fun timeout =>
      presence.setIdleTimeout (UInt32.ofInt timeout)
  else
    some presence

/-- Loaded or changed, the delay gives the same presence object, whose timeout
is the delay in milliseconds. -/
def ConvertsExactly (model : DataModel) (setting : Int32) (presence : Presence) : Prop :=
  ∃ after, loadIdleDelayFromGsettings overflow model setting presence = some after ∧
    onGsettingsKeyChanged overflow keyIdleDelay setting presence = some after ∧
    (after.idleTimeout.toNat : Int) = 60000 * setting.toInt

end Settings

/-- The largest delay whose milliseconds are an `int`, or an unsigned number of
32 bits where a product may go round. -/
def longestDelay : Overflow → Int
  | .undefined => 35791
  | .wraps => 71582

variable {overflow : Overflow} {model : DataModel} {setting : Int32} {presence : Presence}

theorem Presence.idleTimeout_setIdleTimeout (timeout : UInt32) :
    (presence.setIdleTimeout timeout).idleTimeout = timeout := by
  have kept := @settings_setIdleTimeout presence timeout
  simp only [settings, Prod.mk.injEq] at kept
  exact kept.2.2.2.1

theorem DataModel.wide (model : DataModel) : 32 ≤ model.longBits := by
  cases model <;> decide

theorem keyChanged_idleDelay : onGsettingsKeyChanged overflow keyIdleDelay setting presence =
    (signed overflow 32 (setting.toInt * 60000)).map fun timeout =>
      presence.setIdleTimeout (UInt32.ofInt timeout) :=
  if_pos rfl

/-- Where nothing is undefined, both products become the same number. -/
theorem converts_of_signed {timeout : UInt32} {loaded changed : Int}
    (load : signed overflow model.longBits (setting.toInt * 60000) = some loaded)
    (change : signed overflow 32 (setting.toInt * 60000) = some changed)
    (sameLoaded : UInt32.ofInt loaded = timeout) (sameChanged : UInt32.ofInt changed = timeout) :
    ConvertsExactly overflow model setting presence ↔
      (timeout.toNat : Int) = 60000 * setting.toInt := by
  have loads : loadIdleDelayFromGsettings overflow model setting presence =
      some (presence.setIdleTimeout timeout) := by
    rw [loadIdleDelayFromGsettings, load, Option.map_some, sameLoaded]
  have changes : onGsettingsKeyChanged overflow keyIdleDelay setting presence =
      some (presence.setIdleTimeout timeout) := by
    rw [keyChanged_idleDelay, change, Option.map_some, sameChanged]
  have installed := presence.idleTimeout_setIdleTimeout timeout
  constructor
  · intro ⟨after, one, _, exact⟩
    cases loads.symm.trans one
    rwa [installed] at exact
  · intro exact
    exact ⟨_, loads, changes, by rwa [installed]⟩

theorem converts_exactly_iff_wraps (nonnegative : 0 ≤ setting.toInt) :
    ConvertsExactly .wraps model setting presence ↔ setting.toInt ≤ 71582 := by
  have converts := @converts_of_signed .wraps model setting presence _ _ _ rfl rfl
    (ofInt_bmod model.wide _) (ofInt_bmod (Nat.le_refl 32) _)
  have exact := @ofInt_exact_iff (setting.toInt * 60000) (by omega)
  rw [converts, Int.mul_comm 60000, exact]
  omega

theorem converts_exactly_iff_undefined (nonnegative : 0 ≤ setting.toInt) :
    ConvertsExactly .undefined model setting presence ↔ setting.toInt ≤ 35791 := by
  have positive : 0 ≤ setting.toInt * 60000 := by omega
  constructor
  · intro ⟨after, _, changes, _⟩
    rw [keyChanged_idleDelay] at changes
    obtain ⟨changed, product, _⟩ := Option.map_eq_some_iff.mp changes
    have fits := ((signed_undefined_eq_some (by decide) positive).mp product).2
    omega
  · intro low
    have small : setting.toInt * 60000 < 2 ^ 31 := by omega
    have long : (2 ^ 31 : Int) ≤ 2 ^ (model.longBits - 1) := by
      cases model <;> decide
    have load := signed_of_lt .undefined (by have := model.wide; omega) positive
      (Int.lt_of_lt_of_le small long)
    have change := @signed_of_lt 32 _ .undefined (by decide) positive small
    rw [converts_of_signed load change rfl rfl, Int.mul_comm 60000, ofInt_exact_iff positive]
    omega

/-- The alarms of a presence object that a delay has been converted for. -/
theorem waits_of_delay {XSyncValue : Type} {values : SyncValues XSyncValue}
    (documented : values.Documented) (reached : presenceSystem.Reachable presence)
    (exact : (presence.idleTimeout.toNat : Int) = 60000 * setting.toInt)
    {watch : Watch} (member : watch ∈ presence.idleMonitor.watches) (counter : XId)
    (made : XId × XId) :
    waits values (xsyncAlarmSet values counter made (idleMonitorWatchNew values watch)).2 =
      [(.positiveTransition, 60000 * setting.toInt - 1),
        (.negativeTransition, 60000 * setting.toInt - 1)] := by
  have interval : watch.interval = presence.idleTimeout := by
    rw [(armed_reached reached).only] at member
    split_ifs at member
    · cases member
    · rw [List.mem_singleton.mp member]
  rw [waits_xsyncAlarmSet documented counter made rfl, interval, exact]

/-- A delay is converted exactly as long as its milliseconds fit where they are computed. -/
theorem idle_delay_exact_iff (overflow : Overflow) (model : DataModel) (setting : Int32)
    (nonnegative : 0 ≤ setting.toInt) (presence : Presence) :
    ConvertsExactly overflow model setting presence ↔
      setting.toInt ≤ longestDelay overflow := by
  cases overflow with
  | undefined => exact converts_exactly_iff_undefined nonnegative
  | wraps => exact converts_exactly_iff_wraps nonnegative

/-- The default of the setting gives the default of the presence object. -/
theorem idle_delay_exact_default : ConvertsExactly .undefined .lp64 5 .created :=
  (idle_delay_exact_iff .undefined .lp64 5 (by decide) .created).mpr (by decide)

/-- Almost fifty days, loaded without any overflow, are not thirteen seconds. -/
theorem long_delay_truncated :
    (loadIdleDelayFromGsettings .undefined .lp64 71583 .created).map Presence.idleTimeout =
        some 12704 ∧
      onGsettingsKeyChanged .undefined keyIdleDelay 71583 .created = none ∧
      ¬ ConvertsExactly .undefined .lp64 71583 .created := by
  have loaded : (loadIdleDelayFromGsettings .undefined .lp64 71583 .created).map
      Presence.idleTimeout = some 12704 := by decide
  refine ⟨loaded, by decide, ?_⟩
  intro ⟨after, loads, _, exact⟩
  rw [loads, Option.map_some, Option.some.injEq] at loaded
  rw [loaded] at exact
  exact absurd exact (by decide)

end CafeSession.Idle

import CafeSession.Idle.Presence
import CafeSession.Numbers.Machine

namespace CafeSession.Idle

open CafeSession.Numbers

/-- How the X library makes its 64-bit values and takes them apart. -/
structure SyncValues (XSyncValue : Type) where
  intsToValue : UInt32 → Int32 → XSyncValue
  intToValue : Int32 → XSyncValue
  valueHigh32 : XSyncValue → Int32
  valueLow32 : XSyncValue → UInt32

/-- A value made of two halves has them. -/
structure SyncValues.Documented {XSyncValue : Type} (values : SyncValues XSyncValue) : Prop where
  high : ∀ low high, values.valueHigh32 (values.intsToValue low high) = high
  low : ∀ low high, values.valueLow32 (values.intsToValue low high) = low

section Values

variable {XSyncValue : Type} (values : SyncValues XSyncValue)

/-- `_xsyncvalue_to_int64`. -/
def xsyncvalueToInt64 (value : XSyncValue) : Int64 :=
  join (values.valueHigh32 value) (values.valueLow32 value)

/-- `_int64_to_xsyncvalue`. -/
def int64ToXsyncvalue (value : Int64) : XSyncValue :=
  values.intsToValue (lowHalf value) (highHalf value)

end Values

abbrev XId := UInt32

inductive TestType where
  | positiveTransition
  | negativeTransition
deriving DecidableEq, Repr

/-- `XSyncAlarmAttributes`; the value of the trigger is absolute. -/
structure AlarmAttributes (XSyncValue : Type) where
  counter : XId
  waitValue : XSyncValue
  testType : TestType
  delta : XSyncValue
  events : Bool
deriving DecidableEq

inductive AlarmRequest (XSyncValue : Type) where
  | createAlarm (attributes : AlarmAttributes XSyncValue)
  | changeAlarm (alarm : XId) (attributes : AlarmAttributes XSyncValue)
deriving DecidableEq

def AlarmRequest.attributes {XSyncValue : Type} :
    AlarmRequest XSyncValue → AlarmAttributes XSyncValue
  | .createAlarm attributes => attributes
  | .changeAlarm _ attributes => attributes

structure IdleMonitorWatch (XSyncValue : Type) where
  id : UInt32
  interval : XSyncValue
  /-- 0 when there is no alarm -/
  xalarmPositive : XId
  xalarmNegative : XId

section Alarms

variable {XSyncValue : Type} (values : SyncValues XSyncValue)

/-- `idle_monitor_watch_new`, for a watch with the serial that it takes. -/
def idleMonitorWatchNew (watch : Watch) : IdleMonitorWatch XSyncValue where
  id := watch.id
  interval := int64ToXsyncvalue values watch.interval.toUInt64.toInt64
  xalarmPositive := 0
  xalarmNegative := 0

/-- An alarm that is there is changed; otherwise the server makes the new one. -/
def setAlarm (alarm made : XId) (attributes : AlarmAttributes XSyncValue) :
    XId × AlarmRequest XSyncValue :=
  if alarm ≠ 0 then (alarm, .changeAlarm alarm attributes)
  else (made, .createAlarm attributes)

/-- `_xsync_alarm_set`, with what it asks of the server; `made` are the alarms
that the server makes if asked to. -/
def xsyncAlarmSet (counter : XId) (made : XId × XId) (watch : IdleMonitorWatch XSyncValue) :
    IdleMonitorWatch XSyncValue × List (AlarmRequest XSyncValue) :=
  let attributes (testType : TestType) : AlarmAttributes XSyncValue :=
    { counter := counter
      waitValue := int64ToXsyncvalue values (xsyncvalueToInt64 values watch.interval - 1)
      testType := testType
      delta := values.intToValue 0
      events := true }
  let positive := setAlarm watch.xalarmPositive made.1 (attributes .positiveTransition)
  let negative := setAlarm watch.xalarmNegative made.2 (attributes .negativeTransition)
  ({ watch with xalarmPositive := positive.1, xalarmNegative := negative.1 },
    [positive.2, negative.2])

end Alarms

section Exact

variable {XSyncValue : Type} {values : SyncValues XSyncValue}

theorem xsyncvalueToInt64_int64ToXsyncvalue (documented : values.Documented) (value : Int64) :
    xsyncvalueToInt64 values (int64ToXsyncvalue values value) = value := by
  unfold xsyncvalueToInt64 int64ToXsyncvalue
  rw [documented.high, documented.low]
  exact join_halves value

theorem attributes_setAlarm (alarm made : XId) (attributes : AlarmAttributes XSyncValue) :
    (setAlarm alarm made attributes).2.attributes = attributes := by
  unfold setAlarm
  split_ifs <;> rfl

theorem toInt_interval (interval : UInt32) :
    interval.toUInt64.toInt64.toInt = interval.toNat := by
  have low := interval.toNat_lt
  have wide : interval.toUInt64.toInt64.toInt = interval.toUInt64.toBitVec.toInt := rfl
  have same : interval.toUInt64.toBitVec.toNat = interval.toNat := UInt32.toNat_toUInt64 interval
  rw [wide, BitVec.toInt_eq_toNat_of_lt (by omega), same]

/-- Nothing goes round when one is taken off an interval. -/
theorem toInt_interval_sub (interval : UInt32) :
    (interval.toUInt64.toInt64 - 1).toInt = (interval.toNat : Int) - 1 := by
  have low := interval.toNat_lt
  have one : (1 : Int64).toInt = 1 := rfl
  rw [Int64.toInt_sub, toInt_interval, one]
  exact Int.bmod_eq_of_le (by omega) (by omega)

/-- The transitions that the alarms ask for, and the times they wait for. -/
def waits (values : SyncValues XSyncValue) (requests : List (AlarmRequest XSyncValue)) :
    List (TestType × Int) :=
  requests.map fun request =>
    (request.attributes.testType, (xsyncvalueToInt64 values request.attributes.waitValue).toInt)

theorem waits_xsyncAlarmSet (documented : values.Documented) {watch : Watch}
    {known : IdleMonitorWatch XSyncValue} (counter : XId) (made : XId × XId)
    (same : known.interval = (idleMonitorWatchNew values watch).interval) :
    waits values (xsyncAlarmSet values counter made known).2 =
      [(.positiveTransition, (watch.interval.toNat : Int) - 1),
        (.negativeTransition, (watch.interval.toNat : Int) - 1)] := by
  have survives := xsyncvalueToInt64_int64ToXsyncvalue documented
  have last : (xsyncvalueToInt64 values known.interval - 1).toInt =
      (watch.interval.toNat : Int) - 1 := by
    rw [same, idleMonitorWatchNew, survives]
    exact toInt_interval_sub watch.interval
  simp only [waits, xsyncAlarmSet, List.map_cons, List.map_nil, attributes_setAlarm, survives, last]

/-- A number survives the X library, and both alarms of a watch wait for the
last millisecond before its interval. -/
theorem alarms_wait_exactly (documented : values.Documented) :
    (∀ value : Int64, xsyncvalueToInt64 values (int64ToXsyncvalue values value) = value) ∧
    ∀ (watch : Watch) (known : IdleMonitorWatch XSyncValue) (counter : XId) (made : XId × XId),
      known.interval = (idleMonitorWatchNew values watch).interval →
      waits values (xsyncAlarmSet values counter made known).2 =
        [(.positiveTransition, (watch.interval.toNat : Int) - 1),
          (.negativeTransition, (watch.interval.toNat : Int) - 1)] :=
  ⟨xsyncvalueToInt64_int64ToXsyncvalue documented,
    fun _ _ counter made same => waits_xsyncAlarmSet documented counter made same⟩

end Exact

/-- The structure that the X library uses. -/
structure XSyncValue where
  hi : Int32
  lo : UInt32
deriving DecidableEq, Repr

def syncValues : SyncValues XSyncValue where
  intsToValue low high := ⟨high, low⟩
  intToValue value := ⟨if value < 0 then -1 else 0, value.toUInt32⟩
  valueHigh32 := XSyncValue.hi
  valueLow32 := XSyncValue.lo

theorem syncValues_documented : syncValues.Documented :=
  ⟨fun _ _ => rfl, fun _ _ => rfl⟩

/-- An interval of no milliseconds makes the high half negative. -/
theorem alarms_wait_exactly_zero :
    xsyncvalueToInt64 syncValues (int64ToXsyncvalue syncValues (-1)) = -1 ∧
    waits syncValues (xsyncAlarmSet syncValues 7 (1, 2) (idleMonitorWatchNew syncValues ⟨1, 0⟩)).2 =
      [(.positiveTransition, -1), (.negativeTransition, -1)] := by
  obtain ⟨survives, both⟩ := alarms_wait_exactly syncValues_documented
  exact ⟨survives (-1), both ⟨1, 0⟩ _ 7 (1, 2) rfl⟩

end CafeSession.Idle

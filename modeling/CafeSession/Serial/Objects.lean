import CafeSession.Serial.Counter
import CafeSession.Transition.System

namespace CafeSession.Serial

open CafeSession.Transition

/-- What a hash table has its objects under. -/
inductive Key where
  | objectPath (path : String)
  | watchId (id : UInt32)
deriving DecidableEq, Repr

/-- Each kind has a counter of its own: `get_next_client_serial`,
`get_next_inhibitor_serial`, `get_next_app_serial` and `get_next_watch_serial`. -/
inductive Kind where
  | client
  | inhibitor
  | app
  | watch
deriving DecidableEq, Repr

/-- The id that the constructor of the kind makes of its serial. -/
def Kind.key : Kind → UInt32 → Key
  | .client, serial => .objectPath ("/org/gnome/SessionManager/Client" ++ toString serial.toNat)
  | .inhibitor, serial =>
      .objectPath ("/org/gnome/SessionManager/Inhibitor" ++ toString serial.toNat)
  | .app, serial => .objectPath ("/org/gnome/SessionManager/App" ++ toString serial.toNat)
  | .watch, serial => .watchId serial

theorem toString_injective : (toString : Nat → String).Injective := by
  intro first second same
  have digits := congrArg String.toList same
  rw [Nat.toString_eq_repr, Nat.toString_eq_repr, Nat.toList_repr, Nat.toList_repr] at digits
  have values := congrArg (fun chars => Nat.ofDigitChars 10 chars 0) digits
  simpa using values

theorem path_injective (start : String) :
    (fun serial : UInt32 => Key.objectPath (start ++ toString serial.toNat)).Injective := by
  intro first second same
  have texts := congrArg String.toList (Key.objectPath.inj same)
  rw [String.toList_append, String.toList_append] at texts
  have numbers := String.toList_injective (List.append_cancel_left texts)
  exact UInt32.toNat_inj.mp (toString_injective numbers)

theorem Kind.key_injective (kind : Kind) : kind.key.Injective := by
  cases kind with
  | client => exact path_injective _
  | inhibitor => exact path_injective _
  | app => exact path_injective _
  | watch => exact fun _ _ same => Key.watchId.inj same

inductive Change where
  /-- the object is constructed, and stored or not -/
  | construct (stored : Bool)
  | remove (key : Key)
deriving DecidableEq, Repr

structure Event where
  kind : Kind
  change : Change
deriving DecidableEq, Repr

abbrev Objects := Kind → Registry Key

namespace Objects

def init : Objects := fun _ => .empty

/-- The registry of the kind, after a change of the event. -/
def change (objects : Objects) (event : Event) : Registry Key :=
  match event.change with
  | .construct stored => (objects event.kind).make event.kind.key stored
  | .remove key => (objects event.kind).remove key

def step (objects : Objects) (event : Event) : Objects :=
  Function.update objects event.kind (objects.change event)

/-- A new object has an id that no object of its store has, and all of these stay. -/
def Fresh (objects : Objects) (event : Event) : Prop :=
  ∀ stored, event.change = .construct stored → ∀ entry ∈ (objects event.kind).entries,
    entry.key ≠ event.kind.key (objects event.kind).serial ∧
      entry ∈ (objects.step event event.kind).entries

/-- No object of the store was constructed a whole number of periods before the
new one. -/
def Spaced (objects : Objects) (event : Event) : Prop :=
  ∀ stored, event.change = .construct stored → ∀ entry ∈ (objects event.kind).entries,
    ¬period ∣ (objects event.kind).made - entry.made

def Numbered (objects : Objects) : Prop :=
  ∀ kind, (objects kind).Numbered kind.key

variable {objects : Objects} {event : Event}

theorem step_same : objects.step event event.kind = objects.change event :=
  Function.update_self _ _ _

theorem Numbered.step (numbered : objects.Numbered) (event : Event) :
    (objects.step event).Numbered := by
  intro kind
  by_cases same : kind = event.kind
  · subst same
    rw [Objects.step, Function.update_self, change]
    cases event.change with
    | construct stored => exact (numbered event.kind).make stored
    | remove key => exact (numbered event.kind).remove key
  · rw [Objects.step, Function.update_of_ne same]
    exact numbered kind

theorem Numbered.fresh_iff (numbered : objects.Numbered) :
    objects.Fresh event ↔ objects.Spaced event := by
  have apart {entry : Entry Key} (member : entry ∈ (objects event.kind).entries) :
      entry.key ≠ event.kind.key (objects event.kind).serial ↔
        ¬period ∣ (objects event.kind).made - entry.made :=
    not_congr ((numbered event.kind).key_eq_iff event.kind.key_injective member)
  constructor
  · intro fresh stored constructs entry member
    exact (apart member).mp (fresh stored constructs entry member).1
  · intro spaced stored constructs entry member
    have fresh := fun (other : Entry Key) inside =>
      (apart inside).mpr (spaced stored constructs other inside)
    refine ⟨fresh entry member, ?_⟩
    rw [step_same, change, constructs]
    exact Registry.mem_make stored fresh member

end Objects

def objectSystem : System Objects Event where
  initial objects := objects = .init
  step objects event := some (objects.step event)

theorem numbered_run {events : List Event} {finish : Objects}
    (run : objectSystem.run .init events = some finish) : finish.Numbered := by
  have reached : objectSystem.Reachable finish := System.Reachable.of_run (.initial rfl) run
  refine reached.invariant ?_ ?_
  · rintro _ rfl kind
    exact Registry.numbered_empty
  · intro before event after numbered _ stepped
    cases stepped
    exact numbered.step event

/-- Along every run the objects get new ids just when none is constructed a
whole number of periods after one of its kind that is still stored. -/
theorem objects_fresh_iff (events : List Event) :
    objectSystem.Meets Objects.Fresh .init events ↔
      objectSystem.Meets Objects.Spaced .init events := by
  refine System.meets_congr Objects.Numbered ?_ (fun _ _ numbered => numbered.fresh_iff)
    (fun _ => Registry.numbered_empty) events
  intro before event after numbered stepped
  cases stepped
  exact numbered.step event

/-- One more inhibitor, removed before the next is made. -/
def inhibitBriefly (count : Nat) : List Event :=
  [⟨.inhibitor, .construct true⟩, ⟨.inhibitor, .remove (Kind.inhibitor.key (after count))⟩]

/-- An inhibitor that stays, and so many after it that do not. -/
def inhibitorRun : Nat → List Event
  | 0 => [⟨.inhibitor, .construct true⟩]
  | count + 1 => inhibitorRun count ++ inhibitBriefly (count + 1)

theorem inhibitor_stays {count : Nat} (few : count < period) :
    ∃ objects, objectSystem.run .init (inhibitorRun count) = some objects ∧
      (objects .inhibitor).made = count + 1 ∧
      ⟨Kind.inhibitor.key (after 0), 0⟩ ∈ (objects .inhibitor).entries := by
  induction count with
  | zero =>
      refine ⟨_, rfl, rfl, ?_⟩
      exact Registry.mem_insert.mpr (.inr rfl)
  | succ count ih =>
      obtain ⟨objects, run, made, first⟩ := ih (by omega)
      have numbered := numbered_run run .inhibitor
      -- The serial of the next one is not that of the first yet.
      have apart : Kind.inhibitor.key (after 0) ≠ Kind.inhibitor.key (objects .inhibitor).serial := by
        intro same
        have whole : period ∣ count + 1 := by
          simpa [made] using (numbered.key_eq_iff Kind.inhibitor.key_injective first).mp same
        have more := Nat.le_of_dvd (Nat.succ_pos count) whole
        omega
      have serial : (objects .inhibitor).serial = after (count + 1) := by
        rw [numbered.serial, made]
      let constructed := objects.step ⟨.inhibitor, .construct true⟩
      let removed :=
        constructed.step ⟨.inhibitor, .remove (Kind.inhibitor.key (after (count + 1)))⟩
      have making : constructed .inhibitor =
          (objects .inhibitor).make Kind.inhibitor.key true := Objects.step_same
      have removing : removed .inhibitor = (constructed .inhibitor).remove
          (Kind.inhibitor.key (after (count + 1))) := Objects.step_same
      refine ⟨removed, ?_, ?_, ?_⟩
      · rw [inhibitorRun, System.run_append, run]
        rfl
      · rw [removing, making]
        exact congrArg Nat.succ made
      · rw [removing, making, Registry.mem_remove]
        exact ⟨Registry.mem_insert.mpr (.inl ⟨first, apart⟩), serial ▸ apart⟩

/-- After a whole period the serial of the inhibitor that stayed is given again. -/
theorem inhibitor_replaced : ¬∀ events, objectSystem.Meets Objects.Fresh .init events := by
  intro fresh
  obtain ⟨count, whole⟩ : ∃ count, period = count + 1 := ⟨2147483646, rfl⟩
  obtain ⟨objects, run, made, first⟩ := @inhibitor_stays count (by omega)
  have last := fresh (inhibitorRun count ++ [⟨.inhibitor, .construct true⟩])
  have different := ((System.meets_append last run).2.1 true rfl _ first).1
  apply different
  rw [(numbered_run run .inhibitor).key_eq_iff Kind.inhibitor.key_injective first, made, whole]
  exact Nat.dvd_refl (count + 1)

end CafeSession.Serial

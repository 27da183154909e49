import CafeSession.Tables.Signalled
import CafeSession.Transition.System

namespace CafeSession.Stores

open CafeSession.Tables CafeSession.Transition

variable {Object : Type}

structure Store (Object : Type) where
  objects : Finmap fun _ : String => Object
  locked : Bool

/-- What a call returns, the signals it emits, in order, and the store after it. -/
structure Outcome (Object Result : Type) where
  result : Result
  signals : List (Signal String)
  store : Store Object

namespace Store

/-- `csm_store_new`. -/
def new : Store Object where
  objects := ∅
  locked := false

/-- `csm_store_add`; what is under the id is replaced. -/
def add (id : String) (object : Object) (store : Store Object) : Outcome Object Bool :=
  if store.locked then
    ⟨false, [], store⟩
  else
    ⟨true, [.added id], { store with objects := store.objects.insert id object }⟩

/-- `csm_store_remove`. -/
def remove (id : String) (store : Store Object) : Outcome Object Bool :=
  match store.objects.lookup id with
  | none => ⟨false, [], store⟩
  | some _ => ⟨true, [.removed id], { store with objects := store.objects.erase id }⟩

/-- `csm_store_foreach_remove`, for the order in which the table is walked. -/
def foreachRemove (func : String → Object → Bool) (visits : List String) (store : Store Object) :
    Outcome Object Nat :=
  let walk := removeMatched func visits store.objects
  ⟨walk.count, walk.removed.map .removed, { store with objects := walk.table }⟩

/-- `csm_store_clear`. -/
def clear (visits : List String) (store : Store Object) : Outcome Object Nat :=
  store.foreachRemove (fun _ _ => true) visits

def setLocked (locked : Bool) (store : Store Object) : Store Object :=
  { store with locked := locked }

inductive Event (Object : Type) where
  | add (id : String) (object : Object)
  | remove (id : String)
  | foreachRemove (func : String → Object → Bool) (visits : List String)
  | clear (visits : List String)
  | setLocked (locked : Bool)

/-- The signals of a call and the store after it.  A walk visits each entry once. -/
def step (store : Store Object) : Event Object → Option (List (Signal String) × Store Object)
  | .add id object =>
      let outcome := store.add id object
      some (outcome.signals, outcome.store)
  | .remove id =>
      let outcome := store.remove id
      some (outcome.signals, outcome.store)
  | .foreachRemove func visits =>
      if Enumerates visits store.objects then
        let outcome := store.foreachRemove func visits
        some (outcome.signals, outcome.store)
      else
        none
  | .clear visits =>
      if Enumerates visits store.objects then
        let outcome := store.clear visits
        some (outcome.signals, outcome.store)
      else
        none
  | .setLocked locked => some ([], store.setLocked locked)

end Store

/-- A store with somebody who has heard all its signals. -/
structure Observed (Object : Type) where
  store : Store Object
  listener : Finset String

namespace Observed

def new : Observed Object where
  store := .new
  listener := ∅

def step (observed : Observed Object) (event : Store.Event Object) : Option (Observed Object) :=
  (observed.store.step event).map fun (signals, store) =>
    ⟨store, follow observed.listener signals⟩

/-- The listener has the ids of the store. -/
def Mirrors (observed : Observed Object) : Prop :=
  observed.listener = observed.store.objects.keys

end Observed

def storeSystem : System (Observed Object) (Store.Event Object) where
  initial observed := observed = .new
  step := Observed.step

/-- A bulk removal takes out what matches and nothing else, signals each entry
that it takes out once, and returns how many there were. -/
structure RemovesMatched (func : String → Object → Bool) (before : Store Object)
    (outcome : Outcome Object Nat) : Prop where
  lookup : ∀ id, outcome.store.objects.lookup id =
    (before.objects.lookup id).filter (fun object => !func id object)
  signalled : ∀ id, outcome.signals.count (.removed id) =
    if (before.objects.lookup id).any (func id) then 1 else 0
  unadded : ∀ id, .added id ∉ outcome.signals
  result : outcome.result = (before.objects.keys \ outcome.store.objects.keys).card
  locked : outcome.store.locked = before.locked

namespace Store

variable {store : Store Object} {func : String → Object → Bool} {visits : List String}

theorem removed_toFinset (enumerates : Enumerates visits store.objects) :
    (removeMatched func visits store.objects).removed.toFinset =
      store.objects.keys \ (store.foreachRemove func visits).store.objects.keys := by
  ext id
  have left := @lookup_removeMatched _ _ _ func visits store.objects id enumerates
  rw [List.mem_toFinset, mem_removed enumerates, Finset.mem_sdiff, Finmap.mem_keys,
    Finmap.mem_keys, ← Finmap.lookup_isSome, ← Finmap.lookup_isSome]
  simp only [foreachRemove, left, matched]
  cases store.objects.lookup id with
  | none => simp
  | some object => cases found : func id object <;> simp [found, Option.filter]

theorem removesMatched_foreachRemove (enumerates : Enumerates visits store.objects) :
    RemovesMatched func store (store.foreachRemove func visits) := by
  have distinct := @nodup_removed _ _ _ func visits store.objects enumerates
  constructor
  case lookup => exact fun id => lookup_removeMatched enumerates
  case signalled =>
    intro id
    have injective : (Signal.removed : String → Signal String).Injective := by
      rintro one other ⟨⟩
      rfl
    have once := distinct.count (a := id)
    have taken := @mem_removed _ _ _ func visits store.objects id enumerates
    rw [foreachRemove, List.count_map_of_injective _ _ injective, once]
    exact if_congr taken rfl rfl
  case unadded =>
    intro id member
    obtain ⟨_, _, wrong⟩ := List.mem_map.mp member
    cases wrong
  case result =>
    rw [← removed_toFinset enumerates, List.toFinset_card_of_nodup distinct]
    exact count_removeMatched enumerates
  case locked => rfl

theorem add_locked (locked : store.locked = true) (id : String) (object : Object) :
    store.add id object = ⟨false, [], store⟩ :=
  if_pos locked

end Store

namespace Observed

variable {before after : Observed Object} {event : Store.Event Object}

theorem mirrors_step (mirrors : before.Mirrors) (stepped : before.step event = some after) :
    after.Mirrors := by
  obtain ⟨⟨signals, store⟩, performed, rfl⟩ := Option.map_eq_some_iff.mp stepped
  unfold Mirrors at mirrors ⊢
  dsimp only
  rw [mirrors]
  cases event with
  | add id object =>
      simp only [Store.step, Option.some.injEq, Prod.mk.injEq, Store.add] at performed
      obtain ⟨rfl, rfl⟩ := performed
      split_ifs
      · rfl
      · ext other
        simp [follow, Signal.hear, Finmap.mem_keys]
  | remove id =>
      simp only [Store.step, Option.some.injEq, Prod.mk.injEq, Store.remove] at performed
      obtain ⟨rfl, rfl⟩ := performed
      split
      · rfl
      · exact (Finmap.keys_erase id _).symm
  | foreachRemove func visits =>
      simp only [Store.step, Option.ite_none_right_eq_some, Option.some.injEq,
        Prod.mk.injEq] at performed
      obtain ⟨enumerates, rfl, rfl⟩ := performed
      exact follow_removeMatched enumerates
  | clear visits =>
      simp only [Store.step, Option.ite_none_right_eq_some, Option.some.injEq,
        Prod.mk.injEq] at performed
      obtain ⟨enumerates, rfl, rfl⟩ := performed
      exact follow_removeMatched enumerates
  | setLocked locked =>
      simp only [Store.step, Option.some.injEq, Prod.mk.injEq] at performed
      obtain ⟨rfl, rfl⟩ := performed
      rfl

theorem mirrors_always (events : List (Store.Event Object)) :
    storeSystem.Always Mirrors new events := by
  refine System.Meets.always (fun before event after mirrors _ stepped =>
    mirrors_step mirrors stepped) (System.meets_of_forall fun _ _ _ => trivial) ?_
  exact Finmap.keys_empty.symm

end Observed

/-- After each call of any sequence the listener has exactly the ids of the
store; the bulk removals remove, signal and count what matches, and a locked
store takes nothing. -/
theorem signals_mirror_store (events : List (Store.Event Object)) :
    storeSystem.Always Observed.Mirrors Observed.new events ∧
    ∀ store : Store Object,
      (∀ func visits, Enumerates visits store.objects →
        RemovesMatched func store (store.foreachRemove func visits)) ∧
      (∀ visits, Enumerates visits store.objects →
        RemovesMatched (fun _ _ => true) store (store.clear visits)) ∧
      (store.locked = true → ∀ id object, store.add id object = ⟨false, [], store⟩) := by
  refine ⟨Observed.mirrors_always events, fun store => ⟨?_, ?_, Store.add_locked⟩⟩
  · exact fun _ _ enumerates => Store.removesMatched_foreachRemove enumerates
  · exact fun _ enumerates => Store.removesMatched_foreachRemove enumerates

/-- An id is added twice, another one once; locked, the store takes no third. -/
def twoObjects : List (Store.Event Nat) :=
  [.add "/a" 1, .add "/b" 2, .add "/a" 3, .setLocked true, .add "/c" 4]

theorem signals_mirror_store_two :
    ∃ observed, storeSystem.run Observed.new twoObjects = some observed ∧
      storeSystem.Always Observed.Mirrors Observed.new twoObjects ∧
      RemovesMatched (fun _ object => object = 3) observed.store
        (observed.store.foreachRemove (fun _ object => object = 3) ["/b", "/a"]) ∧
      observed.store.add "/c" 5 = ⟨false, [], observed.store⟩ := by
  obtain ⟨observed, run⟩ : ∃ observed, storeSystem.run Observed.new twoObjects = some observed :=
    ⟨_, rfl⟩
  obtain ⟨mirrors, calls⟩ := signals_mirror_store twoObjects
  obtain ⟨removes, _, locked⟩ := calls observed.store
  refine ⟨observed, run, mirrors, removes _ _ ?_, locked ?_ "/c" 5⟩
  · cases run
    decide +kernel
  · cases run
    rfl

end CafeSession.Stores

import Mathlib.Data.List.Basic

/-! # Event-driven systems

A program that sits in a main loop is a system: a set of initial states and a
step for each event, where `none` says that the event cannot occur in the
state.  The invariant rules below are relative to a condition on the steps, so
that one development serves both the properties of every run and the
properties of the runs whose steps all meet some condition. -/

namespace CafeSession.Transition

structure System (State Event : Type*) where
  initial : State → Prop
  step : State → Event → Option State

namespace System

variable {State Event : Type*} {system : System State Event}
variable {condition : State → Event → Prop}

/-- Take the events one after the other; `none` when one of them cannot occur. -/
def run (system : System State Event) : State → List Event → Option State
  | state, [] => some state
  | state, event :: events => (system.step state event).bind (fun next => system.run next events)

/-- Every step of the run meets the condition in the state it is taken from. -/
def Meets (system : System State Event) (condition : State → Event → Prop) :
    State → List Event → Prop
  | _, [] => True
  | state, event :: events =>
      condition state event ∧
        ∀ next, system.step state event = some next → system.Meets condition next events

/-- The property holds in every state the run passes, its first and its last included. -/
def Always (system : System State Event) (property : State → Prop) : State → List Event → Prop
  | state, [] => property state
  | state, event :: events =>
      property state ∧
        ∀ next, system.step state event = some next → system.Always property next events

/-- The states that steps meeting the condition lead to. -/
inductive ReachableBy (system : System State Event) (condition : State → Event → Prop) :
    State → Prop
  | initial {state} (start : system.initial state) : ReachableBy system condition state
  | step {before after event} (reached : ReachableBy system condition before)
      (meets : condition before event) (stepped : system.step before event = some after) :
      ReachableBy system condition after

/-- The reachable states of the system, with no condition on the steps. -/
abbrev Reachable (system : System State Event) : State → Prop :=
  system.ReachableBy (fun _ _ => True)

@[simp] theorem run_nil (state : State) : system.run state [] = some state := rfl

@[simp] theorem run_cons (state : State) (event : Event) (events : List Event) :
    system.run state (event :: events) =
      (system.step state event).bind (fun next => system.run next events) := rfl

theorem run_append (state : State) (first second : List Event) :
    system.run state (first ++ second) =
      (system.run state first).bind (fun next => system.run next second) := by
  induction first generalizing state with
  | nil => rfl
  | cons event events ih =>
      simp only [List.cons_append, run_cons]
      cases system.step state event with
      | none => rfl
      | some next => exact ih next

theorem run_append_some {start finish : State} {first second : List Event}
    (run : system.run start (first ++ second) = some finish) :
    ∃ middle, system.run start first = some middle ∧ system.run middle second = some finish := by
  rw [run_append] at run
  exact Option.bind_eq_some_iff.mp run

theorem meets_append {start middle : State} {first second : List Event}
    (meets : system.Meets condition start (first ++ second))
    (run : system.run start first = some middle) :
    system.Meets condition start first ∧ system.Meets condition middle second := by
  induction first generalizing start with
  | nil =>
      cases run
      exact ⟨trivial, meets⟩
  | cons event events ih =>
      obtain ⟨next, stepped, rest⟩ := Option.bind_eq_some_iff.mp run
      have later := ih (meets.2 next stepped) rest
      refine ⟨⟨meets.1, fun other same => ?_⟩, later.2⟩
      cases stepped.symm.trans same
      exact later.1

/-- The invariant rule for one run: what its steps keep holds where it ends. -/
theorem Meets.invariant {property : State → Prop}
    (kept : ∀ before event after, property before → condition before event →
      system.step before event = some after → property after)
    {start finish : State} {events : List Event}
    (meets : system.Meets condition start events) (run : system.run start events = some finish)
    (holds : property start) : property finish := by
  induction events generalizing start with
  | nil =>
      cases run
      exact holds
  | cons event events ih =>
      obtain ⟨next, stepped, rest⟩ := Option.bind_eq_some_iff.mp run
      exact ih (meets.2 next stepped) rest (kept _ _ _ holds meets.1 stepped)

theorem Always.start {property : State → Prop} {state : State} {events : List Event}
    (always : system.Always property state events) : property state := by
  cases events with
  | nil => exact always
  | cons event events => exact always.1

/-- What the steps of a run keep holds in every state it passes. -/
theorem Meets.always {property : State → Prop}
    (kept : ∀ before event after, property before → condition before event →
      system.step before event = some after → property after)
    {start : State} {events : List Event} (meets : system.Meets condition start events)
    (holds : property start) : system.Always property start events := by
  induction events generalizing start with
  | nil => exact holds
  | cons event events ih =>
      refine ⟨holds, fun next stepped => ?_⟩
      exact ih (meets.2 next stepped) (kept _ _ _ holds meets.1 stepped)

theorem Always.imp {property other : State → Prop} (implied : ∀ state, property state → other state)
    {start : State} {events : List Event} (always : system.Always property start events) :
    system.Always other start events := by
  induction events generalizing start with
  | nil => exact implied _ always
  | cons event events ih => exact ⟨implied _ always.1, fun next stepped => ih (always.2 next stepped)⟩

/-- A condition on the events alone goes along with one on the steps. -/
theorem Meets.and_forall {allowed : Event → Prop} {start : State} {events : List Event}
    (meets : system.Meets condition start events) (all : ∀ event ∈ events, allowed event) :
    system.Meets (fun state event => condition state event ∧ allowed event) start events := by
  induction events generalizing start with
  | nil => trivial
  | cons event events ih =>
      obtain ⟨first, later⟩ := List.forall_mem_cons.mp all
      exact ⟨⟨meets.1, first⟩, fun next stepped => ih (meets.2 next stepped) later⟩

/-- A property that holds after a step exactly when the step meets the condition
holds along a run exactly when all its steps do.  What is given on the way has to
be kept by the steps that meet it. -/
theorem always_iff_meets_while (given property : State → Prop)
    (kept : ∀ before event after, given before → condition before event →
      system.step before event = some after → given after)
    (exact_step : ∀ before event after, given before → property before →
      system.step before event = some after → (property after ↔ condition before event))
    {start finish : State} {events : List Event} (run : system.run start events = some finish)
    (first : given start) (holds : property start) :
    system.Always property start events ↔ system.Meets condition start events := by
  induction events generalizing start with
  | nil => exact ⟨fun _ => trivial, fun _ => holds⟩
  | cons event events ih =>
      obtain ⟨next, stepped, rest⟩ := Option.bind_eq_some_iff.mp run
      have now := exact_step start event next first holds stepped
      constructor
      · intro always
        have later := always.2 next stepped
        have met := now.mp later.start
        refine ⟨met, fun other same => ?_⟩
        cases stepped.symm.trans same
        exact (ih rest (kept start event next first met stepped) later.start).mp later
      · intro meets
        refine ⟨holds, fun other same => ?_⟩
        cases stepped.symm.trans same
        have nextGiven := kept start event next first meets.1 stepped
        exact (ih rest nextGiven (now.mpr meets.1)).mpr (meets.2 next stepped)

theorem always_iff_meets (given property : State → Prop)
    (kept : ∀ before event after, given before → system.step before event = some after →
      given after)
    (exact_step : ∀ before event after, given before → property before →
      system.step before event = some after → (property after ↔ condition before event))
    {start finish : State} {events : List Event} (run : system.run start events = some finish)
    (first : given start) (holds : property start) :
    system.Always property start events ↔ system.Meets condition start events :=
  always_iff_meets_while given property
    (fun before event after known _ stepped => kept before event after known stepped)
    exact_step run first holds

/-- What no step brings back holds along a run just when it holds at its end. -/
theorem always_iff_finish {property : State → Prop}
    (lost : ∀ before event after, system.step before event = some after →
      property after → property before)
    {start finish : State} {events : List Event} (run : system.run start events = some finish) :
    system.Always property start events ↔ property finish := by
  induction events generalizing start with
  | nil =>
      cases run
      exact Iff.rfl
  | cons event events ih =>
      obtain ⟨next, stepped, rest⟩ := Option.bind_eq_some_iff.mp run
      constructor
      · intro always
        exact (ih rest).mp (always.2 next stepped)
      · intro holds
        have later := (ih rest).mpr holds
        refine ⟨lost _ _ _ stepped later.start, fun other same => ?_⟩
        cases stepped.symm.trans same
        exact later

/-- Conditions that agree wherever an invariant holds are met by the same runs. -/
theorem meets_congr {other : State → Event → Prop} (given : State → Prop)
    (kept : ∀ before event after, given before → system.step before event = some after →
      given after)
    (agree : ∀ state event, given state → (condition state event ↔ other state event))
    {start : State} (first : given start) (events : List Event) :
    system.Meets condition start events ↔ system.Meets other start events := by
  induction events generalizing start with
  | nil => exact Iff.rfl
  | cons event events ih =>
      exact and_congr (agree start event first) (forall_congr' fun next =>
        forall_congr' fun stepped => ih (kept start event next first stepped))

/-- A condition that holds of the events in every state is met by the run. -/
theorem meets_of_forall {start : State} {events : List Event}
    (allowed : ∀ event ∈ events, ∀ state, condition state event) :
    system.Meets condition start events := by
  induction events generalizing start with
  | nil => trivial
  | cons event events ih =>
      exact ⟨allowed event (by simp) start, fun next _ =>
        ih (fun later member => allowed later (by simp [member]))⟩

/-- A condition on the events alone, along a run that takes them all. -/
theorem meets_iff_forall {allowed : Event → Prop} {start finish : State} {events : List Event}
    (run : system.run start events = some finish) :
    system.Meets (fun _ event => allowed event) start events ↔ ∀ event ∈ events, allowed event := by
  induction events generalizing start with
  | nil => exact ⟨fun _ => nofun, fun _ => trivial⟩
  | cons event events ih =>
      obtain ⟨next, stepped, rest⟩ := Option.bind_eq_some_iff.mp run
      constructor
      · intro meets
        exact List.forall_mem_cons.mpr ⟨meets.1, (ih rest).mp (meets.2 next stepped)⟩
      · intro all
        obtain ⟨first, later⟩ := List.forall_mem_cons.mp all
        refine ⟨first, fun other same => ?_⟩
        cases stepped.symm.trans same
        exact (ih rest).mpr later

namespace ReachableBy

/-- The invariant rule: what holds initially and is kept by every step that
meets the condition holds of every state such steps lead to. -/
theorem invariant {property : State → Prop}
    (start : ∀ state, system.initial state → property state)
    (kept : ∀ before event after, property before → condition before event →
      system.step before event = some after → property after)
    {state : State} (reached : system.ReachableBy condition state) : property state := by
  induction reached with
  | initial first => exact start _ first
  | step _ meets stepped ih => exact kept _ _ _ ih meets stepped

/-- Dropping a part of the condition keeps a state reachable. -/
theorem weaken {weaker : State → Event → Prop}
    (implied : ∀ state event, condition state event → weaker state event)
    {state : State} (reached : system.ReachableBy condition state) :
    system.ReachableBy weaker state := by
  induction reached with
  | initial first => exact .initial first
  | step _ meets stepped ih => exact .step ih (implied _ _ meets) stepped

theorem reachable {state : State} (reached : system.ReachableBy condition state) :
    system.Reachable state :=
  reached.weaken (fun _ _ _ => trivial)

/-- A run whose steps meet the condition stays inside the reachable states. -/
theorem of_run {start finish : State} {events : List Event}
    (reached : system.ReachableBy condition start)
    (meets : system.Meets condition start events)
    (run : system.run start events = some finish) : system.ReachableBy condition finish := by
  induction events generalizing start with
  | nil =>
      cases run
      exact reached
  | cons event events ih =>
      obtain ⟨next, stepped, rest⟩ := Option.bind_eq_some_iff.mp run
      exact ih (.step reached meets.1 stepped) (meets.2 next stepped) rest

end ReachableBy

theorem Reachable.of_run {start finish : State} {events : List Event}
    (reached : system.Reachable start) (run : system.run start events = some finish) :
    system.Reachable finish :=
  ReachableBy.of_run reached (meets_of_forall fun _ _ _ => trivial) run

end System

end CafeSession.Transition

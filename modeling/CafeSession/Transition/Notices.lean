import Mathlib.Data.List.Basic
import Mathlib.Logic.Function.Basic

/-! # Notices that lag behind a store

Writers change a store and leave a notice of each change in a queue; a reader
takes the notices one by one, and looks at the store when it does.  What the
reader believes the store to hold is settled at every key that no notice in the
queue is about. -/

namespace CafeSession.Transition

/-- Word that the value at a key has changed, and in which way. -/
structure Notice (Key Kind : Type*) where
  key : Key
  kind : Kind
deriving DecidableEq

variable {Key Value Kind : Type*}

/-- No notice about the key is left. -/
def Settled (queue : List (Notice Key Kind)) (key : Key) : Prop :=
  ∀ notice ∈ queue, notice.key ≠ key

/-- The believed store is right wherever no notice is left. -/
def Believable (queue : List (Notice Key Kind)) (believed store : Key → Value) : Prop :=
  ∀ key, Settled queue key → believed key = store key

/-- The last notice about a key tells the truth about the value there. -/
def Truthful (tells : Kind → Value → Prop) (store : Key → Value) :
    List (Notice Key Kind) → Prop
  | [] => True
  | notice :: rest =>
      (Settled rest notice.key → tells notice.kind (store notice.key)) ∧
        Truthful tells store rest

/-- What the first notice about the key tells. -/
def nextKind [DecidableEq Key] (queue : List (Notice Key Kind)) (key : Key) : Option Kind :=
  (queue.find? (fun notice => notice.key = key)).map Notice.kind

@[simp] theorem settled_nil (key : Key) : Settled ([] : List (Notice Key Kind)) key := by
  simp [Settled]

@[simp] theorem settled_cons {notice : Notice Key Kind} {rest : List (Notice Key Kind)}
    {key : Key} : Settled (notice :: rest) key ↔ notice.key ≠ key ∧ Settled rest key := by
  simp [Settled]

@[simp] theorem settled_append {first second : List (Notice Key Kind)} {key : Key} :
    Settled (first ++ second) key ↔ Settled first key ∧ Settled second key := by
  simp [Settled, or_imp, forall_and]

section NextKind

variable [DecidableEq Key] {notice : Notice Key Kind} {queue : List (Notice Key Kind)} {key : Key}

@[simp] theorem nextKind_cons_self : nextKind (notice :: queue) notice.key = some notice.kind := by
  simp [nextKind]

theorem nextKind_cons_of_ne (different : key ≠ notice.key) :
    nextKind (notice :: queue) key = nextKind queue key := by
  simp [nextKind, different.symm]

theorem nextKind_append : nextKind (queue ++ [notice]) key =
    (nextKind queue key).or (if notice.key = key then some notice.kind else none) := by
  rw [nextKind, nextKind, List.find?_append]
  cases queue.find? (fun notice => notice.key = key) with
  | some earlier => rfl
  | none => by_cases same : notice.key = key <;> simp [same]

end NextKind

/-- Once every notice has been taken, what is believed is what is there. -/
theorem Believable.caughtUp {believed store : Key → Value}
    (believable : Believable ([] : List (Notice Key Kind)) believed store) :
    believed = store :=
  funext fun key => believable key (settled_nil key)

theorem Believable.refl (queue : List (Notice Key Kind)) (store : Key → Value) :
    Believable queue store store :=
  fun _ _ => rfl

section Write

variable [DecidableEq Key] {tells : Kind → Value → Prop} {queue : List (Notice Key Kind)}
variable {believed store : Key → Value}

/-- A change that leaves a notice unsettles its own key only. -/
theorem Believable.write (believable : Believable queue believed store) (notice : Notice Key Kind)
    (value : Value) :
    Believable (queue ++ [notice]) believed (Function.update store notice.key value) := by
  intro key settled
  obtain ⟨before, other⟩ := settled_append.mp settled
  have different : key ≠ notice.key := fun same => (settled_cons.mp other).1 same.symm
  rw [Function.update_of_ne different]
  exact believable key before

theorem Truthful.write (truthful : Truthful tells store queue) (notice : Notice Key Kind)
    {value : Value} (told : tells notice.kind value) :
    Truthful tells (Function.update store notice.key value) (queue ++ [notice]) := by
  induction queue with
  | nil => exact ⟨fun _ => by simpa using told, trivial⟩
  | cons first rest ih =>
      refine ⟨fun settled => ?_, ih truthful.2⟩
      obtain ⟨before, other⟩ := settled_append.mp settled
      have different : first.key ≠ notice.key := fun same => (settled_cons.mp other).1 same.symm
      rw [Function.update_of_ne different]
      exact truthful.1 before

end Write

section Take

variable {notice : Notice Key Kind} {rest : List (Notice Key Kind)} {believed store : Key → Value}

/-- Before the notice is taken, every key that is settled after it is right, its own apart. -/
theorem Believable.other (believable : Believable (notice :: rest) believed store) {key : Key}
    (settled : Settled rest key) (different : key ≠ notice.key) : believed key = store key :=
  believable key (settled_cons.mpr ⟨different.symm, settled⟩)

/-- Taking a notice may revise what is believed in one part of the store, as
long as the part holds the notice's key and is right where it is settled. -/
theorem Believable.revise (believable : Believable (notice :: rest) believed store)
    (part : Key → Prop) [DecidablePred part] (inside : part notice.key) {revised : Key → Value}
    (right : ∀ key, part key → Settled rest key → revised key = store key) :
    Believable rest (fun key => if part key then revised key else believed key) store := by
  intro key settled
  by_cases within : part key
  · simpa [within] using right key within settled
  · have different : key ≠ notice.key := by
      rintro rfl
      exact within inside
    simpa [within] using believable.other settled different

end Take

end CafeSession.Transition

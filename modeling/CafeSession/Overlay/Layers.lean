import Mathlib.Order.Bounds.Basic
import Mathlib.Order.Interval.Set.Defs

/-! # Layers of files under one name

A name may have a file in each of several layers, numbered from the top.  The
first usable file is the one that counts.  For a file of the top layer the next
layer that holds anything is remembered as well; the limit stands for none. -/

namespace CafeSession.Overlay

variable {Content : Type*}

/-- What a layer holds: nothing, a file that is passed over, or one to be used. -/
inductive Slot (Content : Type*) where
  | absent
  | passedOver
  | usable (content : Content)
deriving DecidableEq

def Slot.content : Slot Content → Option Content
  | .usable content => some content
  | _ => none

@[simp] theorem Slot.content_absent : (Slot.absent : Slot Content).content = none := rfl

theorem Slot.present {slot : Slot Content} {content : Content}
    (usable : slot.content = some content) : slot ≠ .absent := by
  rintro rfl
  simp at usable

structure Choice (Content : Type*) where
  content : Content
  position : Nat
  systemPosition : Nat
deriving DecidableEq

abbrev Layers (Content : Type*) := Nat → Slot Content

namespace Layers

/-- The layers under the top one that hold anything. -/
def occupied (layers : Layers Content) : Set Nat :=
  {index | 0 < index ∧ layers index ≠ .absent}

@[simp] theorem mem_occupied {layers : Layers Content} {index : Nat} :
    index ∈ layers.occupied ↔ 0 < index ∧ layers index ≠ .absent := Iff.rfl

/-- The first of them, or the limit. -/
def First (limit : Nat) (layers : Layers Content) (first : Nat) : Prop :=
  IsLeast (insert limit layers.occupied) first

/-- The choice that the layers call for. -/
inductive Shows (limit : Nat) (layers : Layers Content) : Option (Choice Content) → Prop
  | nothing (unusable : ∀ index, (layers index).content = none) : Shows limit layers none
  | top {content : Content} {first : Nat} (usable : (layers 0).content = some content)
      (next : layers.First limit first) : Shows limit layers (some ⟨content, 0, first⟩)
  | below {content : Content} {first : Nat} (under : 0 < first) (inside : first < limit)
      (usable : (layers first).content = some content)
      (unusable : ∀ index < first, (layers index).content = none) :
      Shows limit layers (some ⟨content, first, first⟩)

variable {limit : Nat} {layers : Layers Content}

theorem Shows.unique {one other : Option (Choice Content)} (shows : layers.Shows limit one)
    (also : layers.Shows limit other) : one = other := by
  cases shows with
  | nothing unusable =>
      cases also with
      | nothing => rfl
      | top usable _ => simp [unusable] at usable
      | below _ _ usable _ => simp [unusable] at usable
  | top usable next =>
      cases also with
      | nothing unusable => simp [unusable] at usable
      | top usable' next' =>
          have content := usable.symm.trans usable'
          have first := next.unique next'
          simp_all
      | below under _ _ unusable => simp [unusable 0 under] at usable
  | @below content first under _ usable unusable =>
      cases also with
      | nothing unusable' => simp [unusable'] at usable
      | top usable' _ => simp [unusable 0 under] at usable'
      | @below content' first' under' _ usable' unusable' =>
          have same : first = first' := by
            rcases Nat.lt_trichotomy first first' with before | same | after
            · simp [unusable' first before] at usable
            · exact same
            · simp [unusable first' after] at usable'
          subst same
          have content := usable.symm.trans usable'
          simp_all

theorem Shows.chosen {chosen : Choice Content} (shows : layers.Shows limit (some chosen)) :
    (layers chosen.position).content = some chosen.content := by
  cases shows with
  | top usable _ => exact usable
  | below _ _ usable _ => exact usable

section Update

variable {index : Nat} {slot : Slot Content}

theorem content_update_of_ne {other : Nat} (different : other ≠ index) :
    (Function.update layers index slot other).content = (layers other).content := by
  rw [Function.update_of_ne different]

theorem occupied_update (present : slot ≠ .absent) (under : 0 < index) :
    occupied (Function.update layers index slot) = insert index layers.occupied := by
  ext other
  by_cases same : other = index
  · subst same
    simp [under, present]
  · simp [same]

/-- The top layer is none of those that are remembered. -/
theorem First.update_top {first : Nat} (next : layers.First limit first) :
    First limit (Function.update layers 0 slot) first := by
  have same : occupied (Function.update layers 0 slot) = layers.occupied := by
    ext other
    by_cases zero : other = 0 <;> simp [zero]
  rw [First, same]
  exact next

theorem First.add {first : Nat} (next : layers.First limit first) (present : slot ≠ .absent)
    (under : 0 < index) : First limit (Function.update layers index slot) (min index first) := by
  rw [First, occupied_update present under, Set.insert_comm]
  exact IsLeast.insert index next

/-- Beyond the first occupied layer anything may change. -/
theorem First.update_later {first : Nat} (next : layers.First limit first)
    (later : first < index) : First limit (Function.update layers index slot) first := by
  have unchanged (other : Nat) (before : other < index) :
      other ∈ insert limit (occupied (Function.update layers index slot)) ↔
        other ∈ insert limit layers.occupied := by
    have different : other ≠ index := by omega
    simp [different]
  refine ⟨(unchanged first later).mpr next.1, fun other member => ?_⟩
  rcases Nat.lt_or_ge other index with before | after
  · exact next.2 ((unchanged other before).mp member)
  · omega

/-- A layer without a usable file that takes or loses one that is passed over. -/
theorem Shows.update_unusable {choice : Option (Choice Content)} (shows : layers.Shows limit choice)
    (unusable : slot.content = none)
    (outside : ∀ chosen, choice = some chosen → 0 < chosen.position ∧ index ≠ chosen.position) :
    Shows limit (Function.update layers index slot) choice := by
  have without (other : Nat) (none : (layers other).content = none) :
      (Function.update layers index slot other).content = Option.none := by
    by_cases same : other = index
    · simpa [same] using unusable
    · rwa [content_update_of_ne same]
  cases shows with
  | nothing unusable => exact .nothing (fun other => without other (unusable other))
  | top => exact absurd (outside _ rfl).1 (by simp)
  | below under inside usable unusable =>
      have different := (outside _ rfl).2
      refine .below under inside ?_ (fun other before => without other (unusable other before))
      rwa [content_update_of_ne different.symm]

/-- Layers behind the chosen one do not count. -/
theorem Shows.update_behind {content : Content} {first : Nat}
    (shows : layers.Shows limit (some ⟨content, first, first⟩)) (under : 0 < first)
    (behind : first < index) :
    Shows limit (Function.update layers index slot) (some ⟨content, first, first⟩) := by
  cases shows with
  | top => simp at under
  | below under inside usable unusable =>
      refine .below under inside ?_ (fun other before => ?_)
      · rwa [content_update_of_ne (by omega)]
      · rw [content_update_of_ne (by omega)]
        exact unusable other before

/-- A usable file before everything that is chosen, but not in the top layer. -/
theorem Shows.update_first {choice : Option (Choice Content)} (shows : layers.Shows limit choice)
    {content : Content} (usable : slot.content = some content) (under : 0 < index)
    (inside : index < limit)
    (before : ∀ chosen, choice = some chosen → 0 < chosen.position ∧ index ≤ chosen.position) :
    Shows limit (Function.update layers index slot) (some ⟨content, index, index⟩) := by
  refine .below under inside (by simpa using usable) (fun other earlier => ?_)
  rw [content_update_of_ne (by omega)]
  cases shows with
  | nothing unusable => exact unusable other
  | top => exact absurd (before _ rfl).1 (by simp)
  | below _ _ _ unusable =>
      have := (before _ rfl).2
      exact unusable other (by simp only at this; omega)

theorem Shows.update_top {content : Content} {first : Nat} (next : layers.First limit first)
    (usable : slot.content = some content) :
    Shows limit (Function.update layers 0 slot) (some ⟨content, 0, first⟩) :=
  .top (by simpa using usable) next.update_top

theorem Shows.update_under_top {content : Content} {first next : Nat}
    (shows : layers.Shows limit (some ⟨content, 0, first⟩)) (under : 0 < index)
    (updated : First limit (Function.update layers index slot) next) :
    Shows limit (Function.update layers index slot) (some ⟨content, 0, next⟩) := by
  cases shows with
  | top usable _ =>
      refine .top ?_ updated
      rwa [content_update_of_ne (by omega)]
  | below under => simp at under

end Update

section Removal

/-- Before the first occupied layer there is only the top one. -/
theorem First.absent {first index : Nat} (next : layers.First limit first) (under : 0 < index)
    (before : index < first) : layers index = .absent := by
  by_contra present
  have := next.2 (Set.mem_insert_of_mem _ (mem_occupied.mpr ⟨under, present⟩))
  omega

theorem First.present {first : Nat} (next : layers.First limit first) (inside : first < limit) :
    0 < first ∧ layers first ≠ .absent := by
  rcases Set.mem_insert_iff.mp next.1 with limited | occupied
  · omega
  · exact occupied

/-- When the file of the top layer goes, the next one takes its place if it is usable. -/
theorem First.promote {first : Nat} (next : layers.First limit first) (inside : first < limit)
    {slot : Slot Content} {content : Content} (usable : slot.content = some content) :
    Shows limit (Function.update (Function.update layers first slot) 0 .absent)
      (some ⟨content, first, first⟩) := by
  have under := (next.present inside).1
  refine .below under inside ?_ (fun index before => ?_)
  · rw [content_update_of_ne (by omega)]
    simpa using usable
  · by_cases zero : index = 0
    · simp [zero]
    · rw [content_update_of_ne zero, content_update_of_ne (by omega),
        next.absent (by omega) before]
      rfl

/-- When the file of the top layer goes and nothing is beneath it, nothing is left. -/
theorem First.clear (next : layers.First limit limit)
    (beyond : ∀ index, limit ≤ index → 0 < index → (layers index).content = none) :
    Shows limit (Function.update layers 0 .absent) none := by
  refine .nothing (fun index => ?_)
  rcases Nat.eq_zero_or_pos index with rfl | under
  · simp
  · rw [content_update_of_ne under.ne']
    rcases Nat.lt_or_ge index limit with before | after
    · simp [next.absent under before]
    · exact beyond index after under

/-- When the chosen file goes and no other behind it is usable, nothing is left. -/
theorem Shows.clear {content : Content} {first : Nat}
    (shows : layers.Shows limit (some ⟨content, first, first⟩)) (under : 0 < first)
    (behind : ∀ index, first < index → (layers index).content = none) :
    Shows limit (Function.update layers first .absent) none := by
  cases shows with
  | top => simp at under
  | below _ _ _ unusable =>
      refine .nothing (fun index => ?_)
      rcases Nat.lt_trichotomy index first with before | rfl | after
      · rw [content_update_of_ne before.ne]
        exact unusable index before
      · simp
      · rw [content_update_of_ne after.ne']
        exact behind index after

/-- When the first occupied layer is emptied, the one behind it that no other is before follows. -/
theorem First.advance {first second : Nat} {slot : Slot Content} (next : layers.First limit first)
    (later : first < second) (low : second ≤ limit) (present : second ≠ limit → slot ≠ .absent)
    (behind : ∀ index, first < index → layers index ≠ .absent → second ≤ index) :
    First limit (Function.update (Function.update layers second slot) first .absent) second := by
  refine ⟨?_, fun index member => ?_⟩
  · rcases low.eq_or_lt with limited | inside
    · exact .inl limited
    · refine .inr ⟨by omega, ?_⟩
      rw [Function.update_of_ne later.ne', Function.update_self]
      exact present inside.ne
  · rcases Set.mem_insert_iff.mp member with limited | ⟨under, occupied⟩
    · exact limited ▸ low
    · by_contra before
      have notFirst : index ≠ first := by
        rintro rfl
        simp at occupied
      rw [Function.update_of_ne notFirst, Function.update_of_ne (by omega)] at occupied
      have after : first ≤ index := next.2 (.inr ⟨under, occupied⟩)
      have := behind index (by omega) occupied
      omega

/-- The layers among which a choice is made, with the others emptied. -/
def keep (kept : Nat → Prop) [DecidablePred kept] (layers : Layers Content) : Layers Content :=
  fun index => if kept index then layers index else .absent

variable {kept : Nat → Prop} [DecidablePred kept]

theorem content_keep {index : Nat} (unusable : (layers index).content = none) :
    (layers.keep kept index).content = none := by
  by_cases inside : kept index
  · simpa [keep, inside] using unusable
  · simp [keep, inside]

theorem keep_of_kept {index : Nat} (inside : kept index) :
    layers.keep kept index = layers index := if_pos inside

theorem First.keep {first : Nat} (next : layers.First limit first) (inside : kept first) :
    First limit (layers.keep kept) first := by
  refine ⟨?_, fun index member => ?_⟩
  · rcases Set.mem_insert_iff.mp next.1 with limited | occupied
    · exact .inl limited
    · right
      rwa [mem_occupied, keep_of_kept inside]
  · apply next.2
    rcases Set.mem_insert_iff.mp member with limited | occupied
    · exact .inl limited
    · right
      refine ⟨occupied.1, fun absent => occupied.2 ?_⟩
      by_cases inside : kept index
      · rw [keep_of_kept inside, absent]
      · exact if_neg inside

/-- A choice does not depend on the layers it does not name. -/
theorem Shows.keep {choice : Option (Choice Content)} (shows : layers.Shows limit choice)
    (named : ∀ chosen, choice = some chosen →
      kept chosen.position ∧ kept chosen.systemPosition) :
    Shows limit (layers.keep kept) choice := by
  cases shows with
  | nothing unusable => exact .nothing (fun index => content_keep (unusable index))
  | top usable next =>
      obtain ⟨position, system⟩ := named _ rfl
      exact .top (by rwa [keep_of_kept position]) (next.keep system)
  | below under inside usable unusable =>
      obtain ⟨position, _⟩ := named _ rfl
      exact .below under inside (by rwa [keep_of_kept position])
        (fun index before => content_keep (unusable index before))

end Removal

end Layers

end CafeSession.Overlay

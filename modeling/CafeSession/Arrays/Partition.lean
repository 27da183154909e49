import Mathlib.Data.List.Basic

namespace CafeSession.Arrays

variable {Item : Type*}

theorem perm_swapIfInBounds (items : Array Item) (first second : Nat) :
    (items.swapIfInBounds first second).Perm items := by
  rw [Array.swapIfInBounds_def]
  split_ifs with inside also
  · exact Array.swap_perm inside also
  · exact .refl _
  · exact .refl _

/-- What a loop over the first indices comes to. -/
theorem filterMap_range (items : Array Item) (count : Nat) :
    (List.range count).filterMap (fun index => items[index]?) = items.toList.take count := by
  induction count with
  | zero => rfl
  | succ count ih =>
      rw [List.range_succ, List.filterMap_append, ih, List.take_add_one, Array.getElem?_toList]
      congr 1

/-- Of the items up to the index the wanted ones are those up to the count. -/
structure Split (wanted : Item → Bool) (original items : Array Item) (count index : Nat) :
    Prop where
  perm : items.Perm original
  count_le : count ≤ index
  index_le : index ≤ items.size
  front : ∀ position (inside : position < items.size), position < count →
    wanted items[position] = true
  middle : ∀ position (inside : position < items.size), count ≤ position → position < index →
    wanted items[position] = false

namespace Split

variable {wanted : Item → Bool} {original items : Array Item} {count index : Nat}

theorem start (wanted : Item → Bool) (items : Array Item) : Split wanted items items 0 0 where
  perm := .refl _
  count_le := Nat.le_refl 0
  index_le := Nat.zero_le _
  front := fun _ _ before => absurd before (Nat.not_lt_zero _)
  middle := fun _ _ _ before => absurd before (Nat.not_lt_zero _)

/-- The item at the index is not wanted and stays. -/
theorem skip (split : Split wanted original items count index) (inside : index < items.size)
    (unwanted : wanted items[index] = false) : Split wanted original items count (index + 1) where
  perm := split.perm
  count_le := Nat.le_succ_of_le split.count_le
  index_le := inside
  front := split.front
  middle := by
    intro position within after before
    rcases Nat.lt_succ_iff_lt_or_eq.mp before with earlier | same
    · exact split.middle position within after earlier
    · subst same
      exact unwanted

/-- All items so far are wanted, and so is the one at the index. -/
theorem keep (split : Split wanted original items count index) (inside : index < items.size)
    (found : wanted items[index] = true) (none_between : index ≤ count) :
    Split wanted original items (count + 1) (index + 1) where
  perm := split.perm
  count_le := Nat.succ_le_succ split.count_le
  index_le := inside
  front := by
    intro position within before
    rcases Nat.lt_succ_iff_lt_or_eq.mp before with earlier | same
    · exact split.front position within earlier
    · have here : position = index := by
        have := split.count_le
        omega
      subst here
      exact found
  middle := by
    intro position within after before
    omega

/-- The item at the index changes places with the first unwanted one. -/
theorem swap (split : Split wanted original items count index) (inside : index < items.size)
    (found : wanted items[index] = true) (between : count < index) :
    Split wanted original (items.swapIfInBounds index count) (count + 1) (index + 1) where
  perm := (perm_swapIfInBounds items index count).trans split.perm
  count_le := Nat.succ_le_succ split.count_le
  index_le := by
    rw [Array.size_swapIfInBounds]
    exact inside
  front := by
    intro position within before
    have low : count < items.size := by omega
    rw [Array.size_swapIfInBounds] at within
    have notIndex : position ≠ index := by omega
    rcases Nat.lt_succ_iff_lt_or_eq.mp before with earlier | same
    · have notCount : position ≠ count := by omega
      simpa [Array.getElem_swapIfInBounds, notIndex, notCount] using
        split.front position within earlier
    · subst same
      simpa [Array.getElem_swapIfInBounds, notIndex, inside] using found
  middle := by
    intro position within after before
    have low : count < items.size := by omega
    rw [Array.size_swapIfInBounds] at within
    have notCount : position ≠ count := by omega
    rcases Nat.lt_succ_iff_lt_or_eq.mp before with earlier | same
    · have notIndex : position ≠ index := by omega
      simpa [Array.getElem_swapIfInBounds, notIndex, notCount] using
        split.middle position within (by omega) earlier
    · subst same
      simpa [Array.getElem_swapIfInBounds, low] using split.middle count low (by omega) between

/-- Once the whole array has been gone through, the wanted items are in front. -/
theorem finish (split : Split wanted original items count items.size) {position : Nat}
    (inside : position < items.size) : position < count ↔ wanted items[position] = true := by
  constructor
  · exact split.front position inside
  · intro found
    by_contra beyond
    have unwanted := split.middle position inside (Nat.not_lt.mp beyond) inside
    rw [found] at unwanted
    cases unwanted

/-- What is in front are the wanted items of the original array. -/
theorem take_perm (split : Split wanted original items count items.size) :
    (items.toList.take count).Perm (original.toList.filter wanted) := by
  have moved : (items.toList.filter wanted).Perm (original.toList.filter wanted) :=
    (Array.perm_iff_toList_perm.mp split.perm).filter wanted
  have front : (items.toList.take count).filter wanted = items.toList.take count := by
    rw [List.filter_eq_self]
    intro item member
    obtain ⟨position, within, rfl⟩ := List.mem_take_iff_getElem.mp member
    rw [Array.length_toList] at within
    exact split.front position (by omega) (by omega)
  have rest : (items.toList.drop count).filter wanted = [] := by
    rw [List.filter_eq_nil_iff]
    intro item member
    obtain ⟨position, within, rfl⟩ := List.mem_drop_iff_getElem.mp member
    have inside : position + count < items.size := by simpa using within
    have unwanted := split.middle (position + count) inside (by omega) inside
    simpa [Nat.add_comm] using unwanted
  have whole : items.toList.filter wanted = items.toList.take count := by
    rw [← List.take_append_drop count items.toList, List.filter_append, front, rest,
      List.append_nil, List.take_append_drop]
  rw [← whole]
  exact moved

end Split

end CafeSession.Arrays

import Mathlib.Data.List.Induction
import Mathlib.Data.List.Perm.Basic
import Mathlib.Data.List.Nodup
import Mathlib.Logic.Function.Basic

/-! # Keyed arrays

An array of items, each under a key, from which an item is removed by moving the
last one into its place.  As long as no key occurs twice it stands for a finite
map, whatever order the removals leave the items in. -/

namespace CafeSession.Arrays

variable {Item Key : Type*}

/-- The last item takes the place of the one removed. -/
def removeIndexFast (items : List Item) (index : Nat) : List Item :=
  match items.getLast? with
  | none => []
  | some last => (items.set index last).dropLast

theorem removeIndexFast_append (front : List Item) (last : Item) (index : Nat)
    (inside : index < front.length) :
    removeIndexFast (front ++ [last]) index = front.set index last := by
  have stays : (front ++ [last]).set index last = front.set index last ++ [last] :=
    List.set_append_left index last inside
  simp [removeIndexFast, stays]

theorem removeIndexFast_last (front : List Item) (last : Item) :
    removeIndexFast (front ++ [last]) front.length = front := by
  have same : (front ++ [last]).set front.length last = front ++ [last] := by simp
  simp [removeIndexFast, same]

theorem removeIndexFast_map {Other : Type*} (items : List Item) (image : Item → Other)
    (index : Nat) :
    removeIndexFast (items.map image) index = (removeIndexFast items index).map image := by
  rw [removeIndexFast, removeIndexFast, List.getLast?_map]
  cases items.getLast? with
  | none => rfl
  | some last => simp [List.map_dropLast, List.map_set]

/-- Apart from their order, the others stay. -/
theorem removeIndexFast_perm (items : List Item) (index : Nat) (inside : index < items.length) :
    (items[index] :: removeIndexFast items index).Perm items := by
  induction items using List.reverseRecOn with
  | nil => simp at inside
  | append_singleton front last _ =>
      rcases Nat.lt_or_ge index front.length with before | beyond
      · rw [removeIndexFast_append front last index before, List.getElem_append_left before]
        have swapped : (front[index] :: front.set index last).Perm
            (front[index] :: last :: front.eraseIdx index) :=
          (List.set_perm_cons_eraseIdx before last).cons _
        have back : (last :: front[index] :: front.eraseIdx index).Perm (last :: front) :=
          (List.getElem_cons_eraseIdx_perm before).cons _
        exact swapped.trans ((List.Perm.swap _ _ _).trans
          (back.trans (List.perm_append_singleton last front).symm))
      · have atEnd : index = front.length := by
          simp only [List.length_append, List.length_singleton] at inside
          omega
        subst atEnd
        rw [removeIndexFast_last, List.getElem_append_right (Nat.le_refl _)]
        simpa using (List.perm_append_singleton last front).symm

section

variable [DecidableEq Key] (keyOf : Item → Key)

def lookup (items : List Item) (key : Key) : Option Item :=
  items.find? (fun item => keyOf item = key)

/-- Remove the first item under the key, if there is one. -/
def remove (items : List Item) (key : Key) : List Item :=
  match items.findIdx? (fun item => keyOf item = key) with
  | none => items
  | some index => removeIndexFast items index

/-- Replace what there is under the key of the item; the item comes last. -/
def put (items : List Item) (item : Item) : List Item :=
  remove keyOf items (keyOf item) ++ [item]

/-- No key occurs twice. -/
def Distinct (items : List Item) : Prop := (items.map keyOf).Nodup

variable {keyOf} {items : List Item} {item : Item} {key : Key}

theorem lookup_eq_some_iff (distinct : Distinct keyOf items) :
    lookup keyOf items key = some item ↔ item ∈ items ∧ keyOf item = key := by
  induction items with
  | nil => simp [lookup]
  | cons first rest ih =>
      obtain ⟨absent, distinct⟩ := List.nodup_cons.mp distinct
      by_cases found : keyOf first = key
      · subst found
        have other : ∀ item ∈ rest, keyOf item ≠ keyOf first := by
          intro item member same
          exact absent (same ▸ List.mem_map_of_mem member)
        constructor
        · intro looked
          simp only [lookup, List.find?_cons, decide_true, Option.some.injEq] at looked
          simp [looked]
        · intro ⟨member, same⟩
          rcases List.mem_cons.mp member with here | there
          · simp [lookup, here]
          · exact absurd same (other item there)
      · have passed : lookup keyOf (first :: rest) key = lookup keyOf rest key := by
          simp [lookup, found]
        rw [passed, ih distinct, List.mem_cons]
        constructor
        · intro ⟨member, same⟩
          exact ⟨.inr member, same⟩
        · intro ⟨member, same⟩
          rcases member with here | there
          · exact absurd (here ▸ same) found
          · exact ⟨there, same⟩

/-- Either the key does not occur, or the removal takes out the item found under it. -/
theorem remove_cases (keyOf : Item → Key) (items : List Item) (key : Key) :
    (∀ item ∈ items, keyOf item ≠ key) ∧ remove keyOf items key = items ∨
      ∃ item, lookup keyOf items key = some item ∧ keyOf item = key ∧
        (item :: remove keyOf items key).Perm items := by
  unfold remove
  cases searched : items.findIdx? (fun item => decide (keyOf item = key)) with
  | none =>
      refine .inl ⟨?_, rfl⟩
      intro item member
      simpa using List.findIdx?_eq_none_iff.mp searched item member
  | some index =>
      obtain ⟨inside, same, _⟩ := List.findIdx?_eq_some_iff_getElem.mp searched
      have looked : lookup keyOf items key = some items[index] := by
        rw [lookup, List.find?_eq_bind_findIdx?_getElem?, searched]
        simp [inside]
      exact .inr ⟨items[index], looked, by simpa using same,
        removeIndexFast_perm items index inside⟩

theorem Distinct.remove (distinct : Distinct keyOf items) (key : Key) :
    Distinct keyOf (remove keyOf items key) := by
  rcases remove_cases keyOf items key with ⟨_, same⟩ | ⟨item, _, _, taken⟩
  · rw [same]
    exact distinct
  · have both : ((item :: Arrays.remove keyOf items key).map keyOf).Nodup :=
      (taken.map keyOf).nodup_iff.mpr distinct
    exact (List.nodup_cons.mp both).2

theorem mem_remove (distinct : Distinct keyOf items) :
    item ∈ remove keyOf items key ↔ item ∈ items ∧ keyOf item ≠ key := by
  rcases remove_cases keyOf items key with ⟨absent, same⟩ | ⟨gone, _, under, taken⟩
  · rw [same]
    exact ⟨fun member => ⟨member, absent item member⟩, fun member => member.1⟩
  · have both : ((gone :: remove keyOf items key).map keyOf).Nodup :=
      (taken.map keyOf).nodup_iff.mpr distinct
    have alone := (List.nodup_cons.mp both).1
    constructor
    · intro member
      have other : keyOf item ≠ key := by
        intro same
        exact alone (List.mem_map.mpr ⟨item, member, same.trans under.symm⟩)
      exact ⟨taken.mem_iff.mp (List.mem_cons_of_mem gone member), other⟩
    · intro ⟨member, other⟩
      rcases List.mem_cons.mp (taken.mem_iff.mpr member) with here | there
      · exact absurd (here ▸ under) other
      · exact there

theorem Distinct.put (distinct : Distinct keyOf items) (item : Item) :
    Distinct keyOf (put keyOf items item) := by
  have rest := distinct.remove (keyOf item)
  have fresh : keyOf item ∉ (Arrays.remove keyOf items (keyOf item)).map keyOf := by
    intro member
    obtain ⟨other, listed, same⟩ := List.mem_map.mp member
    exact ((mem_remove distinct).mp listed).2 same
  have both : Distinct keyOf (item :: Arrays.remove keyOf items (keyOf item)) :=
    List.nodup_cons.mpr ⟨fresh, rest⟩
  exact ((List.perm_append_singleton item _).map keyOf).nodup_iff.mpr both

theorem mem_put (distinct : Distinct keyOf items) {other : Item} :
    other ∈ put keyOf items item ↔ other = item ∨ other ∈ items ∧ keyOf other ≠ keyOf item := by
  rw [put, List.mem_append, List.mem_singleton, mem_remove distinct]
  exact or_comm

theorem lookup_remove (distinct : Distinct keyOf items) (key : Key) :
    lookup keyOf (remove keyOf items key) = Function.update (lookup keyOf items) key none := by
  funext name
  apply Option.ext
  intro item
  rw [lookup_eq_some_iff (distinct.remove key), mem_remove distinct]
  by_cases same : name = key
  · subst same
    rw [Function.update_self]
    constructor
    · intro ⟨member, under⟩
      exact absurd under member.2
    · nofun
  · rw [Function.update_of_ne same, lookup_eq_some_iff distinct]
    constructor
    · intro ⟨member, under⟩
      exact ⟨member.1, under⟩
    · intro ⟨member, under⟩
      exact ⟨⟨member, under ▸ same⟩, under⟩

theorem lookup_put (distinct : Distinct keyOf items) (item : Item) :
    lookup keyOf (put keyOf items item) =
      Function.update (lookup keyOf items) (keyOf item) (some item) := by
  funext name
  apply Option.ext
  intro other
  rw [lookup_eq_some_iff (distinct.put item), mem_put distinct]
  by_cases same : name = keyOf item
  · subst same
    rw [Function.update_self]
    constructor
    · intro ⟨member, under⟩
      rcases member with here | ⟨_, away⟩
      · rw [here]
      · exact absurd under away
    · intro here
      cases here
      exact ⟨.inl rfl, rfl⟩
  · rw [Function.update_of_ne same, lookup_eq_some_iff distinct]
    constructor
    · intro ⟨member, under⟩
      rcases member with here | ⟨there, _⟩
      · exact absurd (here ▸ under.symm) same
      · exact ⟨there, under⟩
    · intro ⟨member, under⟩
      exact ⟨.inr ⟨member, under ▸ same⟩, under⟩

end

end CafeSession.Arrays

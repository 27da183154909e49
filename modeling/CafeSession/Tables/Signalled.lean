import Mathlib.Data.Finmap
import Mathlib.Data.Finset.Basic

/-! # Tables that signal their changes

Whoever hears of every key that is added to a table or removed from it knows
the keys of the table.  Removing in bulk walks over the table first and signals
what was removed afterwards. -/

namespace CafeSession.Tables

variable {Key Value : Type*} [DecidableEq Key]

inductive Signal (Key : Type*) where
  | added (key : Key)
  | removed (key : Key)
deriving DecidableEq, Repr

/-- What a listener makes of a signal. -/
def Signal.hear (known : Finset Key) : Signal Key → Finset Key
  | .added key => insert key known
  | .removed key => known.erase key

def follow (known : Finset Key) (signals : List (Signal Key)) : Finset Key :=
  signals.foldl Signal.hear known

theorem mem_follow_removed {known : Finset Key} {keys : List Key} {key : Key} :
    key ∈ follow known (keys.map .removed) ↔ key ∈ known ∧ key ∉ keys := by
  induction keys generalizing known with
  | nil => simp [follow]
  | cons first rest ih =>
      have heard : follow known ((first :: rest).map .removed) =
          follow (known.erase first) (rest.map .removed) := rfl
      rw [heard, ih, Finset.mem_erase, List.mem_cons, not_or]
      constructor
      · intro ⟨⟨other, member⟩, later⟩
        exact ⟨member, other, later⟩
      · intro ⟨member, other, later⟩
        exact ⟨⟨other, member⟩, later⟩

def eraseAll (keys : List Key) (table : Finmap fun _ : Key => Value) :
    Finmap fun _ : Key => Value :=
  keys.foldl (fun table key => table.erase key) table

theorem lookup_eraseAll {keys : List Key} {table : Finmap fun _ : Key => Value} {key : Key} :
    (eraseAll keys table).lookup key = if key ∈ keys then none else table.lookup key := by
  induction keys generalizing table with
  | nil => rfl
  | cons first rest ih =>
      have erased : eraseAll (first :: rest) table = eraseAll rest (table.erase first) := rfl
      rw [erased, ih]
      by_cases later : key ∈ rest
      · rw [if_pos later, if_pos (List.mem_cons_of_mem first later)]
      · by_cases same : key = first
        · subst same
          rw [if_neg later, if_pos List.mem_cons_self, Finmap.lookup_erase]
        · rw [if_neg later, if_neg (by simp [same, later]), Finmap.lookup_erase_ne same]

/-- A walk over a table that takes out what matches; the keys taken out, newest first. -/
structure Walk (Key Value : Type*) where
  table : Finmap fun _ : Key => Value
  removed : List Key
  count : Nat

/-- The walk comes to a key. -/
def Walk.visit (func : Key → Value → Bool) (walk : Walk Key Value) (key : Key) : Walk Key Value :=
  match walk.table.lookup key with
  | none => walk
  | some value =>
      if func key value then
        { table := walk.table.erase key
          removed := key :: walk.removed
          count := walk.count + 1 }
      else
        walk

/-- The key is in the table, and its entry matches. -/
def matched (func : Key → Value → Bool) (table : Finmap fun _ : Key => Value) (key : Key) : Bool :=
  (table.lookup key).any (func key)

/-- The keys are those of the table, each once. -/
structure Enumerates (visits : List Key) (table : Finmap fun _ : Key => Value) : Prop where
  nodup : visits.Nodup
  keys : visits.toFinset = table.keys

instance (visits : List Key) (table : Finmap fun _ : Key => Value) :
    Decidable (Enumerates visits table) :=
  decidable_of_iff (visits.Nodup ∧ visits.toFinset = table.keys)
    ⟨fun both => ⟨both.1, both.2⟩, fun each => ⟨each.nodup, each.keys⟩⟩

variable {func : Key → Value → Bool} {walk : Walk Key Value} {visits : List Key}
variable {table : Finmap fun _ : Key => Value} {key : Key}

theorem Walk.visit_eq : walk.visit func key =
    if matched func walk.table key then
      { table := walk.table.erase key
        removed := key :: walk.removed
        count := walk.count + 1 }
    else
      walk := by
  unfold visit matched
  cases walk.table.lookup key with
  | none => rfl
  | some value => rfl

theorem matched_erase {other : Key} (different : other ≠ key) :
    matched func (table.erase key) other = matched func table other := by
  rw [matched, matched, Finmap.lookup_erase_ne different]

/-- Taking out an entry does not change whether a later one matches. -/
theorem foldl_visit (nodup : visits.Nodup) :
    visits.foldl (Walk.visit func) walk =
      { table := eraseAll (visits.filter (matched func walk.table)) walk.table
        removed := (visits.filter (matched func walk.table)).reverse ++ walk.removed
        count := walk.count + (visits.filter (matched func walk.table)).length } := by
  induction visits generalizing walk with
  | nil => rfl
  | cons key rest ih =>
      obtain ⟨fresh, nodup⟩ := List.nodup_cons.mp nodup
      rw [List.foldl_cons, ih nodup, Walk.visit_eq]
      by_cases found : matched func walk.table key = true
      · have same : rest.filter (matched func (walk.table.erase key)) =
            rest.filter (matched func walk.table) := by
          apply List.filter_congr
          intro other member
          apply matched_erase
          rintro rfl
          exact fresh member
        rw [if_pos found, List.filter_cons_of_pos found, same]
        simp [eraseAll, Nat.add_assoc, Nat.add_comm 1]
      · rw [if_neg found, List.filter_cons_of_neg found]

/-- The walk over the whole table. -/
def removeMatched (func : Key → Value → Bool) (visits : List Key)
    (table : Finmap fun _ : Key => Value) : Walk Key Value :=
  visits.foldl (Walk.visit func) ⟨table, [], 0⟩

theorem mem_removed (enumerates : Enumerates visits table) :
    key ∈ (removeMatched func visits table).removed ↔ matched func table key = true := by
  rw [removeMatched, foldl_visit enumerates.nodup, List.append_nil, List.mem_reverse,
    List.mem_filter]
  refine and_iff_right_of_imp fun found => ?_
  rw [← List.mem_toFinset, enumerates.keys, Finmap.mem_keys, ← Finmap.lookup_isSome]
  unfold matched at found
  cases held : table.lookup key with
  | none => simp [held] at found
  | some value => rfl

theorem nodup_removed (enumerates : Enumerates visits table) :
    (removeMatched func visits table).removed.Nodup := by
  rw [removeMatched, foldl_visit enumerates.nodup, List.append_nil, List.nodup_reverse]
  exact enumerates.nodup.filter _

theorem count_removeMatched (enumerates : Enumerates visits table) :
    (removeMatched func visits table).count =
      (removeMatched func visits table).removed.length := by
  rw [removeMatched, foldl_visit enumerates.nodup, List.append_nil, List.length_reverse,
    Nat.zero_add]

theorem lookup_removeMatched (enumerates : Enumerates visits table) :
    (removeMatched func visits table).table.lookup key =
      (table.lookup key).filter (fun value => !func key value) := by
  have taken := @mem_removed _ _ _ func visits table key enumerates
  rw [removeMatched, foldl_visit enumerates.nodup, List.append_nil, List.mem_reverse] at taken
  rw [removeMatched, foldl_visit enumerates.nodup, lookup_eraseAll]
  dsimp only
  rw [if_congr taken rfl rfl, matched]
  cases table.lookup key with
  | none => rfl
  | some value => cases found : func key value <;> simp [found, Option.filter]

theorem table_removeMatched (enumerates : Enumerates visits table) :
    (removeMatched func visits table).table =
      eraseAll (removeMatched func visits table).removed table := by
  refine Finmap.ext_lookup fun key => ?_
  rw [removeMatched, foldl_visit enumerates.nodup, List.append_nil, lookup_eraseAll,
    lookup_eraseAll]
  exact if_congr List.mem_reverse.symm rfl rfl

/-- A listener that knew the keys of the table knows those that are left. -/
theorem follow_removeMatched (enumerates : Enumerates visits table) :
    follow table.keys ((removeMatched func visits table).removed.map .removed) =
      (removeMatched func visits table).table.keys := by
  ext key
  rw [mem_follow_removed, mem_removed enumerates, Finmap.mem_keys, Finmap.mem_keys,
    ← Finmap.lookup_isSome, ← Finmap.lookup_isSome, lookup_removeMatched enumerates, matched]
  cases table.lookup key with
  | none => simp
  | some value => cases found : func key value <;> simp [found]

end CafeSession.Tables

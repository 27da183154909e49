import Mathlib.Data.List.Basic
import Mathlib.Tactic.SplitIfs

namespace CafeSession.Files

variable {Key Value : Type} [DecidableEq Key] {key other : Key} {value : Value}

/-- The entries with the value of one key replaced. -/
def replaced (key : Key) (value : Value) (entries : List (Key × Value)) : List (Key × Value) :=
  entries.map (fun entry => if entry.1 = key then (key, value) else entry)

def stored (key : Key) (value : Value) (entries : List (Key × Value)) : List (Key × Value) :=
  if entries.any (fun entry => entry.1 = key) then replaced key value entries
  else entries ++ [(key, value)]

def lookup (key : Key) (entries : List (Key × Value)) : Option Value :=
  (entries.find? (fun entry => entry.1 = key)).map Prod.snd

theorem find_replaced {entries : List (Key × Value)} (present : ∃ entry ∈ entries, entry.1 = key) :
    (replaced key value entries).find? (fun entry => entry.1 = key) = some (key, value) := by
  induction entries with
  | nil => simp at present
  | cons entry entries ih =>
      by_cases same : entry.1 = key
      · simp [replaced, same]
      · have later : ∃ entry ∈ entries, entry.1 = key := by simpa [same] using present
        simpa [replaced, List.find?_cons, same] using ih later

theorem find_replaced_of_ne (different : other ≠ key) (entries : List (Key × Value)) :
    (replaced key value entries).find? (fun entry => entry.1 = other) =
      entries.find? (fun entry => entry.1 = other) := by
  induction entries with
  | nil => rfl
  | cons entry entries ih =>
      rw [replaced, List.map_cons, List.find?_cons, List.find?_cons]
      by_cases same : entry.1 = key
      · simpa [same, different.symm, replaced, -List.find?_map] using ih
      · by_cases here : entry.1 = other
        · simp [here, different]
        · simpa [same, here, replaced, -List.find?_map] using ih

theorem lookup_stored (key : Key) (value : Value) (entries : List (Key × Value)) :
    lookup key (stored key value entries) = some value := by
  unfold stored lookup
  split_ifs with present
  · simp only [List.any_eq_true, decide_eq_true_eq] at present
    exact congrArg (Option.map Prod.snd) (find_replaced present)
  · have absent : entries.find? (fun entry => entry.1 = key) = none := by
      simp only [List.any_eq_true, decide_eq_true_eq, not_exists, not_and] at present
      rw [List.find?_eq_none]
      intro entry member
      simpa using present entry member
    simp [List.find?_append, absent]

theorem lookup_stored_of_ne (different : other ≠ key) (value : Value)
    (entries : List (Key × Value)) :
    lookup other (stored key value entries) = lookup other entries := by
  unfold stored lookup
  split_ifs
  · exact congrArg (Option.map Prod.snd) (find_replaced_of_ne different entries)
  · simp [List.find?_append, different.symm]

end CafeSession.Files

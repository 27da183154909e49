import Mathlib.Data.List.Basic
import Mathlib.Data.Nat.ModEq
import Mathlib.Tactic.SplitIfs

/-! # A counter that goes round

Serial numbers of 32 bits that start at 1 and go back to it before they would
be negative as signed numbers, and a table of numbered things under keys made
from their serials. -/

namespace CafeSession.Serial

/-- The number of serials before they come again. -/
def period : Nat := 2147483647

def next (serial : UInt32) : UInt32 :=
  if (serial + 1).toInt32 < 0 then 1 else serial + 1

/-- The serial of the thing made after so many others. -/
def after : Nat → UInt32
  | 0 => 1
  | count + 1 => next (after count)

theorem toInt32_neg {serial : UInt32} : serial.toInt32 < 0 ↔ 2147483648 ≤ serial.toNat := by
  rw [Int32.lt_iff_toInt_lt]
  have signed : serial.toInt32.toInt = serial.toBitVec.toInt := rfl
  have width : serial.toBitVec.toNat = serial.toNat := rfl
  rw [signed, Int32.toInt_zero, BitVec.toInt_neg_iff, width]
  omega

theorem toNat_next {serial : UInt32} (low : serial.toNat ≤ period) :
    (next serial).toNat = if serial.toNat = period then 1 else serial.toNat + 1 := by
  have value : period = 2147483647 := rfl
  have raised : (serial + 1).toNat = serial.toNat + 1 := by
    rw [UInt32.toNat_add, show (1 : UInt32).toNat = 1 from rfl]
    omega
  by_cases last : serial.toNat = period
  · rw [if_pos last, next, if_pos (toInt32_neg.mpr (by omega))]
    rfl
  · rw [if_neg last, next, if_neg (by rw [toInt32_neg]; omega), raised]

theorem toNat_after (count : Nat) : (after count).toNat = count % period + 1 := by
  induction count with
  | zero => rfl
  | succ count ih =>
      have below : count % period < period := Nat.mod_lt count (by decide)
      rw [after, toNat_next (by omega), ih]
      by_cases last : count % period + 1 = period
      · rw [if_pos last]
        simp only [period] at last ⊢
        omega
      · rw [if_neg last]
        simp only [period] at last ⊢
        omega

theorem after_eq_iff {first second : Nat} :
    after first = after second ↔ first % period = second % period := by
  rw [← UInt32.toNat_inj, toNat_after, toNat_after]
  omega

/-- A thing under its key; `made` is how many were made before it. -/
structure Entry (Key : Type) where
  key : Key
  made : Nat
deriving DecidableEq

/-- The counter, how many things have been made, and those in the table. -/
structure Registry (Key : Type) where
  serial : UInt32
  made : Nat
  entries : List (Entry Key)

namespace Registry

variable {Key : Type} {key : UInt32 → Key} {registry : Registry Key}

def empty : Registry Key where
  serial := 1
  made := 0
  entries := []

/-- The counter and the keys follow the numbers of the things. -/
structure Numbered (key : UInt32 → Key) (registry : Registry Key) : Prop where
  serial : registry.serial = after registry.made
  keys : ∀ entry ∈ registry.entries,
    entry.made < registry.made ∧ entry.key = key (after entry.made)

theorem numbered_empty : (empty : Registry Key).Numbered key :=
  ⟨rfl, nofun⟩

/-- The next key is that of an entry made a whole number of periods ago. -/
theorem Numbered.key_eq_iff (numbered : registry.Numbered key) (injective : key.Injective)
    {entry : Entry Key} (member : entry ∈ registry.entries) :
    entry.key = key registry.serial ↔ period ∣ registry.made - entry.made := by
  obtain ⟨earlier, named⟩ := numbered.keys entry member
  rw [named, numbered.serial, injective.eq_iff, after_eq_iff]
  exact Nat.modEq_iff_dvd' (Nat.le_of_lt earlier)

variable [DecidableEq Key]

/-- Inserting takes the place of the entry under the same key. -/
def insert (entry : Entry Key) (entries : List (Entry Key)) : List (Entry Key) :=
  entries.filter (fun other => other.key ≠ entry.key) ++ [entry]

/-- Make a thing, and put it into the table or not. -/
def make (key : UInt32 → Key) (stored : Bool) (registry : Registry Key) : Registry Key where
  serial := next registry.serial
  made := registry.made + 1
  entries :=
    if stored then insert ⟨key registry.serial, registry.made⟩ registry.entries
    else registry.entries

def remove (key : Key) (registry : Registry Key) : Registry Key :=
  { registry with entries := registry.entries.filter (fun other => other.key ≠ key) }

theorem mem_insert {entry other : Entry Key} {entries : List (Entry Key)} :
    other ∈ insert entry entries ↔ other ∈ entries ∧ other.key ≠ entry.key ∨ other = entry := by
  simp [insert]

theorem mem_remove {gone : Key} {entry : Entry Key} :
    entry ∈ (registry.remove gone).entries ↔ entry ∈ registry.entries ∧ entry.key ≠ gone := by
  simp [remove]

theorem Numbered.make (numbered : registry.Numbered key) (stored : Bool) :
    (registry.make key stored).Numbered key := by
  have old (entry : Entry Key) (member : entry ∈ registry.entries) :
      entry.made < registry.made + 1 ∧ entry.key = key (after entry.made) := by
    obtain ⟨earlier, named⟩ := numbered.keys entry member
    exact ⟨by omega, named⟩
  constructor
  · rw [Registry.make, numbered.serial]
    rfl
  · intro entry member
    cases stored with
    | false => exact old entry member
    | true =>
        rcases mem_insert.mp member with ⟨inside, _⟩ | rfl
        · exact old entry inside
        · exact ⟨Nat.lt_succ_self _, by rw [numbered.serial]⟩

theorem Numbered.remove (numbered : registry.Numbered key) (gone : Key) :
    (registry.remove gone).Numbered key :=
  ⟨numbered.serial, fun entry member => numbered.keys entry (mem_remove.mp member).1⟩

/-- Something new leaves the others in the table if none of them has its key. -/
theorem mem_make (stored : Bool)
    (fresh : ∀ entry ∈ registry.entries, entry.key ≠ key registry.serial) {entry : Entry Key}
    (member : entry ∈ registry.entries) : entry ∈ (registry.make key stored).entries := by
  cases stored with
  | false => exact member
  | true => exact mem_insert.mpr (.inl ⟨member, fresh entry member⟩)

end Registry

end CafeSession.Serial

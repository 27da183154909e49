import Mathlib.Data.List.Basic

/-! # Files of records

A file that is one record after the other, each in an encoding of its own length
that says where it ends.  Reading goes on until there is no record to read; writing
goes over what the file had. -/

namespace CafeSession.Files

/-- How a record is written and read back.  The good records are those that
survive it. -/
structure Codec (Byte Entry : Type*) (good : Entry → Prop) where
  encode : Entry → List Byte
  read : List Byte → Option (Entry × List Byte)
  read_nil : read [] = none
  read_encode : ∀ entry rest, good entry → read (encode entry ++ rest) = some (entry, rest)
  shorter : ∀ bytes entry rest, read bytes = some (entry, rest) → rest.length < bytes.length

/-- Write over the start of a file, which keeps what lies beyond. -/
def overwrite {Byte : Type*} (old new : List Byte) : List Byte := new ++ old.drop new.length

namespace Codec

variable {Byte Entry : Type*} {good : Entry → Prop} (codec : Codec Byte Entry good)

def encodeAll (entries : List Entry) : List Byte := entries.flatMap codec.encode

def readAll (bytes : List Byte) : List Entry :=
  match _ : codec.read bytes with
  | none => []
  | some (entry, rest) => entry :: readAll rest
termination_by bytes.length
decreasing_by exact codec.shorter _ _ _ ‹_›

theorem readAll_nil : codec.readAll [] = [] := by
  rw [readAll]
  split
  · rfl
  · next found => rw [codec.read_nil] at found; cases found

theorem readAll_encode_append {entry : Entry} (isGood : good entry) (rest : List Byte) :
    codec.readAll (codec.encode entry ++ rest) = entry :: codec.readAll rest := by
  have found := codec.read_encode entry rest isGood
  rw [readAll]
  split
  · next nothing => rw [found] at nothing; cases nothing
  · next again => rw [found] at again; cases again; rfl

theorem readAll_encodeAll_append {entries : List Entry} (areGood : ∀ entry ∈ entries, good entry)
    (rest : List Byte) :
    codec.readAll (codec.encodeAll entries ++ rest) = entries ++ codec.readAll rest := by
  induction entries with
  | nil => rfl
  | cons entry entries ih =>
      obtain ⟨first, later⟩ := List.forall_mem_cons.mp areGood
      have split : codec.encodeAll (entry :: entries) ++ rest =
          codec.encode entry ++ (codec.encodeAll entries ++ rest) := by
        simp [encodeAll]
      rw [split, codec.readAll_encode_append first, ih later, List.cons_append]

theorem readAll_encodeAll {entries : List Entry} (areGood : ∀ entry ∈ entries, good entry) :
    codec.readAll (codec.encodeAll entries) = entries := by
  have all := codec.readAll_encodeAll_append areGood []
  rwa [List.append_nil, codec.readAll_nil, List.append_nil] at all

theorem length_encodeAll_perm {entries others : List Entry} (same : entries.Perm others) :
    (codec.encodeAll entries).length = (codec.encodeAll others).length :=
  (same.flatMap_right codec.encode).length_eq

/-- The file holds the records, in whatever order, and not a byte besides. -/
def Holds (bytes : List Byte) (entries : List Entry) : Prop :=
  (codec.readAll bytes).Perm entries ∧ codec.encodeAll (codec.readAll bytes) = bytes

theorem holds_encodeAll {entries others : List Entry} (areGood : ∀ entry ∈ entries, good entry)
    (same : entries.Perm others) : codec.Holds (codec.encodeAll entries) others := by
  unfold Holds
  rw [codec.readAll_encodeAll areGood]
  exact ⟨same, rfl⟩

/-- Records written over a file are all it holds just when the file was not longer. -/
theorem holds_overwrite_iff {entries others : List Entry} (areGood : ∀ entry ∈ entries, good entry)
    (same : entries.Perm others) (old : List Byte) :
    codec.Holds (overwrite old (codec.encodeAll entries)) others ↔
      old.length ≤ (codec.encodeAll others).length := by
  rw [← codec.length_encodeAll_perm same]
  constructor
  · intro ⟨read, whole⟩
    have reread := codec.readAll_encodeAll_append areGood
      (old.drop (codec.encodeAll entries).length)
    change codec.readAll (overwrite old (codec.encodeAll entries)) = _ at reread
    have counted := read.length_eq
    rw [reread, List.length_append, same.length_eq] at counted
    have nothing : codec.readAll (old.drop (codec.encodeAll entries).length) = [] :=
      List.length_eq_zero_iff.mp (by omega)
    rw [reread, nothing, List.append_nil] at whole
    have lengths := congrArg List.length whole
    simp only [overwrite, List.length_append, List.length_drop] at lengths
    omega
  · intro shorter
    have covered : overwrite old (codec.encodeAll entries) = codec.encodeAll entries := by
      rw [overwrite, List.drop_eq_nil_of_le shorter, List.append_nil]
    rw [covered]
    exact codec.holds_encodeAll areGood same

end Codec

end CafeSession.Files

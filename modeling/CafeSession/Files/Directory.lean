import Mathlib.Data.List.Nodup
import Mathlib.Data.List.Induction
import Mathlib.Data.List.Perm.Basic

namespace CafeSession.Files

structure Directory (Content : Type*) where
  files : List (String × Content)
  distinct : (files.map Prod.fst).Nodup
deriving DecidableEq

namespace Directory

variable {Content : Type*} {directory : Directory Content}

def empty : Directory Content := ⟨[], List.nodup_nil⟩

def filter (keep : String → Bool) (directory : Directory Content) : Directory Content where
  files := directory.files.filter (fun file => keep file.1)
  distinct := (List.filter_sublist.map Prod.fst).nodup directory.distinct

def remove (name : String) (directory : Directory Content) : Directory Content :=
  directory.filter (fun other => other ≠ name)

theorem remove_absent (name : String) :
    name ∉ (directory.remove name).files.map Prod.fst := by
  intro member
  obtain ⟨file, inside, rfl⟩ := List.mem_map.mp member
  have kept := (List.mem_filter.mp inside).2
  simp at kept

def put (directory : Directory Content) (file : String × Content) : Directory Content where
  files := (directory.remove file.1).files ++ [file]
  distinct := by
    rw [List.map_append, List.nodup_append]
    refine ⟨(directory.remove file.1).distinct, List.nodup_singleton _, ?_⟩
    intro name member other isFile same
    rw [List.map_singleton, List.mem_singleton] at isFile
    rw [same, isFile] at member
    exact directory.remove_absent _ member

/-- The last of the files written under its name, hence the one that is still there. -/
def LastWritten (files : List (String × Content)) (file : String × Content) : Prop :=
  ∃ before after, files = before ++ file :: after ∧ ∀ later ∈ after, later.1 ≠ file.1

theorem mem_put {file other : String × Content} :
    other ∈ (directory.put file).files ↔
      other = file ∨ other ∈ directory.files ∧ other.1 ≠ file.1 := by
  simp [put, remove, filter, List.mem_filter, or_comm]

/-- The files of a directory are written already, each under a name of its own. -/
theorem lastWritten_files {file : String × Content} :
    LastWritten directory.files file ↔ file ∈ directory.files := by
  constructor
  · rintro ⟨before, after, split, _⟩
    simp [split]
  · intro member
    obtain ⟨before, after, split⟩ := List.append_of_mem member
    refine ⟨before, after, split, fun later isLater same => ?_⟩
    have distinct := directory.distinct
    rw [split, List.map_append, List.map_cons, List.nodup_append, List.nodup_cons] at distinct
    apply distinct.2.1.1
    rw [← same]
    exact List.mem_map_of_mem isLater

theorem lastWritten_concat {files : List (String × Content)} {file other : String × Content} :
    LastWritten (files ++ [file]) other ↔
      other = file ∨ LastWritten files other ∧ other.1 ≠ file.1 := by
  constructor
  · rintro ⟨before, after, split, last⟩
    rcases List.eq_nil_or_concat after with rfl | ⟨front, final, rfl⟩
    · have ends := List.append_inj_right' split rfl
      exact .inl (List.cons.inj ends).1.symm
    · rw [List.concat_eq_append, ← List.cons_append, ← List.append_assoc] at split
      have ends := List.append_inj' split rfl
      have final_eq : file = final := (List.cons.inj ends.2).1
      subst final_eq
      refine .inr ⟨⟨before, front, ends.1, fun later isLater => last later (by simp [isLater])⟩, ?_⟩
      exact fun same => last file (by simp) same.symm
  · rintro (rfl | ⟨⟨before, after, rfl, last⟩, different⟩)
    · exact ⟨files, [], rfl, by simp⟩
    · refine ⟨before, after ++ [file], by simp, fun later isLater => ?_⟩
      rcases List.mem_append.mp isLater with earlier | isFile
      · exact last later earlier
      · rw [List.mem_singleton.mp isFile]
        exact fun same => different same.symm

/-- After any number of writes, the last file written under each name is there. -/
theorem mem_putAll (files : List (String × Content)) {file : String × Content} :
    file ∈ (files.foldl put directory).files ↔ LastWritten (directory.files ++ files) file := by
  induction files using List.reverseRecOn generalizing file with
  | nil => simp [lastWritten_files]
  | append_singleton files last ih =>
      rw [List.foldl_append, List.foldl_cons, List.foldl_nil, mem_put, ← List.append_assoc,
        lastWritten_concat, ih]

/-- Writes under names of their own, none of them taken, are appended in order. -/
theorem putAll_files {files : List (String × Content)}
    (distinct : ((directory.files ++ files).map Prod.fst).Nodup) :
    (files.foldl put directory).files = directory.files ++ files := by
  induction files generalizing directory with
  | nil => simp
  | cons file files ih =>
      have kept : (directory.put file).files = directory.files ++ [file] := by
        have absent : ∀ other ∈ directory.files, other.1 ≠ file.1 := by
          intro other member same
          rw [List.map_append, List.nodup_append] at distinct
          exact distinct.2.2 other.1 (List.mem_map_of_mem member) file.1 (by simp) same
        simp only [put, remove, filter]
        rw [List.filter_eq_self.mpr (by simpa using absent)]
      rw [List.foldl_cons, ih (by rw [kept]; simpa using distinct), kept]
      simp

theorem removeEach_files (works : String → Bool) (names : List String) :
    (names.foldl (fun directory name =>
      if works name then directory.remove name else directory) directory).files =
      directory.files.filter (fun file => !(works file.1 && names.contains file.1)) := by
  induction names generalizing directory with
  | nil => simp
  | cons name names ih =>
      rw [List.foldl_cons, ih]
      by_cases succeeds : works name = true
      · simp only [succeeds, ↓reduceIte, remove, filter, List.filter_filter]
        apply List.filter_congr
        intro file _
        by_cases same : file.1 = name <;> simp [same, succeeds]
      · simp only [succeeds, Bool.false_eq_true, ↓reduceIte]
        apply List.filter_congr
        intro file _
        by_cases same : file.1 = name <;> simp [same, succeeds]

end Directory

end CafeSession.Files

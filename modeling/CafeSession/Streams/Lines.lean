import Mathlib.Data.List.Basic

namespace CafeSession.Streams

variable {Item : Type*} [DecidableEq Item]

/-- What has been read when the mark has come or the chunks have run out. -/
def readUntil (mark : Item) : List Item → List (List Item) → List Item
  | read, [] => read
  | read, chunk :: chunks =>
      if mark ∈ read ++ chunk then read ++ chunk else readUntil mark (read ++ chunk) chunks

/-- The text before the mark, or all of it. -/
def line (mark : Item) (text : List Item) : List Item :=
  text.takeWhile (fun item => item ≠ mark)

variable {mark : Item}

/-- What follows a mark does not belong to the line. -/
theorem line_append_of_mem {text : List Item} (marked : mark ∈ text) (rest : List Item) :
    line mark (text ++ rest) = line mark text := by
  induction text with
  | nil => cases marked
  | cons item text ih =>
      by_cases same : item = mark
      · simp [line, same]
      · have later : mark ∈ text := (List.mem_cons.mp marked).resolve_left fun equal =>
          same equal.symm
        have front : ∀ other, line mark (item :: other) = item :: line mark other := by
          intro other
          simp [line, same]
        rw [List.cons_append, front, front, ih later]

theorem line_append {text : List Item} (plain : mark ∉ text) (rest : List Item) :
    line mark (text ++ rest) = text ++ line mark rest := by
  refine List.takeWhile_append_of_pos ?_
  intro item member
  have other : item ≠ mark := by
    rintro rfl
    exact plain member
  exact decide_eq_true other

theorem line_append_mark {text : List Item} (plain : mark ∉ text) (rest : List Item) :
    line mark (text ++ mark :: rest) = text := by
  rw [line_append plain]
  simp [line]

/-- The line does not depend on how the text comes in chunks. -/
theorem line_readUntil (read : List Item) (chunks : List (List Item)) :
    line mark (readUntil mark read chunks) = line mark (read ++ chunks.flatten) := by
  induction chunks generalizing read with
  | nil => rw [readUntil, List.flatten_nil, List.append_nil]
  | cons chunk chunks ih =>
      rw [readUntil, List.flatten_cons, ← List.append_assoc]
      split_ifs with marked
      · rw [line_append_of_mem marked]
      · exact ih (read ++ chunk)

/-- The line is words with the mark in between, and the word is one of them. -/
def Lists (mark : Item) (line word : List Item) : Prop :=
  ∃ words, line = [mark].intercalate words ∧ (∀ other ∈ words, mark ∉ other) ∧ word ∈ words

theorem not_mem_of_mem_splitOn {text word : List Item} (member : word ∈ text.splitOn mark) :
    mark ∉ word := by
  induction text generalizing word with
  | nil =>
      rw [List.splitOn_nil, List.mem_singleton] at member
      rw [member]
      exact List.not_mem_nil
  | cons item text ih =>
      obtain ⟨first, later, split⟩ :=
        List.exists_cons_of_ne_nil (List.splitOn_ne_nil mark text)
      rw [split] at ih
      rw [List.splitOn_cons_eq_if_modifyHead, split] at member
      by_cases same : item = mark
      · rw [if_pos (beq_iff_eq.mpr same)] at member
        cases List.mem_cons.mp member with
        | inl empty =>
            rw [empty]
            exact List.not_mem_nil
        | inr member => exact ih member
      · rw [if_neg (fun equal => same (beq_iff_eq.mp equal)), List.modifyHead_cons] at member
        cases List.mem_cons.mp member with
        | inl start =>
            rw [start, List.mem_cons, not_or]
            exact And.intro (fun equal => same equal.symm) (ih List.mem_cons_self)
        | inr member => exact ih (List.mem_cons_of_mem first member)

/-- A line is split into the words that it lists. -/
theorem mem_splitOn_iff {line word : List Item} :
    word ∈ line.splitOn mark ↔ Lists mark line word := by
  constructor
  · intro member
    exact ⟨line.splitOn mark, (List.intercalate_splitOn mark).symm,
      fun other => not_mem_of_mem_splitOn, member⟩
  · rintro ⟨words, rfl, plain, member⟩
    rw [List.splitOn_intercalate mark plain (List.ne_nil_of_mem member)]
    exact member

end CafeSession.Streams

import Mathlib.Data.List.Basic
import Mathlib.Data.List.Count

/-! # Shell quoting

A command line is split into words by the quoting rules of the POSIX shell,
without any expansion.  What the words hold are bytes of the command line in
their order, and the bytes that quote others are lost. -/

namespace CafeSession.Shell

abbrev Bytes := List UInt8

abbrev tab : UInt8 := 9
abbrev newline : UInt8 := 10
abbrev space : UInt8 := 32
abbrev doubleQuote : UInt8 := 34
abbrev hash : UInt8 := 35
abbrev dollar : UInt8 := 36
abbrev singleQuote : UInt8 := 39
abbrev backslash : UInt8 := 92
abbrev backquote : UInt8 := 96

def isBlank (byte : UInt8) : Bool :=
  byte = space || byte = tab || byte = newline

/-- What the next byte is read in; the escaped modes follow a backslash. -/
inductive Mode where
  | unquoted
  | escaped
  | singleQuoted
  | doubleQuoted
  | doubleEscaped
  | comment
deriving DecidableEq, Repr

def extend (word : Option Bytes) (bytes : Bytes) : Option Bytes :=
  some (word.getD [] ++ bytes)

@[simp] theorem extend_getD (word : Option Bytes) (bytes : Bytes) :
    (extend word bytes).getD [] = word.getD [] ++ bytes := rfl

/-- The words from a mode on, with what has been read of the current word;
`none` when a quote is left open. -/
def words : Mode → Option Bytes → Bytes → Option (List Bytes)
  | .unquoted, word, [] => some word.toList
  | .comment, _, [] => some []
  | _, _, [] => none
  | .unquoted, word, byte :: rest =>
      if isBlank byte then (words .unquoted none rest).map (word.toList ++ ·)
      else if byte = singleQuote then words .singleQuoted (extend word []) rest
      else if byte = doubleQuote then words .doubleQuoted (extend word []) rest
      else if byte = backslash then words .escaped word rest
      else if byte = hash ∧ word = none then words .comment none rest
      else words .unquoted (extend word [byte]) rest
  | .escaped, word, byte :: rest =>
      if byte = newline then words .unquoted word rest
      else words .unquoted (extend word [byte]) rest
  | .singleQuoted, word, byte :: rest =>
      if byte = singleQuote then words .unquoted word rest
      else words .singleQuoted (extend word [byte]) rest
  | .doubleQuoted, word, byte :: rest =>
      if byte = doubleQuote then words .unquoted word rest
      else if byte = backslash then words .doubleEscaped word rest
      else words .doubleQuoted (extend word [byte]) rest
  | .doubleEscaped, word, byte :: rest =>
      if byte = newline then words .doubleQuoted word rest
      else if byte = dollar ∨ byte = backquote ∨ byte = doubleQuote ∨ byte = backslash then
        words .doubleQuoted (extend word [byte]) rest
      else words .doubleQuoted (extend word [backslash, byte]) rest
  | .comment, _, byte :: rest =>
      if byte = newline then words .unquoted none rest else words .comment none rest

section Steps

variable (word : Option Bytes) (rest : Bytes)

@[simp] theorem words_space : words .unquoted word (space :: rest) =
    (words .unquoted none rest).map (word.toList ++ ·) := rfl

@[simp] theorem words_open : words .unquoted word (singleQuote :: rest) =
    words .singleQuoted (extend word []) rest := rfl

@[simp] theorem words_close : words .singleQuoted word (singleQuote :: rest) =
    words .unquoted word rest := rfl

@[simp] theorem words_backslash : words .unquoted word (backslash :: rest) =
    words .escaped word rest := rfl

@[simp] theorem words_escaped : words .escaped word (singleQuote :: rest) =
    words .unquoted (extend word [singleQuote]) rest := rfl

end Steps

/-- The argument vector of a command line, which holds at least one word. -/
def parseArgv (command : Bytes) : Option (List Bytes) :=
  (words .unquoted none command).filter (fun argv => argv ≠ [])

/-- The backslash of a double-quoted escape may turn out to stand for itself. -/
def Mode.pending : Mode → Bytes
  | .doubleEscaped => [backslash]
  | _ => []

variable {mode : Mode} {word : Option Bytes} {input : Bytes} {argv : List Bytes}

/-- The words hold bytes of the command line, in their order. -/
theorem words_sublist (parsed : words mode word input = some argv) :
    argv.flatten.Sublist (word.getD [] ++ mode.pending ++ input) := by
  induction input generalizing mode word argv with
  | nil =>
      cases mode <;> simp only [words, Option.some.injEq, reduceCtorEq] at parsed <;> subst parsed
      · cases word <;> simp [Mode.pending]
      · simp
  | cons byte rest ih =>
      -- What is read next is the rest, with the byte kept in the word or lost.
      have kept {mode' : Mode} {word' : Option Bytes}
          (next : words mode' word' rest = some argv)
          (part : (word'.getD [] ++ mode'.pending ++ rest).Sublist
            (word.getD [] ++ mode.pending ++ byte :: rest)) :
          argv.flatten.Sublist (word.getD [] ++ mode.pending ++ byte :: rest) :=
        (ih next).trans part
      cases mode with
      | unquoted =>
          simp only [words] at parsed
          split_ifs at parsed
          · obtain ⟨later, next, rfl⟩ := Option.map_eq_some_iff.mp parsed
            have tail := ih next
            have whole : (word.toList ++ later).flatten = word.getD [] ++ later.flatten := by
              cases word <;> simp
            rw [whole]
            simp only [Mode.pending, Option.getD_none, List.nil_append, List.append_nil] at tail ⊢
            exact (List.append_sublist_append_left _).mpr (tail.cons byte)
          all_goals exact kept parsed (by simp [Mode.pending])
      | escaped =>
          simp only [words] at parsed
          split_ifs at parsed <;> exact kept parsed (by simp [Mode.pending])
      | singleQuoted =>
          simp only [words] at parsed
          split_ifs at parsed <;> exact kept parsed (by simp [Mode.pending])
      | doubleQuoted =>
          simp only [words] at parsed
          split_ifs at parsed with closes escapes
          · exact kept parsed (by simp [Mode.pending])
          · exact kept parsed (by simp [Mode.pending, escapes])
          · exact kept parsed (by simp [Mode.pending])
      | doubleEscaped =>
          simp only [words] at parsed
          split_ifs at parsed <;> exact kept parsed (by simp [Mode.pending])
      | comment =>
          simp only [words] at parsed
          split_ifs at parsed <;> exact kept parsed (by simp [Mode.pending])

/-- The bytes by which a single quote can be made to stand for itself. -/
def quotingBytes (text : Bytes) : Nat :=
  text.count backslash + text.count doubleQuote

@[simp] theorem quotingBytes_append (one other : Bytes) :
    quotingBytes (one ++ other) = quotingBytes one + quotingBytes other := by
  simp only [quotingBytes, List.count_append]
  omega

theorem quotingBytes_cons (byte : UInt8) (text : Bytes) :
    quotingBytes (byte :: text) = quotingBytes [byte] + quotingBytes text :=
  quotingBytes_append [byte] text

theorem quotingBytes_sublist {part whole : Bytes} (sublist : part.Sublist whole) :
    quotingBytes part ≤ quotingBytes whole :=
  Nat.add_le_add (sublist.count_le _) (sublist.count_le _)

/-- A single quote in a word has cost the command line a byte that quotes. -/
theorem singleQuote_costs (parsed : words mode word input = some argv)
    (outside : mode = .unquoted ∨ mode = .singleQuoted ∨ mode = .comment)
    (quoted : singleQuote ∈ argv.flatten) :
    singleQuote ∈ word.getD [] ∨
      quotingBytes argv.flatten < quotingBytes (word.getD [] ++ input) := by
  induction input generalizing mode word argv with
  | nil =>
      rcases outside with rfl | rfl | rfl <;>
        simp only [words, Option.some.injEq, reduceCtorEq] at parsed <;> subst parsed
      · left
        cases word <;> simp_all
      · simp at quoted
  | cons byte rest ih =>
      rw [quotingBytes_append, quotingBytes_cons]
      -- The byte has quoted what follows, and the rest cannot make up for it.
      have lost {mode' : Mode} {word' : Option Bytes} (next : words mode' word' rest = some argv)
          (same : word'.getD [] = word.getD []) (nothing : mode'.pending = [])
          (quotes : quotingBytes [byte] = 1) :
          quotingBytes argv.flatten <
            quotingBytes (word.getD []) + (quotingBytes [byte] + quotingBytes rest) := by
        have less := quotingBytes_sublist (words_sublist next)
        rw [nothing, List.append_nil, quotingBytes_append, same] at less
        omega
      have kept {mode' : Mode} (next : words mode' (extend word [byte]) rest = some argv)
          (outside : mode' = .unquoted ∨ mode' = .singleQuoted ∨ mode' = .comment)
          (other : byte ≠ singleQuote) : singleQuote ∈ word.getD [] ∨
            quotingBytes argv.flatten <
              quotingBytes (word.getD []) + (quotingBytes [byte] + quotingBytes rest) := by
        rcases ih next outside quoted with earlier | less
        · rw [extend_getD, List.mem_append, List.mem_singleton] at earlier
          exact .inl (earlier.resolve_right other.symm)
        · rw [extend_getD, quotingBytes_append, quotingBytes_append] at less
          right
          omega
      have dropped {mode' : Mode} {word' : Option Bytes}
          (next : words mode' word' rest = some argv)
          (outside : mode' = .unquoted ∨ mode' = .singleQuoted ∨ mode' = .comment)
          (part : word'.getD [] = word.getD [] ∨ word'.getD [] = []) :
          singleQuote ∈ word.getD [] ∨ quotingBytes argv.flatten <
            quotingBytes (word.getD []) + (quotingBytes [byte] + quotingBytes rest) := by
        rcases ih next outside quoted with earlier | less
        · rcases part with same | nothing
          · exact .inl (same ▸ earlier)
          · simp [nothing] at earlier
        · rw [quotingBytes_append] at less
          rcases part with same | nothing
          · rw [same] at less
            right
            omega
          · rw [nothing] at less
            simp only [quotingBytes, List.count_nil] at less ⊢
            right
            omega
      rcases outside with rfl | rfl | rfl
      · simp only [words] at parsed
        split_ifs at parsed with blank single double escapes comments
        · obtain ⟨later, next, rfl⟩ := Option.map_eq_some_iff.mp parsed
          have whole : (word.toList ++ later).flatten = word.getD [] ++ later.flatten := by
            cases word <;> simp
          rw [whole, List.mem_append] at quoted
          rw [whole, quotingBytes_append]
          rcases quoted with earlier | quoted
          · exact .inl earlier
          · rcases ih next (.inl rfl) quoted with impossible | less
            · simp at impossible
            · simp only [Option.getD_none, List.nil_append] at less
              right
              omega
        · exact dropped parsed (.inr (.inl rfl)) (.inl (by simp))
        · exact .inr (lost parsed (by simp) rfl (by rw [double]; decide))
        · exact .inr (lost parsed rfl rfl (by rw [escapes]; decide))
        · exact dropped parsed (.inr (.inr rfl)) (.inr rfl)
        · exact kept parsed (.inl rfl) single
      · simp only [words] at parsed
        split_ifs at parsed with closes
        · exact dropped parsed (.inl rfl) (.inl rfl)
        · exact kept parsed (.inr (.inl rfl)) closes
      · simp only [words] at parsed
        split_ifs at parsed
        · exact dropped parsed (.inl rfl) (.inr rfl)
        · exact dropped parsed (.inr (.inr rfl)) (.inr rfl)

/-- Bytes that stand for themselves outside quotes. -/
def isPlain (byte : UInt8) : Bool :=
  !isBlank byte && byte ≠ singleQuote && byte ≠ doubleQuote && byte ≠ backslash && byte ≠ hash

theorem words_plain {text : Bytes} (plain : ∀ byte ∈ text, isPlain byte = true)
    (nonempty : text ≠ []) (rest : Bytes) :
    words .unquoted word (text ++ rest) = words .unquoted (extend word text) rest := by
  induction text generalizing word with
  | nil => exact absurd rfl nonempty
  | cons byte text ih =>
      obtain ⟨here, later⟩ := List.forall_mem_cons.mp plain
      simp only [isPlain, Bool.and_eq_true, Bool.not_eq_true', decide_eq_true_eq] at here
      obtain ⟨⟨⟨⟨blank, single⟩, double⟩, escapes⟩, comments⟩ := here
      simp only [List.cons_append, words, blank, single, double, escapes, comments, false_and,
        if_false, Bool.false_eq_true]
      by_cases empty : text = []
      · simp [empty]
      · rw [ih later empty]
        simp [extend]

/-- Between single quotes every byte but the single quote stands for itself. -/
theorem words_singleQuoted {text : Bytes} (free : singleQuote ∉ text) (rest : Bytes) :
    words .singleQuoted word (text ++ singleQuote :: rest) =
      words .unquoted (if text = [] then word else extend word text) rest := by
  induction text generalizing word with
  | nil => simp
  | cons byte text ih =>
      rw [List.mem_cons, not_or] at free
      rw [List.cons_append, words, if_neg (Ne.symm free.1), ih free.2]
      by_cases empty : text = []
      · simp [empty]
      · simp [empty, extend]

/-- A text for between single quotes, each of its own written outside them. -/
def escape (text : Bytes) : Bytes :=
  text.flatMap (fun byte =>
    if byte = singleQuote then [singleQuote, backslash, singleQuote, singleQuote] else [byte])

def quote (text : Bytes) : Bytes :=
  singleQuote :: escape text ++ [singleQuote]

theorem words_escape (current text rest : Bytes) :
    words .singleQuoted (some current) (escape text ++ singleQuote :: rest) =
      words .unquoted (some (current ++ text)) rest := by
  induction text generalizing current with
  | nil => simp [escape]
  | cons byte text ih =>
      have step := ih (current ++ [byte])
      rw [escape, List.flatMap_cons]
      by_cases single : byte = singleQuote
      · subst single
        simpa [extend, escape] using step
      · simpa [words, single, extend, escape] using step

/-- A quoted text is read as itself. -/
theorem words_quote (text rest : Bytes) :
    words .unquoted word (quote text ++ rest) = words .unquoted (extend word text) rest := by
  have opened := words_escape (word.getD []) text rest
  simpa [quote, extend] using opened

end CafeSession.Shell

import CafeSession.Autostart.RestartCommand

namespace CafeSession.Autostart

open CafeSession.Shell

variable {file : DesktopFile} {quotes : Quotes} {escaped : Bool} {documents : List Bytes}
variable {args : List Bytes} {text rest input : Bytes}

namespace DesktopFile

/-- The texts that a code may stand for hold no `%`. -/
structure PercentFree (file : DesktopFile) : Prop where
  name : percent ∉ file.name
  icon : ∀ icon, file.icon = some icon → percent ∉ icon
  source : ∀ source, file.source = some source → percent ∉ source

theorem escape_percentFree (free : percent ∉ text) : percent ∉ escape text := by
  intro member
  obtain ⟨byte, inside, written⟩ := List.mem_flatMap.mp member
  split_ifs at written with single
  · exact absurd written (by decide)
  · rw [List.mem_singleton] at written
    exact free (written ▸ inside)

theorem appendQuotedWord_percentFree (free : percent ∉ text) :
    percent ∉ appendQuotedWord quotes text := by
  have body := escape_percentFree free
  have plain : percent ≠ singleQuote ∧ percent ≠ doubleQuote := by decide
  cases quotes <;> simp [appendQuotedWord, quote, body, plain.1, plain.2]

/-- A code gives a `%` only for `%%`. -/
theorem percentSubst_count (free : file.PercentFree) (code : UInt8) :
    (file.percentSubst code quotes []).1.count percent ≤ [code].count percent := by
  unfold percentSubst
  dsimp only
  split_ifs with double
  · simp [double]
  · simp
  · simp
  · cases icon : file.icon with
    | none => simp
    | some text =>
        have word : percent ∉ appendQuotedWord quotes text :=
          appendQuotedWord_percentFree (free.icon text icon)
        have option : (ascii "--icon ").count percent = 0 := by decide
        simp [List.count_append, option, List.count_eq_zero_of_not_mem word]
  · rw [List.count_eq_zero_of_not_mem (appendQuotedWord_percentFree free.name)]
    exact Nat.zero_le _
  · cases source : file.source with
    | none => simp
    | some text =>
        have word : percent ∉ appendQuotedWord quotes text :=
          appendQuotedWord_percentFree (free.source text source)
        simp [List.count_eq_zero_of_not_mem word]
  · simp

theorem percentSubst_documents (code : UInt8) :
    (file.percentSubst code quotes []).2 = [] := by
  unfold percentSubst
  dsimp only
  split_ifs <;> rfl

/-- The line as it was, or with fewer `%`. -/
def KeptOrFewer (before after : Bytes) : Prop :=
  after = before ∨ after.count percent < before.count percent

theorem KeptOrFewer.le {before after : Bytes} (kept : KeptOrFewer before after) :
    after.count percent ≤ before.count percent := by
  rcases kept with rfl | fewer
  · exact Nat.le_refl _
  · exact Nat.le_of_lt fewer

theorem prepend_fewer {before after : Bytes} (front : Bytes)
    (fewer : after.count percent < before.count percent) :
    (front ++ after).count percent < (front ++ before).count percent := by
  rw [List.count_append, List.count_append]
  exact Nat.add_lt_add_left fewer _

theorem KeptOrFewer.prepend {before after : Bytes} (kept : KeptOrFewer before after)
    (front : Bytes) : KeptOrFewer (front ++ before) (front ++ after) := by
  rcases kept with rfl | fewer
  · exact .inl rfl
  · exact .inr (prepend_fewer front fewer)

theorem percentSubst_fewer (free : file.PercentFree) (code : UInt8) {after : Bytes}
    (kept : after.count percent ≤ rest.count percent) :
    ((file.percentSubst code quotes []).1 ++ after).count percent <
      (percent :: code :: rest).count percent := by
  have less := @percentSubst_count file quotes free code
  rw [List.count_append, List.count_cons_self, ← List.singleton_append, List.count_append]
  omega

/-- The substitution loses a `%` or leaves the line as it is. -/
theorem substitute_keptOrFewer (free : file.PercentFree) :
    KeptOrFewer input (file.substitute quotes escaped [] input) := by
  generalize noDocuments : ([] : List Bytes) = documents
  fun_induction DesktopFile.substitute file quotes escaped documents input with
  | case1 => exact .inl rfl
  | case2 quotes documents byte rest ih => exact (ih noDocuments).prepend [byte]
  | case3 quotes documents rest ih => exact (ih noDocuments).prepend [backslash]
  | case4 quotes documents rest _ ih => exact (ih noDocuments).prepend [singleQuote]
  | case5 quotes documents rest _ _ ih => exact (ih noDocuments).prepend [doubleQuote]
  | case6 => exact .inl rfl
  | case7 quotes documents code rest appended left result _ _ _ ih =>
      subst noDocuments
      have none := @percentSubst_documents file quotes code
      rw [result] at none
      have fewer := @percentSubst_fewer file quotes rest free code _ (ih none.symm).le
      rw [result] at fewer
      exact .inr fewer
  | case8 quotes documents byte rest _ _ _ _ ih => exact (ih noDocuments).prepend [byte]

section Steps

variable (file documents rest)

@[simp] theorem substitute_open : file.substitute .none false documents (singleQuote :: rest) =
    singleQuote :: file.substitute .single false documents rest := by
  rw [substitute.eq_def]
  rfl

@[simp] theorem substitute_close : file.substitute .single false documents (singleQuote :: rest) =
    singleQuote :: file.substitute .none false documents rest := by
  rw [substitute.eq_def]
  rfl

@[simp] theorem substitute_space : file.substitute .none false documents (space :: rest) =
    space :: file.substitute .none false documents rest := by
  rw [substitute.eq_def]
  rfl

theorem substitute_code (code : UInt8) :
    file.substitute quotes false documents (percent :: code :: rest) =
      (file.percentSubst code quotes documents).1 ++
        file.substitute quotes false (file.percentSubst code quotes documents).2 rest := by
  rw [substitute.eq_def]
  rfl

end Steps

theorem substitute_byte {byte : UInt8} (other : byte ≠ percent) :
    ∃ quotes' escaped', ∀ rest, file.substitute quotes escaped documents (byte :: rest) =
      byte :: file.substitute quotes' escaped' documents rest := by
  cases escaped with
  | true => exact ⟨quotes, false, fun _ => rfl⟩
  | false =>
      by_cases escapes : byte = backslash
      · subst escapes
        exact ⟨quotes, quotes ≠ .single, fun rest => by rw [substitute.eq_def]; rfl⟩
      by_cases single : byte = singleQuote
      · subst single
        exact ⟨_, false, fun rest => by rw [substitute.eq_def]; rfl⟩
      by_cases double : byte = doubleQuote
      · subst double
        exact ⟨_, false, fun rest => by rw [substitute.eq_def]; rfl⟩
      · exact ⟨quotes, false, fun rest => by
          rw [substitute.eq_def]
          simp only [if_neg escapes, if_neg single, if_neg double, if_neg other]⟩

/-- Text without a `%` is copied. -/
theorem substitute_append (free : percent ∉ text) :
    ∃ quotes' escaped', ∀ rest, file.substitute quotes escaped documents (text ++ rest) =
      text ++ file.substitute quotes' escaped' documents rest := by
  induction text generalizing quotes escaped with
  | nil => exact ⟨quotes, escaped, fun _ => rfl⟩
  | cons byte text ih =>
      rw [List.mem_cons, not_or] at free
      obtain ⟨quotes₁, escaped₁, first⟩ :=
        @substitute_byte file quotes escaped documents byte (Ne.symm free.1)
      obtain ⟨quotes₂, escaped₂, others⟩ := @ih quotes₁ escaped₁ free.2
      refine ⟨quotes₂, escaped₂, fun rest => ?_⟩
      rw [List.cons_append, first, others, List.cons_append]

theorem substitute_of_free (free : percent ∉ text) :
    file.substitute quotes escaped documents text = text := by
  obtain ⟨quotes', escaped', copied⟩ :=
    @substitute_append file quotes escaped documents text free
  simpa [substitute] using copied []

/-- Between single quotes no byte but the single quote and `%` is special. -/
theorem substitute_singleQuoted (unquoted : singleQuote ∉ text) (free : percent ∉ text) :
    file.substitute .single false documents (text ++ rest) =
      text ++ file.substitute .single false documents rest := by
  induction text with
  | nil => rfl
  | cons byte text ih =>
      rw [List.mem_cons, not_or] at unquoted free
      rw [List.cons_append, substitute.eq_def]
      simp only [if_neg (Ne.symm unquoted.1), if_neg (Ne.symm free.1)]
      split_ifs <;> simp [ih unquoted.2 free.2]

theorem substitute_plain (plain : ∀ byte ∈ text, isPlain byte = true) (free : percent ∉ text) :
    file.substitute .none false documents (text ++ rest) =
      text ++ file.substitute .none false documents rest := by
  induction text with
  | nil => rfl
  | cons byte text ih =>
      obtain ⟨here, others⟩ := List.forall_mem_cons.mp plain
      simp only [isPlain, Bool.and_eq_true, Bool.not_eq_true', decide_eq_true_eq] at here
      obtain ⟨⟨⟨⟨_, single⟩, double⟩, escapes⟩, _⟩ := here
      rw [List.mem_cons, not_or] at free
      rw [List.cons_append, substitute.eq_def]
      simp only [if_neg single, if_neg double, if_neg escapes, if_neg (Ne.symm free.1),
        ih others free.2, List.cons_append]

end DesktopFile

theorem needsQuotes_of_special {value : Bytes} {byte : UInt8} (member : byte ∈ value)
    (special : isPlain byte = false ∨ byte = percent) : needsQuotes value = true := by
  refine List.any_eq_true.mpr ⟨byte, member, ?_⟩
  simp only [isPlain, isBlank, Bool.and_eq_false_iff, Bool.not_eq_false', Bool.or_eq_true,
    decide_eq_true_eq, decide_eq_false_iff_not, not_not] at special
  rcases special with ((((((rfl | rfl) | rfl) | rfl) | rfl) | rfl) | rfl) | rfl <;> decide

theorem quotedText_of_unquoted {value : Bytes} (unquoted : singleQuote ∉ value) :
    quotedText value = value := by
  induction value with
  | nil => rfl
  | cons byte value ih =>
      rw [List.mem_cons, not_or] at unquoted
      rw [quotedText, List.flatMap_cons, if_neg (Ne.symm unquoted.1), ← quotedText, ih unquoted.2]
      rfl

/-- A value without a single quote is written as it is, or between quotes. -/
theorem wordOfValue_cases {value : Bytes} (unquoted : singleQuote ∉ value) :
    (wordOfValue value = value ∧ ∀ byte ∈ value, isPlain byte = true ∧ byte ≠ percent) ∨
      (wordOfValue value = singleQuote :: value ++ [singleQuote] ∧ value ≠ []) := by
  unfold wordOfValue
  split_ifs with quotes
  · right
    constructor
    · rw [quotedText_of_unquoted unquoted]
    · rintro rfl
      simp [needsQuotes] at quotes
  · refine .inl ⟨rfl, fun byte member => ⟨?_, ?_⟩⟩
    · by_contra special
      exact quotes (needsQuotes_of_special member (.inl (Bool.eq_false_iff.mpr special)))
    · intro special
      exact quotes (needsQuotes_of_special member (.inr special))

/-- The words of values are the values, the empty ones apart. -/
def written (values : List Bytes) : List Bytes :=
  values.filter (fun value => value ≠ [])

theorem words_wordOfValue {word : Option Bytes} {value : Bytes} (unquoted : singleQuote ∉ value)
    (rest : Bytes) : words .unquoted word (wordOfValue value ++ rest) =
      words .unquoted (if value = [] then word else extend word value) rest := by
  rcases wordOfValue_cases unquoted with ⟨bare, plain⟩ | ⟨quoted, nonempty⟩
  · rw [bare]
    by_cases empty : value = []
    · simp [empty]
    · rw [if_neg empty, words_plain (fun byte member => (plain byte member).1) empty]
  · rw [quoted, if_neg nonempty]
    simp [words_singleQuoted unquoted, nonempty, extend]

theorem words_values {values : List Bytes} (unquoted : ∀ value ∈ values, singleQuote ∉ value)
    (word : Option Bytes) :
    words .unquoted word (values.flatMap (fun value => space :: wordOfValue value)) =
      some (word.toList ++ written values) := by
  induction values generalizing word with
  | nil => simp [words, written]
  | cons value values ih =>
      obtain ⟨here, later⟩ := List.forall_mem_cons.mp unquoted
      rw [List.flatMap_cons, List.cons_append, words_space, words_wordOfValue here, ih later]
      by_cases empty : value = [] <;> simp [written, empty, extend]

theorem words_propToCommand (unquoted : ∀ arg ∈ args, singleQuote ∉ arg) :
    words .unquoted none (propToCommand args) = some (written args) := by
  cases args with
  | nil => rfl
  | cons value values =>
      obtain ⟨here, later⟩ := List.forall_mem_cons.mp unquoted
      rw [propToCommand, words_wordOfValue here, words_values later]
      by_cases empty : value = [] <;> simp [written, empty, extend]

section Count

variable {byte : UInt8}

theorem count_quotedText (other : byte ≠ singleQuote) (value : Bytes) :
    (quotedText value).count byte = value.count byte := by
  induction value with
  | nil => rfl
  | cons first value ih =>
      rw [quotedText, List.flatMap_cons, List.count_append, ← quotedText, ih]
      split_ifs with single
      · simp [single, other.symm]
      · rw [← List.count_append, List.singleton_append]

theorem length_quotedText (value : Bytes) : value.length ≤ (quotedText value).length := by
  induction value with
  | nil => exact Nat.le_refl _
  | cons first value ih =>
      rw [quotedText, List.flatMap_cons, List.length_append, ← quotedText, List.length_cons]
      split_ifs
      · simp only [List.length_cons]
        omega
      · simp only [List.length_cons, List.length_nil]
        omega

theorem count_wordOfValue (other : byte ≠ singleQuote) (value : Bytes) :
    (wordOfValue value).count byte = value.count byte := by
  unfold wordOfValue
  split_ifs
  · simp [count_quotedText other, other.symm]
  · rfl

theorem count_values (other : byte ≠ singleQuote) (apart : byte ≠ space) (values : List Bytes) :
    (values.flatMap (fun value => space :: wordOfValue value)).count byte =
      values.flatten.count byte := by
  induction values with
  | nil => rfl
  | cons value values ih =>
      simp [ih, count_wordOfValue other, apart.symm]

theorem count_propToCommand (other : byte ≠ singleQuote) (apart : byte ≠ space)
    (args : List Bytes) : (propToCommand args).count byte = args.flatten.count byte := by
  cases args with
  | nil => rfl
  | cons value values =>
      rw [propToCommand, List.count_append, count_wordOfValue other, count_values other apart,
        List.flatten_cons, List.count_append]

theorem quotingBytes_propToCommand (args : List Bytes) :
    quotingBytes (propToCommand args) = quotingBytes args.flatten := by
  unfold quotingBytes
  rw [count_propToCommand (by decide) (by decide), count_propToCommand (by decide) (by decide)]

end Count

namespace DesktopFile

/-- A word without `%` is copied, and leaves no quote open. -/
theorem substitute_wordOfValue {value : Bytes} (unquoted : singleQuote ∉ value)
    (free : percent ∉ value) (rest : Bytes) :
    file.substitute .none false documents (wordOfValue value ++ rest) =
      wordOfValue value ++ file.substitute .none false documents rest := by
  rcases wordOfValue_cases unquoted with ⟨bare, plain⟩ | ⟨quoted, _⟩
  · rw [bare, substitute_plain (fun byte member => (plain byte member).1) free]
  · simp [quoted, substitute_singleQuoted unquoted free]

theorem substitute_wordOfValue_fewer {value : Bytes} (texts : file.PercentFree)
    (unquoted : singleQuote ∉ value) (coded : percent ∈ value) (rest : Bytes) :
    (file.substitute .none false [] (wordOfValue value ++ rest)).count percent <
      (wordOfValue value ++ rest).count percent := by
  rcases wordOfValue_cases unquoted with ⟨_, plain⟩ | ⟨quoted, _⟩
  · exact absurd rfl (plain percent coded).2
  · obtain ⟨before, after, rfl, free⟩ := List.eq_append_cons_of_mem coded
    have unquotedBefore : singleQuote ∉ before := fun member =>
      unquoted (List.mem_append_left _ member)
    -- The closing quote stands behind the last byte, so the `%` has a code.
    obtain ⟨code, later, follows⟩ : ∃ code later,
        after ++ singleQuote :: rest = code :: later := by
      cases after with
      | nil => exact ⟨singleQuote, rest, rfl⟩
      | cons code after => exact ⟨code, after ++ singleQuote :: rest, rfl⟩
    have none := @percentSubst_documents file .single code
    have line : wordOfValue (before ++ percent :: after) ++ rest =
        singleQuote :: (before ++ percent :: code :: later) := by
      simp [quoted, ← follows]
    rw [line, substitute_open, substitute_singleQuoted unquotedBefore free, substitute_code, none,
      List.count_cons, List.count_cons]
    apply Nat.add_lt_add_right
    have fewer := @percentSubst_fewer file .single later texts code _
      (@substitute_keptOrFewer file .single false later texts).le
    exact prepend_fewer before fewer

theorem substitute_values_fewer {values : List Bytes} (texts : file.PercentFree)
    (unquoted : ∀ value ∈ values, singleQuote ∉ value) (coded : ∃ value ∈ values, percent ∈ value) :
    (file.substitute .none false []
        (values.flatMap (fun value => space :: wordOfValue value))).count percent <
      (values.flatMap (fun value => space :: wordOfValue value)).count percent := by
  induction values with
  | nil => simp at coded
  | cons value values ih =>
      obtain ⟨here, later⟩ := List.forall_mem_cons.mp unquoted
      rw [List.flatMap_cons, List.cons_append, substitute_space, List.count_cons, List.count_cons]
      apply Nat.add_lt_add_right
      by_cases first : percent ∈ value
      · exact substitute_wordOfValue_fewer texts here first _
      · have others : ∃ value ∈ values, percent ∈ value := by simpa [first] using coded
        rw [substitute_wordOfValue here first]
        exact prepend_fewer (wordOfValue value) (ih later others)

theorem substitute_propToCommand_fewer (texts : file.PercentFree)
    (unquoted : ∀ arg ∈ args, singleQuote ∉ arg) (coded : ∃ arg ∈ args, percent ∈ arg) :
    (file.substitute .none false [] (propToCommand args)).count percent <
      (propToCommand args).count percent := by
  cases args with
  | nil => simp at coded
  | cons value values =>
      obtain ⟨here, later⟩ := List.forall_mem_cons.mp unquoted
      rw [propToCommand]
      by_cases first : percent ∈ value
      · exact substitute_wordOfValue_fewer texts here first _
      · have others : ∃ value ∈ values, percent ∈ value := by simpa [first] using coded
        rw [substitute_wordOfValue here first]
        exact prepend_fewer (wordOfValue value) (substitute_values_fewer texts later others)

end DesktopFile

end CafeSession.Autostart

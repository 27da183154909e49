import CafeSession.Autostart.Exec

namespace CafeSession.Autostart

open CafeSession.Shell

/-- A line is read back as its values just when each of them was written as one
word that stands for it. -/
theorem parseArgv_propToCommand_iff (values : List Bytes) :
    parseArgv (propToCommand values) = some values ↔
      values ≠ [] ∧ ∀ value ∈ values, value ≠ [] ∧ singleQuote ∉ value := by
  constructor
  · intro read
    obtain ⟨split, nonempty⟩ := Option.filter_eq_some_iff.mp read
    -- A single quote in a word costs a byte that quotes, and the line has only
    -- those of its values.
    have unquoted : singleQuote ∉ values.flatten := by
      intro quoted
      rcases singleQuote_costs split (.inl rfl) quoted with impossible | less
      · simp at impossible
      · rw [Option.getD_none, List.nil_append, quotingBytes_propToCommand] at less
        omega
    have each : ∀ value ∈ values, singleQuote ∉ value := fun value member inside =>
      unquoted (List.mem_flatten.mpr ⟨value, member, inside⟩)
    have all : written values = values := by
      rw [words_propToCommand each] at split
      exact Option.some.inj split
    constructor
    · simpa using nonempty
    · intro value member
      have kept := member
      rw [← all, written, List.mem_filter] at kept
      exact ⟨by simpa using kept.2, each value member⟩
  · rintro ⟨nonempty, each⟩
    have all : written values = values :=
      List.filter_eq_self.mpr (fun value member => by simpa using (each value member).1)
    rw [parseArgv, words_propToCommand (fun value member => (each value member).2), all]
    simp [Option.filter, nonempty]

/-- The values of a command property: C strings, of which the first names a
program. -/
structure CommandValues where
  vals : List Bytes
  named : vals.headD [] ≠ []
  terminated : ∀ value ∈ vals, (0 : UInt8) ∉ value

namespace CommandValues

variable {libraries : Libraries} (command : CommandValues)

theorem nonempty : command.vals ≠ [] := by
  intro empty
  exact command.named (by simp [empty])

/-- The command line of a property is read as the property's values just when no
value is empty or holds a single quote. -/
theorem propToCommand_read_iff
    (parses : ∀ line, libraries.parseArgv line = parseArgv line) :
    libraries.parseArgv (propToCommand command.vals) = some command.vals ↔
      ∀ value ∈ command.vals, value ≠ [] ∧ singleQuote ∉ value := by
  rw [parses, parseArgv_propToCommand_iff]
  exact and_iff_right command.nonempty

end CommandValues

section Samples

/-- Libraries that split by the shell's rules. -/
def shellLibraries : Libraries where
  parseArgv := parseArgv
  filenameToUri path := some (ascii "file://" ++ path)
  versionAbove _ := false
  generateStartupId := ascii "generated"

def removeNotes : CommandValues :=
  ⟨[ascii "rm", ascii "-f", ascii "my \"notes\""], by decide, by decide⟩

theorem remove_notes_read :
    shellLibraries.parseArgv (propToCommand removeNotes.vals) = some removeNotes.vals :=
  (removeNotes.propToCommand_read_iff (fun _ => rfl)).mpr (by decide)

/-- A single quote is written as three, and the last of them stays open. -/
theorem single_quote_not_read :
    ¬∀ (libraries : Libraries) (command : CommandValues),
      (∀ line, libraries.parseArgv line = parseArgv line) →
        libraries.parseArgv (propToCommand command.vals) = some command.vals := by
  intro read
  have quoted := read shellLibraries ⟨[ascii "rm", ascii "it's"], by decide, by decide⟩
    (fun _ => rfl)
  exact absurd quoted (by decide)

end Samples

/-- What `csm_session_clear_one_client` spawns for a file that it can load and
whose command is not among those of the new session. -/
def KeyFile.discardArgv (libraries : Libraries) (keyFile : KeyFile) : Option (List Bytes) :=
  (keyFile.getString "X-CAFE-Autostart-discard-exec").bind libraries.parseArgv

namespace XsmpClient

variable {client : XsmpClient} {original : Option (Except String KeyFile)}
variable {libraries : Libraries} {keyFile : KeyFile} {values : List Bytes}

theorem save_discard
    (discarded : client.findProperty "DiscardCommand" =
      some ⟨"DiscardCommand", "LISTofARRAY8", values⟩)
    (saved : client.save original = .ok (some keyFile)) :
    keyFile.getString "X-CAFE-Autostart-discard-exec" = some (propToCommand values) := by
  have command : client.getDiscardCommand = some (propToCommand values) := by
    simp [getDiscardCommand, getCommand, discarded, Option.filter]
  simp only [save, command] at saved
  split_ifs at saved
  · cases saved
  · cases restart : client.getRestartCommand with
    | none => simp [restart] at saved
    | some execProgram =>
        cases created : client.createKeyFile original with
        | error message => simp [restart, created, Except.map] at saved
        | ok base =>
            simp only [restart, created, Except.map, Except.ok.injEq, Option.some.injEq] at saved
            subst saved
            exact KeyFile.getString_setString _ _ _

/-- A saved client is discarded by its own command just when that is read back. -/
theorem discardArgv_iff (parses : ∀ line, libraries.parseArgv line = parseArgv line)
    (discarded : client.findProperty "DiscardCommand" =
      some ⟨"DiscardCommand", "LISTofARRAY8", values⟩)
    (saved : client.save original = .ok (some keyFile)) :
    keyFile.discardArgv libraries = some values ↔
      values ≠ [] ∧ ∀ value ∈ values, value ≠ [] ∧ singleQuote ∉ value := by
  rw [KeyFile.discardArgv, save_discard discarded saved, Option.bind_some, parses,
    parseArgv_propToCommand_iff]

end XsmpClient

end CafeSession.Autostart

import Mathlib.Data.List.TakeWhile
import CafeSession.SavedSession.Effects

namespace CafeSession.SavedSession

open CafeSession.Files

namespace State

def start (savedDirKnown : Bool) (saved leftover : Option (Directory Content)) : State where
  savedDirKnown := savedDirKnown
  savedSession := saved
  newSession := leftover
  discardHash := []
  error := false
  failures := []
  commands := []

end State

/-- A command is the discard command of one of these files. -/
def Names (files : List File) (command : String) : Prop :=
  ∃ file ∈ files, file.discardExec = some command

/-- A command is the discard command of a client's new key file. -/
def Remembered (outside : Outside) (clients : List Client) (command : String) : Prop :=
  ∃ keyFile ∈ clients.filterMap (keyFileOf outside), keyFile.discardExec = some command

def SameFiles (one other : List File) : Prop := ∀ file, file ∈ one ↔ file ∈ other

/-- The saved session is one file per client with a key file, and only discard
commands that are in the old session and not in the new one were run. -/
def SavedWhole (outside : Outside) (clients : List Client) (old : List File) (after : State) :
    Prop :=
  ((filesOf after.savedSession).map Prod.snd).Perm
      ((clients.filterMap (keyFileOf outside)).map some) ∧
    ∀ command ∈ after.commands, Names old command ∧ ¬ Names (filesOf after.savedSession) command

/-- The saved session is the old one, and none of its discard commands was run. -/
def KeptWhole (old : List File) (after : State) : Prop :=
  SameFiles (filesOf after.savedSession) old ∧ ∀ command ∈ after.commands, ¬ Names old command

/-- The law for what a save has made of the old files. -/
def Settled (outside : Outside) (clients : List Client) (old : List File) (after : State) : Prop :=
  (after.failures = [] → SavedWhole outside clients old after) ∧
    (after.failures ≠ [] → KeptWhole old after)

def AllOrNothing (outside : Outside) (clients : List Client) (before : State) : Prop :=
  Settled outside clients (filesOf before.savedSession) (before.csmSessionSave outside clients)

section Condition

variable (outside : Outside) (clients : List Client) (savedDirKnown : Bool)
variable (saved leftover : Option (Directory Content))

/-- One of the two directories cannot be made, and the save gives up at once. -/
def GivesUp : Prop :=
  (savedDirKnown = false ∧ saved = none ∧ outside.makesDir .savedSession = false) ∨
    (leftover = none ∧ outside.makesDir .newSession = false)

/-- What is put into the temporary directory, in order: the files of an earlier
save that cannot be unlinked, then those of the clients. -/
def newFiles : List File :=
  (filesOf leftover).filter (fun file => !outside.unlink .newSession file.1) ++
    (savedClients outside clients).filterMap (clientFile outside .newSession)

/-- The saved-session directory before the clients are saved: it is made unless
it was known before. -/
def openedDirectory : Option (Directory Content) :=
  if savedDirKnown then saved else some (saved.getD .empty)

/-- The same once the clients have been saved: a path with a slash may lead into it. -/
def metDirectory : Option (Directory Content) :=
  (openedDirectory savedDirKnown saved).map fun directory =>
    ((savedClients outside clients).filterMap (clientFile outside .savedSession)).foldl
      Directory.put directory

def Runs (command : String) : Prop :=
  outside.parsesArgv command = true ∧ outside.spawns command = true

/-- The files that are cleared away can all be unlinked, and the new ones moved there. -/
def Replaces (met : List File) : Prop :=
  (∀ file ∈ met, outside.unlink .savedSession file.1 = true) ∧ outside.rename = true

/-- Every step after the saving of the clients, and the unlinking before it, works. -/
def EveryStepWorks (met : List File) : Prop :=
  (∀ file ∈ filesOf leftover, outside.unlink .newSession file.1 = true) ∧
    Replaces outside met ∧
    ((savedDirKnown = true ∧ saved = none) ∨ outside.rmdir .savedSession = true)

/-- The clients are saved to files of the temporary directory, each to one of its own. -/
def OwnFiles : Prop :=
  (∀ client ∈ clients, keyFileOf outside client ≠ none →
      clientFile outside .newSession client ≠ none) ∧
    ((clients.filterMap (clientFile outside .newSession)).map Prod.fst).Nodup

/-- No command that the old session needs is run, and the files that are left
are the old ones. -/
def NothingToLose (met : List File) : Prop :=
  (∀ command, Names (filesOf saved) command → Names met command → Runs outside command →
      Remembered outside clients command) ∧
    (Replaces outside met → ∀ file,
      Directory.LastWritten (newFiles outside clients leftover) file ↔ file ∈ filesOf saved) ∧
    (¬ Replaces outside met →
      SameFiles (met.filter fun file => !outside.unlink .savedSession file.1) (filesOf saved))

/-- The old files are as they were when a client cannot be saved, and the clean-up,
where the process comes to it, runs no command of theirs. -/
def NothingLost (met : List File) : Prop :=
  SameFiles met (filesOf saved) ∧ (outside.survivesFreedError = true →
    ∀ file, Directory.LastWritten (newFiles outside clients leftover) file →
      ∀ command, File.discardExec file = some command → Runs outside command →
        ¬ Names (filesOf saved) command)

/-- The exact condition. -/
def SaveIsSafe : Prop :=
  let met := filesOf (metDirectory outside clients savedDirKnown saved)
  GivesUp outside savedDirKnown saved leftover ∨
    (∃ client ∈ clients, clientFails outside client = true) ∧
      NothingLost outside clients saved leftover met ∨
    (∀ client ∈ clients, clientFails outside client = false) ∧
      (EveryStepWorks outside savedDirKnown saved leftover met ∧ OwnFiles outside clients ∨
        ¬ EveryStepWorks outside savedDirKnown saved leftover met ∧
          NothingToLose outside clients saved leftover met)

end Condition

section Directories

variable {outside : Outside} {before : State} {savedDirKnown : Bool}
variable {saved : Option (Directory Content)}

theorem filesOf_opened : filesOf (openedDirectory savedDirKnown saved) = filesOf saved := by
  cases savedDirKnown <;> cases saved <;> rfl

theorem openedDirectory_eq_none :
    openedDirectory savedDirKnown saved = none ↔ savedDirKnown = true ∧ saved = none := by
  cases savedDirKnown <;> simp [openedDirectory]

/-- The saved-session directory is there with the files it had, or the save gives up. -/
theorem getSavedSessionDir_cases :
    (∃ after, before.getSavedSessionDir outside = (false, after) ∧
      before.savedDirKnown = false ∧ before.savedSession = none ∧
      outside.makesDir .savedSession = false ∧ after.savedSession = none ∧
      after.commands = before.commands ∧ after.failures ≠ []) ∨
    ∃ after, before.getSavedSessionDir outside = (true, after) ∧
      ¬ (before.savedDirKnown = false ∧ before.savedSession = none ∧
        outside.makesDir .savedSession = false) ∧
      after.savedSession = openedDirectory before.savedDirKnown before.savedSession ∧
      after.newSession = before.newSession ∧ after.commands = before.commands ∧
      after.failures = before.failures ∧ after.error = before.error := by
  cases known : before.savedDirKnown with
  | true => exact .inr ⟨before, by simp [State.getSavedSessionDir, known, openedDirectory]⟩
  | false =>
      cases present : before.savedSession with
      | some directory =>
          refine .inr ⟨{ before with savedDirKnown := true }, ?_, by
            simp [present, openedDirectory]⟩
          simp [State.getSavedSessionDir, known, State.ensureDirExists, State.directory, present]
      | none =>
          cases makes : outside.makesDir .savedSession with
          | true =>
              refine .inr ⟨{ before with
                savedDirKnown := true
                savedSession := some .empty }, ?_, by simp [openedDirectory]⟩
              simp [State.getSavedSessionDir, known, State.ensureDirExists, State.directory,
                present, makes, State.setDirectory]
          | false =>
              refine .inl ⟨before.fail (.ensureDirExists .savedSession), ?_, by
                simp [State.fail, present]⟩
              simp [State.getSavedSessionDir, known, State.ensureDirExists, State.directory,
                present, makes, State.fail]

/-- The temporary directory is there and holds what could not be unlinked, or
the save gives up. -/
theorem getEmptyTmpSessionDir_cases :
    (∃ after, before.getEmptyTmpSessionDir outside = (false, after) ∧
      before.newSession = none ∧ outside.makesDir .newSession = false ∧
      after.savedSession = before.savedSession ∧ after.commands = before.commands ∧
      after.failures ≠ []) ∨
    ∃ after directory, before.getEmptyTmpSessionDir outside = (true, after) ∧
      ¬ (before.newSession = none ∧ outside.makesDir .newSession = false) ∧
      after.newSession = some directory ∧
      directory.files = (filesOf before.newSession).filter
        (fun file => !outside.unlink .newSession file.1) ∧
      after.savedSession = before.savedSession ∧ after.commands = before.commands ∧
      (after.failures = [] ↔ before.failures = [] ∧
        ∀ file ∈ filesOf before.newSession, outside.unlink .newSession file.1 = true) ∧
      after.error = before.error := by
  cases present : before.newSession with
  | none =>
      cases makes : outside.makesDir .newSession with
      | false =>
          refine .inl ⟨before.fail (.ensureDirExists .newSession), ?_, by simp [State.fail]⟩
          simp [State.getEmptyTmpSessionDir, State.ensureDirExists, State.directory, present, makes]
      | true =>
          refine .inr ⟨{ before with newSession := some .empty }, .empty, ?_, by
            simp [filesOf, Directory.empty]⟩
          simp [State.getEmptyTmpSessionDir, State.ensureDirExists, State.directory, present, makes,
            State.setDirectory, Directory.empty]
  | some directory =>
      let names := directory.files.map Prod.fst
      have emptied : before.getEmptyTmpSessionDir outside =
          (true, names.foldl (State.unlink outside .newSession) before) := by
        simp [State.getEmptyTmpSessionDir, State.ensureDirExists, State.directory, present, names]
      have remaining := @State.unlinkEach_directory outside before .newSession names
      simp only [State.directory, present, Option.map_some] at remaining
      refine .inr ⟨_, _, emptied, by simp, remaining, State.removeEach_all directory _, ?_, ?_, ?_,
        State.unlinkEach_error names⟩
      · exact @State.unlinkEach_directory_other _ _ _ .savedSession names (by decide)
      · exact State.unlinkEach_commands names
      · rw [State.unlinkEach_failures]
        simp [names, filesOf]

end Directories

section Paths

variable {outside : Outside} {before : State}

/-- The last two steps of a save without an error. -/
def replaceSavedSession (outside : Outside) (state : State) : State :=
  let state := if state.savedSession.isSome then state.rmdir outside .savedSession else state
  state.rename outside

theorem replaceSavedSession_commands :
    (replaceSavedSession outside before).commands = before.commands := by
  have renamed : ∀ state : State, (state.rename outside).commands = state.commands := by
    intro state
    unfold State.rename
    dsimp only
    split_ifs <;> rfl
  have removed : (before.rmdir outside .savedSession).commands = before.commands := by
    unfold State.rmdir
    cases before.directory .savedSession with
    | none => rfl
    | some directory =>
        dsimp only
        split_ifs
        · exact State.setDirectory_commands _
        · rfl
  unfold replaceSavedSession
  dsimp only
  rw [renamed]
  split_ifs
  · exact removed
  · rfl

/-- The new directory takes the place of the old one where that is empty and
the renaming works; otherwise the old files are still there. -/
theorem replaceSavedSession_cases :
    (filesOf before.savedSession = [] ∧ outside.rename = true ∧
      (replaceSavedSession outside before).savedSession = before.newSession ∧
      ((replaceSavedSession outside before).failures = [] ↔ before.failures = [] ∧
        (before.savedSession = none ∨ outside.rmdir .savedSession = true))) ∨
    (¬ (filesOf before.savedSession = [] ∧ outside.rename = true) ∧
      filesOf (replaceSavedSession outside before).savedSession = filesOf before.savedSession ∧
      (replaceSavedSession outside before).failures ≠ []) := by
  cases present : before.savedSession with
  | none =>
      by_cases renames : outside.rename = true
      · left
        simp [replaceSavedSession, State.rename, present, filesOf, renames]
      · right
        simp [replaceSavedSession, State.rename, present, filesOf, renames, State.fail]
  | some directory =>
      by_cases clear : directory.files = []
      · by_cases removes : outside.rmdir .savedSession = true
        · by_cases renames : outside.rename = true
          · left
            simp [replaceSavedSession, State.rename, State.rmdir, State.directory,
              State.setDirectory, present, filesOf, renames, removes, clear]
          · right
            simp [replaceSavedSession, State.rename, State.rmdir, State.directory,
              State.setDirectory, present, filesOf, renames, removes, clear, State.fail]
        · by_cases renames : outside.rename = true
          · left
            simp [replaceSavedSession, State.rename, State.rmdir, State.directory, present,
              filesOf, renames, removes, clear, State.fail]
          · right
            simp [replaceSavedSession, State.rename, State.rmdir, State.directory, present,
              filesOf, renames, removes, clear, State.fail]
      · right
        simp [replaceSavedSession, State.rename, State.rmdir, State.directory, present, filesOf,
          clear, State.fail]

theorem mem_discardCommands {discardHash : Option (List String)} {files : List File}
    {command : String} :
    command ∈ files.filterMap (State.discardCommand outside discardHash) ↔
      Names files command ∧ command ∉ discardHash.getD [] ∧ Runs outside command := by
  rw [List.mem_filterMap]
  constructor
  · rintro ⟨file, member, found⟩
    obtain ⟨named, runs⟩ := Option.filter_eq_some_iff.mp found
    simp only [Bool.and_eq_true, Bool.not_eq_true', List.contains_eq_mem,
      decide_eq_false_iff_not] at runs
    exact ⟨⟨file, member, named⟩, runs.1.1, runs.1.2, runs.2⟩
  · rintro ⟨⟨file, member, named⟩, unknown, parses, spawns⟩
    refine ⟨file, member, Option.filter_eq_some_iff.mpr ⟨named, ?_⟩⟩
    simp [unknown, parses, spawns]

/-- What is done after an error: the process may die of reading it. -/
def cleanUp (outside : Outside) (state : State) : State :=
  if !outside.survivesFreedError then state
  else (state.clearSavedSession outside .newSession none).rmdir outside .newSession

/-- After an error no more files of the old session are touched: what was put into
the temporary directory is discarded, with its commands. -/
theorem keptWhole_of_error {clients : List Client} {directory : Directory Content}
    {old met : List File} (new : before.newSession = some directory)
    (same : filesOf (before.savedSession.map fun directory =>
      ((savedClients outside clients).filterMap (clientFile outside .savedSession)).foldl
        Directory.put directory) = met)
    (quiet : before.commands = []) (fails : clients.any (clientFails outside) = true) :
    let state := State.saveClients outside clients { before with discardHash := [] }
    (cleanUp outside state).failures ≠ [] ∧
      (KeptWhole old (cleanUp outside state) ↔ SameFiles met old ∧
        (outside.survivesFreedError = true →
          ∀ file, Directory.LastWritten (directory.files ++
            (savedClients outside clients).filterMap (clientFile outside .newSession)) file →
          ∀ command, File.discardExec file = some command → Runs outside command →
            ¬ Names old command)) := by
  intro state
  have saved := @State.saveClients_saved outside { before with discardHash := [] } clients
  have met_eq : filesOf state.savedSession = met := by
    rw [← same]
    exact congrArg filesOf (saved.directory .savedSession)
  have failed : state.failures ≠ [] := by
    intro none_failed
    have := (saved.failures.mp none_failed).2
    rw [fails] at this
    cases this
  have silent : state.commands = [] := saved.commands.trans quiet
  cases lives : outside.survivesFreedError with
  | false =>
      have dies : cleanUp outside state = state := by simp [cleanUp, lives]
      rw [dies]
      refine ⟨failed, ?_⟩
      simp [KeptWhole, met_eq, silent]
  | true =>
      have goesOn : cleanUp outside state =
          (state.clearSavedSession outside .newSession none).rmdir outside .newSession := by
        simp [cleanUp, lives]
      have cleared := @State.clearSavedSession_cleared outside state .newSession none
      have failed' : (state.clearSavedSession outside .newSession none).failures ≠ [] :=
        fun none_failed => failed (cleared.failures.mp none_failed).1
      generalize cleanUp outside state = after at goesOn ⊢
      have removed : after.failures ≠ [] ∧
          after.savedSession = (state.clearSavedSession outside .newSession none).savedSession ∧
          after.commands = (state.clearSavedSession outside .newSession none).commands := by
        rw [goesOn]
        unfold State.rmdir
        cases (state.clearSavedSession outside .newSession none).directory .newSession with
        | none => exact ⟨by simp [State.fail], rfl, rfl⟩
        | some directory =>
            dsimp only
            split_ifs
            · exact ⟨by simpa using failed', rfl, by simp⟩
            · exact ⟨by simp [State.fail], rfl, rfl⟩
      have kept : filesOf after.savedSession = met := by
        have untouched := cleared.elsewhere .savedSession (by decide)
        simp only [State.directory] at untouched
        rw [removed.2.1, untouched, met_eq]
      have written : ∀ file, file ∈ filesOf state.newSession ↔
          Directory.LastWritten (directory.files ++
            (savedClients outside clients).filterMap (clientFile outside .newSession)) file := by
        intro file
        have put := saved.directory .newSession
        simp only [State.directory] at put
        rw [put, new]
        exact Directory.mem_putAll _
      have ran : ∀ command, command ∈ after.commands ↔
          Names (filesOf state.newSession) command ∧ Runs outside command := by
        intro command
        rw [removed.2.2, cleared.commands, silent, List.append_nil, List.mem_reverse,
          mem_discardCommands]
        simp [State.directory]
      refine ⟨removed.1, ?_⟩
      unfold KeptWhole
      rw [kept]
      refine and_congr_right fun _ => ?_
      constructor
      · intro whole _ file last command named runs
        exact whole command ((ran command).mpr ⟨⟨file, (written file).mpr last, named⟩, runs⟩)
      · intro safe command run
        obtain ⟨⟨file, member, named⟩, runs⟩ := (ran command).mp run
        exact safe rfl file ((written file).mp member) command named runs

/-- Without an error the commands of the files that are cleared away are run, but for
the new ones, and what is left depends on the unlinking and the renaming. -/
theorem replaced_cases {clients : List Client} {directory : Directory Content}
    {met : List File} (new : before.newSession = some directory)
    (same : filesOf (before.savedSession.map fun directory =>
      ((savedClients outside clients).filterMap (clientFile outside .savedSession)).foldl
        Directory.put directory) = met)
    (quiet : before.commands = []) (succeeds : clients.any (clientFails outside) = false) :
    let state := State.saveClients outside clients { before with discardHash := [] }
    let after := replaceSavedSession outside
      (state.clearSavedSession outside .savedSession (some state.discardHash))
    (∀ command, command ∈ after.commands ↔
      Names met command ∧ ¬ Remembered outside clients command ∧ Runs outside command) ∧
    ((Replaces outside met ∧
        filesOf after.savedSession = ((clients.filterMap (clientFile outside .newSession)).foldl
          Directory.put directory).files ∧
        (after.failures = [] ↔ before.failures = [] ∧
          (before.savedSession = none ∨ outside.rmdir .savedSession = true))) ∨
      (¬ Replaces outside met ∧
        filesOf after.savedSession =
          met.filter (fun file => !outside.unlink .savedSession file.1) ∧
        after.failures ≠ [])) := by
  intro state after
  have saved := @State.saveClients_saved outside { before with discardHash := [] } clients
  have cleared := @State.clearSavedSession_cleared outside state .savedSession (some state.discardHash)
  have whole : savedClients outside clients = clients := by
    simp only [savedClients, List.takeWhile_eq_self_iff]
    simpa using succeeds
  have stillOld : filesOf (state.directory .savedSession) = met := by
    rw [← same]
    exact congrArg filesOf (saved.directory .savedSession)
  have remaining : filesOf (state.clearSavedSession outside .savedSession
      (some state.discardHash)).savedSession =
        met.filter (fun file => !outside.unlink .savedSession file.1) := by
    rw [← stillOld]
    exact cleared.remaining
  have emptied : met.filter (fun file => !outside.unlink .savedSession file.1) = [] ↔
      ∀ file ∈ met, outside.unlink .savedSession file.1 = true := by
    simp [List.filter_eq_nil_iff]
  have written : (state.clearSavedSession outside .savedSession
      (some state.discardHash)).newSession =
        some ((clients.filterMap (clientFile outside .newSession)).foldl Directory.put
          directory) := by
    have untouched := cleared.elsewhere .newSession (by decide)
    have put := saved.directory .newSession
    simp only [State.directory] at untouched put
    rw [untouched, put, new, whole]
    rfl
  have presence : (state.clearSavedSession outside .savedSession
      (some state.discardHash)).savedSession = none ↔ before.savedSession = none := by
    have present := cleared.present
    have put := saved.directory .savedSession
    simp only [State.directory] at present put
    rw [← Option.not_isSome_iff_eq_none, ← Option.not_isSome_iff_eq_none, present, put,
      Option.isSome_map]
  refine ⟨fun command => ?_, ?_⟩
  · rw [replaceSavedSession_commands, cleared.commands, saved.commands, quiet, List.append_nil,
      List.mem_reverse, mem_discardCommands, stillOld]
    have hash : command ∈ state.discardHash ↔ Remembered outside clients command := by
      rw [saved.discardHash, whole]
      simp [Remembered]
    simp [hash]
  · rcases @replaceSavedSession_cases outside
      (state.clearSavedSession outside .savedSession (some state.discardHash)) with
      ⟨clear, renames, replaced, failures⟩ | ⟨stuck, kept, failures⟩
    · left
      rw [remaining, emptied] at clear
      refine ⟨⟨clear, renames⟩, by rw [replaced, written]; rfl, ?_⟩
      rw [failures, presence, cleared.failures, saved.failures, stillOld]
      simp only [succeeds, and_true]
      constructor
      · rintro ⟨⟨none_failed, _⟩, removes⟩
        exact ⟨none_failed, removes⟩
      · rintro ⟨none_failed, removes⟩
        exact ⟨⟨none_failed, clear⟩, removes⟩
    · right
      rw [remaining, emptied] at stuck
      exact ⟨stuck, by rw [kept, remaining], failures⟩

end Paths

section OwnFiles

variable {outside : Outside} {clients : List Client} {place : Place} {client : Client}

theorem clientFile_of_none (none_ : keyFileOf outside client = none) :
    clientFile outside place client = none := by
  rw [clientFile, none_]
  rfl

theorem clientFile_content {file : File} (found : clientFile outside place client = some file) :
    ∃ keyFile, keyFileOf outside client = some keyFile ∧ file.2 = some keyFile := by
  obtain ⟨keyFile, produced, leads⟩ := Option.bind_eq_some_iff.mp found
  refine ⟨keyFile, produced, ?_⟩
  cases target : State.target outside client with
  | none => simp [target] at leads
  | some goal =>
      simp only [target, Option.ite_none_right_eq_some, Option.some.injEq] at leads
      exact leads.2 ▸ rfl

/-- A file of the temporary directory is none of the old session's. -/
theorem clientFile_elsewhere (inNew : clientFile outside .newSession client ≠ none) :
    clientFile outside .savedSession client = none := by
  cases produced : keyFileOf outside client with
  | none => exact clientFile_of_none produced
  | some keyFile =>
      simp only [clientFile, produced, Option.bind_some] at inNew ⊢
      cases target : State.target outside client with
      | none => rfl
      | some goal =>
          simp only [target] at inNew ⊢
          rw [if_neg]
          intro old
          rw [if_neg (by simp [old])] at inNew
          exact inNew rfl

theorem length_clientFiles_le : (clients.filterMap (clientFile outside place)).length ≤
    (clients.filterMap (keyFileOf outside)).length := by
  induction clients with
  | nil => simp
  | cons client clients ih =>
      cases produced : keyFileOf outside client with
      | none => simpa [clientFile_of_none produced, produced] using ih
      | some keyFile =>
          cases found : clientFile outside place client <;> simp [produced, found] <;> omega

/-- No key file goes astray just when there are as many files as key files. -/
theorem length_clientFiles_iff : (clients.filterMap (keyFileOf outside)).length ≤
      (clients.filterMap (clientFile outside place)).length ↔
    ∀ client ∈ clients, keyFileOf outside client ≠ none →
      clientFile outside place client ≠ none := by
  induction clients with
  | nil => simp
  | cons client clients ih =>
      rw [List.forall_mem_cons]
      cases produced : keyFileOf outside client with
      | none => simpa [clientFile_of_none produced, produced] using ih
      | some keyFile =>
          cases found : clientFile outside place client with
          | none =>
              have fewer := @length_clientFiles_le outside clients place
              simp [produced, found]
              omega
          | some file => simpa [produced, found] using ih

theorem contents_clientFiles (all_ : ∀ client ∈ clients, keyFileOf outside client ≠ none →
      clientFile outside place client ≠ none) :
    (clients.filterMap (clientFile outside place)).map Prod.snd =
      (clients.filterMap (keyFileOf outside)).map some := by
  induction clients with
  | nil => rfl
  | cons client clients ih =>
      obtain ⟨first, later⟩ := List.forall_mem_cons.mp all_
      have rest := ih later
      cases produced : keyFileOf outside client with
      | none => simpa [clientFile_of_none produced, produced] using rest
      | some keyFile =>
          obtain ⟨file, found⟩ := Option.ne_none_iff_exists'.mp (first (by simp [produced]))
          obtain ⟨other, same, content⟩ := clientFile_content found
          have key : keyFile = other := Option.some.inj (produced.symm.trans same)
          simpa [produced, found, content, key] using rest

/-- Files put into an empty directory are one for each key file exactly when all of
them are put there, under names that differ. -/
theorem putAll_perm_iff {directory : Directory Content} (clear : directory.files = []) :
    (((clients.filterMap (clientFile outside .newSession)).foldl Directory.put
        directory).files.map Prod.snd).Perm ((clients.filterMap (keyFileOf outside)).map some) ↔
      OwnFiles outside clients := by
  constructor
  · intro whole
    have names : (((clients.filterMap (clientFile outside .newSession)).foldl Directory.put
        directory).files.map Prod.fst).Subperm
          ((clients.filterMap (clientFile outside .newSession)).map Prod.fst) := by
      refine List.subperm_of_subset (Directory.distinct _) fun name member => ?_
      obtain ⟨file, inside, rfl⟩ := List.mem_map.mp member
      rw [Directory.mem_putAll, clear, List.nil_append] at inside
      obtain ⟨front, rest, split, _⟩ := inside
      exact List.mem_map_of_mem (by simp [split])
    have count := whole.length_eq
    have few := names.length_le
    have fewer := @length_clientFiles_le outside clients .newSession
    simp only [List.length_map] at count few
    refine ⟨length_clientFiles_iff.mp (by omega), ?_⟩
    have same := names.perm_of_length_le (by simp only [List.length_map]; omega)
    exact same.nodup_iff.mp (Directory.distinct _)
  · rintro ⟨all_, distinct⟩
    have appended := @Directory.putAll_files _ directory
      (clients.filterMap (clientFile outside .newSession)) (by rwa [clear, List.nil_append])
    rw [appended, clear, List.nil_append, contents_clientFiles all_]

end OwnFiles

section Law

variable {outside : Outside} {clients : List Client} {before : State}

/-- The two endings of a save whose directories are there. -/
theorem csmSessionSave_form {known made : State}
    (savedDir : before.getSavedSessionDir outside = (true, known))
    (tmpDir : known.getEmptyTmpSessionDir outside = (true, made)) :
    before.csmSessionSave outside clients =
      let state := State.saveClients outside clients { made with discardHash := [] }
      if state.error = false then
        replaceSavedSession outside
          (state.clearSavedSession outside .savedSession (some state.discardHash))
      else cleanUp outside state := by
  simp [State.csmSessionSave, savedDir, tmpDir, replaceSavedSession, cleanUp]

/-- The clients can be saved: the saved session is as it was, and the temporary
directory holds what could not be unlinked. -/
structure Prepared (outside : Outside) (before made : State) (directory : Directory Content) :
    Prop where
  newSession : made.newSession = some directory
  stuck : directory.files =
    (filesOf before.newSession).filter (fun file => !outside.unlink .newSession file.1)
  savedSession : made.savedSession = openedDirectory before.savedDirKnown before.savedSession
  commands : made.commands = before.commands
  failures : made.failures = [] ↔ before.failures = [] ∧
    ∀ file ∈ filesOf before.newSession, outside.unlink .newSession file.1 = true
  error : made.error = before.error

/-- A save gives up with the old session untouched, or comes to save its clients. -/
theorem csmSessionSave_cases :
    (GivesUp outside before.savedDirKnown before.savedSession before.newSession ∧
      filesOf (before.csmSessionSave outside clients).savedSession = filesOf before.savedSession ∧
      (before.csmSessionSave outside clients).commands = before.commands ∧
      (before.csmSessionSave outside clients).failures ≠ []) ∨
    (¬ GivesUp outside before.savedDirKnown before.savedSession before.newSession ∧
      ∃ made directory, Prepared outside before made directory ∧
        before.csmSessionSave outside clients =
          let state := State.saveClients outside clients { made with discardHash := [] }
          if state.error = false then
            replaceSavedSession outside
              (state.clearSavedSession outside .savedSession (some state.discardHash))
          else cleanUp outside state) := by
  rcases @getSavedSessionDir_cases outside before with
    ⟨known, savedDir, unknown, absent, makes, none_, quiet, failed⟩ |
    ⟨known, savedDir, goes, opened, sameNew, quiet, unfailed, noError⟩
  · -- the saved-session directory cannot be made
    have stops : before.csmSessionSave outside clients = known := by
      simp [State.csmSessionSave, savedDir]
    rw [stops]
    exact .inl ⟨.inl ⟨unknown, absent, makes⟩, by rw [none_, absent], quiet, failed⟩
  rcases @getEmptyTmpSessionDir_cases outside known with
    ⟨made, tmpDir, absent, makes, sameSaved, quietly, failed⟩ |
    ⟨made, directory, tmpDir, goesOn, new, stuck, sameSaved, quietly, unlinked, noError'⟩
  · -- the temporary directory cannot be made
    have stops : before.csmSessionSave outside clients = made := by
      simp [State.csmSessionSave, savedDir, tmpDir]
    rw [sameNew] at absent
    rw [stops, sameSaved, opened, filesOf_opened, quietly, quiet]
    exact .inl ⟨.inr ⟨absent, makes⟩, rfl, rfl, failed⟩
  rw [sameNew] at goesOn stuck unlinked
  rw [unfailed] at unlinked
  refine .inr ⟨fun givesUp => givesUp.elim goes goesOn, made, directory, ?_,
    csmSessionSave_form savedDir tmpDir⟩
  constructor
  case newSession => exact new
  case stuck => exact stuck
  case savedSession => rw [sameSaved, opened]
  case commands => rw [quietly, quiet]
  case failures => exact unlinked
  case error => rw [noError', noError]

theorem settled_of_failed {old : List File} {after : State} (failed : after.failures ≠ []) :
    Settled outside clients old after ↔ KeptWhole old after :=
  ⟨fun law => law.2 failed, fun kept => ⟨fun none_failed => absurd none_failed failed, fun _ => kept⟩⟩

/-- With a file of its own for each client nothing leads into the old session. -/
theorem met_of_ownFiles {savedDirKnown : Bool} {saved : Option (Directory Content)}
    (whole : savedClients outside clients = clients) (own : OwnFiles outside clients) :
    filesOf (metDirectory outside clients savedDirKnown saved) = filesOf saved := by
  have nothing : (savedClients outside clients).filterMap (clientFile outside .savedSession) =
      [] := by
    rw [whole, List.filterMap_eq_nil_iff]
    intro client member
    by_cases produced : keyFileOf outside client = none
    · exact clientFile_of_none produced
    · exact clientFile_elsewhere (own.1 client member produced)
  rw [metDirectory, nothing, ← @filesOf_opened savedDirKnown saved]
  cases openedDirectory savedDirKnown saved <;> rfl

/-- A save whose clients were all saved, by what it ran and left. -/
theorem settled_iff_of_replaced {after : State} {directory : Directory Content}
    {savedDirKnown : Bool} {saved leftover : Option (Directory Content)} {met : List File}
    (met_eq : met = filesOf (metDirectory outside clients savedDirKnown saved))
    (all_saved : ∀ client ∈ clients, clientFails outside client = false)
    (stuck : directory.files =
      (filesOf leftover).filter (fun file => !outside.unlink .newSession file.1))
    (ran : ∀ command, command ∈ after.commands ↔ Names met command ∧
      ¬ Remembered outside clients command ∧ Runs outside command)
    (replaced : (Replaces outside met ∧
        filesOf after.savedSession = ((clients.filterMap (clientFile outside .newSession)).foldl
          Directory.put directory).files ∧
        (after.failures = [] ↔
          (∀ file ∈ filesOf leftover, outside.unlink .newSession file.1 = true) ∧
          ((savedDirKnown = true ∧ saved = none) ∨ outside.rmdir .savedSession = true))) ∨
      (¬ Replaces outside met ∧
        filesOf after.savedSession =
          met.filter (fun file => !outside.unlink .savedSession file.1) ∧
        after.failures ≠ [])) :
    Settled outside clients (filesOf saved) after ↔
      EveryStepWorks outside savedDirKnown saved leftover met ∧ OwnFiles outside clients ∨
        ¬ EveryStepWorks outside savedDirKnown saved leftover met ∧
          NothingToLose outside clients saved leftover met := by
  have whole : savedClients outside clients = clients := by
    rw [savedClients, List.takeWhile_eq_self_iff]
    simpa using all_saved
  have spared : (∀ command ∈ after.commands, ¬ Names (filesOf saved) command) ↔
      ∀ command, Names (filesOf saved) command → Names met command → Runs outside command →
        Remembered outside clients command := by
    constructor
    · intro safe command named there runs
      by_contra alone
      exact safe command ((ran command).mpr ⟨there, alone, runs⟩) named
    · intro covered command run named
      obtain ⟨there, alone, runs⟩ := (ran command).mp run
      exact alone (covered command named there runs)
  rcases replaced with ⟨replaces, files, failures⟩ | ⟨stays, files, failed⟩
  · by_cases works : EveryStepWorks outside savedDirKnown saved leftover met
    · have none_failed : after.failures = [] := failures.mpr ⟨works.1, works.2.2⟩
      have clear : directory.files = [] := by
        rw [stuck, List.filter_eq_nil_iff]
        intro file member
        simp [works.1 file member]
      have unnamed (own : OwnFiles outside clients) : ∀ command ∈ after.commands,
          Names (filesOf saved) command ∧ ¬ Names (filesOf after.savedSession) command := by
        intro command run
        obtain ⟨named, alone, _⟩ := (ran command).mp run
        rw [met_eq, met_of_ownFiles whole own] at named
        refine ⟨named, fun again => alone ?_⟩
        obtain ⟨file, member, isNamed⟩ := again
        rw [files, Directory.mem_putAll, clear, List.nil_append] at member
        obtain ⟨front, rest, split, _⟩ := member
        obtain ⟨client, listed, found⟩ := List.mem_filterMap.mp
          (show file ∈ clients.filterMap (clientFile outside .newSession) by simp [split])
        obtain ⟨keyFile, produced, content⟩ := clientFile_content found
        refine ⟨keyFile, List.mem_filterMap.mpr ⟨client, listed, produced⟩, ?_⟩
        simpa [File.discardExec, content] using isNamed
      simp only [Settled, none_failed, ne_eq, not_true_eq_false, false_implies, and_true,
        true_implies, works, true_and, false_and, or_false, SavedWhole]
      rw [files, putAll_perm_iff clear]
      exact ⟨fun settled => settled.1, fun own => ⟨own, fun command run => by
        rw [← files]; exact unnamed own command run⟩⟩
    · have failed : after.failures ≠ [] := by
        intro none_failed
        obtain ⟨emptied, removes⟩ := failures.mp none_failed
        exact works ⟨emptied, replaces, removes⟩
      simp only [Settled, failed, ne_eq, not_false_eq_true, false_implies, true_implies, true_and,
        works, false_and, false_or, KeptWhole, NothingToLose, replaces, not_true_eq_false, and_true]
      rw [spared, and_comm]
      apply and_congr_right
      intro _
      apply forall_congr'
      intro file
      rw [files, Directory.mem_putAll, newFiles, whole, stuck]
  · have broken : ¬ EveryStepWorks outside savedDirKnown saved leftover met := fun works =>
      stays works.2.1
    simp only [Settled, failed, ne_eq, not_false_eq_true, false_implies, true_implies, true_and,
      broken, false_and, false_or, KeptWhole, NothingToLose, stays]
    rw [spared, and_comm, files]

/-- A save keeps its promise exactly under the condition. -/
theorem allOrNothing_iff (outside : Outside) (clients : List Client) (savedDirKnown : Bool)
    (saved leftover : Option (Directory Content)) :
    AllOrNothing outside clients (State.start savedDirKnown saved leftover) ↔
      SaveIsSafe outside clients savedDirKnown saved leftover := by
  rcases @csmSessionSave_cases outside clients (State.start savedDirKnown saved leftover) with
    ⟨givesUp, same, quiet, failed⟩ | ⟨goesOn, made, directory, prepared, form⟩
  · refine iff_of_true ?_ (.inl givesUp)
    refine ⟨fun none_failed => absurd none_failed failed, fun _ => ⟨fun file => by rw [same], ?_⟩⟩
    rw [quiet]
    exact fun _ run => nomatch run
  have goesBoth : ¬ GivesUp outside savedDirKnown saved leftover := goesOn
  have error : (State.saveClients outside clients { made with discardHash := [] }).error =
      clients.any (clientFails outside) := by
    rw [(State.saveClients_saved clients).error, prepared.error]
    exact Bool.false_or _
  have met : filesOf (made.savedSession.map fun directory =>
      ((savedClients outside clients).filterMap (clientFile outside .savedSession)).foldl
        Directory.put directory) =
      filesOf (metDirectory outside clients savedDirKnown saved) := by
    rw [prepared.savedSession]
    rfl
  dsimp only at form
  rw [error] at form
  simp only [AllOrNothing, SaveIsSafe, goesBoth, false_or]
  cases fails : clients.any (clientFails outside) with
  | true =>
      have some_fails : ∃ client ∈ clients, clientFails outside client = true :=
        List.any_eq_true.mp fails
      have not_all : ¬ ∀ client ∈ clients, clientFails outside client = false := by
        simpa using some_fails
      rw [fails, if_neg (by decide)] at form
      obtain ⟨failed, whole⟩ := @keptWhole_of_error outside made clients directory
        (filesOf saved) _ prepared.newSession met prepared.commands fails
      rw [prepared.stuck] at whole
      simp only [some_fails, not_all, false_and, or_false, true_and]
      rw [form]
      exact (settled_of_failed failed).trans whole
  | false =>
      have all_saved : ∀ client ∈ clients, clientFails outside client = false := by
        simpa using fails
      have none_fails : ¬ ∃ client ∈ clients, clientFails outside client = true := by
        simpa using fails
      rw [fails, if_pos rfl] at form
      obtain ⟨ran, replaced⟩ :=
        replaced_cases prepared.newSession met prepared.commands fails
      have unfailed : (State.start savedDirKnown saved leftover).failures = [] := rfl
      have absent : made.savedSession = none ↔ savedDirKnown = true ∧ saved = none := by
        rw [prepared.savedSession]
        exact openedDirectory_eq_none
      rw [prepared.failures, absent, and_iff_right unfailed] at replaced
      simp only [none_fails, false_and, false_or]
      rw [and_iff_right all_saved, form]
      exact settled_iff_of_replaced rfl all_saved prepared.stuck ran replaced

end Law

/-- A file system on which only the unlinking of `stuck` in the old session
fails, and two clients, one of which cannot be saved. -/
def editorAndFailing (stuck : String) : Outside where
  makesDir := fun _ => true
  clientSave := fun client =>
    if client.id = "failing" then .error "out of memory"
    else .ok (some ⟨"Exec=editor", some "rm state"⟩)
  setContents := fun _ => true
  leads := fun name =>
    if name = "../saved-session/e1.desktop" then some (.savedSession, "e1.desktop") else none
  survivesFreedError := true
  unlink := fun place name => place ≠ .savedSession || name ≠ stuck
  rmdir := fun _ => true
  rename := true
  parsesArgv := fun _ => true
  spawns := fun _ => true

def editor : Client := ⟨"editor", some "e1"⟩

/-- The session that the editor was saved in before, and a file beside it. -/
def oldSession : Directory Content where
  files := [("e1.desktop", some ⟨"Exec=editor", some "rm state"⟩), ("e2.desktop", none)]
  distinct := by decide

/-- After a failed client the clean-up runs a command the old session needs, a file that
cannot be unlinked leaves half of the old session, and a client that is saved into the old
session is in none. -/
theorem saves_lose :
    ¬ AllOrNothing (editorAndFailing "") [editor, ⟨"failing", some "f1"⟩]
        (State.start true (some oldSession) none) ∧
      ¬ AllOrNothing (editorAndFailing "e2.desktop") [editor]
        (State.start true (some oldSession) none) ∧
      ¬ AllOrNothing (editorAndFailing "") [⟨"editor", some "../saved-session/e1"⟩]
        (State.start true (some oldSession) none) := by
  refine ⟨?_, ?_, ?_⟩
  · rintro ⟨_, kept⟩
    have spared := (kept (by decide)).2 "rm state" (by decide)
    exact spared ⟨("e1.desktop", some ⟨"Exec=editor", some "rm state"⟩), by decide, rfl⟩
  · rintro ⟨_, kept⟩
    have still := ((kept (by decide)).1 ("e1.desktop", some ⟨"Exec=editor", some "rm state"⟩)).mpr
      (by decide)
    exact absurd still (by decide)
  · rintro ⟨whole, _⟩
    have one := (whole (by decide)).1.length_eq
    exact absurd one (by decide)

end CafeSession.SavedSession

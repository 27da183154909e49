import CafeSession.SavedSession.Save

namespace CafeSession.SavedSession

open CafeSession.Files

/-- The files of a directory that may not be there. -/
def filesOf (directory : Option (Directory Content)) : List File :=
  (directory.map Directory.files).getD []

/-- The key file that a client produces. -/
def keyFileOf (outside : Outside) (client : Client) : Option KeyFile :=
  match outside.clientSave client with
  | .ok keyFile => keyFile
  | .error _ => none

/-- The file that a client is saved to, when it is one of this directory. -/
def clientFile (outside : Outside) (place : Place) (client : Client) : Option File :=
  (keyFileOf outside client).bind fun keyFile =>
    match State.target outside client with
    | none => none
    | some (where_, name) => if where_ = place then some (name, some keyFile) else none

/-- The saving of this client stops the session save. -/
def clientFails (outside : Outside) (client : Client) : Bool :=
  match outside.clientSave client with
  | .error _ => true
  | .ok none => false
  | .ok (some _) => !outside.setContents (fileName client)

/-- The clients that are saved before one fails. -/
def savedClients (outside : Outside) (clients : List Client) : List Client :=
  clients.takeWhile (fun client => !clientFails outside client)

namespace State

variable {outside : Outside} {state : State} {place other : Place}

@[simp] theorem directory_setDirectory (directory : Option (Directory Content)) :
    (state.setDirectory place directory).directory place = directory := by
  cases place <;> rfl

theorem directory_setDirectory_other (directory : Option (Directory Content))
    (different : other ≠ place) :
    (state.setDirectory place directory).directory other = state.directory other := by
  cases place <;> cases other <;> first | rfl | exact absurd rfl different

@[simp] theorem setDirectory_commands (directory : Option (Directory Content)) :
    (state.setDirectory place directory).commands = state.commands := by
  cases place <;> rfl

@[simp] theorem setDirectory_failures (directory : Option (Directory Content)) :
    (state.setDirectory place directory).failures = state.failures := by
  cases place <;> rfl

@[simp] theorem setDirectory_error (directory : Option (Directory Content)) :
    (state.setDirectory place directory).error = state.error := by
  cases place <;> rfl

theorem unlink_directory (name : String) :
    (state.unlink outside place name).directory place =
      (state.directory place).map (fun directory =>
        if outside.unlink place name then directory.remove name else directory) := by
  by_cases works : outside.unlink place name = true
  · simp [unlink, works]
  · have same : (state.fail (.unlink place name)).directory place = state.directory place := by
      cases place <;> rfl
    simp [unlink, works, same]

theorem unlink_directory_other (name : String) (different : other ≠ place) :
    (state.unlink outside place name).directory other = state.directory other := by
  unfold unlink
  split_ifs
  · exact directory_setDirectory_other _ different
  · cases other <;> rfl

@[simp] theorem unlink_commands (name : String) :
    (state.unlink outside place name).commands = state.commands := by
  unfold unlink
  split_ifs
  · exact setDirectory_commands _
  · rfl

@[simp] theorem unlink_error (name : String) :
    (state.unlink outside place name).error = state.error := by
  unfold unlink
  split_ifs
  · exact setDirectory_error _
  · rfl

theorem unlink_failures (name : String) :
    (state.unlink outside place name).failures = [] ↔
      state.failures = [] ∧ outside.unlink place name = true := by
  by_cases works : outside.unlink place name = true
  · simp [unlink, works]
  · simp [unlink, works, fail]

section UnlinkEach

variable (names : List String)

theorem unlinkEach_directory :
    (names.foldl (unlink outside place) state).directory place =
      (state.directory place).map (fun directory => names.foldl (fun directory name =>
        if outside.unlink place name then directory.remove name else directory) directory) := by
  induction names generalizing state with
  | nil => simp
  | cons name names ih =>
      rw [List.foldl_cons, ih, unlink_directory, Option.map_map]
      rfl

theorem unlinkEach_directory_other (different : other ≠ place) :
    (names.foldl (unlink outside place) state).directory other = state.directory other := by
  induction names generalizing state with
  | nil => rfl
  | cons name names ih => rw [List.foldl_cons, ih, unlink_directory_other name different]

theorem unlinkEach_failures :
    (names.foldl (unlink outside place) state).failures = [] ↔
      state.failures = [] ∧ ∀ name ∈ names, outside.unlink place name = true := by
  induction names generalizing state with
  | nil => simp
  | cons name names ih =>
      rw [List.foldl_cons, ih, unlink_failures]
      simp [and_assoc]

theorem unlinkEach_commands :
    (names.foldl (unlink outside place) state).commands = state.commands := by
  induction names generalizing state with
  | nil => rfl
  | cons name names ih => rw [List.foldl_cons, ih, unlink_commands]

theorem unlinkEach_error :
    (names.foldl (unlink outside place) state).error = state.error := by
  induction names generalizing state with
  | nil => rfl
  | cons name names ih => rw [List.foldl_cons, ih, unlink_error]

end UnlinkEach

/-- Unlinking every file that a directory lists leaves those whose unlinking fails. -/
theorem removeEach_all (directory : Directory Content) (works : String → Bool) :
    ((directory.files.map Prod.fst).foldl (fun directory name =>
      if works name then directory.remove name else directory) directory).files =
      directory.files.filter (fun file => !works file.1) := by
  rw [Directory.removeEach_files]
  apply List.filter_congr
  intro file member
  have listed : (directory.files.map Prod.fst).contains file.1 = true := by
    rw [List.contains_iff_mem]
    exact List.mem_map_of_mem member
  rw [listed, Bool.and_true]

/-- The state once some more commands have been run. -/
def ran (commands : List String) (state : State) : State :=
  { state with commands := commands ++ state.commands }

@[simp] theorem ran_directory (commands : List String) :
    (state.ran commands).directory place = state.directory place := by
  cases place <;> rfl

theorem unlink_ran (commands : List String) (name : String) :
    (state.unlink outside place name).ran commands =
      (state.ran commands).unlink outside place name := by
  unfold unlink ran
  split_ifs
  · cases place <;> rfl
  · rfl

/-- Clearing runs the commands of all files and unlinks them all. -/
theorem clearEach_eq (discardHash : Option (List String)) (files : List File) :
    files.foldl (clearOneClient outside place discardHash) state =
      (files.map Prod.fst).foldl (unlink outside place)
        (state.ran (files.filterMap (discardCommand outside discardHash)).reverse) := by
  induction files generalizing state with
  | nil => rfl
  | cons file files ih =>
      have first : clearOneClient outside place discardHash state file =
          (state.ran (discardCommand outside discardHash file).toList).unlink outside place
            file.1 := rfl
      rw [List.foldl_cons, ih, first, unlink_ran, List.map_cons, List.foldl_cons]
      cases command : discardCommand outside discardHash file <;> simp [command, ran]

/-- What clearing a directory leaves of it, runs, and fails to do. -/
structure Cleared (outside : Outside) (place : Place) (discardHash : Option (List String))
    (before after : State) : Prop where
  remaining : filesOf (after.directory place) =
    (filesOf (before.directory place)).filter (fun file => !outside.unlink place file.1)
  present : (after.directory place).isSome = (before.directory place).isSome
  elsewhere : ∀ other, other ≠ place → after.directory other = before.directory other
  commands : after.commands = ((filesOf (before.directory place)).filterMap
    (discardCommand outside discardHash)).reverse ++ before.commands
  failures : after.failures = [] ↔ before.failures = [] ∧
    ∀ file ∈ filesOf (before.directory place), outside.unlink place file.1 = true

theorem clearSavedSession_cleared (discardHash : Option (List String)) :
    Cleared outside place discardHash state
      (state.clearSavedSession outside place discardHash) := by
  have form : state.clearSavedSession outside place discardHash =
      ((filesOf (state.directory place)).map Prod.fst).foldl (unlink outside place)
        (state.ran ((filesOf (state.directory place)).filterMap
          (discardCommand outside discardHash)).reverse) := clearEach_eq _ _
  rw [form]
  constructor
  · rw [unlinkEach_directory, ran_directory]
    cases state.directory place with
    | none => rfl
    | some directory => exact removeEach_all directory _
  · rw [unlinkEach_directory, ran_directory, Option.isSome_map]
  · intro other different
    rw [unlinkEach_directory_other _ different, ran_directory]
  · rw [unlinkEach_commands]
    rfl
  · rw [unlinkEach_failures]
    simp [ran]

section Clients

variable (clients : List Client)

theorem saveOneClient_fails {client : Client} (fails : clientFails outside client = true) :
    ∃ step, state.saveOneClient outside client = (true, { state.fail step with error := true }) := by
  cases saved : outside.clientSave client with
  | error message => exact ⟨.clientSave client.id, by simp [saveOneClient, saved]⟩
  | ok keyFile =>
      cases keyFile with
      | none => simp [clientFails, saved] at fails
      | some keyFile =>
          simp only [clientFails, saved, Bool.not_eq_true'] at fails
          exact ⟨.setContents (fileName client), by simp [saveOneClient, saved, fails]⟩

theorem setContents_directory (target : Option (Place × String)) (keyFile : KeyFile) :
    (state.setContents target keyFile).directory place =
      (state.directory place).map fun directory =>
        match target with
        | none => directory
        | some (where_, name) =>
            if where_ = place then directory.put (name, some keyFile) else directory := by
  cases target with
  | none => simp [setContents]
  | some target =>
      obtain ⟨where_, name⟩ := target
      by_cases here : where_ = place
      · simp [setContents, here]
      · simp [setContents, here, directory_setDirectory_other _ (Ne.symm here)]

theorem setContents_kept (target : Option (Place × String)) (keyFile : KeyFile) :
    (state.setContents target keyFile).commands = state.commands ∧
      (state.setContents target keyFile).failures = state.failures ∧
      (state.setContents target keyFile).error = state.error := by
  cases target with
  | none => exact ⟨rfl, rfl, rfl⟩
  | some target => simp [setContents]

/-- A client that is saved: the file it may leave in each directory, and its
discard command. -/
structure SavedOne (outside : Outside) (client : Client) (before after : State) : Prop where
  directory : ∀ place, after.directory place = (before.directory place).map
    (fun directory => (clientFile outside place client).toList.foldl Directory.put directory)
  commands : after.commands = before.commands
  failures : after.failures = before.failures
  error : after.error = before.error
  discardHash : after.discardHash =
    ((keyFileOf outside client).bind KeyFile.discardExec).toList ++ before.discardHash

theorem saveOneClient_saves {client : Client} (saves : clientFails outside client = false) :
    (state.saveOneClient outside client).1 = false ∧
      SavedOne outside client state (state.saveOneClient outside client).2 := by
  cases saved : outside.clientSave client with
  | error message => simp [clientFails, saved] at saves
  | ok keyFile =>
      cases keyFile with
      | none =>
          have none_ : state.saveOneClient outside client = (false, state) := by
            simp [saveOneClient, saved]
          rw [none_]
          refine ⟨rfl, ?_⟩
          constructor <;> simp [clientFile, keyFileOf, saved]
      | some keyFile =>
          simp only [clientFails, saved, Bool.not_eq_false'] at saves
          have kept := @setContents_kept state (target outside client) keyFile
          have written : state.saveOneClient outside client =
              (false, { state.setContents (target outside client) keyFile with
                discardHash := keyFile.discardExec.toList ++ state.discardHash }) := by
            simp [saveOneClient, saved, saves]
          rw [written]
          refine ⟨rfl, ?_⟩
          constructor
          case directory =>
            intro place
            have put := @setContents_directory state place (target outside client) keyFile
            simp only [clientFile, keyFileOf, saved, Option.bind_some]
            refine Eq.trans ?_ (put.trans ?_)
            · cases place <;> rfl
            · cases target outside client with
              | none => rfl
              | some found =>
                  by_cases here : found.1 = place <;> simp [here]
          case commands => exact kept.1
          case failures => exact kept.2.1
          case error => exact kept.2.2
          case discardHash => simp [keyFileOf, saved]

/-- The loop over the clients: the files it writes, the commands it remembers,
and whether it stops at a client. -/
structure Saved (outside : Outside) (clients : List Client) (before after : State) : Prop where
  directory : ∀ place, after.directory place = (before.directory place).map (fun directory =>
    ((savedClients outside clients).filterMap (clientFile outside place)).foldl Directory.put
      directory)
  commands : after.commands = before.commands
  discardHash : ∀ command, command ∈ after.discardHash ↔ command ∈ before.discardHash ∨
    ∃ keyFile ∈ (savedClients outside clients).filterMap (keyFileOf outside),
      keyFile.discardExec = some command
  error : after.error = (before.error || clients.any (clientFails outside))
  failures : after.failures = [] ↔
    before.failures = [] ∧ clients.any (clientFails outside) = false

theorem saveClients_saved : Saved outside clients state (saveClients outside clients state) := by
  induction clients generalizing state with
  | nil => constructor <;> simp [saveClients, savedClients]
  | cons client clients ih =>
      cases fails : clientFails outside client with
      | true =>
          obtain ⟨step, stopped⟩ := @saveOneClient_fails _ state _ fails
          constructor
          case directory =>
            intro place
            cases place <;> simp [saveClients, stopped, savedClients, fails, fail, directory]
          all_goals simp [saveClients, stopped, savedClients, fails, fail]
      | false =>
          obtain ⟨goesOn, saved⟩ := @saveOneClient_saves _ state _ fails
          have rest := @ih (state.saveOneClient outside client).2
          have step : saveClients outside (client :: clients) state =
              saveClients outside clients (state.saveOneClient outside client).2 := by
            simp [saveClients, goesOn]
          have more : savedClients outside (client :: clients) =
              client :: savedClients outside clients := by
            simp [savedClients, fails]
          rw [step]
          constructor
          case directory =>
            intro place
            rw [rest.directory, saved.directory, more, Option.map_map]
            cases file : clientFile outside place client <;> simp [file] <;> rfl
          case commands => rw [rest.commands, saved.commands]
          case discardHash =>
            intro command
            rw [rest.discardHash, saved.discardHash, more]
            cases keyFile : keyFileOf outside client <;>
              simp [keyFile, or_assoc, or_comm, eq_comm]
          case error =>
            rw [rest.error, saved.error]
            simp [fails]
          case failures =>
            rw [rest.failures, saved.failures]
            simp [fails]

end Clients

end State

end CafeSession.SavedSession

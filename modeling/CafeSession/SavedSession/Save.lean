import CafeSession.Files.Directory

/-! # Saving the session

`csm_session_save` writes the key files of the clients to a temporary
directory, clears the saved session, running the discard commands of its files,
and renames the temporary directory.  `Outside` answers for everything that may
fail; the state records which steps failed and which commands were run. -/

namespace CafeSession.SavedSession

open CafeSession.Files

/-- A key file as `csm_client_save` builds it: its text, and the value of
`X-CAFE-Autostart-discard-exec`. -/
structure KeyFile where
  data : String
  discardExec : Option String
deriving DecidableEq

/-- What a file holds for `g_key_file_load_from_file`; `none` does not load. -/
abbrev Content := Option KeyFile

abbrev File := String × Content

def File.discardExec (file : File) : Option String :=
  file.2.bind KeyFile.discardExec

structure Client where
  id : String
  startupId : Option String
deriving DecidableEq

/-- The name printed with `"%s.desktop"`, from a startup id that may be NULL. -/
def fileName (client : Client) : String :=
  client.startupId.getD "(null)" ++ ".desktop"

/-- The saved-session directory and the temporary one beside it. -/
inductive Place where
  | savedSession
  | newSession
deriving DecidableEq

inductive Step where
  | ensureDirExists (place : Place)
  | clientSave (id : String)
  | setContents (name : String)
  | unlink (place : Place) (name : String)
  | rmdir (place : Place)
  | rename
deriving DecidableEq

/-- The answers of the clients, the file system and the shell. -/
structure Outside where
  makesDir : Place → Bool
  clientSave : Client → Except String (Option KeyFile)
  setContents : String → Bool
  /-- where a path with a slash leads: to a file of one of the directories, or elsewhere -/
  leads : String → Option (Place × String)
  /-- the process lives on when it reads the message of a freed error -/
  survivesFreedError : Bool
  unlink : Place → String → Bool
  rmdir : Place → Bool
  rename : Bool
  parsesArgv : String → Bool
  spawns : String → Bool

structure State where
  /-- `_saved_session_dir` is set: its directory is not looked at again -/
  savedDirKnown : Bool
  savedSession : Option (Directory Content)
  newSession : Option (Directory Content)
  discardHash : List String
  error : Bool
  failures : List Step
  commands : List String

namespace State

def directory (state : State) : Place → Option (Directory Content)
  | .savedSession => state.savedSession
  | .newSession => state.newSession

def setDirectory (state : State) (place : Place) (directory : Option (Directory Content)) : State :=
  match place with
  | .savedSession => { state with savedSession := directory }
  | .newSession => { state with newSession := directory }

def fail (state : State) (step : Step) : State :=
  { state with failures := step :: state.failures }

/-- `g_unlink` of one file of a directory. -/
def unlink (outside : Outside) (place : Place) (state : State) (name : String) : State :=
  if outside.unlink place name then
    state.setDirectory place ((state.directory place).map (Directory.remove name))
  else
    state.fail (.unlink place name)

def ensureDirExists (outside : Outside) (place : Place) (state : State) : Bool × State :=
  match state.directory place with
  | some _ => (true, state)
  | none =>
      if outside.makesDir place then (true, state.setDirectory place (some .empty))
      else (false, state.fail (.ensureDirExists place))

/-- `csm_util_get_saved_session_dir`; `false` is a NULL path. -/
def getSavedSessionDir (outside : Outside) (state : State) : Bool × State :=
  if state.savedDirKnown then
    (true, state)
  else
    let (exists_, state) := state.ensureDirExists outside .savedSession
    (exists_, { state with savedDirKnown := exists_ })

/-- `csm_util_get_empty_tmp_session_dir`. -/
def getEmptyTmpSessionDir (outside : Outside) (state : State) : Bool × State :=
  let (exists_, state) := state.ensureDirExists outside .newSession
  if exists_ then
    let names := ((state.newSession.map Directory.files).getD []).map Prod.fst
    (true, names.foldl (unlink outside .newSession) state)
  else
    (false, state)

/-- The file that `g_build_filename` leads to from the temporary directory: leading
slashes are dropped, and without another one the name is that of an entry. -/
def target (outside : Outside) (client : Client) : Option (Place × String) :=
  let name := (fileName client).toList.dropWhile (fun c => c == '/')
  if '/' ∈ name then outside.leads (String.ofList name)
  else some (.newSession, String.ofList name)

/-- `g_file_set_contents`, where the path leads. -/
def setContents (target : Option (Place × String)) (keyFile : KeyFile) (state : State) : State :=
  match target with
  | none => state
  | some (place, name) => state.setDirectory place ((state.directory place).map
      (fun directory => directory.put (name, some keyFile)))

/-- `save_one_client`; `true` stops the iteration over the store. -/
def saveOneClient (outside : Outside) (client : Client) (state : State) : Bool × State :=
  match outside.clientSave client with
  | .error _ => (true, { state.fail (.clientSave client.id) with error := true })
  | .ok none => (false, state)
  | .ok (some keyFile) =>
      if outside.setContents (fileName client) then
        (false, { state.setContents (target outside client) keyFile with
          discardHash := keyFile.discardExec.toList ++ state.discardHash })
      else
        (true, { state.fail (.setContents (fileName client)) with error := true })

def saveClients (outside : Outside) : List Client → State → State
  | [], state => state
  | client :: clients, state =>
      let (stop, state) := state.saveOneClient outside client
      if stop then state else saveClients outside clients state

/-- The command that `csm_session_clear_one_client` runs for a file.  Without a
table the lookup of a discard command finds nothing. -/
def discardCommand (outside : Outside) (discardHash : Option (List String)) (file : File) :
    Option String :=
  file.discardExec.filter (fun command =>
    !(discardHash.getD []).contains command && outside.parsesArgv command &&
      outside.spawns command)

def clearOneClient (outside : Outside) (place : Place) (discardHash : Option (List String))
    (state : State) (file : File) : State :=
  unlink outside place
    { state with commands := (discardCommand outside discardHash file).toList ++ state.commands }
    file.1

/-- `csm_session_clear_saved_session`; a directory that is not there cannot be opened. -/
def clearSavedSession (outside : Outside) (place : Place) (discardHash : Option (List String))
    (state : State) : State :=
  let files := ((state.directory place).map Directory.files).getD []
  files.foldl (clearOneClient outside place discardHash) state

/-- `g_rmdir`, which works on an empty directory only. -/
def rmdir (outside : Outside) (place : Place) (state : State) : State :=
  match state.directory place with
  | some directory =>
      if directory.files = [] ∧ outside.rmdir place = true then state.setDirectory place none
      else state.fail (.rmdir place)
  | none => state.fail (.rmdir place)

/-- `g_rename` of the temporary directory, over nothing or over an empty directory. -/
def rename (outside : Outside) (state : State) : State :=
  let target := (state.savedSession.map Directory.files).getD []
  if target = [] ∧ outside.rename = true then
    { state with savedSession := state.newSession, newSession := none }
  else
    state.fail .rename

/-- `csm_session_save`, over the clients in the order of the store. -/
def csmSessionSave (outside : Outside) (clients : List Client) (state : State) : State :=
  let (saveDir, state) := state.getSavedSessionDir outside
  if !saveDir then state
  else
    let (tmpDir, state) := state.getEmptyTmpSessionDir outside
    if !tmpDir then state
    else
      let state := saveClients outside clients { state with discardHash := [] }
      if !state.error then
        let state := state.clearSavedSession outside .savedSession (some state.discardHash)
        let state := if state.savedSession.isSome then state.rmdir outside .savedSession else state
        state.rename outside
      else if !outside.survivesFreedError then state
      else
        let state := state.clearSavedSession outside .newSession none
        state.rmdir outside .newSession

end State

end CafeSession.SavedSession

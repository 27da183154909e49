import Mathlib.Data.List.TakeWhile
import CafeSession.Autostart.CommandLine

namespace CafeSession.Autostart

open CafeSession.Shell

/-- What the `Terminal` key says. -/
inductive Terminal where
  | no
  | yes
  | malformed
deriving DecidableEq

/-- What a start of a desktop file comes to. -/
inductive LaunchKind where
  | activated
  | application (terminal : Terminal)
  | link
  | notLaunchable
deriving DecidableEq

namespace KeyFile

def terminal (keyFile : KeyFile) : Terminal :=
  match keyFile.getString "Terminal" with
  | none => .no
  | some value =>
      match parseBoolean value with
      | some false => .no
      | some true => .yes
      | none => .malformed

def launchKind (keyFile : KeyFile) : LaunchKind :=
  if (keyFile.getString "X-CAFE-DBus-Name").isSome then .activated
  else if keyFile.getString "Type" = some (ascii "Application") then .application keyFile.terminal
  else if keyFile.getString "Type" = some (ascii "Link") then .link
  else .notLaunchable

theorem launchKind_congr {keyFile base : KeyFile}
    (others : ∀ key, key ∉ XsmpClient.savedKeys → keyFile.getString key = base.getString key) :
    keyFile.launchKind = base.launchKind := by
  simp only [launchKind, terminal, others "X-CAFE-DBus-Name" (by decide), others "Type" (by decide),
    others "Terminal" (by decide)]

end KeyFile

/-- The kind of the original desktop file; without one the key file is made up. -/
def originalKind : Option (Except String KeyFile) → LaunchKind
  | some (.ok keyFile) => keyFile.launchKind
  | some (.error _) | none => .application .no

theorem setDesktopFileKeys_kind (client : XsmpClient) :
    (client.setDesktopFileKeys .empty).launchKind = .application .no := by
  have none (key : String) : KeyFile.empty.getString key = none := rfl
  simp [KeyFile.launchKind, KeyFile.terminal, XsmpClient.setDesktopFileKeys,
    KeyFile.getString_setString, KeyFile.getString_setString_of_ne, none]

theorem createKeyFile_kind {client : XsmpClient} {original : Option (Except String KeyFile)}
    {base : KeyFile} (created : client.createKeyFile original = .ok base) :
    base.launchKind = originalKind original := by
  cases original with
  | none =>
      cases created
      exact setDesktopFileKeys_kind client
  | some loaded =>
      cases created
      rfl

/-- Every client with this restart command is resumed with it, whatever original
desktop file of this kind there is. -/
def Resumes (libraries : Libraries) (args : List Bytes) (kind : LaunchKind) : Prop :=
  ∀ (client : XsmpClient) original keyFile source file,
    client.findProperty "RestartCommand" = some ⟨"RestartCommand", "LISTofARRAY8", args⟩ →
    client.getRestartStyleHint ≠ .never →
    originalKind original = kind →
    client.save original = .ok (some keyFile) →
    DesktopFile.new libraries keyFile (some source) = some file →
    (App.loadDesktopFile libraries file).start libraries = some ⟨args, client.startupId⟩

namespace DesktopFile

variable {libraries : Libraries} {keyFile : KeyFile} {source : Option Bytes} {file : DesktopFile}

def typeOf (type : Bytes) : DesktopFileType :=
  if type = ascii "Application" then .application
  else if type = ascii "Link" then .link
  else if type = ascii "Directory" then .directory
  else .unrecognized

/-- The type field is what the `Type` key says. -/
def Typed (file : DesktopFile) : Prop :=
  ∃ type, file.keyFile.getString "Type" = some type ∧ file.type = typeOf type

theorem new_some (loaded : new libraries keyFile source = some file) :
    file.keyFile = keyFile ∧ file.Typed := by
  unfold new at loaded
  split_ifs at loaded
  obtain ⟨name, _, loaded⟩ := Option.bind_eq_some_iff.mp loaded
  obtain ⟨type, found, loaded⟩ := Option.bind_eq_some_iff.mp loaded
  have fields : file.keyFile = keyFile ∧ file.type = typeOf type := by
    unfold typeOf
    split_ifs at loaded ⊢
    · obtain ⟨_, _, rfl⟩ := Option.map_eq_some_iff.mp loaded
      exact ⟨rfl, rfl⟩
    · obtain ⟨_, _, rfl⟩ := Option.map_eq_some_iff.mp loaded
      exact ⟨rfl, rfl⟩
    · cases loaded
      exact ⟨rfl, rfl⟩
    · cases loaded
      exact ⟨rfl, rfl⟩
  exact ⟨fields.1, type, by rw [fields.1, found], fields.2⟩

theorem new_relative {name type exec url path : Bytes}
    (version : keyFile.getString "Version" = none) (named : keyFile.getString "Name" = some name)
    (typed : keyFile.getString "Type" = some type) (program : keyFile.getString "Exec" = some exec)
    (location : keyFile.getString "URL" = some url) (relative : isAbsolute path = false) :
    new libraries keyFile (some path) =
      some ⟨keyFile, some path, name, typeOf type, (keyFile.getString "Icon").map iconName⟩ := by
  simp only [new, version, named, typed, program, location, relative, typeOf, Option.any_none,
    Option.bind_some, Option.map_some, Bool.false_eq_true, if_false]
  split_ifs <;> rfl

variable {exec : Bytes}

theorem loadDesktopFile_spawn (owned : file.keyFile.getString "X-CAFE-DBus-Name" = none) :
    App.loadDesktopFile libraries file = ⟨file, .spawn,
      (file.keyFile.getString "X-CAFE-Autostart-startup-id").getD libraries.generateStartupId⟩ := by
  simp [App.loadDesktopFile, owned]

/-- An activated file spawns nothing; the kind of another is that of its type. -/
theorem launchKind_cases (typed : file.Typed) :
    (file.keyFile.launchKind = .activated ∧
        (App.loadDesktopFile libraries file).start libraries = none) ∨
      (file.keyFile.launchKind = (match file.type with
          | .application => .application file.keyFile.terminal
          | .link => .link
          | .directory | .unrecognized => .notLaunchable) ∧
        (App.loadDesktopFile libraries file).start libraries = file.launch libraries
          ((file.keyFile.getString "X-CAFE-Autostart-startup-id").getD
            libraries.generateStartupId)) := by
  obtain ⟨type, found, same⟩ := typed
  cases owned : file.keyFile.getString "X-CAFE-DBus-Name" with
  | some name =>
      left
      simp [KeyFile.launchKind, App.loadDesktopFile, App.start, owned]
  | none =>
      right
      refine ⟨?_, by rw [loadDesktopFile_spawn owned]; rfl⟩
      simp only [KeyFile.launchKind, owned, found, same, typeOf, Option.isSome_none,
        Bool.false_eq_true, if_false, Option.some.injEq]
      split_ifs <;> rfl

theorem parseExec_eq (program : file.keyFile.getString "Exec" = some exec)
    (documents : List Bytes) :
    file.parseExec documents =
      (match file.keyFile.terminal with
        | .no => some (file.substitute .none false documents exec)
        | .yes => some (ascii "xdg-terminal " ++
            quote (file.substitute .none false documents exec))
        | .malformed => none) := by
  unfold parseExec KeyFile.terminal
  rw [program]
  cases file.keyFile.getString "Terminal" with
  | none => rfl
  | some value =>
      cases parsed : KeyFile.parseBoolean value with
      | none => simp [parsed]
      | some useTerminal => cases useTerminal <;> simp [parsed, appendQuotedWord]

theorem launchv_eq_some {documents : List Bytes} {autostartId : Bytes} {spawn : Spawn} :
    file.launchv libraries documents autostartId = some spawn ↔
      ∃ command, file.parseExec documents = some command ∧
        libraries.parseArgv command = some spawn.argv ∧ autostartId = spawn.autostartId := by
  simp only [launchv, Option.map_eq_some_iff, Option.bind_eq_some_iff]
  constructor
  · rintro ⟨argv, ⟨command, parsed, split⟩, rfl⟩
    exact ⟨command, parsed, split, rfl⟩
  · rintro ⟨command, parsed, split, rfl⟩
    exact ⟨spawn.argv, ⟨command, parsed, split⟩, rfl⟩

theorem start_application (typed : file.Typed)
    (kind : file.keyFile.launchKind = .application .no)
    (program : file.keyFile.getString "Exec" = some exec) :
    (App.loadDesktopFile libraries file).start libraries =
      (libraries.parseArgv (file.substitute .none false [] exec)).map (fun argv =>
        ⟨argv, (file.keyFile.getString "X-CAFE-Autostart-startup-id").getD
          libraries.generateStartupId⟩) := by
  rcases @launchKind_cases libraries file typed with ⟨activated, _⟩ | ⟨same, launched⟩
  · rw [kind] at activated
    cases activated
  rw [kind] at same
  cases type : file.type <;> simp only [type, reduceCtorEq, LaunchKind.application.injEq] at same
  rw [launched, launch, type]
  simp only [launchv, parseExec_eq program, ← same, Option.bind_some]

end DesktopFile

/-- A desktop file without texts that a code may stand for. -/
def sampleFile (type : String) (url : Bytes) (extra : List (String × Bytes)) : KeyFile :=
  ⟨extra ++ [("Name", []), ("Type", ascii type), ("URL", url)]⟩

def sampleOf (url : Bytes) : LaunchKind → KeyFile
  | .activated => sampleFile "Application" url [("X-CAFE-DBus-Name", [])]
  | .application .no => sampleFile "Application" url []
  | .application .yes => sampleFile "Application" url [("Terminal", ascii "true")]
  | .application .malformed => sampleFile "Application" url [("Terminal", [])]
  | .link => sampleFile "Link" url []
  | .notLaunchable => sampleFile "Directory" url []

theorem sampleOf_kind (url : Bytes) (kind : LaunchKind) : (sampleOf url kind).launchKind = kind := by
  rcases kind with _ | (_ | _ | _) | _ | _ <;> rfl

theorem sampleOf_keys (url : Bytes) (kind : LaunchKind) :
    (sampleOf url kind).getString "Version" = none ∧
      (sampleOf url kind).getString "Name" = some [] ∧
      (∃ type, (sampleOf url kind).getString "Type" = some type) ∧
      (sampleOf url kind).getString "URL" = some url ∧
      (sampleOf url kind).getString "Icon" = none := by
  rcases kind with _ | (_ | _ | _) | _ | _ <;> exact ⟨rfl, rfl, ⟨_, rfl⟩, rfl, rfl⟩

variable {libraries : Libraries} {args : List Bytes} {kind : LaunchKind}

theorem Resumes.sample (resumes : Resumes libraries args kind) (url : Bytes) :
    ∃ file : DesktopFile, file.Typed ∧ file.PercentFree ∧ file.keyFile.launchKind = kind ∧
      file.keyFile.getString "Exec" = some (propToCommand args) ∧
      file.keyFile.getString "URL" = some url ∧
      (App.loadDesktopFile libraries file).start libraries = some ⟨args, []⟩ := by
  let client : XsmpClient := ⟨[⟨"RestartCommand", "LISTofARRAY8", args⟩], []⟩
  let original : Option (Except String KeyFile) := some (.ok (sampleOf url kind))
  have command : client.findProperty "RestartCommand" =
      some ⟨"RestartCommand", "LISTofARRAY8", args⟩ := rfl
  have restarted : client.getRestartStyleHint ≠ .never := by
    rw [show client.getRestartStyleHint = .ifRunning from rfl]
    decide
  have created : client.createKeyFile original = .ok (sampleOf url kind) := rfl
  obtain ⟨keyFile, saved⟩ := XsmpClient.save_ok command restarted created
  obtain ⟨base, same, written⟩ := XsmpClient.save_some command saved
  rw [created, Except.ok.injEq] at same
  subst same
  obtain ⟨version, named, ⟨type, typed⟩, location, image⟩ := sampleOf_keys url kind
  have loaded := @DesktopFile.new_relative libraries keyFile [] type (propToCommand args) url []
    ((written.others _ (by decide)).trans version) ((written.others _ (by decide)).trans named)
    ((written.others _ (by decide)).trans typed) written.exec
    ((written.others _ (by decide)).trans location) rfl
  rw [written.others _ (by decide), image] at loaded
  refine ⟨_, (DesktopFile.new_some loaded).2, ?_, ?_, written.exec, ?_,
    resumes client original keyFile [] _ command restarted (sampleOf_kind url kind) saved loaded⟩
  · constructor <;> simp
  · exact (KeyFile.launchKind_congr written.others).trans (sampleOf_kind url kind)
  · exact (written.others _ (by decide)).trans location

theorem words_program {program : String} (plain : (ascii program).all isPlain = true)
    (named : ascii program ≠ []) (rest : Bytes) :
    words .unquoted none (ascii program ++ space :: rest) =
      (words .unquoted none rest).map (ascii program :: ·) := by
  rw [words_plain (List.all_eq_true.mp plain) named, words_space]
  rfl

theorem words_quote_last (text : Bytes) : words .unquoted none (quote text) = some [text] := by
  have last := @words_quote none text []
  rw [List.append_nil] at last
  rw [last]
  rfl

/-- What the terminal runs begins with the command itself, quoted, as far as the
first `%`; but the command cannot hold more than itself. -/
theorem terminal_grows (file : DesktopFile) (command : Bytes) :
    file.substitute .none false [] (propToCommand [ascii "xdg-terminal", command]) ≠ command := by
  intro same
  have program : propToCommand [ascii "xdg-terminal", command] =
      ascii "xdg-terminal" ++ space :: wordOfValue command := by
    rw [propToCommand, List.flatMap_singleton]
    rfl
  rw [program, DesktopFile.substitute_plain (List.all_eq_true.mp (by decide)) (by decide),
    DesktopFile.substitute_space] at same
  have spaced : space ∈ command := by
    rw [← same]
    simp
  let front := command.takeWhile (fun byte => byte ≠ percent)
  let back := command.dropWhile (fun byte => byte ≠ percent)
  have whole : wordOfValue command =
      (singleQuote :: quotedText front) ++ (quotedText back ++ [singleQuote]) := by
    have parts : quotedText front ++ quotedText back = quotedText command := by
      rw [quotedText, quotedText, ← List.flatMap_append, List.takeWhile_append_dropWhile]
      rfl
    rw [wordOfValue, if_pos (needsQuotes_of_special spaced (.inl rfl)), ← parts]
    simp
  have free : percent ∉ front := fun member => by simpa using List.mem_takeWhile_imp member
  have written : percent ∉ singleQuote :: quotedText front := by
    have apart : percent ≠ singleQuote := by decide
    rw [List.mem_cons, not_or, ← List.count_eq_zero, count_quotedText apart, List.count_eq_zero]
    exact ⟨apart, free⟩
  obtain ⟨quotes, escaped, copied⟩ :=
    @DesktopFile.substitute_append file .none false [] _ written
  rw [whole, copied, ← List.cons_append, ← List.append_assoc] at same
  have all : ∀ byte ∈ ascii "xdg-terminal" ++ space :: singleQuote :: quotedText front,
      decide (byte ≠ percent) = true := by
    intro byte member
    rw [decide_eq_true_eq]
    rintro rfl
    rcases List.mem_append.mp member with program | member
    · exact absurd program (by decide)
    · rcases List.mem_cons.mp member with blank | member
      · exact absurd blank (by decide)
      · exact written member
  have longer : (ascii "xdg-terminal" ++ space :: singleQuote :: quotedText front).length ≤
      front.length := by
    have prefixed := congrArg (List.takeWhile (fun byte => decide (byte ≠ percent))) same
    rw [List.takeWhile_append_of_pos all] at prefixed
    have lengths := congrArg List.length prefixed
    rw [List.length_append] at lengths
    exact Nat.le_trans (Nat.le_add_right _ _) (Nat.le_of_eq lengths)
  have shorter := length_quotedText front
  simp only [List.length_append, List.length_cons] at longer
  omega

theorem openLink_loaded : DesktopFile.new libraries DesktopFile.openLinkKeyFile none =
    some ⟨DesktopFile.openLinkKeyFile, none, ascii "xdg-open", .application, none⟩ := by
  have absent (key : String) : KeyFile.empty.getString key = none := rfl
  simp [DesktopFile.new, DesktopFile.openLinkKeyFile, KeyFile.getString_setString_of_ne,
    KeyFile.getString_setString, absent]

theorem openLink_exec : DesktopFile.openLinkKeyFile.getString "Exec" =
    some (ascii "xdg-open" ++ [space, percent, 117]) := by
  rw [DesktopFile.openLinkKeyFile, KeyFile.getString_setString]
  decide

theorem openLink_substitute (file : DesktopFile) (url : Bytes) :
    file.substitute .none false [url] (ascii "xdg-open" ++ [space, percent, 117]) =
      ascii "xdg-open" ++ space :: space :: quote url := by
  have code : file.percentSubst 117 .none [url] = (space :: quote url, []) := by
    have plain : ¬(117 : UInt8) = percent := by decide
    have several : ¬([(117 : UInt8)] = ascii "F" ∨ [(117 : UInt8)] = ascii "U") := by decide
    have one : [(117 : UInt8)] = ascii "f" ∨ [(117 : UInt8)] = ascii "u" := by decide
    simp only [DesktopFile.percentSubst, if_neg plain, if_neg several, if_pos one, appendQuotedWord]
  rw [DesktopFile.substitute_plain (List.all_eq_true.mp (by decide)) (by decide)]
  rw [DesktopFile.substitute_space, DesktopFile.substitute_code, code]
  simp [DesktopFile.substitute]

theorem launch_link {file : DesktopFile} {url autostartId : Bytes} {spawn : Spawn}
    (parses : ∀ command, libraries.parseArgv command = parseArgv command)
    (typed : file.type = .link) (location : file.keyFile.getString "URL" = some url)
    (relative : isAbsolute url = false)
    (started : file.launch libraries autostartId = some spawn) :
    spawn.argv = [ascii "xdg-open", url] := by
  simp only [DesktopFile.launch, typed, location, openLink_loaded, relative, Option.bind_some,
    Bool.false_eq_true, if_false] at started
  obtain ⟨command, parsed, split, _⟩ := DesktopFile.launchv_eq_some.mp started
  rw [DesktopFile.parseExec_eq openLink_exec] at parsed
  have line : command = ascii "xdg-open" ++ space :: space :: quote url := by
    rw [← openLink_substitute, ← Option.some_inj, ← parsed]
    rfl
  rw [parses, line, parseArgv, words_program (by decide) (by decide), words_space,
    words_quote_last] at split
  simpa [Option.filter] using split.symm

/-- Bytes that an argument of a resumed command does not hold. -/
structure Preserved (arg : Bytes) : Prop where
  nonempty : arg ≠ []
  unquoted : singleQuote ∉ arg
  uncoded : percent ∉ arg

/-- A command whose line is read back as its arguments has only such that are
preserved. -/
theorem preserved_of_read {file : DesktopFile} (texts : file.PercentFree)
    (read : parseArgv (file.substitute .none false [] (propToCommand args)) = some args) :
    args ≠ [] ∧ ∀ arg ∈ args, Preserved arg := by
  -- The words have all the `%` of the line, so that no code was substituted.
  have kept : (file.substitute .none false [] (propToCommand args)) = propToCommand args := by
    obtain ⟨split, _⟩ := Option.filter_eq_some_iff.mp read
    have whole := words_sublist split
    simp only [Option.getD_none, Mode.pending, List.nil_append] at whole
    have less := whole.count_le percent
    rw [← count_propToCommand (by decide) (by decide)] at less
    rcases @DesktopFile.substitute_keptOrFewer file .none false (propToCommand args) texts with
      same | fewer
    · exact same
    · omega
  rw [kept] at read
  obtain ⟨nonempty, each⟩ := (parseArgv_propToCommand_iff args).mp read
  refine ⟨nonempty, fun arg member => ⟨(each arg member).1, (each arg member).2, ?_⟩⟩
  intro coded
  have fewer := @DesktopFile.substitute_propToCommand_fewer file args texts
    (fun arg member => (each arg member).2) ⟨arg, member, coded⟩
  rw [kept] at fewer
  exact Nat.lt_irrefl _ fewer

/-- Arguments that are preserved are read back, whatever the codes stand for. -/
theorem read_of_preserved (file : DesktopFile) (nonempty : args ≠ [])
    (preserved : ∀ arg ∈ args, Preserved arg) :
    parseArgv (file.substitute .none false [] (propToCommand args)) = some args := by
  have free : percent ∉ propToCommand args := by
    rw [← List.count_eq_zero, count_propToCommand (by decide) (by decide), List.count_eq_zero]
    intro inside
    obtain ⟨arg, member, coded⟩ := List.mem_flatten.mp inside
    exact (preserved arg member).uncoded coded
  rw [DesktopFile.substitute_of_free free, parseArgv_propToCommand_iff]
  exact ⟨nonempty, fun arg member => ⟨(preserved arg member).nonempty,
    (preserved arg member).unquoted⟩⟩

theorem Resumes.link_argv (parses : ∀ command, libraries.parseArgv command = parseArgv command)
    (resumes : Resumes libraries args .link) (url : Bytes) (relative : isAbsolute url = false) :
    args = [ascii "xdg-open", url] := by
  obtain ⟨file, typed, _, kind, _, location, started⟩ := resumes.sample url
  rcases @DesktopFile.launchKind_cases libraries file typed with ⟨_, nothing⟩ | ⟨same, launched⟩
  · rw [nothing] at started
    cases started
  rw [launched] at started
  cases type : file.type <;> simp only [kind, type, reduceCtorEq] at same
  exact launch_link parses type location relative started

/-- The one kind that is resumed at all is the application without a terminal. -/
theorem Resumes.kind_eq (parses : ∀ command, libraries.parseArgv command = parseArgv command)
    (resumes : Resumes libraries args kind) : kind = .application .no := by
  obtain ⟨file, typed, texts, rfl, program, location, started⟩ := resumes.sample []
  rcases @DesktopFile.launchKind_cases libraries file typed with ⟨_, nothing⟩ | ⟨same, launched⟩
  · rw [nothing] at started
    cases started
  rw [launched] at started
  rw [same]
  cases type : file.type with
  | application =>
      rw [DesktopFile.launch, type] at started
      obtain ⟨command, parsed, split, _⟩ := DesktopFile.launchv_eq_some.mp started
      rw [DesktopFile.parseExec_eq program] at parsed
      cases terminal : file.keyFile.terminal with
      | no => rfl
      | malformed => simp [terminal] at parsed
      | yes =>
          rw [terminal] at parsed
          obtain rfl := Option.some.inj parsed
          have words : args = [ascii "xdg-terminal",
              file.substitute .none false [] (propToCommand args)] := by
            have line : ascii "xdg-terminal " = ascii "xdg-terminal" ++ [space] := by decide
            rw [parses, line, List.append_assoc, List.singleton_append, parseArgv,
              words_program (by decide) (by decide), words_quote_last] at split
            simpa [Option.filter] using split.symm
          have grown := terminal_grows file (file.substitute .none false [] (propToCommand args))
          rw [← words] at grown
          exact absurd rfl grown
  | link =>
      -- Links to two places are opened by different commands.
      rw [same, type] at resumes
      have here := resumes.link_argv parses [] rfl
      have there := resumes.link_argv parses [space] rfl
      rw [here] at there
      simp at there
  | directory =>
      rw [DesktopFile.launch, type] at started
      cases started
  | unrecognized =>
      rw [DesktopFile.launch, type] at started
      cases started

/-- A saved client is resumed with its restart command, whatever original desktop
file of the kind it has, just when the command has a program, each of its
arguments is preserved, and the file is an application for no terminal. -/
theorem resumes_iff (parses : ∀ command, libraries.parseArgv command = parseArgv command) :
    Resumes libraries args kind ↔
      kind = .application .no ∧ args ≠ [] ∧ ∀ arg ∈ args, Preserved arg := by
  constructor
  · intro resumes
    obtain rfl := resumes.kind_eq parses
    refine ⟨rfl, ?_⟩
    obtain ⟨file, typed, texts, kind, program, _, started⟩ := resumes.sample []
    apply preserved_of_read texts
    rw [DesktopFile.start_application typed kind program, parses] at started
    obtain ⟨argv, read, same⟩ := Option.map_eq_some_iff.mp started
    rw [Spawn.mk.injEq] at same
    rw [read, same.1]
  · rintro ⟨rfl, nonempty, preserved⟩ client original keyFile source file command restarted same
      saved loaded
    obtain ⟨base, created, written⟩ := XsmpClient.save_some command saved
    obtain ⟨rfl, typed⟩ := DesktopFile.new_some loaded
    have kind : file.keyFile.launchKind = .application .no := by
      rw [KeyFile.launchKind_congr written.others, createKeyFile_kind created, same]
    rw [DesktopFile.start_application typed kind written.exec, parses,
      read_of_preserved file nonempty preserved, written.startupId]
    rfl

section Samples

theorem editor_resumes :
    Resumes shellLibraries [ascii "editor", ascii "--title", ascii "a \"b\" $c"]
      (.application .no) :=
  (resumes_iff (fun _ => rfl)).mpr ⟨rfl, by decide, by
    intro arg member
    simp only [List.mem_cons, List.not_mem_nil, or_false] at member
    rcases member with rfl | rfl | rfl <;> exact ⟨by decide, by decide, by decide⟩⟩

/-- An apostrophe leaves a quote open, so that the saved client is not started. -/
theorem apostrophe_not_resumed :
    let client : XsmpClient :=
      ⟨[⟨"RestartCommand", "LISTofARRAY8", [ascii "echo", ascii "it's"]⟩], ascii "id"⟩
    client.getRestartStyleHint ≠ .never ∧
      ∃ keyFile file, client.save none = .ok (some keyFile) ∧
        DesktopFile.new shellLibraries keyFile (some (ascii "/saved/echo.desktop")) = some file ∧
        (App.loadDesktopFile shellLibraries file).start shellLibraries ≠
          some ⟨[ascii "echo", ascii "it's"], client.startupId⟩ := by
  refine ⟨by decide, _, _, rfl, rfl, by decide⟩

end Samples

end CafeSession.Autostart

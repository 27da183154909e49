import CafeSession.Arrays.Keyed
import CafeSession.Autostart.DesktopFile

/-! # The environment of a process that is launched

`egg_desktop_file_launchv` copies the environment of its own process as soon as a
variable is put into it, and changes the copy.  An environment is the list of its
`NAME=VALUE` strings. -/

namespace CafeSession.Autostart

open CafeSession.Arrays CafeSession.Shell

abbrev equals : UInt8 := 61

/-- What comes before the first '='. -/
def variableName (setting : Bytes) : Bytes :=
  setting.takeWhile (fun byte => byte ≠ equals)

def variableValue (setting : Bytes) : Bytes :=
  setting.drop ((variableName setting).length + 1)

def assignment (name value : Bytes) : Bytes :=
  name ++ equals :: value

/-- `g_getenv`. -/
def getenv (environ : List Bytes) (name : Bytes) : Option Bytes :=
  if name = [] then none
  else (environ.find? (fun setting => (assignment name []).isPrefixOf setting)).map
    (fun setting => setting.drop (name.length + 1))

/-- `g_listenv`. -/
def listenv (environ : List Bytes) : List Bytes :=
  (environ.filter (fun setting => setting.contains equals)).map variableName

/-- What `array_putenv` makes of NULL. -/
def copyEnvironment (environ : List Bytes) : List Bytes :=
  (listenv environ).map (fun name => assignment name ((getenv environ name).getD []))

/-- The entries of an array of strings; NULL is `none`. -/
abbrev PtrArray := List (Option Bytes)

/-- The test of `array_putenv` for the old value of a variable. -/
def hasKey (setting envvar : Bytes) : Bool :=
  let keylen := (variableName setting).length
  envvar.take keylen = setting.take keylen ∧ envvar[keylen]? = some equals

/-- The search of `array_putenv`; `none` where `strncmp` reads a NULL. -/
def findVariable (setting : Bytes) : PtrArray → Option (Option Nat)
  | [] => some none
  | none :: _ => none
  | some envvar :: rest =>
      if hasKey setting envvar then some (some 0)
      else (findVariable setting rest).map (Option.map (fun index => index + 1))

/-- `array_putenv`; without an array it starts from a copy. -/
def arrayPutenv (environ : List Bytes) (env : Option PtrArray) (setting : Bytes) :
    Option PtrArray :=
  let env := env.getD ((copyEnvironment environ).map some)
  (findVariable setting env).map (fun found =>
    (match found with
      | none => env
      | some index => removeIndexFast env index) ++ [some setting])

/-- The options of a launch that concern the environment. -/
inductive LaunchOption where
  | clearenv
  | putenv (settings : List Bytes)

def LaunchOption.read (environ : List Bytes) (env : Option PtrArray) :
    LaunchOption → Option (Option PtrArray)
  | .clearenv => some (some [])
  | .putenv settings =>
      settings.foldlM (fun env setting => (arrayPutenv environ env setting).map some) env

/-- The array of `egg_desktop_file_launchv` before its loop: `display` is the name of the
display of a screen that is given. -/
def launchArray (environ : List Bytes) (options : List LaunchOption) (display : Option Bytes) :
    Option (Option PtrArray) :=
  (options.foldlM (LaunchOption.read environ) none).bind (fun env =>
    match display with
    | none => some env
    | some display =>
        (arrayPutenv environ env (assignment (ascii "DISPLAY") display)).map some)

/-- One turn of the loop: the array with which the process of the turn is started, and which
is there for the next. -/
def launchTurn (environ : List Bytes) (startupId : Option Bytes) (env : Option PtrArray) :
    Option (Option PtrArray) :=
  let noticed := match startupId with
    | none => some env
    | some startupId =>
        (arrayPutenv environ env (assignment (ascii "DESKTOP_STARTUP_ID") startupId)).map some
  noticed.map (Option.map (fun env => env ++ [none]))

/-- After so many turns.  The desktop file alone decides whether there is a startup
notification, so there is one in every turn or in none. -/
def arrayAfter (environ : List Bytes) (options : List LaunchOption) (display : Option Bytes)
    (startupIds : Option (Nat → Bytes)) : Nat → Option (Option PtrArray)
  | 0 => launchArray environ options display
  | turn + 1 => (arrayAfter environ options display startupIds turn).bind
      (launchTurn environ (startupIds.map (fun startupIds => startupIds turn)))

/-- `g_spawn_async_with_pipes` reads its array up to the first NULL, and passes its own
environment on when it is given none. -/
def spawnEnvironment (environ : List Bytes) : Option PtrArray → List Bytes
  | none => environ
  | some env => (env.takeWhile Option.isSome).filterMap id

/-- The environment of the process that a turn starts, if the launch gets there. -/
def launchEnvironment (environ : List Bytes) (options : List LaunchOption)
    (display : Option Bytes) (startupIds : Option (Nat → Bytes)) (turn : Nat) :
    Option (List Bytes) :=
  (arrayAfter environ options display startupIds (turn + 1)).map (spawnEnvironment environ)

/-- The value of each variable. -/
abbrev Variables := Bytes → Option Bytes

def Variables.put (known : Variables) (setting : Bytes) : Variables :=
  Function.update known (variableName setting) (some (variableValue setting))

def LaunchOption.apply (known : Variables) : LaunchOption → Variables
  | .clearenv => fun _ => none
  | .putenv settings => settings.foldl Variables.put known

/-- Those of the parent, with what the options say, one after the other. -/
def askedVariables (environ : List Bytes) (options : List LaunchOption)
    (display startupId : Option Bytes) : Variables :=
  let known := options.foldl LaunchOption.apply (getenv environ)
  let known := display.elim known
    (fun display => known.put (assignment (ascii "DISPLAY") display))
  startupId.elim known
    (fun startupId => known.put (assignment (ascii "DESKTOP_STARTUP_ID") startupId))

/-- A name that a variable can have. -/
def PlainName (name : Bytes) : Prop := name ≠ [] ∧ equals ∉ name

instance (name : Bytes) : Decidable (PlainName name) :=
  inferInstanceAs (Decidable (name ≠ [] ∧ equals ∉ name))

section Setting

variable {name value setting : Bytes}

theorem equals_not_mem_variableName (setting : Bytes) : equals ∉ variableName setting := by
  intro member
  have before := List.all_eq_true.mp List.all_takeWhile equals member
  simp at before

theorem assignment_name_value (assigned : equals ∈ setting) :
    assignment (variableName setting) (variableValue setting) = setting := by
  induction setting with
  | nil => cases assigned
  | cons first rest ih =>
      by_cases same : first = equals
      · simp [assignment, variableName, variableValue, same]
      · have later : equals ∈ rest := (List.mem_cons.mp assigned).resolve_left (Ne.symm same)
        have named : variableName (first :: rest) = first :: variableName rest := by
          simp [variableName, same]
        have valued : variableValue (first :: rest) = variableValue rest := by
          rw [variableValue, named]
          rfl
        rw [named, valued]
        exact congrArg (first :: ·) (ih later)

theorem variableName_assignment (plain : equals ∉ name) :
    variableName (assignment name value) = name := by
  have before : ∀ byte ∈ name, decide (byte ≠ equals) = true := by
    intro byte member
    rw [decide_eq_true_iff]
    rintro rfl
    exact plain member
  rw [variableName, assignment, List.takeWhile_append_of_pos before]
  simp

theorem variableValue_assignment (plain : equals ∉ name) :
    variableValue (assignment name value) = value := by
  have start : assignment name value = (name ++ [equals]) ++ value := by simp [assignment]
  have width : name.length + 1 = (name ++ [equals]).length := by simp
  rw [variableValue, variableName_assignment plain, start, width, List.drop_left]

theorem isPrefixOf_iff (plain : equals ∉ name) :
    (assignment name []).isPrefixOf setting = true ↔
      equals ∈ setting ∧ variableName setting = name := by
  rw [List.isPrefixOf_iff_prefix]
  constructor
  · rintro ⟨value, rfl⟩
    have same : assignment name [] ++ value = assignment name value := by simp [assignment]
    rw [same]
    exact ⟨by simp [assignment], variableName_assignment plain⟩
  · rintro ⟨assigned, rfl⟩
    refine ⟨variableValue setting, ?_⟩
    conv_rhs => rw [← assignment_name_value assigned]
    simp [assignment]

theorem hasKey_iff {envvar : Bytes} (assigned : equals ∈ envvar) (added : equals ∈ setting) :
    hasKey setting envvar = true ↔ variableName envvar = variableName setting := by
  have start : setting.take (variableName setting).length = variableName setting := by
    conv_lhs => rw [← assignment_name_value added]
    rw [variableName_assignment (equals_not_mem_variableName setting)]
    exact List.take_left
  rw [hasKey, decide_eq_true_iff, start]
  constructor
  · rintro ⟨same, mark⟩
    obtain ⟨inside, mark⟩ := List.getElem?_eq_some_iff.mp mark
    have split := List.take_append_drop (variableName setting).length envvar
    rw [same, List.drop_eq_getElem_cons inside, mark] at split
    rw [← split]
    exact variableName_assignment (equals_not_mem_variableName setting)
  · intro same
    rw [← assignment_name_value assigned, same]
    exact ⟨List.take_left, by simp [assignment]⟩

end Setting

section Copy

variable {environ : List Bytes} {name : Bytes}

theorem mem_listenv :
    name ∈ listenv environ ↔
      ∃ setting ∈ environ, equals ∈ setting ∧ variableName setting = name := by
  simp [listenv, and_assoc]

theorem getenv_isSome_iff (plain : PlainName name) :
    (getenv environ name).isSome = true ↔ name ∈ listenv environ := by
  rw [getenv, if_neg plain.1, Option.isSome_map, List.find?_isSome, mem_listenv]
  simp only [isPrefixOf_iff plain.2]

theorem plain_of_mem_listenv (listed : name ∈ listenv environ) : equals ∉ name := by
  obtain ⟨setting, _, _, rfl⟩ := mem_listenv.mp listed
  exact equals_not_mem_variableName setting

theorem assigned_copyEnvironment : ∀ setting ∈ copyEnvironment environ, equals ∈ setting := by
  intro setting member
  obtain ⟨name, _, rfl⟩ := List.mem_map.mp member
  simp [assignment]

theorem distinct_copyEnvironment (single : (listenv environ).Nodup) :
    Distinct variableName (copyEnvironment environ) := by
  have same : ∀ name ∈ listenv environ, variableName (assignment name
      ((getenv environ name).getD [])) = id name :=
    fun name listed => variableName_assignment (plain_of_mem_listenv listed)
  have names : (copyEnvironment environ).map variableName = listenv environ := by
    rw [copyEnvironment, List.map_map]
    exact (List.map_congr_left same).trans (List.map_id _)
  rw [Distinct, names]
  exact single

theorem lookup_copyEnvironment (single : (listenv environ).Nodup) (plain : PlainName name) :
    (lookup variableName (copyEnvironment environ) name).map variableValue =
      getenv environ name := by
  have distinct := distinct_copyEnvironment single
  cases found : getenv environ name with
  | none =>
      cases looked : lookup variableName (copyEnvironment environ) name with
      | none => rfl
      | some setting =>
          obtain ⟨member, named⟩ := (lookup_eq_some_iff distinct).mp looked
          obtain ⟨listed, inList, rfl⟩ := List.mem_map.mp member
          rw [variableName_assignment (plain_of_mem_listenv inList)] at named
          rw [named] at inList
          have present := (getenv_isSome_iff plain).mpr inList
          rw [found] at present
          cases present
  | some value =>
      have listed : name ∈ listenv environ := by
        rw [← getenv_isSome_iff plain, found]
        rfl
      have member : assignment name value ∈ copyEnvironment environ :=
        List.mem_map.mpr ⟨name, listed, by rw [found]; rfl⟩
      have looked := (lookup_eq_some_iff distinct).mpr ⟨member, variableName_assignment plain.2⟩
      rw [looked, Option.map_some, variableValue_assignment plain.2]

end Copy

theorem findIdx?_congr_of_mem {Item : Type} {items : List Item} {one other : Item → Bool}
    (same : ∀ item ∈ items, one item = other item) : items.findIdx? one = items.findIdx? other := by
  induction items with
  | nil => rfl
  | cons first rest ih =>
      obtain ⟨here, later⟩ := List.forall_mem_cons.mp same
      rw [List.findIdx?_cons, List.findIdx?_cons, here, ih later]

/-- A fold that can fail beside one that cannot. -/
theorem foldlM_related {State Spec Item : Type} {Related : State → Spec → Prop}
    {step : State → Item → Option State} {spec : Spec → Item → Spec} {items : List Item}
    {state : State} {known : Spec} (related : Related state known)
    (keeps : ∀ item ∈ items, ∀ state known, Related state known →
      ∃ next, step state item = some next ∧ Related next (spec known item)) :
    ∃ last, items.foldlM step state = some last ∧ Related last (items.foldl spec known) := by
  induction items generalizing state known with
  | nil => exact ⟨state, rfl, related⟩
  | cons first rest ih =>
      obtain ⟨here, later⟩ := List.forall_mem_cons.mp keeps
      obtain ⟨next, stepped, now⟩ := here state known related
      obtain ⟨last, folded, there⟩ := ih now later
      refine ⟨last, ?_, there⟩
      rw [List.foldlM_cons, stepped]
      exact folded

theorem findVariable_map (setting : Bytes) (entries : List Bytes) (rest : PtrArray) :
    findVariable setting (entries.map some ++ rest) =
      match entries.findIdx? (hasKey setting) with
      | none => (findVariable setting rest).map (Option.map (fun index => index + entries.length))
      | some index => some (some index) := by
  induction entries with
  | nil => simp
  | cons first others ih =>
      rw [List.map_cons, List.cons_append, findVariable, List.findIdx?_cons, ih]
      by_cases here : hasKey setting first
      · simp [here]
      · simp only [here, Bool.false_eq_true, if_false]
        cases others.findIdx? (hasKey setting) with
        | some index => rfl
        | none =>
            simp only [Option.map_none, Option.map_map, List.length_cons]
            congr 1
            funext found
            cases found with
            | none => rfl
            | some index => simp [Nat.add_assoc]

section Putting

variable {environ entries : List Bytes} {env : Option PtrArray} {known : Variables}
variable {setting name : Bytes}

/-- The strings have the variables, and each once. -/
structure Has (entries : List Bytes) (known : Variables) : Prop where
  assigned : ∀ setting ∈ entries, equals ∈ setting
  distinct : Distinct variableName entries
  values : ∀ name, PlainName name →
    (lookup variableName entries name).map variableValue = known name

theorem Has.start (single : (listenv environ).Nodup) :
    Has (copyEnvironment environ) (getenv environ) where
  assigned := assigned_copyEnvironment
  distinct := distinct_copyEnvironment single
  values _ plain := lookup_copyEnvironment single plain

theorem Has.put (has : Has entries known) (added : equals ∈ setting) :
    Has (put variableName entries setting) (known.put setting) := by
  constructor
  case assigned =>
    intro other member
    rcases (mem_put has.distinct).mp member with rfl | ⟨before, _⟩
    · exact added
    · exact has.assigned other before
  case distinct => exact has.distinct.put setting
  case values =>
    intro name plain
    rw [lookup_put has.distinct, Variables.put, Function.update_apply, Function.update_apply]
    split_ifs
    · rfl
    · exact has.values name plain

theorem Has.remove (has : Has entries known) (key : Bytes) :
    Has (remove variableName entries key) (Function.update known key none) := by
  constructor
  case assigned =>
    intro other member
    exact has.assigned other ((mem_remove has.distinct).mp member).1
  case distinct => exact has.distinct.remove key
  case values =>
    intro name plain
    rw [lookup_remove has.distinct, Function.update_apply, Function.update_apply]
    split_ifs
    · rfl
    · exact has.values name plain

theorem Has.findIdx?_eq (has : Has entries known) (added : equals ∈ setting) :
    entries.findIdx? (hasKey setting) =
      entries.findIdx? (fun envvar => variableName envvar = variableName setting) :=
  findIdx?_congr_of_mem fun envvar member =>
    Bool.eq_iff_iff.mpr ((hasKey_iff (has.assigned envvar member) added).trans
      decide_eq_true_iff.symm)

/-- Before there is a NULL in the array. -/
theorem Has.arrayPutenv_eq (has : Has entries known) (added : equals ∈ setting)
    (strings : env.getD ((copyEnvironment environ).map some) = entries.map some) :
    arrayPutenv environ env setting =
      some ((Arrays.put variableName entries setting).map some) := by
  have searched : findVariable setting (entries.map some) =
      some (entries.findIdx? (hasKey setting)) := by
    have whole := findVariable_map setting entries []
    rw [List.append_nil] at whole
    rw [whole]
    cases entries.findIdx? (hasKey setting) <;> rfl
  simp only [arrayPutenv, strings, searched, has.findIdx?_eq added, Option.map_some,
    Arrays.put, Arrays.remove, List.map_append, List.map_singleton]
  cases entries.findIdx? (fun envvar => variableName envvar = variableName setting) with
  | none => rfl
  | some index => simp only [removeIndexFast_map]

/-- The array, or the copy with which it starts, has the variables. -/
def Holds (environ : List Bytes) (env : Option PtrArray) (known : Variables) : Prop :=
  ∃ entries, env.getD ((copyEnvironment environ).map some) = entries.map some ∧
    Has entries known

theorem Holds.start (single : (listenv environ).Nodup) : Holds environ none (getenv environ) :=
  ⟨copyEnvironment environ, rfl, Has.start single⟩

theorem Holds.putenv (holds : Holds environ env known) (added : equals ∈ setting) :
    ∃ next, (arrayPutenv environ env setting).map some = some next ∧
      Holds environ next (known.put setting) := by
  obtain ⟨entries, strings, has⟩ := holds
  refine ⟨some ((put variableName entries setting).map some), ?_, _, rfl, has.put added⟩
  rw [has.arrayPutenv_eq added strings]
  rfl

/-- The variables that an option puts are assignments. -/
def LaunchOption.Assigns : LaunchOption → Prop
  | .clearenv => True
  | .putenv settings => ∀ setting ∈ settings, equals ∈ setting

theorem Holds.read {option : LaunchOption} (holds : Holds environ env known)
    (assigns : option.Assigns) :
    ∃ next, option.read environ env = some next ∧ Holds environ next (option.apply known) := by
  cases option with
  | clearenv =>
      refine ⟨some [], rfl, [], rfl, ?_, List.nodup_nil, ?_⟩
      · intro setting member
        cases member
      · intro name _
        rfl
  | putenv settings =>
      exact foldlM_related holds fun setting member _ _ now =>
        now.putenv (assigns setting member)

theorem getenv_assigned {entries : List Bytes} (assigned : ∀ setting ∈ entries, equals ∈ setting)
    (plain : PlainName name) :
    getenv entries name = (lookup variableName entries name).map variableValue := by
  rw [getenv, if_neg plain.1, lookup]
  induction entries with
  | nil => rfl
  | cons first rest ih =>
      obtain ⟨here, later⟩ := List.forall_mem_cons.mp assigned
      by_cases named : variableName first = name
      · have starts := (isPrefixOf_iff plain.2).mpr ⟨here, named⟩
        rw [List.find?_cons_of_pos starts,
          List.find?_cons_of_pos (p := fun item => decide (variableName item = name))
            (decide_eq_true named), Option.map_some, Option.map_some, variableValue, named]
      · have other : ¬ (assignment name []).isPrefixOf first = true :=
          fun starts => named ((isPrefixOf_iff plain.2).mp starts).2
        rw [List.find?_cons_of_neg other, List.find?_cons_of_neg (by simp [named])]
        exact ih later

/-- What a process finds for which no NULL stands before a string. -/
theorem Has.getenv_eq (has : Has entries known) (plain : PlainName name) :
    getenv entries name = known name :=
  (getenv_assigned has.assigned plain).trans (has.values name plain)

end Putting

section Launch

variable {environ : List Bytes} {options : List LaunchOption} {display : Option Bytes}
variable {startupIds : Option (Nat → Bytes)} {name : Bytes}

theorem holds_launchArray (single : (listenv environ).Nodup)
    (assigns : ∀ option ∈ options, option.Assigns) :
    ∃ env, launchArray environ options display = some env ∧
      Holds environ env (askedVariables environ options display none) := by
  obtain ⟨env, read, holds⟩ :
      ∃ env, options.foldlM (LaunchOption.read environ) none = some env ∧
        Holds environ env (options.foldl LaunchOption.apply (getenv environ)) :=
    foldlM_related (Holds.start single)
      fun option member _ _ now => now.read (assigns option member)
  cases display with
  | none => exact ⟨env, by rw [launchArray, read]; rfl, holds⟩
  | some display =>
      have added : equals ∈ assignment (ascii "DISPLAY") display := by simp [assignment]
      obtain ⟨next, put, later⟩ := holds.putenv added
      exact ⟨next, by rw [launchArray, read]; exact put, later⟩

theorem spawnEnvironment_map (entries : List Bytes) (rest : PtrArray) :
    spawnEnvironment environ (some (entries.map some ++ none :: rest)) = entries := by
  have before : ∀ entry ∈ entries.map some, Option.isSome entry = true := by
    intro entry member
    obtain ⟨setting, _, rfl⟩ := List.mem_map.mp member
    rfl
  rw [spawnEnvironment, List.takeWhile_append_of_pos before, List.takeWhile_cons_of_neg (by simp),
    List.append_nil]
  simp

theorem arrayAfter_unnoticed {env : Option PtrArray}
    (array : launchArray environ options display = some env) (turn : Nat) :
    arrayAfter environ options display none turn =
      some (env.map (fun env => env ++ List.replicate turn none)) := by
  induction turn with
  | zero => rw [arrayAfter, array]; cases env <;> simp
  | succ turn ih =>
      rw [arrayAfter, ih]
      cases env with
      | none => rfl
      | some env => simp [launchTurn, List.replicate_succ']

/-- Without a startup notification every process finds what is asked. -/
theorem unnoticed_with_asked (single : (listenv environ).Nodup)
    (assigns : ∀ option ∈ options, option.Assigns) (turn : Nat) :
    ∃ environment, launchEnvironment environ options display none turn = some environment ∧
      ∀ name, PlainName name →
        getenv environment name = askedVariables environ options display none name := by
  obtain ⟨env, array, entries, strings, has⟩ := @holds_launchArray _ options display single assigns
  rw [launchEnvironment, arrayAfter_unnoticed array]
  cases env with
  | none =>
      refine ⟨environ, rfl, fun name plain => ?_⟩
      have copied : copyEnvironment environ = entries :=
        List.map_injective_iff.mpr (fun _ _ => Option.some.inj) strings
      subst copied
      exact (lookup_copyEnvironment single plain).symm.trans (has.values name plain)
  | some env =>
      rw [Option.getD_some] at strings
      subst strings
      refine ⟨entries, ?_, fun name plain => has.getenv_eq plain⟩
      exact congrArg some (spawnEnvironment_map entries _)

abbrev startupLabel : Bytes := ascii "DESKTOP_STARTUP_ID"

theorem equals_mem_notice (startupId : Bytes) : equals ∈ assignment startupLabel startupId := by
  simp [assignment]

theorem variableName_notice (startupId : Bytes) :
    variableName (assignment startupLabel startupId) = startupLabel :=
  variableName_assignment (by decide)

section Noticed

variable {ids : Nat → Bytes} {entries : List Bytes} {known : Variables}

theorem arrayAfter_first {env : Option PtrArray}
    (array : launchArray environ options display = some env)
    (strings : env.getD ((copyEnvironment environ).map some) = entries.map some)
    (has : Has entries known) :
    arrayAfter environ options display (some ids) 1 =
      some (some ((put variableName entries (assignment startupLabel (ids 0))).map some ++ [none])) := by
  have turn : launchTurn environ (some (ids 0)) env =
      some (some ((put variableName entries (assignment startupLabel (ids 0))).map some ++ [none])) := by
    simp only [launchTurn, has.arrayPutenv_eq (equals_mem_notice _) strings, Option.map_some]
  simp only [arrayAfter, array, Option.bind_some, Option.map_some, turn]

/-- The NULL takes the place of the first process's startup id, and what stands behind it is
not passed on. -/
theorem arrayAfter_second {env : Option PtrArray}
    (array : launchArray environ options display = some env)
    (strings : env.getD ((copyEnvironment environ).map some) = entries.map some)
    (has : Has entries known) :
    arrayAfter environ options display (some ids) 2 =
      some (some ((remove variableName entries startupLabel).map some ++
        [none, some (assignment startupLabel (ids 1)), none])) := by
  have others := has.remove startupLabel
  have absent : (remove variableName entries startupLabel).findIdx?
      (hasKey (assignment startupLabel (ids 1))) = none := by
    rw [others.findIdx?_eq (equals_mem_notice _), variableName_notice, List.findIdx?_eq_none_iff]
    intro envvar member
    exact decide_eq_false ((mem_remove has.distinct).mp member).2
  have first : put variableName entries (assignment startupLabel (ids 0)) =
      remove variableName entries startupLabel ++ [assignment startupLabel (ids 0)] := by
    rw [put, variableName_notice]
  have key : hasKey (assignment startupLabel (ids 1)) (assignment startupLabel (ids 0)) = true :=
    (hasKey_iff (equals_mem_notice _) (equals_mem_notice _)).mpr
      ((variableName_notice _).trans (variableName_notice _).symm)
  have searched : findVariable (assignment startupLabel (ids 1))
      ((remove variableName entries startupLabel).map some ++
        (some (assignment startupLabel (ids 0)) :: [none])) =
      some (some (remove variableName entries startupLabel).length) := by
    rw [findVariable_map, absent, findVariable, if_pos key]
    simp
  rw [arrayAfter, arrayAfter_first array strings has, first]
  simp only [Option.bind_some, Option.map_some, launchTurn, arrayPutenv, Option.getD_some,
    List.map_append, List.map_singleton, List.append_assoc, List.singleton_append, searched]
  have taken := removeIndexFast_append
    ((remove variableName entries startupLabel).map some ++ [some (assignment startupLabel (ids 0))])
    none (remove variableName entries startupLabel).length (by simp)
  rw [List.append_assoc, List.singleton_append] at taken
  rw [taken]
  simp

theorem arrayAfter_third {env : Option PtrArray}
    (array : launchArray environ options display = some env)
    (strings : env.getD ((copyEnvironment environ).map some) = entries.map some)
    (has : Has entries known) (turn : Nat) :
    arrayAfter environ options display (some ids) (turn + 3) = none := by
  induction turn with
  | zero =>
      have others := has.remove startupLabel
      have absent : (remove variableName entries startupLabel).findIdx?
          (hasKey (assignment startupLabel (ids 2))) = none := by
        rw [others.findIdx?_eq (equals_mem_notice _), variableName_notice,
          List.findIdx?_eq_none_iff]
        intro envvar member
        exact decide_eq_false ((mem_remove has.distinct).mp member).2
      rw [arrayAfter, arrayAfter_second array strings has]
      simp only [Option.bind_some, Option.map_some, launchTurn, arrayPutenv, Option.getD_some,
        findVariable_map, absent, findVariable, Option.map_none]
  | succ turn ih => rw [arrayAfter, ih, Option.bind_none]

theorem noticed_first_with_asked (single : (listenv environ).Nodup)
    (assigns : ∀ option ∈ options, option.Assigns) :
    ∃ environment, launchEnvironment environ options display (some ids) 0 = some environment ∧
      ∀ name, PlainName name →
        getenv environment name = askedVariables environ options display (some (ids 0)) name := by
  obtain ⟨env, array, entries, strings, has⟩ := @holds_launchArray _ options display single assigns
  refine ⟨put variableName entries (assignment startupLabel (ids 0)), ?_, ?_⟩
  · rw [launchEnvironment, arrayAfter_first array strings has, Option.map_some]
    exact congrArg some (spawnEnvironment_map _ [])
  · intro name plain
    exact (has.put (equals_mem_notice (ids 0))).getenv_eq plain

/-- The second process has no startup id at all, not even one of its parent's. -/
theorem noticed_second_without_id (single : (listenv environ).Nodup)
    (assigns : ∀ option ∈ options, option.Assigns) :
    ∃ environment, launchEnvironment environ options display (some ids) 1 = some environment ∧
      ∀ name, PlainName name → getenv environment name =
        Function.update (askedVariables environ options display none) startupLabel none name := by
  obtain ⟨env, array, entries, strings, has⟩ := @holds_launchArray _ options display single assigns
  refine ⟨remove variableName entries startupLabel, ?_, ?_⟩
  · rw [launchEnvironment, arrayAfter_second array strings has, Option.map_some]
    exact congrArg some (spawnEnvironment_map _ _)
  · intro name plain
    exact (has.remove startupLabel).getenv_eq plain

/-- A third is never started. -/
theorem noticed_third_crashes (single : (listenv environ).Nodup)
    (assigns : ∀ option ∈ options, option.Assigns) (turn : Nat) :
    launchEnvironment environ options display (some ids) (turn + 2) = none := by
  obtain ⟨env, array, entries, strings, has⟩ := @holds_launchArray _ options display single assigns
  rw [launchEnvironment, arrayAfter_third array strings has turn, Option.map_none]

end Noticed

section

variable {known : Variables} {label value : Bytes}

theorem put_same (plain : equals ∉ label) :
    known.put (assignment label value) label = some value := by
  rw [Variables.put, variableName_assignment plain, variableValue_assignment plain,
    Function.update_self]

theorem put_other (plain : equals ∉ label) (other : name ≠ label) :
    known.put (assignment label value) name = known name := by
  rw [Variables.put, variableName_assignment plain, Function.update_of_ne other]

end

/-- Whatever is put into the environment and however often it is cleared, a process that is
launched by a parent that has no variable twice finds each variable as it was asked for, if it
is the first or there is no startup notification, and only then. -/
theorem launched_with_asked_iff (single : (listenv environ).Nodup)
    (assigns : ∀ option ∈ options, option.Assigns) (turn : Nat) :
    (∃ environment, launchEnvironment environ options display startupIds turn = some environment ∧
      ∀ name, PlainName name → getenv environment name =
        askedVariables environ options display
          (startupIds.map (fun startupIds => startupIds turn)) name) ↔
      turn = 0 ∨ startupIds = none := by
  cases startupIds with
  | none => exact iff_of_true (unnoticed_with_asked single assigns turn) (.inr rfl)
  | some ids =>
      match turn with
      | 0 => exact iff_of_true (noticed_first_with_asked single assigns) (.inl rfl)
      | 1 =>
          refine iff_of_false ?_ (by simp)
          rintro ⟨environment, started, asked⟩
          obtain ⟨other, again, without⟩ := @noticed_second_without_id _ _ display ids single assigns
          obtain rfl : other = environment := Option.some.inj (again.symm.trans started)
          have plain : PlainName startupLabel := by decide
          have absent := without startupLabel plain
          rw [Function.update_self, asked startupLabel plain] at absent
          have present : (askedVariables environ options display none).put
              (assignment startupLabel (ids 1)) startupLabel = some (ids 1) := put_same plain.2
          exact Option.some_ne_none _ (present.symm.trans absent)
      | turn + 2 =>
          refine iff_of_false ?_ (by simp)
          rintro ⟨environment, started, _⟩
          rw [noticed_third_crashes single assigns turn] at started
          cases started

/-- `autostart_app_start_spawn` of an app whose file wants a startup notification, and a file
that is opened with three documents, one process for each. -/
theorem autostart_id_launched :
    (∃ environment, launchEnvironment
        [ascii "HOME=/root", ascii "DESKTOP_AUTOSTART_ID=old", ascii "LANG=C"]
        [.putenv [assignment (ascii "DESKTOP_AUTOSTART_ID") (ascii "10a")]] none
        (some (fun turn => [48 + turn.toUInt8])) 0 = some environment ∧
      getenv environment (ascii "DESKTOP_AUTOSTART_ID") = some (ascii "10a") ∧
      getenv environment startupLabel = some (ascii "0")) ∧
    ¬ ∃ environment, launchEnvironment [ascii "HOME=/root"] [] none
        (some (fun turn => [48 + turn.toUInt8])) 2 = some environment ∧
      ∀ name, PlainName name → getenv environment name =
        askedVariables [ascii "HOME=/root"] [] none (some (ascii "2")) name := by
  have single : (listenv [ascii "HOME=/root", ascii "DESKTOP_AUTOSTART_ID=old",
      ascii "LANG=C"]).Nodup := by decide
  constructor
  · have assigns : ∀ option ∈ [LaunchOption.putenv
        [assignment (ascii "DESKTOP_AUTOSTART_ID") (ascii "10a")]], option.Assigns := by
      simp [LaunchOption.Assigns, assignment]
    obtain ⟨environment, started, asked⟩ :=
      (launched_with_asked_iff single assigns 0).mpr (.inl rfl)
    exact ⟨environment, started, (asked _ (by decide)).trans (by decide),
      (asked _ (by decide)).trans (by decide)⟩
  · exact fun launched => absurd ((launched_with_asked_iff (by decide) (by simp) 2).mp launched)
      (by simp)

/-- The options of `autostart_app_start_spawn`. -/
def spawnOptions (autostartId : Bytes) : List LaunchOption :=
  [.putenv [assignment (ascii "DESKTOP_AUTOSTART_ID") autostartId]]

/-- A process that is spawned, which is given no documents, finds the id that the session
manager gave to its app. -/
theorem spawned_with_id (single : (listenv environ).Nodup) (spawn : Spawn) :
    ∃ environment, launchEnvironment environ (spawnOptions spawn.autostartId) none startupIds 0 =
        some environment ∧
      getenv environment (ascii "DESKTOP_AUTOSTART_ID") = some spawn.autostartId := by
  have label : equals ∉ ascii "DESKTOP_AUTOSTART_ID" := by decide
  have plain : PlainName (ascii "DESKTOP_AUTOSTART_ID") := ⟨by decide, label⟩
  have assigns : ∀ option ∈ spawnOptions spawn.autostartId, option.Assigns := by
    simp [spawnOptions, LaunchOption.Assigns, assignment]
  have put : (Variables.put (getenv environ)
      (assignment (ascii "DESKTOP_AUTOSTART_ID") spawn.autostartId))
        (ascii "DESKTOP_AUTOSTART_ID") = some spawn.autostartId := put_same label
  cases startupIds with
  | none =>
      obtain ⟨environment, started, asked⟩ :=
        @unnoticed_with_asked _ (spawnOptions spawn.autostartId) none single assigns 0
      exact ⟨environment, started, (asked _ plain).trans put⟩
  | some ids =>
      obtain ⟨environment, started, asked⟩ :=
        @noticed_first_with_asked _ (spawnOptions spawn.autostartId) none ids single assigns
      have notified : equals ∉ ascii "DESKTOP_STARTUP_ID" := by decide
      have other : ascii "DESKTOP_AUTOSTART_ID" ≠ ascii "DESKTOP_STARTUP_ID" := by decide
      have stays := (@put_other _ (askedVariables environ (spawnOptions spawn.autostartId) none none)
        _ (ids 0) notified other).trans put
      exact ⟨environment, started, (asked _ plain).trans stays⟩

end Launch

end CafeSession.Autostart

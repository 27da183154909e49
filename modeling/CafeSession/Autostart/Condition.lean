import CafeSession.Autostart.DesktopFile
import Mathlib.Data.List.TakeWhile

namespace CafeSession.Autostart

open CafeSession.Shell

inductive ConditionKind where
  | ifExists
  | unlessExists
  | cafe
  | gsettings
  | unknown
deriving DecidableEq

/-- `isspace` of the C locale. -/
def isSpace (byte : UInt8) : Bool := byte = 32 || (9 ≤ byte && byte ≤ 13)

/-- `g_ascii_tolower`. -/
def asciiToLower (byte : UInt8) : UInt8 :=
  if 65 ≤ byte && byte ≤ 90 then byte + 32 else byte

def lower (text : Bytes) : Bytes := text.map asciiToLower

/-- `!g_ascii_strncasecmp`: no difference within so many bytes. -/
def sameIgnoringCase : Bytes → Bytes → Nat → Bool
  | _, _, 0 => true
  | [], [], _ => true
  | left :: lefts, right :: rights, count + 1 =>
      asciiToLower left = asciiToLower right && sameIgnoringCase lefts rights count
  | _, _, _ => false

/-- What comes before the first space. -/
def conditionWord (text : Bytes) : Bytes := text.takeWhile (fun byte => byte ≠ space)

def conditionKey (text : Bytes) : Bytes :=
  (text.dropWhile (fun byte => byte ≠ space)).dropWhile isSpace

structure ParsedCondition where
  kind : ConditionKind
  key : Option Bytes
deriving DecidableEq

/-- `parse_condition_string`; it returns whether the kind is not unknown. -/
def parseConditionString (text : Bytes) : ParsedCondition :=
  let length := (conditionWord text).length
  let key := conditionKey text
  if sameIgnoringCase text (ascii "if-exists") length then ⟨.ifExists, some key⟩
  else if sameIgnoringCase text (ascii "unless-exists") length then ⟨.unlessExists, some key⟩
  else if sameIgnoringCase text (ascii "CAFE") length then ⟨.cafe, some key⟩
  else if sameIgnoringCase text (ascii "GSettings") length then ⟨.gsettings, some key⟩
  else ⟨.unknown, none⟩

/-- The files below the user's configuration directory and the settings. -/
structure Environment where
  fileExists : Bytes → Bool
  hasSchema : Bytes → Bool
  getBoolean : Bytes → Bytes → Bool

/-- The condition of an application, with the file monitored for it or the schema
of its settings. -/
structure Conditional where
  conditionString : Option Bytes
  condition : Bool
  conditionMonitor : Option (ConditionKind × Bytes)
  conditionSettings : Option Bytes

/-- `g_strsplit (key, " ", 2)` when it has two parts. -/
def splitKey (key : Bytes) : Option (Bytes × Bytes) :=
  if space ∈ key then some (conditionWord key, (key.dropWhile (fun byte => byte ≠ space)).tail)
  else none

namespace Conditional

/-- `setup_gsettings_condition_monitor`. -/
def setupGsettingsMonitor (environment : Environment) (app : Conditional) (key : Bytes) :
    Conditional :=
  match splitKey key with
  | none => app
  | some (schema, _) =>
      if environment.hasSchema schema then { app with conditionSettings := some schema } else app

/-- `setup_condition_monitor`. -/
def setupConditionMonitor (environment : Environment) (disabledOutright : Bool)
    (app : Conditional) : Conditional :=
  let cleared := { app with conditionMonitor := none, conditionSettings := none }
  match app.conditionString with
  | none => cleared
  | some text =>
      if disabledOutright then cleared
      else
        let parsed := parseConditionString text
        if parsed.kind = .unknown then cleared
        else match parsed.key with
          | none => cleared
          | some key => match parsed.kind with
            | .ifExists => { cleared with conditionMonitor := some (.ifExists, key) }
            | .unlessExists => { cleared with conditionMonitor := some (.unlessExists, key) }
            | .cafe => cleared.setupGsettingsMonitor environment key
            | .gsettings => cleared.setupGsettingsMonitor environment key
            | .unknown => cleared

/-- A condition on settings, read through those of the monitor. -/
def settingsDisabled (environment : Environment) (app : Conditional) (key : Bytes) : Bool :=
  match app.conditionSettings, splitKey key with
  | some schema, some (_, name) => !environment.getBoolean schema name
  | _, _ => true

/-- `is_conditionally_disabled`. -/
def isConditionallyDisabled (environment : Environment) (app : Conditional) :
    Bool × Conditional :=
  match app.conditionString with
  | none => (false, app)
  | some text =>
      let parsed := parseConditionString text
      if parsed.kind = .unknown then (true, app)
      else match parsed.key with
        | none => (true, app)
        | some key =>
            let disabled := match parsed.kind with
              | .ifExists => !environment.fileExists key
              | .unlessExists => environment.fileExists key
              | .cafe => app.settingsDisabled environment key
              | .gsettings => app.settingsDisabled environment key
              | .unknown => true
            (disabled, { app with condition := !disabled })

/-- The application once its desktop file is loaded. -/
def loaded (environment : Environment) (disabledOutright : Bool) (text : Option Bytes) :
    Conditional :=
  setupConditionMonitor environment disabledOutright
    { conditionString := text
      condition := false
      conditionMonitor := none
      conditionSettings := none }

end Conditional

/-- `GFileMonitorEvent`, as far as the callbacks tell the events apart. -/
inductive FileMonitorEvent where
  | created
  | deleted
  | other
deriving DecidableEq

/-- What the monitor of an application says: an event of its file, or that its
key of the settings has changed. -/
inductive MonitorEvent where
  | file (event : FileMonitorEvent)
  | settings
deriving DecidableEq

namespace Conditional

/-- The condition that `if_exists_condition_cb` sees. -/
def ifExistsCondition : FileMonitorEvent → Option Bool
  | .created => some true
  | .deleted => some false
  | .other => none

/-- The condition that `unless_exists_condition_cb` sees. -/
def unlessExistsCondition : FileMonitorEvent → Option Bool
  | .created => some false
  | .deleted => some true
  | .other => none

/-- The condition that `gsettings_condition_cb` sees. -/
def gsettingsCondition (environment : Environment) (app : Conditional) : Option Bool :=
  match app.conditionSettings, app.conditionString.bind (fun text => splitKey (conditionKey text)) with
  | some schema, some (_, name) => some (environment.getBoolean schema name)
  | _, _ => none

/-- The condition the callback of the application's monitor sees, if it has one. -/
def monitoredCondition (environment : Environment) (app : Conditional) :
    MonitorEvent → Option Bool
  | .file event =>
      match app.conditionMonitor with
      | some (.ifExists, _) => ifExistsCondition event
      | some (.unlessExists, _) => unlessExistsCondition event
      | _ => none
  | .settings => app.gsettingsCondition environment

/-- The callback, with what it emits as 'condition-changed': it emits only if
the condition has changed. -/
def conditionCb (environment : Environment) (app : Conditional) (event : MonitorEvent) :
    Conditional × Option Bool :=
  match app.monitoredCondition environment event with
  | none => (app, none)
  | some condition =>
      if condition ≠ app.condition then ({ app with condition := condition }, some condition)
      else (app, none)

theorem conditionCb_changed {environment : Environment} {app : Conditional} {event : MonitorEvent}
    {condition : Bool} (changed : (app.conditionCb environment event).2 = some condition) :
    (app.conditionCb environment event).1 = { app with condition := condition } := by
  unfold conditionCb at changed ⊢
  split at changed
  · cases changed
  · split_ifs at changed with different
    cases changed
    simp [different]

theorem conditionCb_differs {environment : Environment} {app : Conditional} {event : MonitorEvent}
    {condition : Bool} (changed : (app.conditionCb environment event).2 = some condition) :
    app.condition = !condition := by
  unfold conditionCb at changed
  split at changed
  · cases changed
  · split_ifs at changed with different
    cases changed
    exact Bool.eq_not.mpr different.symm

/-- Only a condition that the desktop file has is monitored. -/
def Asked (app : Conditional) : Prop :=
  app.conditionMonitor ≠ none ∨ app.conditionSettings ≠ none → app.conditionString ≠ none

variable {environment : Environment} {app : Conditional}

theorem loaded_asked {disabledOutright : Bool} {text : Option Bytes} :
    (loaded environment disabledOutright text).Asked := by
  cases text with
  | none => simp [Asked, loaded, setupConditionMonitor]
  | some text =>
      have kept : (loaded environment disabledOutright (some text)).conditionString = some text := by
        simp only [loaded, setupConditionMonitor, setupGsettingsMonitor]
        split_ifs
        · rfl
        · rfl
        · split
          · rfl
          · split <;> first | rfl | (split <;> first | rfl | (split_ifs <;> rfl))
      exact fun _ => by simp [kept]

/-- An evaluation sets the condition and nothing else. -/
theorem isConditionallyDisabled_eq : ∃ condition,
    (app.isConditionallyDisabled environment).2 = { app with condition := condition } := by
  unfold isConditionallyDisabled
  split
  · exact ⟨_, rfl⟩
  · dsimp only
    split_ifs
    · exact ⟨_, rfl⟩
    · split <;> exact ⟨_, rfl⟩

theorem Asked.evaluated (asked : app.Asked) : (app.isConditionallyDisabled environment).2.Asked := by
  obtain ⟨condition, same⟩ := @isConditionallyDisabled_eq environment app
  rw [same]
  exact asked

/-- What a monitor reports, it reports of a condition that there is. -/
theorem Asked.of_changed {event : MonitorEvent} {condition : Bool} (asked : app.Asked)
    (changed : (app.conditionCb environment event).2 = some condition) :
    app.conditionString ≠ none := by
  apply asked
  by_contra unmonitored
  simp only [not_or, not_not] at unmonitored
  have silent : app.monitoredCondition environment event = none := by
    cases event <;> simp [monitoredCondition, gsettingsCondition, unmonitored.1, unmonitored.2]
  rw [conditionCb, silent] at changed
  cases changed

end Conditional

/-- The keywords, in the order they are tried. -/
def keywords : List (ConditionKind × Bytes) :=
  [(.ifExists, ascii "if-exists"), (.unlessExists, ascii "unless-exists"),
    (.cafe, ascii "CAFE"), (.gsettings, ascii "GSettings")]

/-- The text is a word, white space from the first space on, and a key. -/
def Reads (text word key : Bytes) : Prop :=
  ∃ blanks, text = word ++ (blanks ++ key) ∧ space ∉ word ∧
    (∀ byte ∈ blanks, isSpace byte = true) ∧
    (blanks = [] ∧ key = [] ∨ blanks.head? = some space) ∧
    ∀ byte ∈ key.head?, isSpace byte = false

/-- The grammar: a keyword in full, in upper or lower case, and its key. -/
def Accepted (text : Bytes) (kind : ConditionKind) (key : Bytes) : Prop :=
  ∃ keyword word, (kind, keyword) ∈ keywords ∧ Reads text word key ∧ lower word = lower keyword

/-- The condition is parsed by the grammar, and what the grammar does not have keeps
an application disabled and unmonitored. -/
structure FollowsGrammar (text : Bytes) : Prop where
  accepted : ∀ kind ≠ ConditionKind.unknown, ∀ key,
    parseConditionString text = ⟨kind, some key⟩ ↔ Accepted text kind key
  kinds : ∀ kind ≠ ConditionKind.unknown,
    (parseConditionString text).kind = kind ↔ ∃ key, Accepted text kind key
  others : (∀ kind key, ¬ Accepted text kind key) →
    parseConditionString text = ⟨.unknown, none⟩ ∧
      ∀ environment disabledOutright app, app.conditionString = some text →
        (Conditional.isConditionallyDisabled environment app).1 = true ∧
        (Conditional.setupConditionMonitor environment disabledOutright app).conditionMonitor = none ∧
        (Conditional.setupConditionMonitor environment disabledOutright app).conditionSettings = none

/-- The word is a proper prefix of a keyword; the empty word is one of each. -/
def Truncated (text : Bytes) : Prop :=
  ∃ kind keyword, (kind, keyword) ∈ keywords ∧
    lower (conditionWord text) <+: lower keyword ∧ lower (conditionWord text) ≠ lower keyword

variable {text word key keyword : Bytes} {kind : ConditionKind}

theorem sameIgnoringCase_iff {left right : Bytes} {count : Nat} (enough : count ≤ left.length) :
    sameIgnoringCase left right count = true ↔ lower (left.take count) <+: lower right := by
  induction count generalizing left right with
  | zero => simp [sameIgnoringCase, lower]
  | succ count ih =>
      cases left with
      | nil => simp at enough
      | cons first lefts =>
          cases right with
          | nil => simp [sameIgnoringCase, lower]
          | cons other rights =>
              have within : count ≤ lefts.length := by
                simp only [List.length_cons] at enough
                omega
              have rest : sameIgnoringCase lefts rights count = true ↔
                  lower (lefts.take count) <+: lower rights := ih within
              simp only [lower] at rest
              simp [sameIgnoringCase, lower, List.take_succ_cons, List.cons_prefix_cons, rest]

theorem take_length_conditionWord (text : Bytes) :
    text.take (conditionWord text).length = conditionWord text :=
  List.prefix_iff_eq_take.mp (List.takeWhile_prefix _) |>.symm

theorem compared_iff (text keyword : Bytes) :
    sameIgnoringCase text keyword (conditionWord text).length = true ↔
      lower (conditionWord text) <+: lower keyword := by
  have within : (conditionWord text).length ≤ text.length := (List.takeWhile_prefix _).length_le
  rw [sameIgnoringCase_iff within, take_length_conditionWord]

/-- After the word there is nothing, or a space. -/
theorem rest_cases (text : Bytes) :
    text.dropWhile (fun byte => byte ≠ space) = [] ∨
      ∃ tail, text.dropWhile (fun byte => byte ≠ space) = space :: tail := by
  have first := List.head?_dropWhile_not (fun byte => decide (byte ≠ space)) text
  cases rest : text.dropWhile (fun byte => byte ≠ space) with
  | nil => exact .inl rfl
  | cons byte tail =>
      rw [rest] at first
      have same : byte = space := by simpa using first
      exact .inr ⟨tail, by rw [same]⟩

theorem dropWhile_of_head {stop : UInt8 → Bool} {bytes : Bytes}
    (starts : ∀ byte ∈ bytes.head?, stop byte = false) : bytes.dropWhile stop = bytes := by
  cases bytes with
  | nil => rfl
  | cons byte rest => simp [starts byte (by simp)]

theorem takeWhile_of_head {stop : UInt8 → Bool} {bytes : Bytes}
    (starts : ∀ byte ∈ bytes.head?, stop byte = false) : bytes.takeWhile stop = [] := by
  cases bytes with
  | nil => rfl
  | cons byte rest => simp [starts byte (by simp)]

theorem reads_iff : Reads text word key ↔ word = conditionWord text ∧ key = conditionKey text := by
  constructor
  · intro ⟨blanks, whole, unspaced, white, start, first⟩
    have apart : ∀ byte ∈ word, decide (byte ≠ space) = true := by
      intro byte member
      exact decide_eq_true fun same => unspaced (same ▸ member)
    have stops : ∀ byte ∈ (blanks ++ key).head?, decide (byte ≠ space) = false := by
      intro byte head
      rcases start with ⟨noBlank, noKey⟩ | space
      · simp [noBlank, noKey] at head
      · rw [List.head?_append, space] at head
        simpa using (Option.mem_some_iff.mp head).symm
    have rest : text.dropWhile (fun byte => byte ≠ space) = blanks ++ key := by
      rw [whole, List.dropWhile_append_of_pos apart, dropWhile_of_head stops]
    constructor
    · rw [conditionWord, whole, List.takeWhile_append_of_pos apart, takeWhile_of_head stops,
        List.append_nil]
    · rw [conditionKey, rest, List.dropWhile_append_of_pos white, dropWhile_of_head first]
  · intro ⟨wordIs, keyIs⟩
    refine ⟨(text.dropWhile (fun byte => byte ≠ space)).takeWhile isSpace, ?_, ?_, ?_, ?_, ?_⟩
    · rw [wordIs, keyIs, conditionKey, List.takeWhile_append_dropWhile, conditionWord,
        List.takeWhile_append_dropWhile]
    · intro member
      rw [wordIs] at member
      simpa using List.mem_takeWhile_imp member
    · exact fun byte member => List.mem_takeWhile_imp member
    · rcases rest_cases text with nothing | ⟨tail, rest⟩
      · rw [keyIs, conditionKey, nothing]
        exact .inl ⟨rfl, rfl⟩
      · rw [rest]
        exact .inr rfl
    · intro byte head
      have first := List.head?_dropWhile_not isSpace (text.dropWhile (fun byte => byte ≠ space))
      rw [keyIs, conditionKey] at head
      rw [Option.mem_def.mp head] at first
      exact first

theorem accepted_iff :
    Accepted text kind key ↔
      key = conditionKey text ∧
        ∃ keyword, (kind, keyword) ∈ keywords ∧ lower (conditionWord text) = lower keyword := by
  constructor
  · intro ⟨keyword, word, listed, reads, same⟩
    obtain ⟨wordIs, keyIs⟩ := reads_iff.mp reads
    exact ⟨keyIs, keyword, listed, wordIs ▸ same⟩
  · intro ⟨keyIs, keyword, listed, same⟩
    exact ⟨keyword, conditionWord text, listed, reads_iff.mpr ⟨rfl, keyIs⟩, same⟩

/-- The keyword that is found is the first the word is a prefix of. -/
theorem parse_eq_find (text : Bytes) :
    parseConditionString text =
      match keywords.find? (fun entry => sameIgnoringCase text entry.2 (conditionWord text).length) with
      | some entry => ⟨entry.1, some (conditionKey text)⟩
      | none => ⟨.unknown, none⟩ := by
  unfold parseConditionString keywords
  simp only [List.find?_cons, List.find?_nil]
  split_ifs <;> simp_all

theorem parse_cases (text : Bytes) :
    (parseConditionString text = ⟨.unknown, none⟩ ∧
      ∀ entry ∈ keywords, ¬ lower (conditionWord text) <+: lower entry.2) ∨
    ∃ entry ∈ keywords, parseConditionString text = ⟨entry.1, some (conditionKey text)⟩ ∧
      lower (conditionWord text) <+: lower entry.2 := by
  rw [parse_eq_find]
  cases found : keywords.find?
      (fun entry => sameIgnoringCase text entry.2 (conditionWord text).length) with
  | none =>
      refine .inl ⟨rfl, fun entry listed => ?_⟩
      rw [← compared_iff]
      simpa using List.find?_eq_none.mp found entry listed
  | some entry =>
      have same : sameIgnoringCase text entry.2 (conditionWord text).length = true := by
        simpa using List.find?_some found
      exact .inr ⟨entry, List.mem_of_find?_eq_some found, rfl, (compared_iff text entry.2).mp same⟩

/-- No keyword is a prefix of another one. -/
theorem keyword_unique : ∀ entry ∈ keywords, ∀ other ∈ keywords,
    lower entry.2 <+: lower other.2 → entry = other := by
  decide

/-- An unknown condition disables the application, and nothing monitors it. -/
theorem unknown_disables (unknown : (parseConditionString text).kind = .unknown)
    (environment : Environment) (disabledOutright : Bool) (app : Conditional)
    (has : app.conditionString = some text) :
    (app.isConditionallyDisabled environment).1 = true ∧
      (app.setupConditionMonitor environment disabledOutright).conditionMonitor = none ∧
      (app.setupConditionMonitor environment disabledOutright).conditionSettings = none := by
  cases disabledOutright <;>
    simp [Conditional.isConditionallyDisabled, Conditional.setupConditionMonitor, has, unknown]

theorem follows_of_complete (complete : ¬ Truncated text) : FollowsGrammar text := by
  have whole : ∀ entry ∈ keywords, lower (conditionWord text) <+: lower entry.2 →
      lower (conditionWord text) = lower entry.2 := by
    intro entry listed starts
    by_contra shorter
    exact complete ⟨entry.1, entry.2, listed, starts, shorter⟩
  rcases parse_cases text with ⟨unknown, none_⟩ | ⟨entry, listed, parsed, starts⟩
  · have refused : ∀ kind key, ¬ Accepted text kind key := by
      intro kind key accepted
      obtain ⟨_, keyword, listed, same⟩ := accepted_iff.mp accepted
      exact none_ _ listed (same ▸ List.prefix_refl _)
    constructor
    case accepted =>
      intro kind known key
      rw [unknown]
      exact ⟨fun same => absurd (congrArg ParsedCondition.kind same).symm known,
        fun accepted => absurd accepted (refused kind key)⟩
    case kinds =>
      intro kind known
      rw [unknown]
      exact ⟨fun same => absurd same.symm known,
        fun ⟨key, accepted⟩ => absurd accepted (refused kind key)⟩
    case others =>
      intro _
      exact ⟨unknown, unknown_disables (congrArg ParsedCondition.kind unknown)⟩
  · have same := whole entry listed starts
    have only : ∀ kind keyword, (kind, keyword) ∈ keywords →
        lower (conditionWord text) = lower keyword → kind = entry.1 := by
      intro kind keyword other equal
      have full : lower keyword = lower entry.2 := equal.symm.trans same
      have prefixed : lower keyword <+: lower entry.2 := full ▸ List.prefix_refl _
      rw [← keyword_unique _ other _ listed prefixed]
    have accepted : ∀ kind key, Accepted text kind key ↔ kind = entry.1 ∧ key = conditionKey text := by
      intro kind key
      rw [accepted_iff]
      constructor
      · intro ⟨keyIs, keyword, other, equal⟩
        exact ⟨only kind keyword other equal, keyIs⟩
      · intro ⟨kindIs, keyIs⟩
        exact ⟨keyIs, entry.2, kindIs ▸ listed, same⟩
    constructor
    case accepted =>
      intro kind _ key
      rw [accepted, parsed, ParsedCondition.mk.injEq, Option.some.injEq]
      exact and_congr eq_comm eq_comm
    case kinds =>
      intro kind _
      rw [parsed]
      constructor
      · intro equal
        exact ⟨conditionKey text, (accepted _ _).mpr ⟨equal.symm, rfl⟩⟩
      · intro ⟨key, taken⟩
        exact ((accepted _ _).mp taken).1.symm
    case others =>
      intro refused
      exact absurd ((accepted _ _).mpr ⟨rfl, rfl⟩) (refused entry.1 (conditionKey text))

/-- Conditions are parsed by the grammar but for the prefixes of its keywords. -/
theorem follows_grammar_iff (text : Bytes) : FollowsGrammar text ↔ ¬ Truncated text := by
  constructor
  · intro follows ⟨kind, keyword, listed, starts, shorter⟩
    have refused : ∀ other key, ¬ Accepted text other key := by
      intro other key accepted
      obtain ⟨_, full, also, same⟩ := accepted_iff.mp accepted
      have equal := keyword_unique _ also _ listed (same ▸ starts)
      rw [Prod.mk.injEq] at equal
      exact shorter (same.trans (congrArg lower equal.2))
    have unknown := (follows.others refused).1
    rcases parse_cases text with ⟨_, none_⟩ | ⟨entry, _, parsed, _⟩
    · exact none_ _ listed starts
    · rw [parsed] at unknown
      exact absurd (congrArg ParsedCondition.key unknown) (by simp)
  · exact follows_of_complete

/-- The empty condition is taken for one on the existence of a file. -/
theorem empty_condition_accepted : ¬ FollowsGrammar [] := by
  intro follows
  obtain ⟨key, accepted⟩ := (follows.kinds .ifExists (by decide)).mp rfl
  obtain ⟨_, keyword, listed, same⟩ := accepted_iff.mp accepted
  have nonempty : ∀ entry ∈ keywords, lower entry.2 ≠ lower [] := by decide
  exact nonempty _ listed same.symm

end CafeSession.Autostart

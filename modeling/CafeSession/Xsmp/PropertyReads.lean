import Mathlib.Algebra.Order.Ring.Int
import CafeSession.Xsmp.Properties

namespace CafeSession.Xsmp

open CafeSession.Arrays CafeSession.Autostart CafeSession.Shell

/-- `CsmDesktopFile`. -/
abbrev csmDesktopFile : String := "_CSM_DesktopFile"

/-- `prop->vals[0]`. -/
def firstValue? (prop : SmProp) : Option Bytes := prop.vals.head?

/-- The first byte of `prop->vals[0].value`. -/
def firstByte? (prop : SmProp) : Option UInt8 := (firstValue? prop).bind List.head?

def upToNull (value : Bytes) : Bytes := value.takeWhile (fun byte => byte ≠ 0)

/-- `prop->vals[0].value` read as a string; the library stores a null byte after
each value. -/
def firstString? (prop : SmProp) : Option Bytes :=
  (firstByte? prop).bind (fun _ => (firstValue? prop).map upToNull)

/-- `set_description`: the address of the client, the program and the startup id. -/
def setDescription? (address : Bytes) (id : Option Bytes) (props : List SmProp) : Option Bytes :=
  match lookup SmProp.name props "Program" with
  | some prop => (firstValue? prop).map (fun value =>
      address ++ ascii " [" ++ upToNull value ++ ascii " " ++ id.getD (ascii "(null)") ++ ascii "]")
  | none => match id with
    | some id => some (address ++ ascii " [" ++ id ++ ascii "]")
    | none => some address

/-- `debug_print_property`: what it prints after the name, by the first
character of the type. -/
def debugPrintProperty? (prop : SmProp) : Option Bytes :=
  match prop.type.toList.head? with
  | some 'C' => (firstByte? prop).map (fun byte => ascii (toString byte.toNat))
  | some 'A' => (firstString? prop).map (fun value => ascii "'" ++ value ++ ascii "'")
  | some 'L' => some (prop.vals.flatMap (fun value => ascii "'" ++ upToNull value ++ ascii "' "))
  | _ => some (ascii "??? (" ++ ascii prop.type ++ ascii ")")

/-- What the session manager keeps of the client besides its startup id. -/
structure Described where
  props : List SmProp
  description : Bytes

/-- One round of the loop of `set_properties_callback`. -/
def setProperty? (address : Bytes) (id : Option Bytes) (client : Described) (prop : SmProp) :
    Option Described :=
  let props := deleteProperty client.props prop.name ++ [prop]
  (debugPrintProperty? prop).bind (fun _ =>
    if prop.name = "Program" then
      (setDescription? address id props).map (fun description => ⟨props, description⟩)
    else
      some ⟨props, client.description⟩)

def PropertyMessage.receive? (address : Bytes) (id : Option Bytes) (client : Described) :
    PropertyMessage → Option Described
  | .setProperties props => props.foldlM (setProperty? address id) client
  | .deleteProperties names => some ⟨Xsmp.deleteProperties client.props names, client.description⟩

/-- `strtoul` in base ten: the number, what follows it, and whether it is out of range. -/
def strtoul (text : Bytes) : Nat × Bytes × Bool :=
  let start := text.dropWhile (fun byte => byte = 32 || (9 ≤ byte && byte ≤ 13))
  let unsigned := if start.head? = some 45 ∨ start.head? = some 43 then start.tail else start
  let digits := unsigned.takeWhile (fun byte => 48 ≤ byte && byte ≤ 57)
  let magnitude := digits.foldl (fun number byte => number * 10 + (byte.toNat - 48)) 0
  if digits = [] then (0, text, false)
  else if 2 ^ 64 ≤ magnitude then (2 ^ 64 - 1, unsigned.drop digits.length, true)
  else if start.head? = some 45 then
    ((2 ^ 64 - magnitude) % 2 ^ 64, unsigned.drop digits.length, false)
  else (magnitude, unsigned.drop digits.length, false)

/-- `_parse_value_as_uint`. -/
def parseValueAsUint (value : Bytes) : Option UInt32 :=
  let (number, rest, outOfRange) := strtoul value
  if value = [] ∨ rest ≠ [] then none
  else if 2 ^ 32 ≤ number ∨ outOfRange then none
  else some (UInt32.ofNat number)

section Reads

variable (client : XsmpClient)

/-- `xsmp_get_restart_style_hint`. -/
def getRestartStyleHint? : Option RestartStyle :=
  match client.findProperty "RestartStyleHint" with
  | none => some .ifRunning
  | some prop =>
      if prop.type ≠ "CARD8" then some .ifRunning
      else (firstByte? prop).map (fun hint =>
        if hint = 1 then .anyway
        else if hint = 2 then .immediately
        else if hint = 3 then .never
        else .ifRunning)

/-- `xsmp_get_unix_process_id`. -/
def getUnixProcessId? : Option UInt32 :=
  match client.findProperty "ProcessID" with
  | none => some 0
  | some prop =>
      if prop.type ≠ "ARRAY8" then some 0
      else (firstString? prop).map (fun value => (parseValueAsUint value).getD 0)

/-- `get_desktop_file_path`, with the path of a URI and the search of the
autostart directories for a program. -/
def getDesktopFilePath? (pathOfUri findDesktopFile : Bytes → Option Bytes) :
    Option (Option Bytes) :=
  match client.findProperty csmDesktopFile with
  | some prop => (firstString? prop).map pathOfUri
  | none => match client.findProperty "Program" with
    | none => some none
    | some prop => (firstString? prop).map findDesktopFile

/-- `set_desktop_file_keys_from_client`. -/
def setDesktopFileKeys? (keyFile : KeyFile) : Option KeyFile :=
  let name? := match client.findProperty "Program" with
    | some prop => firstString? prop
    | none => some (ascii "Remembered Application")
  name?.map (fun name =>
    let comment := ascii "Client " ++ client.startupId ++ ascii " which was automatically saved"
    ((((keyFile.setString "Name" name).setString "Comment" comment).setString
      "Icon" (ascii "system-run")).setString "Type" (ascii "Application")).setString
        "StartupNotify" (ascii "true"))

/-- `xsmp_save`, which looks for a desktop file only when the client is to be
restarted and has told how; `loadFromFile` is what the file found holds. -/
def save? (pathOfUri findDesktopFile : Bytes → Option Bytes)
    (loadFromFile : Bytes → Except String KeyFile) : Option (Except String (Option KeyFile)) :=
  (getRestartStyleHint? client).bind (fun style =>
    if style = .never ∨ client.getRestartCommand = none then some (.ok none)
    else (getDesktopFilePath? client pathOfUri findDesktopFile).bind (fun
      | some path => some (client.save (some (loadFromFile path)))
      | none => (setDesktopFileKeys? client .empty).map (fun _ => client.save none)))

/-- Each of the reads finds what it reads, whatever it then does with it. -/
structure ReadsInside : Prop where
  restartStyle : (getRestartStyleHint? client).isSome
  processId : (getUnixProcessId? client).isSome
  save : ∀ pathOfUri findDesktopFile loadFromFile,
    (save? client pathOfUri findDesktopFile loadFromFile).isSome

end Reads

/-- The client as its constructor leaves it. -/
def Described.new (address : Bytes) : Described := ⟨[], address⟩

/-- No read finds nothing: none while a message is handled, and none between the
messages. -/
def EveryReadInside (address startupId : Bytes) : Described → List PropertyMessage → Prop
  | client, [] => ReadsInside ⟨client.props, startupId⟩
  | client, message :: rest =>
      ReadsInside ⟨client.props, startupId⟩ ∧
        ∃ next, message.receive? address (some startupId) client = some next ∧
          EveryReadInside address startupId next rest

def PropertyMessage.set : PropertyMessage → List SmProp
  | .setProperties props => props
  | .deleteProperties _ => []

/-- The reads made when a property is set find what they read. -/
structure Shown (prop : SmProp) : Prop where
  byType : prop.type.toList.head? = some 'C' ∨ prop.type.toList.head? = some 'A' →
    (firstByte? prop).isSome
  program : prop.name = "Program" → (firstValue? prop).isSome

variable {prop : SmProp} {client next : Described} {address startupId : Bytes} {id : Option Bytes}

theorem firstString?_isSome (prop : SmProp) :
    (firstString? prop).isSome ↔ (firstByte? prop).isSome := by
  unfold firstString? firstByte?
  cases firstValue? prop with
  | none => simp
  | some value => cases value <;> simp

theorem debugPrintProperty?_isSome (prop : SmProp) :
    (debugPrintProperty? prop).isSome ↔
      (prop.type.toList.head? = some 'C' ∨ prop.type.toList.head? = some 'A' →
        (firstByte? prop).isSome) := by
  unfold debugPrintProperty?
  split <;> simp_all [firstString?_isSome]

theorem setProperty?_props (set : setProperty? address id client prop = some next) :
    next.props = deleteProperty client.props prop.name ++ [prop] := by
  obtain ⟨_, _, kept⟩ := Option.bind_eq_some_iff.mp set
  split_ifs at kept
  · obtain ⟨_, _, same⟩ := Option.map_eq_some_iff.mp kept
    rw [← same]
  · cases kept
    rfl

theorem setProperty?_isSome (distinct : Distinct SmProp.name client.props) :
    (setProperty? address id client prop).isSome ↔ Shown prop := by
  have looked : lookup SmProp.name (deleteProperty client.props prop.name ++ [prop]) prop.name =
      some prop := by
    have updated := congrFun (lookup_put distinct prop) prop.name
    rwa [Function.update_self] at updated
  have described : prop.name = "Program" →
      ((setDescription? address id (deleteProperty client.props prop.name ++ [prop])).isSome ↔
        (firstValue? prop).isSome) := by
    intro program
    rw [program] at looked ⊢
    simp [setDescription?, looked]
  have printing := debugPrintProperty?_isSome prop
  cases printed : debugPrintProperty? prop with
  | none =>
      rw [printed] at printing
      constructor
      · intro set
        simp [setProperty?, printed] at set
      · intro shown
        exact absurd (printing.mpr shown.byType) (by simp)
  | some text =>
      rw [printed] at printing
      by_cases program : prop.name = "Program"
      · have set : (setProperty? address id client prop).isSome ↔ (firstValue? prop).isSome := by
          rw [← described program]
          simp [setProperty?, printed, program]
        rw [set]
        exact ⟨fun found => ⟨printing.mp rfl, fun _ => found⟩, fun shown => shown.program program⟩
      · have set : (setProperty? address id client prop).isSome := by
          simp [setProperty?, printed, program]
        exact ⟨fun _ => ⟨printing.mp rfl, fun named => absurd named program⟩, fun _ => set⟩

theorem setProperties?_isSome (props : List SmProp)
    (distinct : Distinct SmProp.name client.props) :
    (props.foldlM (setProperty? address id) client).isSome ↔ ∀ prop ∈ props, Shown prop := by
  induction props generalizing client with
  | nil => simp
  | cons prop rest ih =>
      rw [List.foldlM_cons, List.forall_mem_cons, ← setProperty?_isSome distinct]
      cases set : setProperty? address id client prop with
      | none => simp
      | some next =>
          have kept : Distinct SmProp.name next.props := by
            rw [setProperty?_props set]
            exact distinct.put prop
          simpa using ih kept

theorem setProperties?_props (props : List SmProp)
    (set : props.foldlM (setProperty? address id) client = some next) :
    next.props = setProperties client.props props := by
  induction props generalizing client with
  | nil =>
      cases set
      rfl
  | cons prop rest ih =>
      obtain ⟨middle, first, later⟩ := Option.bind_eq_some_iff.mp set
      rw [ih later, setProperty?_props first]
      rfl

theorem receive?_isSome (message : PropertyMessage)
    (distinct : Distinct SmProp.name client.props) :
    (message.receive? address id client).isSome ↔ ∀ prop ∈ message.set, Shown prop := by
  cases message with
  | setProperties props => exact setProperties?_isSome props distinct
  | deleteProperties names => simp [PropertyMessage.receive?, PropertyMessage.set]

theorem receive?_props (message : PropertyMessage)
    (received : message.receive? address id client = some next) :
    next.props = message.deliver client.props := by
  cases message with
  | setProperties props => exact setProperties?_props props received
  | deleteProperties names =>
      cases received
      rfl

section

variable {client : XsmpClient}

theorem getRestartStyleHint?_isSome (shown : ∀ prop ∈ client.props, Shown prop) :
    (getRestartStyleHint? client).isSome := by
  unfold getRestartStyleHint?
  cases found : client.findProperty "RestartStyleHint" with
  | none => rfl
  | some prop =>
      by_cases card : prop.type = "CARD8"
      · have first := (shown prop (List.mem_of_find?_eq_some found)).byType (.inl (by rw [card]; rfl))
        simpa [card] using first
      · simp [card]

theorem getUnixProcessId?_isSome (shown : ∀ prop ∈ client.props, Shown prop) :
    (getUnixProcessId? client).isSome := by
  unfold getUnixProcessId?
  cases found : client.findProperty "ProcessID" with
  | none => rfl
  | some prop =>
      by_cases array : prop.type = "ARRAY8"
      · have first := (shown prop (List.mem_of_find?_eq_some found)).byType (.inr (by rw [array]; rfl))
        simpa [array, firstString?_isSome] using first
      · simp [array]

/-- What is read inside the property is what the saved command is made from. -/
theorem getRestartStyleHint?_eq {style : RestartStyle}
    (read : getRestartStyleHint? client = some style) : client.getRestartStyleHint = style := by
  unfold getRestartStyleHint? at read
  unfold XsmpClient.getRestartStyleHint
  cases found : client.findProperty "RestartStyleHint" with
  | none => simpa [found] using read
  | some prop =>
      by_cases card : prop.type = "CARD8"
      · simp only [found, card, ne_eq, not_true_eq_false, if_false, Option.map_eq_some_iff] at read
        obtain ⟨byte, first, same⟩ := read
        obtain ⟨value, there, head⟩ := Option.bind_eq_some_iff.mp first
        have whole : prop.vals.headD [] = value := by
          rw [List.headD_eq_head?_getD, show prop.vals.head? = some value from there]
          rfl
        have start : value.headD 0 = byte := by
          rw [List.headD_eq_head?_getD, head]
          rfl
        simp only [card, ne_eq, not_true_eq_false, if_false, whole, start]
        exact same
      · simpa [found, card] using read

/-- The strings that are read without a look at the type of the property. -/
def StringsThere (client : XsmpClient) : Prop :=
  ∀ name ∈ ["Program", csmDesktopFile], ∀ prop, client.findProperty name = some prop →
    (firstByte? prop).isSome

/-- A save writes a key file for the client. -/
def Restartable (client : XsmpClient) : Prop :=
  client.getRestartStyleHint ≠ .never ∧ client.getRestartCommand ≠ none

theorem getDesktopFilePath?_isSome (there : StringsThere client)
    (pathOfUri findDesktopFile : Bytes → Option Bytes) :
    (getDesktopFilePath? client pathOfUri findDesktopFile).isSome := by
  unfold getDesktopFilePath?
  cases desktop : client.findProperty csmDesktopFile with
  | some prop => simpa [firstString?_isSome] using there csmDesktopFile (by simp) prop desktop
  | none =>
      cases program : client.findProperty "Program" with
      | none => rfl
      | some prop => simpa [firstString?_isSome] using there "Program" (by simp) prop program

theorem getDesktopFilePath?_nowhere {path : Option Bytes}
    (located : getDesktopFilePath? client (fun _ => none) (fun _ => none) = some path) :
    path = none := by
  unfold getDesktopFilePath? at located
  split at located
  · obtain ⟨_, _, nowhere⟩ := Option.map_eq_some_iff.mp located
    exact nowhere.symm
  · split at located
    · exact (Option.some.inj located).symm
    · obtain ⟨_, _, nowhere⟩ := Option.map_eq_some_iff.mp located
      exact nowhere.symm

theorem setDesktopFileKeys?_isSome (keyFile : KeyFile) :
    (setDesktopFileKeys? client keyFile).isSome ↔
      ∀ prop, client.findProperty "Program" = some prop → (firstByte? prop).isSome := by
  unfold setDesktopFileKeys?
  cases program : client.findProperty "Program" <;> simp [firstString?_isSome]

/-- The path may be found or not, so that both strings are read. -/
theorem save?_isSome (shown : ∀ prop ∈ client.props, Shown prop) :
    (∀ pathOfUri findDesktopFile loadFromFile,
      (save? client pathOfUri findDesktopFile loadFromFile).isSome) ↔
        (Restartable client → StringsThere client) := by
  obtain ⟨style, read⟩ := Option.isSome_iff_exists.mp (getRestartStyleHint?_isSome shown)
  have hint := getRestartStyleHint?_eq read
  by_cases kept : Restartable client
  · have goesOn : ¬ (style = .never ∨ client.getRestartCommand = none) := by
      rw [← hint]
      exact not_or.mpr kept
    simp only [save?, read, Option.bind_some, if_neg goesOn, kept, forall_const]
    constructor
    · intro reads name listed prop found
      have unfound := reads (fun _ => none) (fun _ => none) (fun _ => .ok .empty)
      obtain ⟨result, bound⟩ := Option.isSome_iff_exists.mp unfound
      obtain ⟨path, located, later⟩ := Option.bind_eq_some_iff.mp bound
      simp only [List.mem_cons, List.not_mem_nil, or_false] at listed
      rcases listed with rfl | rfl
      · rw [getDesktopFilePath?_nowhere located] at later
        obtain ⟨keys, made, -⟩ := Option.map_eq_some_iff.mp later
        exact (setDesktopFileKeys?_isSome .empty).mp (by rw [made]; rfl) prop found
      · rw [getDesktopFilePath?, found] at located
        obtain ⟨uri, inside, -⟩ := Option.map_eq_some_iff.mp located
        exact (firstString?_isSome prop).mp (by rw [inside]; rfl)
    · intro there pathOfUri findDesktopFile loadFromFile
      obtain ⟨path, located⟩ :=
        Option.isSome_iff_exists.mp (getDesktopFilePath?_isSome there pathOfUri findDesktopFile)
      rw [located, Option.bind_some]
      cases path with
      | some path => rfl
      | none =>
          have keys := (setDesktopFileKeys?_isSome .empty).mpr (there "Program" (by simp))
          simpa using keys
  · have leaves : style = .never ∨ client.getRestartCommand = none := by
      rw [← hint]
      exact not_not.mp fun neither => kept (not_or.mp neither)
    simp [save?, read, leaves, kept]

theorem readsInside_iff (shown : ∀ prop ∈ client.props, Shown prop) :
    ReadsInside client ↔ (Restartable client → StringsThere client) :=
  ⟨fun reads => (save?_isSome shown).mp reads.save, fun there =>
    ⟨getRestartStyleHint?_isSome shown, getUnixProcessId?_isSome shown, (save?_isSome shown).mpr there⟩⟩

end

theorem everyReadInside_iff_prefixes (messages : List PropertyMessage)
    (distinct : Distinct SmProp.name client.props) :
    EveryReadInside address startupId client messages ↔
      (∀ message ∈ messages, ∀ prop ∈ message.set, Shown prop) ∧
        ∀ heard, heard <+: messages →
          ReadsInside ⟨deliverAll client.props heard, startupId⟩ := by
  induction messages generalizing client with
  | nil => simp [EveryReadInside, deliverAll]
  | cons message rest ih =>
      have shownNow : (message.receive? address (some startupId) client).isSome ↔
          ∀ prop ∈ message.set, Shown prop := receive?_isSome message distinct
      constructor
      · intro ⟨now, next, received, later⟩
        have kept := deliver_distinct distinct message
        rw [← receive?_props message received] at kept
        obtain ⟨shown, after⟩ := (ih kept).mp later
        have first := shownNow.mp (by rw [received]; rfl)
        refine ⟨List.forall_mem_cons.mpr ⟨first, shown⟩, fun heard early => ?_⟩
        cases heard with
        | nil => exact now
        | cons other heard =>
            obtain ⟨same, early⟩ := List.cons_prefix_cons.mp early
            have reads := after heard early
            rw [receive?_props message received, ← same] at reads
            exact reads
      · intro ⟨shown, reads⟩
        obtain ⟨first, shown⟩ := List.forall_mem_cons.mp shown
        obtain ⟨next, received⟩ := Option.isSome_iff_exists.mp (shownNow.mpr first)
        have same := receive?_props message received
        have kept := deliver_distinct distinct message
        rw [← same] at kept
        refine ⟨reads [] List.nil_prefix, next, received, (ih kept).mpr ⟨shown, ?_⟩⟩
        intro heard early
        rw [same]
        exact reads (message :: heard) (List.cons_prefix_cons.mpr ⟨rfl, early⟩)

/-- A client that has sent these messages is saved with its restart command. -/
structure ToBeSaved (heard : List PropertyMessage) : Prop where
  style : ∀ prop, inForce "RestartStyleHint" (history heard) = some prop →
    prop.type = "CARD8" → firstByte? prop ≠ some 3
  command : ∃ prop, inForce "RestartCommand" (history heard) = some prop ∧
    prop.type = "LISTofARRAY8"

/-- What a client may send for no read to go wrong: the properties it sets can be
shown, and whenever it could be saved, the program and the desktop file in force
are not empty. -/
structure Sendable (messages : List PropertyMessage) : Prop where
  shown : ∀ message ∈ messages, ∀ prop ∈ message.set, Shown prop
  strings : ∀ heard, heard <+: messages → ToBeSaved heard → ∀ name ∈ ["Program", csmDesktopFile],
    ∀ prop, inForce name (history heard) = some prop → (firstByte? prop).isSome

theorem getRestartStyleHint_eq_never {client : XsmpClient} :
    client.getRestartStyleHint = .never ↔
      ∃ prop, client.findProperty "RestartStyleHint" = some prop ∧ prop.type = "CARD8" ∧
        firstByte? prop = some 3 := by
  unfold XsmpClient.getRestartStyleHint
  cases found : client.findProperty "RestartStyleHint" with
  | none => simp
  | some prop =>
      by_cases card : prop.type = "CARD8"
      · have head : (prop.vals.headD []).headD 0 = 3 ↔ firstByte? prop = some 3 := by
          unfold firstByte? firstValue?
          cases prop.vals with
          | nil => simp
          | cons value values => cases value <;> simp
        simp only [card, ne_eq, not_true_eq_false, if_false, Option.some.injEq, exists_eq_left',
          true_and, ← head]
        split_ifs <;> simp_all
      · simp [card]

theorem restartable_clientAfter (startupId : Bytes) (heard : List PropertyMessage) :
    Restartable (clientAfter startupId heard) ↔ ToBeSaved heard := by
  have style : (clientAfter startupId heard).getRestartStyleHint ≠ .never ↔
      ∀ prop, inForce "RestartStyleHint" (history heard) = some prop →
        prop.type = "CARD8" → firstByte? prop ≠ some 3 := by
    rw [ne_eq, getRestartStyleHint_eq_never, findProperty_clientAfter]
    grind
  have command : (clientAfter startupId heard).getRestartCommand ≠ none ↔
      ∃ prop, inForce "RestartCommand" (history heard) = some prop ∧
        prop.type = "LISTofARRAY8" := by
    unfold XsmpClient.getRestartCommand XsmpClient.getCommand
    rw [findProperty_clientAfter, ne_eq, Option.map_eq_none_iff]
    cases inForce "RestartCommand" (history heard) <;> simp
  exact ⟨fun kept => ⟨style.mp kept.1, command.mp kept.2⟩,
    fun saved => ⟨style.mpr saved.style, command.mpr saved.command⟩⟩

theorem mem_set_of_inForce {messages : List PropertyMessage} {name : String}
    (force : inForce name (history messages) = some prop) :
    ∃ message ∈ messages, prop ∈ message.set := by
  obtain ⟨message, member, changed⟩ := List.mem_flatMap.mp (mem_history_of_inForce force)
  cases message with
  | setProperties props =>
      exact ⟨_, member, by simpa [PropertyMessage.changes, PropertyMessage.set] using changed⟩
  | deleteProperties names => simp [PropertyMessage.changes] at changed

theorem everyReadInside_iff (address startupId : Bytes) (messages : List PropertyMessage) :
    EveryReadInside address startupId (.new address) messages ↔ Sendable messages := by
  have between : (∀ message ∈ messages, ∀ prop ∈ message.set, Shown prop) →
      ∀ heard, heard <+: messages → (ReadsInside (clientAfter startupId heard) ↔
        (ToBeSaved heard → StringsThere (clientAfter startupId heard))) := by
    intro shown heard early
    rw [← restartable_clientAfter startupId]
    apply readsInside_iff
    intro prop member
    have force := ((properties_finite_map startupId heard).2.2.1 prop).mp member
    obtain ⟨message, sent, set⟩ := mem_set_of_inForce force
    exact shown message (early.subset sent) prop set
  have start : Distinct SmProp.name (Described.new address).props := List.nodup_nil
  rw [everyReadInside_iff_prefixes messages start]
  constructor
  · intro ⟨shown, reads⟩
    refine ⟨shown, fun heard early saved name listed prop force => ?_⟩
    apply (between shown heard early).mp (reads heard early) saved name listed prop
    rw [findProperty_clientAfter, force]
  · intro sendable
    refine ⟨sendable.shown, fun heard early => ?_⟩
    apply (between sendable.shown heard early).mpr
    intro saved name listed prop found
    rw [findProperty_clientAfter] at found
    exact sendable.strings heard early saved name listed prop found

/-- A program without a value is read as soon as it is set. -/
theorem program_without_value :
    ¬ EveryReadInside [] [] (.new []) [.setProperties [⟨"Program", "ARRAY8", []⟩]] := by
  intro ⟨_, next, received, _⟩
  have outside : PropertyMessage.receive? [] (some []) (.new [])
      (.setProperties [⟨"Program", "ARRAY8", []⟩]) = none := rfl
  rw [outside] at received
  cases received

end CafeSession.Xsmp

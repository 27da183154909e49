import CafeSession.Idle.Presence
import CafeSession.Shell.Words

namespace CafeSession.Idle

open CafeSession.Shell CafeSession.Transition

/-- What the pointer to the text points at. -/
inductive StatusText where
  | null
  | text (bytes : Bytes)
  /-- memory that has been given back -/
  | released
deriving DecidableEq, Repr

/-- What is undefined to do with memory that has been given back. -/
inductive MemoryFault where
  | doubleFree
  | useAfterFree
deriving DecidableEq, Repr

/-- `g_free`, and what the pointer is worth after it. -/
def StatusText.free : StatusText → Except MemoryFault StatusText
  | .null => .ok .null
  | .text _ => .ok .released
  | .released => .error .doubleFree

structure Described where
  presence : Presence
  statusText : StatusText
  /-- the texts that 'status-text-changed' was emitted with, newest first -/
  emitted : List Bytes
  fault : Option MemoryFault
deriving DecidableEq, Repr

def maxStatusText : Nat := 140

/-- The text may be set; one that is missing is as good as an empty one. -/
def fits (statusText : Option Bytes) : Prop :=
  (statusText.getD []).length ≤ maxStatusText

instance (statusText : Option Bytes) : Decidable (fits statusText) :=
  inferInstanceAs (Decidable (_ ≤ _))

namespace Described

/-- `csm_presence_set_status_text`: what it returns, and the object after it. -/
def setStatusText (statusText : Option Bytes) (described : Described) :
    Except MemoryFault (Except String Unit × Described) :=
  described.statusText.free.map fun freed =>
    let released := { described with statusText := freed }
    match statusText with
    | some bytes =>
        if maxStatusText < bytes.length then
          (.error "Status text too long", released)
        else
          (.ok (), { released with
            statusText := .text bytes
            emitted := bytes :: released.emitted })
    | none =>
        (.ok (), { released with statusText := .text [], emitted := [] :: released.emitted })

/-- `csm_presence_get_property` of the text. -/
def getStatusText (described : Described) : Except MemoryFault (Option Bytes) :=
  match described.statusText with
  | .null => .ok none
  | .text bytes => .ok (some bytes)
  | .released => .error .useAfterFree

/-- `csm_presence_finalize`, as far as the text goes. -/
def finalize (described : Described) : Except MemoryFault Described :=
  if described.statusText ≠ .null then
    described.statusText.free.map fun _ => { described with statusText := .null }
  else
    .ok described

/-- `csm_presence_init`: before the construct properties are set, there is no text. -/
def init : Described where
  presence := .created
  statusText := .null
  emitted := []
  fault := none

/-- `csm_presence_new`; the text is set to its default. -/
def created : Described where
  presence := .created
  statusText := .text []
  emitted := [[]]
  fault := none

example : init.setStatusText (some []) = .ok (.ok (), created) := rfl

inductive Event where
  | setStatusText (statusText : Option Bytes)
  | getStatusText
  | presence (event : Presence.Event)

/-- After a fault nothing is known of the program any more. -/
def handle (described : Described) (event : Event) : Described :=
  match described.fault with
  | some _ => described
  | none =>
      match event with
      | .setStatusText statusText =>
          match described.setStatusText statusText with
          | .ok (_, after) => after
          | .error fault => { described with fault := some fault }
      | .getStatusText =>
          match described.getStatusText with
          | .ok _ => described
          | .error fault => { described with fault := some fault }
      | .presence event => { described with presence := described.presence.handle event }

end Described

/-- The text that others see, and the texts they have been told of: a text that
is refused changes neither. -/
structure Shown where
  text : Bytes
  emitted : List Bytes
deriving DecidableEq, Repr

namespace Shown

def created : Shown where
  text := []
  emitted := [[]]

def handle (shown : Shown) : Described.Event → Shown
  | .setStatusText statusText =>
      if fits statusText then ⟨statusText.getD [], statusText.getD [] :: shown.emitted⟩ else shown
  | _ => shown

end Shown

namespace Described

/-- The text is there, it is the one that was accepted last, and nothing else was announced. -/
structure Shows (described : Described) (shown : Shown) : Prop where
  unfaulted : described.fault = none
  statusText : described.statusText = .text shown.text
  emitted : described.emitted = shown.emitted

/-- The event is no text that is too long. -/
def Event.Fits : Event → Prop
  | .setStatusText statusText => fits statusText
  | _ => True

variable {described : Described} {shown : Shown} {statusText : Option Bytes}

theorem created_shows : created.Shows .created := ⟨rfl, rfl, rfl⟩

theorem Shows.accepts (shows : described.Shows shown) (fitting : fits statusText) :
    described.setStatusText statusText = .ok (.ok (),
      { described with
          statusText := .text (statusText.getD [])
          emitted := statusText.getD [] :: described.emitted }) := by
  cases statusText with
  | none => simp [setStatusText, shows.statusText, StatusText.free, Except.map]
  | some bytes =>
      have short : ¬ maxStatusText < bytes.length := Nat.not_lt.mpr fitting
      simp [setStatusText, shows.statusText, StatusText.free, Except.map, short]

/-- A text that is refused takes the old one with it, and says nothing of that. -/
theorem Shows.refuses (shows : described.Shows shown) (long : ¬ fits statusText) :
    described.setStatusText statusText =
      .ok (.error "Status text too long", { described with statusText := .released }) := by
  cases statusText with
  | none => exact absurd (Nat.zero_le _) long
  | some bytes =>
      have short : maxStatusText < bytes.length := Nat.not_le.mp long
      simp [setStatusText, shows.statusText, StatusText.free, Except.map, short]

theorem Shows.reads (shows : described.Shows shown) :
    described.getStatusText = .ok (some shown.text) := by
  rw [getStatusText, shows.statusText]

theorem Shows.finalizes (shows : described.Shows shown) :
    described.finalize = .ok { described with statusText := .null } := by
  simp [finalize, shows.statusText, StatusText.free, Except.map]

/-- Whatever is done with the text next is undefined. -/
theorem faults_of_released (released : described.statusText = .released) :
    described.setStatusText statusText = .error .doubleFree ∧
      described.getStatusText = .error .useAfterFree ∧
      described.finalize = .error .doubleFree := by
  refine ⟨?_, ?_, ?_⟩
  · simp [setStatusText, released, StatusText.free, Except.map]
  · rw [getStatusText, released]
  · simp [finalize, released, StatusText.free, Except.map]

theorem Shows.handle_refused (shows : described.Shows shown) (long : ¬ fits statusText) :
    described.handle (.setStatusText statusText) = { described with statusText := .released } := by
  simp only [handle, shows.unfaulted, shows.refuses long]

/-- One event keeps what is shown exactly if it is no text that is refused. -/
theorem Shows.handle_iff (shows : described.Shows shown) (event : Event) :
    (described.handle event).Shows (shown.handle event) ↔ event.Fits := by
  cases event with
  | setStatusText statusText =>
      by_cases fitting : fits statusText
      · refine iff_of_true ?_ fitting
        simp only [handle, shows.unfaulted, shows.accepts fitting, Shown.handle, if_pos fitting]
        exact ⟨rfl, rfl, by rw [shows.emitted]⟩
      · refine iff_of_false ?_ fitting
        rw [shows.handle_refused fitting]
        intro after
        cases after.statusText
  | getStatusText =>
      refine iff_of_true ?_ trivial
      simp only [handle, shows.unfaulted, shows.reads]
      exact shows
  | presence event =>
      refine iff_of_true ?_ trivial
      simp only [handle, shows.unfaulted]
      exact ⟨rfl, shows.statusText, shows.emitted⟩

end Described

/-- The presence object beside what is to be shown of it. -/
def describedSystem : System (Described × Shown) Described.Event where
  initial state := state = (.created, .created)
  step state event := some (state.1.handle event, state.2.handle event)

theorem describedSystem_run (state : Described × Shown) (events : List Described.Event) :
    ∃ finish, describedSystem.run state events = some finish := by
  induction events generalizing state with
  | nil => exact ⟨state, rfl⟩
  | cons event events ih => exact ih _

/-- The text is always the one accepted last, exactly as long as no text that
is too long is set. -/
theorem status_text_kept_iff (events : List Described.Event) :
    describedSystem.Always (fun state => state.1.Shows state.2) (.created, .created) events ↔
      ∀ event ∈ events, event.Fits := by
  obtain ⟨finish, run⟩ := describedSystem_run (.created, .created) events
  rw [← System.meets_iff_forall run]
  refine System.always_iff_meets (fun _ => True) (fun state => state.1.Shows state.2)
    (fun _ _ _ _ _ => trivial) ?_ run trivial Described.created_shows
  intro before event after _ shows stepped
  cases stepped
  exact shows.handle_iff event

/-- A text of 141 bytes. -/
def longText : Option Bytes := some (List.replicate 141 97)

theorem longText_refused : ¬ fits longText := by
  simp [fits, longText, maxStatusText]

/-- The text that was there is gone, and the next one gives its memory back again. -/
theorem refused_text_released :
    (Described.created.setStatusText longText = .ok (.error "Status text too long",
      { Described.created with statusText := .released })) ∧
    ((Described.created.handle (.setStatusText longText)).handle
      (.setStatusText (some []))).fault = some .doubleFree ∧
    ¬ describedSystem.Always (fun state => state.1.Shows state.2) (.created, .created)
      [.setStatusText longText] := by
  have shows := Described.created_shows
  have handled := shows.handle_refused longText_refused
  refine ⟨shows.refuses longText_refused, by rw [handled]; rfl, ?_⟩
  intro always
  have text := (always.2 _ rfl).statusText
  rw [handled] at text
  cases text

end CafeSession.Idle

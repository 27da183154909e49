import CafeSession.Manager.Requests
import CafeSession.Transition.System

namespace CafeSession.Manager

open CafeSession.Transition

/-- A `CsmLogoutDialog` that is open. -/
structure OpenDialog where
  /-- its place among the dialogs there have been -/
  serial : Nat
  type : LogoutDialog
  timeout : Int
  /-- the GLib source, or 0 -/
  timeoutId : Nat
  /-- the seconds in the text of the progress bar, which is hidden without them -/
  text : Option Int
  /-- the logout-timeout that was found when the dialog was shown -/
  setting : Int
  /-- the seconds that have gone by since -/
  ticks : Nat
deriving DecidableEq

/-- An answer that has been given. -/
structure Given where
  dialog : OpenDialog
  response : LogoutResponse
  /-- by the dialog itself -/
  automatic : Bool
deriving DecidableEq

/-- The dialogs of the process, with the GLib timeouts that call them. -/
structure Desk where
  /-- `current_dialog` -/
  current : Option OpenDialog
  created : Nat
  /-- the sources that are attached, each with the serial of the dialog it calls -/
  sources : List (Nat × Nat)
  nextSource : Nat
  /-- newest first -/
  given : List Given
  /-- a timeout has called a dialog that is gone -/
  dangling : Bool

namespace OpenDialog

/-- `csm_logout_dialog_timeout`: the answer it gives, or the dialog it leaves. -/
def timeoutCallback (dialog : OpenDialog) : LogoutResponse ⊕ OpenDialog :=
  if dialog.timeout = 0 then .inl dialog.type.defaultResponse
  else .inr { dialog with text := some dialog.timeout, timeout := dialog.timeout - 1 }

end OpenDialog

namespace Desk

def start : Desk where
  current := none
  created := 0
  sources := []
  nextSource := 1
  given := []
  dangling := false

/-- `g_source_remove`. -/
def sourceRemove (desk : Desk) (id : Nat) : Desk :=
  { desk with sources := desk.sources.filter (fun source => source.1 ≠ id) }

/-- `csm_logout_dialog_destroy`. -/
def destroy (desk : Desk) (dialog : OpenDialog) : Desk :=
  let stopped := if dialog.timeoutId ≠ 0 then desk.sourceRemove dialog.timeoutId else desk
  { stopped with current := none }

/-- `csm_get_dialog`: a dialog that is still open is destroyed. -/
def getDialog (desk : Desk) (type : LogoutDialog) : Desk :=
  let cleared := match desk.current with
    | some dialog => desk.destroy dialog
    | none => desk
  { cleared with
    current := some ⟨cleared.created, type, 0, 0, none, 0, 0⟩
    created := cleared.created + 1 }

/-- `csm_logout_dialog_set_timeout`, when the dialog is shown. -/
def setTimeout (desk : Desk) (dialog : OpenDialog) (setting : Int) : Desk :=
  let set := { dialog with timeout := setting, setting := setting, ticks := 0 }
  if 0 < setting then
    -- the first call only sets the text: it cannot answer with seconds left
    match set.timeoutCallback with
    | .inl _ => desk
    | .inr counting =>
        let cleared :=
          if counting.timeoutId ≠ 0 then desk.sourceRemove counting.timeoutId else desk
        { cleared with
          current := some { counting with timeoutId := cleared.nextSource }
          sources := (cleared.nextSource, counting.serial) :: cleared.sources
          nextSource := cleared.nextSource + 1 }
  else
    { desk with current := some { set with text := none } }

/-- The response handler of the session manager destroys the dialog. -/
def respond (desk : Desk) (dialog : OpenDialog) (response : LogoutResponse) (automatic : Bool) :
    Desk :=
  { desk with given := ⟨dialog, response, automatic⟩ :: desk.given }.destroy dialog

/-- A source fires: it stays if the callback says so. -/
def fire (desk : Desk) (id serial : Nat) : Desk :=
  match desk.current with
  | some dialog =>
      if dialog.serial = serial then
        let counted := { dialog with ticks := dialog.ticks + 1 }
        match counted.timeoutCallback with
        | .inl response => (desk.respond counted response true).sourceRemove id
        | .inr counting => { desk with current := some counting }
      else { desk with dangling := true }
  | none => { desk with dangling := true }

end Desk

inductive DeskEvent where
  /-- a dialog is made and shown, with this logout-timeout -/
  | shown (type : LogoutDialog) (setting : Int)
  | answered (response : LogoutResponse)
  /-- a second has gone by for this source -/
  | ticked (id : Nat)
deriving DecidableEq

namespace Desk

def step (desk : Desk) : DeskEvent → Option Desk
  | .shown type setting =>
      let made := desk.getDialog type
      made.current.map (fun dialog => made.setTimeout dialog setting)
  | .answered response =>
      desk.current.map (fun dialog => desk.respond dialog response false)
  | .ticked id =>
      (desk.sources.find? (fun source => source.1 = id)).map (fun source => desk.fire id source.2)

end Desk

def deskSystem : System Desk DeskEvent where
  initial desk := desk = .start
  step := Desk.step

namespace OpenDialog

/-- The dialog counts down from its setting, if that is positive. -/
structure Counts (dialog : OpenDialog) : Prop where
  running : 0 < dialog.setting → dialog.timeoutId ≠ 0 ∧
    dialog.timeout = dialog.setting - dialog.ticks - 1 ∧
    dialog.text = some (dialog.setting - dialog.ticks) ∧ (dialog.ticks : Int) < dialog.setting
  idle : dialog.setting ≤ 0 → dialog.timeoutId = 0 ∧ dialog.text = none

/-- The sources that the dialog has. -/
def sources (dialog : OpenDialog) : List (Nat × Nat) :=
  if dialog.timeoutId ≠ 0 then [(dialog.timeoutId, dialog.serial)] else []

end OpenDialog

/-- An answer that the dialog gave by itself came when the seconds had run out. -/
def Given.Due (given : Given) : Prop :=
  given.automatic = true → given.response = given.dialog.type.defaultResponse ∧
    0 < given.dialog.setting ∧ (given.dialog.ticks : Int) = given.dialog.setting

structure Desk.Fair (desk : Desk) : Prop where
  safe : desk.dangling = false
  sources : desk.sources = (desk.current.map OpenDialog.sources).getD []
  ids : 0 < desk.nextSource ∧ ∀ source ∈ desk.sources, source.1 < desk.nextSource
  counts : ∀ dialog ∈ desk.current, dialog.Counts
  due : ∀ given ∈ desk.given, given.Due
  once : (desk.given.map (fun given => given.dialog.serial)).Nodup
  older : ∀ given ∈ desk.given, given.dialog.serial < desk.created
  pending : ∀ dialog ∈ desk.current, dialog.serial < desk.created ∧
    ∀ given ∈ desk.given, given.dialog.serial ≠ dialog.serial

namespace Desk

variable {desk : Desk} {dialog : OpenDialog}

theorem sourceRemove_eq (attached : desk.sources = dialog.sources) :
    desk.sourceRemove dialog.timeoutId = { desk with sources := [] } := by
  have none_left : desk.sources.filter (fun source => source.1 ≠ dialog.timeoutId) = [] := by
    rw [attached, OpenDialog.sources]
    split_ifs <;> simp
  rw [sourceRemove, none_left]

theorem Fair.attached (fair : desk.Fair) (opened : desk.current = some dialog) :
    desk.sources = dialog.sources := by
  rw [fair.sources, opened, Option.map_some, Option.getD_some]

/-- A dialog that is destroyed takes its timeout with it. -/
theorem destroy_eq (attached : desk.sources = dialog.sources) {gone : OpenDialog}
    (same : gone.timeoutId = dialog.timeoutId) :
    desk.destroy gone = { desk with sources := [], current := none } := by
  unfold destroy
  rw [same]
  split_ifs with counting
  · rw [sourceRemove_eq attached]
  · rw [OpenDialog.sources, if_neg counting] at attached
    rw [← attached]

theorem Fair.getDialog_eq (fair : desk.Fair) (type : LogoutDialog) :
    desk.getDialog type = { desk with
      sources := []
      current := some ⟨desk.created, type, 0, 0, none, 0, 0⟩
      created := desk.created + 1 } := by
  unfold getDialog
  cases opened : desk.current with
  | some dialog =>
      simp only
      rw [destroy_eq (fair.attached opened) rfl]
  | none =>
      have attached := fair.sources
      rw [opened, Option.map_none, Option.getD_none] at attached
      simp only
      rw [attached]

/-- The dialog that is shown has one timeout if its setting is positive. -/
theorem Fair.shown_eq (fair : desk.Fair) (type : LogoutDialog) (setting : Int) :
    desk.step (.shown type setting) = some (
      if 0 < setting then { desk with
        current := some ⟨desk.created, type, setting - 1, desk.nextSource, some setting, setting, 0⟩
        created := desk.created + 1
        sources := [(desk.nextSource, desk.created)]
        nextSource := desk.nextSource + 1 }
      else { desk with
        sources := []
        current := some ⟨desk.created, type, setting, 0, none, setting, 0⟩
        created := desk.created + 1 }) := by
  simp only [step, fair.getDialog_eq, Option.map_some, Option.some.injEq]
  unfold setTimeout
  by_cases positive : 0 < setting
  · have some_left : ¬ setting = 0 := by omega
    rw [if_pos positive, if_pos positive, OpenDialog.timeoutCallback, if_neg some_left]
    rfl
  · rw [if_neg positive, if_neg positive]

theorem Fair.shown {after : Desk} (fair : desk.Fair) {type : LogoutDialog} {setting : Int}
    (stepped : desk.step (.shown type setting) = some after) : after.Fair := by
  rw [fair.shown_eq, Option.some.injEq] at stepped
  obtain ⟨safe, _, ⟨positive_id, _⟩, _, due, once, older, _⟩ := fair
  have earlier : ∀ given ∈ desk.given, given.dialog.serial < desk.created + 1 :=
    fun given member => Nat.lt_succ_of_lt (older given member)
  have apart : ∀ given ∈ desk.given, given.dialog.serial ≠ desk.created :=
    fun given member => Nat.ne_of_lt (older given member)
  split_ifs at stepped with positive
  · cases stepped
    refine ⟨safe, ?_, ⟨Nat.succ_pos _, ?_⟩, ?_, due, once, earlier, ?_⟩
    · have proper : desk.nextSource ≠ 0 := Nat.ne_of_gt positive_id
      simp [OpenDialog.sources, proper]
    · intro source member
      cases List.mem_singleton.mp member
      exact Nat.lt_succ_self _
    · intro dialog member
      cases member
      refine ⟨fun _ => ⟨Nat.ne_of_gt positive_id, ?_, ?_, ?_⟩, fun idle =>
        absurd positive (Int.not_lt.mpr idle)⟩
      · simp
      · simp
      · exact positive
    · intro dialog member
      cases member
      exact ⟨Nat.lt_succ_self _, apart⟩
  · cases stepped
    refine ⟨safe, rfl, ⟨positive_id, ?_⟩, ?_, due, once, earlier, ?_⟩
    · intro source absurd
      cases absurd
    · intro dialog member
      cases member
      exact ⟨fun absurd => (positive absurd).elim, fun _ => ⟨rfl, rfl⟩⟩
    · intro dialog member
      cases member
      exact ⟨Nat.lt_succ_self _, apart⟩

theorem Fair.respond_eq (fair : desk.Fair) (opened : desk.current = some dialog)
    (answering : OpenDialog) (same : answering.timeoutId = dialog.timeoutId)
    (response : LogoutResponse) (automatic : Bool) :
    desk.respond answering response automatic = { desk with
      given := ⟨answering, response, automatic⟩ :: desk.given
      sources := []
      current := none } := by
  have attached : ({ desk with given := ⟨answering, response, automatic⟩ :: desk.given } :
      Desk).sources = dialog.sources := fair.attached opened
  exact destroy_eq attached same

/-- An answer closes the dialog, and is the only one of it. -/
theorem Fair.responded (fair : desk.Fair) (opened : desk.current = some dialog)
    (answering : OpenDialog) (same : answering.serial = dialog.serial) {response : LogoutResponse}
    {automatic : Bool} (due : (Given.mk answering response automatic).Due) :
    Desk.Fair { desk with
      given := ⟨answering, response, automatic⟩ :: desk.given
      sources := []
      current := none } := by
  obtain ⟨safe, _, ⟨positive_id, _⟩, _, earlier, once, older, pending⟩ := fair
  obtain ⟨made, apart⟩ := pending dialog opened
  refine ⟨safe, rfl, ⟨positive_id, ?_⟩, ?_, ?_, ?_, ?_, ?_⟩
  · intro source absurd
    cases absurd
  · intro dialog absurd
    cases absurd
  · exact List.forall_mem_cons.mpr ⟨due, earlier⟩
  · refine List.nodup_cons.mpr ⟨?_, once⟩
    intro member
    obtain ⟨given, old, equal⟩ := List.mem_map.mp member
    exact apart given old (equal.trans same)
  · refine List.forall_mem_cons.mpr ⟨?_, older⟩
    change answering.serial < desk.created
    rw [same]
    exact made
  · intro dialog absurd
    cases absurd

theorem Fair.answered {after : Desk} (fair : desk.Fair) {response : LogoutResponse}
    (stepped : desk.step (.answered response) = some after) : after.Fair := by
  obtain ⟨dialog, opened, rfl⟩ := Option.map_eq_some_iff.mp stepped
  rw [fair.respond_eq opened dialog rfl]
  exact fair.responded opened dialog rfl Bool.noConfusion

/-- A tick answers when the seconds have run out, and counts on otherwise. -/
theorem Fair.ticked_eq (fair : desk.Fair) {id : Nat} {after : Desk}
    (stepped : desk.step (.ticked id) = some after) :
    ∃ dialog, desk.current = some dialog ∧ dialog.timeoutId = id ∧ 0 < dialog.setting ∧
      after = if (dialog.ticks : Int) + 1 = dialog.setting then { desk with
          given := ⟨{ dialog with ticks := dialog.ticks + 1 }, dialog.type.defaultResponse, true⟩ ::
            desk.given
          sources := []
          current := none }
        else { desk with current := some { dialog with
          ticks := dialog.ticks + 1
          text := some dialog.timeout
          timeout := dialog.timeout - 1 } } := by
  obtain ⟨source, found, rfl⟩ := Option.map_eq_some_iff.mp stepped
  have member := List.mem_of_find?_eq_some found
  have named : source.1 = id := by simpa using List.find?_some found
  cases opened : desk.current with
  | none =>
      rw [fair.sources, opened] at member
      cases member
  | some dialog =>
      have attached := fair.attached opened
      have counting : dialog.timeoutId ≠ 0 := by
        intro none_left
        rw [attached, OpenDialog.sources, if_neg (not_not_intro none_left)] at member
        cases member
      rw [attached, OpenDialog.sources, if_pos counting, List.mem_singleton] at member
      have counts := fair.counts dialog opened
      have positive : 0 < dialog.setting := by
        by_contra negative
        exact counting (counts.idle (Int.not_lt.mp negative)).1
      obtain ⟨_, timeout, _, _⟩ := counts.running positive
      have id_eq : dialog.timeoutId = id := by rw [← named, member]
      refine ⟨dialog, rfl, id_eq, positive, ?_⟩
      rw [fire, opened]
      simp only [member, if_true]
      rw [OpenDialog.timeoutCallback]
      by_cases last : (dialog.ticks : Int) + 1 = dialog.setting
      · have zero : dialog.timeout = 0 := by omega
        rw [if_pos last, if_pos zero]
        simp only
        rw [fair.respond_eq opened { dialog with ticks := dialog.ticks + 1 } rfl]
        rfl
      · have some_left : ¬ dialog.timeout = 0 := by omega
        rw [if_neg last, if_neg some_left]

theorem Fair.ticked {after : Desk} (fair : desk.Fair) {id : Nat}
    (stepped : desk.step (.ticked id) = some after) : after.Fair := by
  obtain ⟨dialog, opened, _, positive, result⟩ := fair.ticked_eq stepped
  rw [result]
  split_ifs with last
  · refine fair.responded opened { dialog with ticks := dialog.ticks + 1 } rfl ?_
    intro _
    refine ⟨rfl, positive, ?_⟩
    push_cast
    exact last
  · obtain ⟨safe, sources, ids, counts, due, once, older, pending⟩ := fair
    obtain ⟨counting, timeout, text, left⟩ := (counts dialog opened).running positive
    refine ⟨safe, ?_, ids, ?_, due, once, older, ?_⟩
    · rw [opened] at sources
      exact sources
    · intro other member
      cases member
      refine ⟨fun _ => ⟨counting, ?_, ?_, ?_⟩, fun idle => absurd positive (Int.not_lt.mpr idle)⟩
      · push_cast
        omega
      · push_cast
        rw [timeout]
        congr 1
        omega
      · push_cast
        omega
    · intro other member
      cases member
      exact pending dialog opened

theorem Fair.step {after : Desk} (fair : desk.Fair) {event : DeskEvent}
    (stepped : desk.step event = some after) : after.Fair := by
  cases event with
  | shown type setting => exact fair.shown stepped
  | answered response => exact fair.answered stepped
  | ticked id => exact fair.ticked stepped

theorem fair_start : start.Fair := by
  refine ⟨rfl, rfl, ⟨Nat.one_pos, ?_⟩, ?_, ?_, .nil, ?_, ?_⟩
  · intro source absurd
    cases absurd
  · intro dialog absurd
    cases absurd
  · intro given absurd
    cases absurd
  · intro given absurd
    cases absurd
  · intro dialog absurd
    cases absurd

theorem fair_reached (reached : deskSystem.Reachable desk) : desk.Fair := by
  induction reached with
  | initial start =>
      cases start
      exact fair_start
  | step reached _ stepped fair => exact fair.step stepped

theorem Fair.can_tick (fair : desk.Fair) (opened : desk.current = some dialog)
    (positive : 0 < dialog.setting) : ∃ after, desk.step (.ticked dialog.timeoutId) = some after := by
  obtain ⟨counting, _⟩ := (fair.counts dialog opened).running positive
  refine ⟨desk.fire dialog.timeoutId dialog.serial, ?_⟩
  rw [Desk.step, fair.attached opened, OpenDialog.sources, if_pos counting]
  simp

/-- So many ticks of the one timeout, before the seconds have run out. -/
theorem Fair.counts_down (fair : desk.Fair) (opened : desk.current = some dialog)
    (positive : 0 < dialog.setting) (fresh : dialog.ticks = 0) (count : Nat) :
    (count : Int) < dialog.setting →
    ∃ after counting, deskSystem.run desk (List.replicate count (.ticked dialog.timeoutId)) =
        some after ∧ after.Fair ∧ after.current = some counting ∧ after.given = desk.given ∧
      counting.setting = dialog.setting ∧ counting.timeoutId = dialog.timeoutId ∧
      counting.type = dialog.type ∧ counting.ticks = count := by
  induction count with
  | zero => exact fun _ => ⟨desk, dialog, rfl, fair, opened, rfl, rfl, rfl, rfl, fresh⟩
  | succ count ih =>
      intro left
      obtain ⟨before, counting, ran, fair, current, given, setting, id, type, ticks⟩ :=
        ih (by push_cast at left; omega)
      have positive_left : 0 < counting.setting := by rw [setting]; exact positive
      obtain ⟨after, stepped⟩ := fair.can_tick current positive_left
      obtain ⟨other, same, _, _, result⟩ := fair.ticked_eq stepped
      cases current.symm.trans same
      have more : ¬ (counting.ticks : Int) + 1 = counting.setting := by
        push_cast at left
        omega
      rw [if_neg more] at result
      refine ⟨after, { counting with
        ticks := counting.ticks + 1
        text := some counting.timeout
        timeout := counting.timeout - 1 }, ?_, fair.step stepped, ?_, ?_, setting, id, type, ?_⟩
      · rw [List.replicate_succ', System.run_append, ran, Option.bind_some, System.run_cons,
          ← id]
        exact congrArg (Option.bind · _) stepped
      · rw [result]
      · rw [result]
        exact given
      · exact congrArg (· + 1) ticks

/-- The tick that ends the last second. -/
theorem Fair.runs_out (fair : desk.Fair) (opened : desk.current = some dialog)
    (positive : 0 < dialog.setting) (fresh : dialog.ticks = 0) :
    ∃ after answering, deskSystem.run desk
        (List.replicate dialog.setting.toNat (.ticked dialog.timeoutId)) = some after ∧
      after.current = none ∧
      after.given = ⟨answering, dialog.type.defaultResponse, true⟩ :: desk.given := by
  obtain ⟨count, seconds⟩ : ∃ count : Nat, dialog.setting = count + 1 :=
    ⟨(dialog.setting - 1).toNat, by omega⟩
  obtain ⟨before, counting, ran, counted, current, given, setting, id, type, ticks⟩ :=
    fair.counts_down opened positive fresh count (by omega)
  have left : 0 < counting.setting := by rw [setting]; exact positive
  obtain ⟨after, stepped⟩ := counted.can_tick current left
  obtain ⟨other, same, _, _, result⟩ := counted.ticked_eq stepped
  cases current.symm.trans same
  have last : (counting.ticks : Int) + 1 = counting.setting := by
    rw [ticks, setting]
    exact seconds.symm
  have length : dialog.setting.toNat = count + 1 := by omega
  rw [if_pos last] at result
  refine ⟨after, { counting with ticks := counting.ticks + 1 }, ?_, ?_, ?_⟩
  · rw [length, List.replicate_succ', System.run_append, ran, Option.bind_some, System.run_cons,
      ← id]
    exact congrArg (Option.bind · _) stepped
  · rw [result]
  · rw [result, ← given, ← type]

end Desk

/-- In every run of dialogs that are opened, one in place of another, answered and
counted down, with any logout-timeouts: no timeout calls a dialog that is gone, no
more than one is attached, each dialog is answered once at most, and by itself only
with its default response and just when its seconds have run out.  A dialog shown
with a positive timeout says after each tick how many seconds are left, and at the
last one answers; with any other timeout it never does. -/
theorem countdown_fair {desk : Desk} (reached : deskSystem.Reachable desk) :
    desk.dangling = false ∧ desk.sources.length ≤ 1 ∧ (∀ given ∈ desk.given, given.Due) ∧
    (desk.given.map (fun given => given.dialog.serial)).Nodup ∧
    ∀ type setting opened, desk.step (.shown type setting) = some opened →
      (0 < setting → ∃ id,
        (∀ count : Nat, (count : Int) < setting → ∃ after dialog,
          deskSystem.run opened (List.replicate count (.ticked id)) = some after ∧
          after.current = some dialog ∧ dialog.text = some (setting - count) ∧
          after.given = desk.given) ∧
        ∃ after dialog, deskSystem.run opened (List.replicate setting.toNat (.ticked id)) =
          some after ∧ after.current = none ∧
          after.given = ⟨dialog, type.defaultResponse, true⟩ :: desk.given) ∧
      (setting ≤ 0 → ∀ id, opened.step (.ticked id) = none) := by
  have fair := Desk.fair_reached reached
  refine ⟨fair.safe, ?_, fair.due, fair.once, ?_⟩
  · rw [fair.sources]
    cases desk.current with
    | none => exact Nat.zero_le 1
    | some dialog =>
        rw [Option.map_some, Option.getD_some, OpenDialog.sources]
        split_ifs
        · exact Nat.le_refl 1
        · exact Nat.zero_le 1
  · intro type setting opened stepped
    have shown := fair.shown stepped
    rw [fair.shown_eq, Option.some.injEq] at stepped
    constructor
    · intro positive
      rw [if_pos positive] at stepped
      cases stepped
      refine ⟨desk.nextSource, ?_, ?_⟩
      · intro count left
        obtain ⟨after, dialog, ran, counted, current, given, same, _, _, ticks⟩ :=
          shown.counts_down rfl positive rfl count left
        have running := (counted.counts dialog current).running (by rw [same]; exact positive)
        refine ⟨after, dialog, ran, current, ?_, given⟩
        rw [running.2.2.1, same, ticks]
      · exact shown.runs_out rfl positive rfl
    · intro never id
      rw [if_neg (Int.not_lt.mpr never)] at stepped
      cases stepped
      rfl

/-- With the timeout of a minute the computer is shut down at the sixtieth tick. -/
theorem shutdown_counts_down :
    ∃ opened id after dialog, Desk.start.step (.shown .shutdown 60) = some opened ∧
      deskSystem.run opened (List.replicate 60 (.ticked id)) = some after ∧
      after.given = [⟨dialog, .shutdown, true⟩] := by
  obtain ⟨opened, stepped⟩ : ∃ opened, Desk.start.step (.shown .shutdown 60) = some opened :=
    ⟨_, rfl⟩
  obtain ⟨_, _, _, _, countdown⟩ := countdown_fair (.initial rfl)
  obtain ⟨id, _, after, dialog, ran, _, given⟩ :=
    (countdown .shutdown 60 opened stepped).1 (by decide)
  exact ⟨opened, id, after, dialog, stepped, ran, given⟩

end CafeSession.Manager

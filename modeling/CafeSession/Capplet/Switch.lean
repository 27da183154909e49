import CafeSession.Autostart.Disabled
import CafeSession.Capplet.Editing

namespace CafeSession.Capplet

open CafeSession.Autostart (Installed Spelled isDisabled not_isDisabled_iff)
open CafeSession.Transition

variable {environment : Environment} {languages : List String} {key : String}

theorem Field.not_mem_keys (plain : stem key = key.toList) {field : Field}
    (other : field.key ≠ key) : key ∉ field.keys languages := by
  intro member
  have same := (Field.stem_of_mem_keys member).symm.trans plain
  exact other (String.toList_injective same)

/-- A key without a field has kept its value. -/
theorem OnlyEdited.untouched {edited pending : SaveMask} {original keyFile : KeyFile} {app : App}
    (only : OnlyEdited languages edited pending original app keyFile)
    (plain : stem key = key.toList) (fieldless : ∀ field : Field, field.key ≠ key) :
    keyFile.getString key = original.getString key :=
  only.others key (fun field _ => Field.not_mem_keys plain (fieldless field))

/-- A field that was not edited reads as before. -/
theorem OnlyEdited.unedited {edited pending : SaveMask} {original keyFile : KeyFile} {app : App}
    {field : Field} (only : OnlyEdited languages edited pending original app keyFile)
    (kept : edited.has field = false) :
    field.Reads languages app keyFile ↔ field.Reads languages app original := by
  apply Field.reads_congr
  intro key own
  refine only.others key (fun other isEdited member => ?_)
  have same := (Field.stem_of_mem_keys member).symm.trans own
  rw [Field.key_injective (String.toList_injective same), kept] at isEdited
  cases isEdited

namespace Editing

/-- The two switches of an app: whether it is deleted, and whether it is enabled. -/
def isSwitch : Field → Bool
  | .hidden | .enabled => true
  | _ => false

/-- A switch that was not edited is as in the original. -/
def Kept (languages : List String) (state : Editing) : Prop :=
  ∀ field, isSwitch field = true → state.edited.has field = false →
    field.Reads languages state.app state.original

theorem Kept.finish {state : Editing} (kept : state.Kept languages) {edit : Edit}
    {result : App × List Effect}
    (hidden : (edit.fields state.app).hidden = false → result.1.hidden = state.app.hidden)
    (enabled : (edit.fields state.app).enabled = false → result.1.enabled = state.app.enabled) :
    (state.finish edit result).Kept languages := by
  intro field switch unedited
  have both : (state.edited.has field || (edit.fields state.app).has field) = false :=
    (SaveMask.has_or ..).symm.trans unedited
  obtain ⟨before, now⟩ := Bool.or_eq_false_iff.mp both
  have same := kept field switch before
  cases field with
  | hidden => exact Eq.trans same (hidden now).symm
  | enabled => exact Eq.trans same (enabled now).symm
  | _ => cases switch

theorem queueSave_switches (app : App) :
    (app.queueSave environment).hidden = app.hidden ∧
      (app.queueSave environment).enabled = app.enabled := by
  unfold App.queueSave
  split_ifs <;> exact ⟨rfl, rfl⟩

theorem update_switches (app : App) (name comment exec : Option String) (delay : UInt32) :
    (app.update environment name comment exec delay).hidden = app.hidden ∧
      (app.update environment name comment exec delay).enabled = app.enabled := by
  unfold App.update
  dsimp only
  split
  · exact queueSave_switches _
  · exact ⟨rfl, rfl⟩

theorem setEnabled_switches (app : App) (enabled : Bool) :
    (app.setEnabled environment enabled).hidden = app.hidden ∧
      (enabled = app.enabled → (app.setEnabled environment enabled).enabled = app.enabled) := by
  unfold App.setEnabled
  split_ifs with same
  · exact ⟨rfl, fun _ => rfl⟩
  · exact ⟨(queueSave_switches _).1, fun absurd => (same absurd).elim⟩

theorem delete_enabled (app : App) (disk : Disk) :
    (app.delete environment disk).1.enabled = app.enabled := by
  unfold App.delete
  dsimp only
  split
  · rfl
  · exact (queueSave_switches _).2

theorem save_switches (app : App) (disk : Disk) (systemDir : Option String) :
    (app.save environment disk systemDir).1.hidden = app.hidden ∧
      (app.save environment disk systemDir).1.enabled = app.enabled := by
  unfold App.save
  split
  · exact ⟨rfl, rfl⟩
  · split_ifs <;> exact ⟨rfl, rfl⟩

theorem dispose_switches (app : App) (disk : Disk) (systemDir : Option String) :
    (app.dispose environment disk systemDir).1.hidden = app.hidden ∧
      (app.dispose environment disk systemDir).1.enabled = app.enabled := by
  unfold App.dispose
  split_ifs
  · exact save_switches ..
  · exact ⟨rfl, rfl⟩

/-- Every edit finishes with what an operation makes of the app, and the switches that it gives
no value to stay as they are. -/
theorem step_finishes {before after : Editing} {edit : Edit}
    (stepped : before.step environment edit = some after) :
    ∃ result closed saved,
      after = { before.finish edit result with closed := closed, saved := saved } ∧
        ((edit.fields before.app).hidden = false → result.1.hidden = before.app.hidden) ∧
        ((edit.fields before.app).enabled = false → result.1.enabled = before.app.enabled) := by
  unfold Editing.step at stepped
  dsimp only at stepped
  split at stepped
  · cases stepped
  cases edit with
  | update name comment exec delay =>
      cases stepped
      have same := @update_switches environment before.app name comment exec delay
      exact ⟨(before.app.update environment name comment exec delay, []), _, _, rfl,
        fun _ => same.1, fun _ => same.2⟩
  | setEnabled enabled =>
      cases stepped
      have same := @setEnabled_switches environment before.app enabled
      refine ⟨(before.app.setEnabled environment enabled, []), _, _, rfl, fun _ => same.1,
        fun unchanged => same.2 ?_⟩
      simpa [Edit.fields] using unchanged
  | delete removes =>
      cases stepped
      refine ⟨_, _, _, rfl, ?_, fun _ => delete_enabled ..⟩
      intro absurd
      cases absurd
  | save writes removes =>
      dsimp only at stepped
      split at stepped
      · cases stepped
        exact ⟨_, _, _, rfl, fun _ => (save_switches ..).1, fun _ => (save_switches ..).2⟩
      · cases stepped
  | dispose writes removes =>
      cases stepped
      exact ⟨_, _, _, rfl, fun _ => (dispose_switches ..).1, fun _ => (dispose_switches ..).2⟩

theorem Kept.step {before after : Editing} {edit : Edit} (kept : before.Kept languages)
    (stepped : before.step environment edit = some after) : after.Kept languages := by
  obtain ⟨result, closed, saved, rfl, hidden, enabled⟩ := step_finishes stepped
  exact kept.finish hidden enabled

theorem original_step {before after : Editing} {edit : Edit}
    (stepped : before.step environment edit = some after) : after.original = before.original := by
  obtain ⟨result, closed, saved, rfl, _⟩ := step_finishes stepped
  rfl

/-- What is true all along of an app that is edited. -/
structure Followed (environment : Environment) (original : KeyFile) (state : Editing) : Prop where
  sound : state.Sound environment
  kept : state.Kept environment.languages
  original : state.original = original

/-- After a save that went well, the session manager starts what is in force just when
the dialog shows the app as on, the file says so with a boolean, if at all, and what it would
launch is installed. -/
def SwitchDecides (environment : Environment) (original : KeyFile) (state : Editing) : Prop :=
  state.saved = true → ∃ keyFile,
    state.files.inForce environment state.app.basename = some keyFile ∧
      ∀ found type, isDisabled found type keyFile = false ↔
        state.app.enabled = true ∧ state.app.hidden = false ∧ Spelled keyFile ∧
          Installed found type original

section Reading

variable {edited : SaveMask} {original keyFile : KeyFile} {app : App}

theorem canLaunch_of_only (only : OnlyEdited languages edited {} original app keyFile) :
    keyFile.canLaunch = original.canLaunch := by
  have shown : keyFile.getString "OnlyShowIn" = original.getString "OnlyShowIn" :=
    only.untouched (by decide) (fun field => by cases field <;> decide)
  have unshown : keyFile.getString "NotShowIn" = original.getString "NotShowIn" :=
    only.untouched (by decide) (fun field => by cases field <;> decide)
  unfold KeyFile.canLaunch KeyFile.getStringList
  rw [shown, unshown]

theorem installed_of_only (only : OnlyEdited languages edited {} original app keyFile)
    (found : String → Bool) (type : Autostart.DesktopFileType) :
    Installed found type keyFile ↔ Installed found type original := by
  have tried : keyFile.getString "TryExec" = original.getString "TryExec" :=
    only.untouched (by decide) (fun field => by cases field <;> decide)
  unfold Autostart.Installed
  rw [tried]

end Reading

theorem Kept.reads {state : Editing} (kept : state.Kept languages) {keyFile : KeyFile}
    (only : OnlyEdited languages state.edited {} state.original state.app keyFile)
    (field : Field) (switch : isSwitch field = true) : field.Reads languages state.app keyFile := by
  cases edited : state.edited.has field with
  | true => exact only.values field edited (SaveMask.has_empty field)
  | false => exact (only.unedited edited).mpr (kept field switch edited)

theorem Followed.decides {original : KeyFile} {state : Editing}
    (followed : state.Followed environment original) (launches : original.canLaunch = true) :
    state.SwitchDecides environment original := by
  obtain ⟨sound, kept, rfl⟩ := followed
  intro saved
  obtain ⟨keyFile, inForce, only⟩ := sound.savedRight saved
  have hidden : keyFile.getBoolean "Hidden" false = state.app.hidden :=
    kept.reads only .hidden rfl
  have enabled : keyFile.getBoolean "X-CAFE-Autostart-enabled" true = state.app.enabled :=
    kept.reads only .enabled rfl
  refine ⟨keyFile, inForce, fun found type => ?_⟩
  rw [not_isDisabled_iff, enabled, hidden, canLaunch_of_only only, installed_of_only only]
  constructor
  · rintro ⟨⟨on, spelled⟩, shown, _, installed⟩
    exact ⟨on, shown, spelled, installed⟩
  · rintro ⟨on, shown, spelled, installed⟩
    exact ⟨⟨on, spelled⟩, shown, launches, installed⟩

/-- In every run of edits whose saves find the untouched keys as they were, what the dialog
shows after a save decides whether the session manager starts the app. -/
theorem switch_decides {start finish : Editing} {edits : List Edit}
    (initial : (editingSystem environment).initial start)
    (loaded : environment.firstFile (fun path => (start.files path).isSome) start.app.basename =
      some start.app.path)
    (run : (editingSystem environment).run start edits = some finish)
    (meets : (editingSystem environment).Meets (Unshadowed environment) start edits) :
    finish.SwitchDecides environment start.original := by
  obtain ⟨launches, hidden, enabled⟩ := original_read initial loaded
  have sound := Sound.initial initial loaded
  have kept : start.Kept environment.languages := by
    intro field switch _
    cases field with
    | hidden => exact hidden.symm
    | enabled => exact enabled.symm
    | _ => cases switch
  have followed : finish.Followed environment start.original := by
    refine meets.invariant (fun before edit after followed unshadowed stepped => ?_) run
      ⟨sound, kept, rfl⟩
    exact ⟨followed.sound.step unshadowed stepped, followed.kept.step stepped,
      (original_step stepped).trans followed.original⟩
  exact followed.decides launches

section Example

open Watch

/-- An app of the system that is switched off and renamed. -/
theorem renameEdits_decide : ∃ finish,
    (editingSystem twoSystemDirs).run systemFoo renameEdits = some finish ∧ finish.saved = true ∧
      finish.app.enabled = false ∧ finish.SwitchDecides twoSystemDirs systemFoo.original :=
  ⟨_, rfl, rfl, rfl, switch_decides systemFoo_initial (by decide) rfl renameEdits_meets⟩

end Example

end Editing

end CafeSession.Capplet

import CafeSession.Stores.Store
import CafeSession.Manager.Rules
import CafeSession.Manager.Step

/-! # The rows of the inhibit dialog

`CsmInhibitDialog` shows the inhibitors of the store: it is filled when it is
made and listens to the signals of the store.  When its last row goes it
answers itself.  The session manager's model has no rows, but takes the dialog
to have one for each inhibitor; here that is proved. -/

namespace CafeSession.Manager

open CafeSession.Stores CafeSession.Tables CafeSession.Transition

/-- What the desktop file of an app and a client of the store are called. -/
structure Names where
  desktopFile : String → Option String
  client : Nat → Option String

/-- A row of the list, without the image. -/
structure Row where
  name : String
  reason : String
  id : String
deriving DecidableEq, Repr

structure InhibitDialog where
  rows : List Row
  header : String
  description : String
  isDone : Bool
deriving DecidableEq, Repr

inductive DialogResponse where
  | lockScreen
  | answer (response : InhibitResponse)
deriving DecidableEq, Repr

/-- The row that `add_inhibitor` makes. -/
def Inhibitor.row (names : Names) (id : String) (inhibitor : Inhibitor) : Row where
  name :=
    let byApp := if inhibitor.appId = "" then none else names.desktopFile inhibitor.appId
    let byClient := byApp.orElse fun _ => inhibitor.clientId.bind names.client
    byClient.getD (if inhibitor.appId = "" then "Unknown" else inhibitor.appId)
  reason := inhibitor.reason
  id := id

namespace InhibitDialog

def findInhibitor (id : String) (dialog : InhibitDialog) : Bool :=
  dialog.rows.any (fun row => row.id == id)

def updateDialogText (dialog : InhibitDialog) : InhibitDialog :=
  if dialog.rows.length = 1 then
    { dialog with
        header := "A program is still running:"
        description := "Waiting for the program to finish.  " ++
          "Interrupting the program may cause you to lose work." }
  else
    { dialog with
        header := "Some programs are still running:"
        description := "Waiting for programs to finish.  " ++
          "Interrupting these programs may cause you to lose work." }

/-- `add_inhibitor`, for the inhibitor that the store has under the id. -/
def addInhibitor (names : Names) (store : Store Inhibitor) (dialog : InhibitDialog)
    (id : String) : InhibitDialog :=
  match store.objects.lookup id with
  | some inhibitor => { dialog with rows := inhibitor.row names id :: dialog.rows }
  | none => dialog

/-- `populate_model`, in the order in which the store is walked. -/
def populateModel (names : Names) (store : Store Inhibitor) (visits : List String)
    (dialog : InhibitDialog) : InhibitDialog :=
  (visits.foldl (addInhibitor names store) dialog).updateDialogText

/-- `csm_inhibit_dialog_new`. -/
def new (names : Names) (store : Store Inhibitor) (visits : List String) : InhibitDialog :=
  populateModel names store visits
    { rows := []
      header := ""
      description := ""
      isDone := false }

def onStoreInhibitorAdded (names : Names) (store : Store Inhibitor) (id : String)
    (dialog : InhibitDialog) : InhibitDialog :=
  if dialog.isDone then dialog
  else if dialog.findInhibitor id then dialog
  else (dialog.addInhibitor names store id).updateDialogText

/-- The row of the inhibitor that is gone is taken out. -/
def dropRow (id : String) (dialog : InhibitDialog) : InhibitDialog :=
  if dialog.findInhibitor id then
    { dialog with rows := dialog.rows.eraseP (fun row => row.id == id) }.updateDialogText
  else
    dialog

end InhibitDialog

/-- The store with the dialog that is open for it. -/
structure Shown where
  store : Store Inhibitor
  dialog : InhibitDialog
  /-- what `inhibit_dialog_response` has been called with, oldest first -/
  answers : List InhibitResponse

namespace Shown

/-- The emission of 'response': `on_response` stops it, or it goes on to the
session manager. -/
def response (response : DialogResponse) (shown : Shown) : Shown :=
  if shown.dialog.isDone then shown
  else match response with
    | .lockScreen => shown
    | .answer response =>
        { shown with
            dialog := { shown.dialog with isDone := true }
            answers := shown.answers ++ [response] }

def onStoreInhibitorRemoved (id : String) (shown : Shown) : Shown :=
  if shown.dialog.isDone then shown
  else
    let left := { shown with dialog := shown.dialog.dropRow id }
    if left.dialog.rows = [] then left.response (.answer .accept) else left

/-- A signal of the store, which has changed already. -/
def hear (names : Names) (shown : Shown) : Signal String → Shown
  | .added id =>
      { shown with dialog := shown.dialog.onStoreInhibitorAdded names shown.store id }
  | .removed id => shown.onStoreInhibitorRemoved id

inductive Event where
  | store (names : Names) (event : Store.Event Inhibitor)
  | response (response : DialogResponse)

/-- An inhibitor that is added has an id of its own, made of its serial. -/
def isFresh (store : Store Inhibitor) : Store.Event Inhibitor → Bool
  | .add id _ => id ∉ store.objects
  | _ => true

def step (shown : Shown) : Event → Option Shown
  | .store names event =>
      if isFresh shown.store event then
        (shown.store.step event).map fun signalled =>
          signalled.1.foldl (hear names) { shown with store := signalled.2 }
      else none
  | .response response => some (shown.response response)

end Shown

def dialogSystem : System Shown Shown.Event where
  initial shown := ∃ names store visits, Enumerates visits store.objects ∧
    shown = ⟨store, .new names store visits, []⟩
  step := Shown.step

namespace InhibitDialog

/-- The dialog is open, has one row for each inhibitor of the table, with its reason,
and its text fits. -/
structure Lists (table : Finmap fun _ : String => Inhibitor) (dialog : InhibitDialog) : Prop where
  waiting : dialog.isDone = false
  distinct : (dialog.rows.map Row.id).Nodup
  rows : (dialog.rows.map Row.id).toFinset = table.keys
  reasons : ∀ row ∈ dialog.rows, ∃ inhibitor, table.lookup row.id = some inhibitor ∧
    row.reason = inhibitor.reason
  header : dialog.header = if table.keys.card = 1 then "A program is still running:"
    else "Some programs are still running:"
  description : dialog.description =
    if table.keys.card = 1 then "Waiting for the program to finish.  " ++
      "Interrupting the program may cause you to lose work."
    else "Waiting for programs to finish.  " ++
      "Interrupting these programs may cause you to lose work."

variable {dialog : InhibitDialog} {table : Finmap fun _ : String => Inhibitor} {id : String}
variable {names : Names} {store : Store Inhibitor} {inhibitor : Inhibitor}

@[simp] theorem rows_updateDialogText : dialog.updateDialogText.rows = dialog.rows := by
  unfold updateDialogText
  split_ifs <;> rfl

@[simp] theorem isDone_updateDialogText : dialog.updateDialogText.isDone = dialog.isDone := by
  unfold updateDialogText
  split_ifs <;> rfl

/-- The text fits once it is updated. -/
theorem lists_updateDialogText (waiting : dialog.isDone = false)
    (distinct : (dialog.rows.map Row.id).Nodup)
    (rows : (dialog.rows.map Row.id).toFinset = table.keys)
    (reasons : ∀ row ∈ dialog.rows, ∃ inhibitor, table.lookup row.id = some inhibitor ∧
      row.reason = inhibitor.reason) : dialog.updateDialogText.Lists table := by
  have count : table.keys.card = dialog.rows.length := by
    rw [← rows, List.toFinset_card_of_nodup distinct, List.length_map]
  constructor
  case waiting => exact isDone_updateDialogText.trans waiting
  case distinct =>
    rw [rows_updateDialogText]
    exact distinct
  case rows =>
    rw [rows_updateDialogText]
    exact rows
  case reasons =>
    rw [rows_updateDialogText]
    exact reasons
  case header =>
    rw [count]
    unfold updateDialogText
    split_ifs <;> rfl
  case description =>
    rw [count]
    unfold updateDialogText
    split_ifs <;> rfl

theorem findInhibitor_eq : dialog.findInhibitor id = true ↔ id ∈ dialog.rows.map Row.id := by
  rw [findInhibitor, List.any_eq_true, List.mem_map]
  exact exists_congr fun row => and_congr_right fun _ => beq_iff_eq

theorem Lists.mem (lists : dialog.Lists table) : id ∈ dialog.rows.map Row.id ↔ id ∈ table := by
  rw [← List.mem_toFinset, lists.rows, Finmap.mem_keys]

theorem Lists.added (lists : dialog.Lists table) (fresh : id ∉ table)
    (stored : store.objects.lookup id = some inhibitor) :
    (dialog.onStoreInhibitorAdded names store id).Lists (table.insert id inhibitor) := by
  have unlisted : ¬ id ∈ dialog.rows.map Row.id := fun member => fresh (lists.mem.mp member)
  simp only [onStoreInhibitorAdded, lists.waiting, Bool.false_eq_true, if_false, findInhibitor_eq,
    if_neg unlisted, addInhibitor, stored]
  refine lists_updateDialogText rfl ?_ ?_ ?_
  · exact List.nodup_cons.mpr ⟨unlisted, lists.distinct⟩
  · rw [List.map_cons, List.toFinset_cons, lists.rows]
    ext other
    simp [Inhibitor.row, Finmap.mem_keys]
  · intro row member
    rcases List.mem_cons.mp member with rfl | old
    · exact ⟨inhibitor, Finmap.lookup_insert _, rfl⟩
    · obtain ⟨shown, found, reason⟩ := lists.reasons row old
      have other : row.id ≠ id := by
        rintro rfl
        exact unlisted (List.mem_map_of_mem old)
      exact ⟨shown, (Finmap.lookup_insert_of_ne _ other).trans found, reason⟩

/-- Only the row under the id goes. -/
theorem ids_eraseP (rows : List Row) :
    (rows.eraseP (fun row => row.id == id)).map Row.id = (rows.map Row.id).erase id := by
  induction rows with
  | nil => rfl
  | cons row rows ih =>
      rw [List.eraseP_cons, List.map_cons, List.erase_cons]
      cases row.id == id with
      | true => rfl
      | false =>
          simp only [Bool.false_eq_true, if_false, cond_false, List.map_cons, ih]

theorem Lists.dropped (lists : dialog.Lists table) :
    (dialog.dropRow id).Lists (table.erase id) := by
  have ids_rows := @ids_eraseP id dialog.rows
  simp only [dropRow, findInhibitor_eq, lists.mem]
  split_ifs with listed
  · refine lists_updateDialogText lists.waiting ?_ ?_ ?_
    · rw [ids_rows]
      exact lists.distinct.erase id
    · ext other
      rw [ids_rows, List.mem_toFinset, lists.distinct.mem_erase_iff, lists.mem, Finmap.mem_keys,
        Finmap.mem_erase]
    · intro row member
      obtain ⟨inhibitor, found, reason⟩ := lists.reasons row (List.mem_of_mem_eraseP member)
      have left : row.id ∈ (dialog.rows.map Row.id).erase id := by
        rw [← ids_rows]
        exact List.mem_map_of_mem member
      exact ⟨inhibitor,
        (Finmap.lookup_erase_ne (lists.distinct.mem_erase_iff.mp left).1).trans found, reason⟩
  · have same : table.erase id = table := by
      refine Finmap.ext_lookup fun other => ?_
      by_cases equal : other = id
      · rw [equal, Finmap.lookup_erase, Finmap.lookup_eq_none.mpr listed]
      · exact Finmap.lookup_erase_ne equal
    rw [same]
    exact lists

theorem Lists.rows_eq_nil (lists : dialog.Lists table) : dialog.rows = [] ↔ table.keys = ∅ := by
  rw [← lists.rows, List.toFinset_eq_empty_iff, List.map_eq_nil_iff]

theorem lists_new {visits : List String} (enumerates : Enumerates visits store.objects) :
    (new names store visits).Lists store.objects := by
  have filled : ∀ (rest : List String) (dialog : InhibitDialog), rest ⊆ visits →
      (∀ row ∈ dialog.rows, ∃ inhibitor, store.objects.lookup row.id = some inhibitor ∧
        row.reason = inhibitor.reason) →
      ((rest.foldl (addInhibitor names store) dialog).rows.map Row.id =
        rest.reverse ++ dialog.rows.map Row.id ∧
      (rest.foldl (addInhibitor names store) dialog).isDone = dialog.isDone ∧
      ∀ row ∈ (rest.foldl (addInhibitor names store) dialog).rows, ∃ inhibitor,
        store.objects.lookup row.id = some inhibitor ∧ row.reason = inhibitor.reason) := by
    intro rest dialog visited reasons
    induction rest generalizing dialog with
    | nil => exact ⟨rfl, rfl, reasons⟩
    | cons id rest ih =>
        have stored : id ∈ store.objects := by
          rw [← Finmap.mem_keys, ← enumerates.keys, List.mem_toFinset]
          exact visited List.mem_cons_self
        obtain ⟨inhibitor, found⟩ := Option.isSome_iff_exists.mp (Finmap.lookup_isSome.mpr stored)
        have added : dialog.addInhibitor names store id =
            { dialog with rows := inhibitor.row names id :: dialog.rows } := by
          simp only [addInhibitor, found]
        obtain ⟨rows, done, each⟩ := ih (dialog.addInhibitor names store id)
          (fun other member => visited (List.mem_cons_of_mem id member)) (by
            rw [added]
            exact List.forall_mem_cons.mpr ⟨⟨inhibitor, found, rfl⟩, reasons⟩)
        rw [List.foldl_cons]
        refine ⟨?_, ?_, each⟩
        · rw [rows, added, List.reverse_cons, List.append_assoc]
          rfl
        · rw [done, added]
  obtain ⟨rows, done, each⟩ := filled visits
    { rows := [], header := "", description := "", isDone := false } (List.Subset.refl _)
    (fun row member => by cases member)
  refine lists_updateDialogText done ?_ ?_ each
  · rw [rows, List.map_nil, List.append_nil, List.nodup_reverse]
    exact enumerates.nodup
  · rw [rows, List.map_nil, List.append_nil, List.toFinset_reverse, enumerates.keys]

end InhibitDialog

namespace Shown

open InhibitDialog (lists_new)

/-- Either the dialog waits for an answer and shows the store, or it has given its one
answer. -/
inductive InSync (shown : Shown) : Prop
  | waiting (lists : shown.dialog.Lists shown.store.objects) (silent : shown.answers = [])
  | answered (done : shown.dialog.isDone = true) (once : shown.answers.length = 1)

variable {shown before after : Shown} {names : Names}
variable {table : Finmap fun _ : String => Inhibitor} {removed : List String}

theorem store_hear (signals : List (Signal String)) :
    (signals.foldl (hear names) shown).store = shown.store := by
  have one : ∀ (shown : Shown) signal, (hear names shown signal).store = shown.store := by
    intro shown signal
    cases signal with
    | added id => rfl
    | removed id =>
        simp only [hear, onStoreInhibitorRemoved, response]
        split_ifs <;> rfl
  induction signals generalizing shown with
  | nil => rfl
  | cons signal signals ih => rw [List.foldl_cons, ih, one]

theorem hear_done (done : shown.dialog.isDone = true) (signals : List (Signal String)) :
    signals.foldl (hear names) shown = shown := by
  induction signals with
  | nil => rfl
  | cons signal signals ih =>
      have same : hear names shown signal = shown := by
        cases signal with
        | added id => simp [hear, InhibitDialog.onStoreInhibitorAdded, done]
        | removed id => simp [hear, onStoreInhibitorRemoved, done]
      rw [List.foldl_cons, same, ih]

/-- The dialog has answered that the action may go on. -/
def accepted (shown : Shown) : Shown :=
  { shown with
      dialog := { shown.dialog with isDone := true }
      answers := shown.answers ++ [.accept] }

/-- A signal of a removal: the row goes, and with the last one the dialog is done. -/
theorem hear_removed {id : String} (lists : shown.dialog.Lists table) :
    hear names shown (.removed id) =
      if (table.erase id).keys = ∅ then
        { shown with dialog := shown.dialog.dropRow id }.accepted
      else { shown with dialog := shown.dialog.dropRow id } := by
  have left := @InhibitDialog.Lists.dropped shown.dialog table id lists
  have last := left.rows_eq_nil
  have open_ := left.waiting
  simp only [hear, onStoreInhibitorRemoved, lists.waiting, Bool.false_eq_true, if_false, last]
  split_ifs
  · simp only [response, open_, Bool.false_eq_true, if_false, accepted]
  · rfl

theorem keys_eraseAll_of_empty (empty : table.keys = ∅) : (eraseAll removed table).keys = ∅ := by
  rw [Finset.eq_empty_iff_forall_notMem] at empty ⊢
  intro id member
  have absent := empty id
  rw [Finmap.mem_keys, ← Finmap.lookup_isSome] at member absent
  rw [lookup_eraseAll] at member
  split_ifs at member
  · cases member
  · exact absent member

/-- The signals of a removal come when the store has changed: until the last of them
the rows are those of a table that the store is ahead of. -/
theorem hear_removals (lists : shown.dialog.Lists table) :
    ∃ dialog, (removed.map .removed).foldl (hear names) shown =
        { shown with
            dialog := dialog
            answers := shown.answers ++
              if removed ≠ [] ∧ (eraseAll removed table).keys = ∅ then [.accept] else [] } ∧
      if removed ≠ [] ∧ (eraseAll removed table).keys = ∅ then dialog.isDone = true
      else dialog.Lists (eraseAll removed table) := by
  induction removed generalizing shown table with
  | nil => exact ⟨shown.dialog, by simp, lists⟩
  | cons first rest ih =>
      have heard := @hear_removed shown names table first lists
      have dropped := @InhibitDialog.Lists.dropped _ _ first lists
      have erased : eraseAll (first :: rest) table = eraseAll rest (table.erase first) := rfl
      rw [List.map_cons, List.foldl_cons, heard, erased]
      by_cases finished : (table.erase first).keys = ∅
      · have emptied : first :: rest ≠ [] ∧ (eraseAll rest (table.erase first)).keys = ∅ :=
          ⟨List.cons_ne_nil _ _, keys_eraseAll_of_empty finished⟩
        rw [if_pos finished, if_pos emptied, hear_done rfl]
        exact ⟨_, rfl, (if_pos emptied).mpr rfl⟩
      · obtain ⟨dialog, result, lists⟩ :=
          @ih { shown with dialog := shown.dialog.dropRow first } _ dropped
        have same : (rest ≠ [] ∧ (eraseAll rest (table.erase first)).keys = ∅) ↔
            (first :: rest ≠ [] ∧ (eraseAll rest (table.erase first)).keys = ∅) := by
          refine and_congr_left fun empty => iff_of_true ?_ (List.cons_ne_nil _ _)
          rintro rfl
          exact finished empty
        rw [if_neg finished, result]
        simp only [same] at lists ⊢
        exact ⟨dialog, rfl, lists⟩

/-- A change of the store that signals what it removed. -/
theorem insync_removals {store : Store Inhibitor} (insync : shown.InSync)
    (left : store.objects = eraseAll removed shown.store.objects) :
    ((removed.map .removed).foldl (hear names) { shown with store := store }).InSync ∧
      ((removed.map .removed).foldl (hear names) { shown with store := store }).answers =
        shown.answers ++ if shown.dialog.isDone = false ∧ removed ≠ [] ∧ store.objects.keys = ∅
          then [.accept] else [] := by
  cases insync with
  | answered done once =>
      have quiet : ¬ (shown.dialog.isDone = false ∧ removed ≠ [] ∧ store.objects.keys = ∅) := by
        rintro ⟨waiting, _⟩
        cases waiting.symm.trans done
      rw [@hear_done { shown with store := store } names done, if_neg quiet, List.append_nil]
      exact ⟨.answered done once, rfl⟩
  | waiting lists silent =>
      obtain ⟨dialog, result, kept⟩ :=
        @hear_removals { shown with store := store } names shown.store.objects removed lists
      rw [← left] at result kept
      rw [result]
      simp only [lists.waiting, true_and]
      refine ⟨?_, trivial⟩
      split_ifs at kept with emptied
      · refine .answered kept ?_
        simp only [silent, if_pos emptied]
        rfl
      · refine .waiting kept ?_
        simp only [silent, if_neg emptied]
        rfl

/-- A bulk removal keeps the dialog in step, and is answered when it takes the last
inhibitor. -/
theorem insync_foreachRemove {func : String → Inhibitor → Bool} {visits : List String}
    (insync : shown.InSync) (enumerates : Enumerates visits shown.store.objects) :
    let outcome := shown.store.foreachRemove func visits
    let after := outcome.signals.foldl (hear names) { shown with store := outcome.store }
    after.InSync ∧ after.answers = shown.answers ++
      if shown.dialog.isDone = false ∧
        (removeMatched func visits shown.store.objects).removed ≠ [] ∧
        outcome.store.objects.keys = ∅ then [.accept] else [] := by
  exact insync_removals insync (table_removeMatched enumerates)

theorem insync_step {event : Event} (insync : before.InSync)
    (stepped : before.step event = some after) : after.InSync := by
  cases event with
  | response response =>
      cases stepped
      unfold Shown.response
      split_ifs with done
      · exact insync
      · cases response with
        | lockScreen => exact insync
        | answer response =>
            cases insync with
            | answered finished => exact absurd finished done
            | waiting lists silent =>
                refine .answered rfl ?_
                simp only [silent]
                rfl
  | store names event =>
      obtain ⟨fresh, stepped⟩ := Option.ite_none_right_eq_some.mp stepped
      obtain ⟨result, performed, rfl⟩ := Option.map_eq_some_iff.mp stepped
      obtain ⟨signals, store⟩ := result
      cases event with
      | add id object =>
          simp only [Store.step, Option.some.injEq, Prod.mk.injEq, Store.add] at performed
          obtain ⟨rfl, rfl⟩ := performed
          split_ifs
          · exact insync
          · cases insync with
            | answered done once =>
                have heard := @hear_done { before with store := { before.store with
                  objects := before.store.objects.insert id object } } names done [.added id]
                rw [heard]
                exact .answered done once
            | waiting lists silent =>
                exact .waiting (lists.added (of_decide_eq_true fresh) (Finmap.lookup_insert _))
                  silent
      | remove id =>
          simp only [Store.step, Option.some.injEq, Prod.mk.injEq, Store.remove] at performed
          obtain ⟨rfl, rfl⟩ := performed
          cases found : before.store.objects.lookup id with
          | none => exact insync
          | some inhibitor =>
              exact (@insync_removals before names [id] _ insync rfl).1
      | foreachRemove func visits =>
          simp only [Store.step, Option.ite_none_right_eq_some, Option.some.injEq,
            Prod.mk.injEq] at performed
          obtain ⟨enumerates, rfl, rfl⟩ := performed
          exact (insync_foreachRemove insync enumerates).1
      | clear visits =>
          simp only [Store.step, Option.ite_none_right_eq_some, Option.some.injEq,
            Prod.mk.injEq] at performed
          obtain ⟨enumerates, rfl, rfl⟩ := performed
          exact (insync_foreachRemove insync enumerates).1
      | setLocked locked =>
          simp only [Store.step, Option.some.injEq, Prod.mk.injEq] at performed
          obtain ⟨rfl, rfl⟩ := performed
          cases insync with
          | answered done once => exact .answered done once
          | waiting lists silent => exact .waiting lists silent

theorem insync_reached (reached : dialogSystem.Reachable shown) : shown.InSync := by
  refine reached.invariant ?_ ?_
  · rintro first ⟨names, store, visits, enumerates, rfl⟩
    exact .waiting (lists_new enumerates) rfl
  · exact fun _ _ _ insync _ stepped => insync_step insync stepped

end Shown

/-- The store has the inhibitors of the list, each under an id of its own. -/
def Stocks (store : Store Inhibitor) (inhibitors : List Inhibitor) : Prop :=
  ∃ held : List (String × Inhibitor), (held.map Prod.fst).Nodup ∧
    (∀ id inhibitor, store.objects.lookup id = some inhibitor ↔ (id, inhibitor) ∈ held) ∧
    inhibitors = held.map Prod.snd

variable {store : Store Inhibitor} {inhibitors : List Inhibitor} {matching : Inhibitor → Bool}
variable {visits : List String}

theorem Stocks.removed (stocks : Stocks store inhibitors)
    (enumerates : Enumerates visits store.objects) :
    Stocks (store.foreachRemove (fun _ => matching) visits).store
      (inhibitors.filter fun one => !matching one) := by
  obtain ⟨held, distinct, lookup, rfl⟩ := stocks
  refine ⟨held.filter fun entry => !matching entry.2,
    distinct.sublist (List.filter_sublist.map _), ?_, ?_⟩
  · intro id inhibitor
    have left := @lookup_removeMatched _ _ _ (fun _ => matching) visits store.objects id enumerates
    simp only [Store.foreachRemove, left, List.mem_filter, ← lookup, Option.filter_eq_some_iff]
  · rw [List.filter_map]
    rfl

theorem Stocks.empty_iff (stocks : Stocks store inhibitors) :
    store.objects.keys = ∅ ↔ inhibitors = [] := by
  obtain ⟨held, _, lookup, rfl⟩ := stocks
  rw [List.map_eq_nil_iff, Finset.eq_empty_iff_forall_notMem, List.eq_nil_iff_forall_not_mem]
  constructor
  · rintro absent ⟨id, inhibitor⟩ member
    refine absent id (Finmap.mem_keys.mpr (Finmap.lookup_isSome.mp ?_))
    rw [(lookup id inhibitor).mpr member]
    rfl
  · intro absent id member
    obtain ⟨inhibitor, found⟩ :=
      Option.isSome_iff_exists.mp (Finmap.lookup_isSome.mpr (Finmap.mem_keys.mp member))
    exact absent (id, inhibitor) ((lookup id inhibitor).mp found)

theorem Stocks.removes_iff (stocks : Stocks store inhibitors)
    (enumerates : Enumerates visits store.objects) :
    (removeMatched (fun _ => matching) visits store.objects).removed ≠ [] ↔
      inhibitors.any matching = true := by
  obtain ⟨held, _, lookup, rfl⟩ := stocks
  rw [List.any_map, List.any_eq_true, ← List.length_pos_iff, List.length_pos_iff_exists_mem]
  constructor
  · rintro ⟨id, member⟩
    have taken := (mem_removed enumerates).mp member
    unfold matched at taken
    cases found : store.objects.lookup id with
    | none =>
        rw [found] at taken
        cases taken
    | some inhibitor =>
        rw [found] at taken
        exact ⟨(id, inhibitor), (lookup id inhibitor).mp found, taken⟩
  · rintro ⟨⟨id, inhibitor⟩, member, matches_⟩
    refine ⟨id, (mem_removed enumerates).mpr ?_⟩
    rw [matched, (lookup id inhibitor).mpr member]
    exact matches_

/-- In every run of the store with the open dialog the dialog has one row for each
inhibitor, with its reason, and the text for one or for several, until it answers,
which it does once.  A bulk removal does to the store what the session manager's model does to
its list, and the dialog answers it just when the model has it answered. -/
theorem dialog_follows_inhibitors {shown : Shown} (reached : dialogSystem.Reachable shown) :
    shown.InSync ∧
    ∀ (state : State) (matching : Inhibitor → Bool) names visits after,
      Stocks shown.store state.inhibitors →
      shown.step (.store names (.foreachRemove (fun _ => matching) visits)) = some after →
      Stocks after.store (state.dropInhibitors matching).inhibitors ∧
      after.answers = shown.answers ++
        if !shown.dialog.isDone && (state.inhibitors.any matching &&
          (state.dropInhibitors matching).inhibitors.isEmpty) then [.accept] else [] := by
  have insync := Shown.insync_reached reached
  refine ⟨insync, ?_⟩
  intro state matching names visits after stocks stepped
  rw [Shown.step, if_pos (rfl : Shown.isFresh shown.store _ = true)] at stepped
  obtain ⟨⟨signals, store⟩, performed, rfl⟩ := Option.map_eq_some_iff.mp stepped
  simp only [Store.step, Option.ite_none_right_eq_some, Option.some.injEq,
    Prod.mk.injEq] at performed
  obtain ⟨enumerates, rfl, rfl⟩ := performed
  obtain ⟨idleEnabled, dropped⟩ := @State.dropInhibitors_eq state matching
  have left := @Stocks.removed _ _ matching visits stocks enumerates
  have emptied := left.empty_iff
  have removes := @Stocks.removes_iff _ _ matching visits stocks enumerates
  rw [dropped, Shown.store_hear]
  refine ⟨left, (Shown.insync_foreachRemove insync enumerates).2.trans ?_⟩
  refine congrArg (shown.answers ++ ·) (if_congr ?_ rfl rfl)
  rw [emptied, removes, Bool.and_eq_true, Bool.and_eq_true, Bool.not_eq_true', List.isEmpty_iff]

def unsaved : Inhibitor := .new "pluma" 0 1 "unsaved" ":1.7" 1

def burning : Inhibitor := .new "brasero" 0 1 "burning" ":1.9" 2

def twoInhibitors : Store Inhibitor :=
  ((Store.new.add "/Inhibitor1" unsaved).store.add "/Inhibitor2" burning).store

theorem stocks_twoInhibitors : Stocks twoInhibitors [unsaved, burning] := by
  refine ⟨[("/Inhibitor1", unsaved), ("/Inhibitor2", burning)], by decide, ?_, rfl⟩
  intro id inhibitor
  by_cases second : id = "/Inhibitor2"
  · subst second
    simp [twoInhibitors, Store.add, Store.new, eq_comm]
  · by_cases first : id = "/Inhibitor1"
    · subst first
      simp [twoInhibitors, Store.add, Store.new, Finmap.lookup_insert_of_ne, eq_comm]
    · simp [twoInhibitors, Store.add, Store.new, Finmap.lookup_insert_of_ne, first, second]

/-- Both are removed at once, and the dialog answers. -/
theorem two_inhibitors_followed :
    ∃ after, Shown.step
        ⟨twoInhibitors, .new ⟨fun _ => none, fun _ => none⟩ twoInhibitors
          ["/Inhibitor1", "/Inhibitor2"], []⟩
        (.store ⟨fun _ => none, fun _ => none⟩
          (.foreachRemove (fun _ _ => true) ["/Inhibitor2", "/Inhibitor1"])) = some after ∧
      after.answers = [.accept] := by
  have enumerates : Enumerates ["/Inhibitor2", "/Inhibitor1"] twoInhibitors.objects := by
    decide +kernel
  obtain ⟨after, stepped⟩ : ∃ after, Shown.step
      ⟨twoInhibitors, .new ⟨fun _ => none, fun _ => none⟩ twoInhibitors
        ["/Inhibitor1", "/Inhibitor2"], []⟩
      (.store ⟨fun _ => none, fun _ => none⟩
        (.foreachRemove (fun _ _ => true) ["/Inhibitor2", "/Inhibitor1"])) = some after := by
    simp only [Shown.step, Store.step, if_pos enumerates, Option.map_some]
    exact ⟨_, rfl⟩
  have followed := dialog_follows_inhibitors (.initial
    ⟨⟨fun _ => none, fun _ => none⟩, twoInhibitors, ["/Inhibitor1", "/Inhibitor2"],
      by decide +kernel, rfl⟩)
  refine ⟨after, stepped, ?_⟩
  exact (followed.2 { State.created [] with inhibitors := [unsaved, burning] } (fun _ => true)
    _ _ after stocks_twoInhibitors stepped).2.trans (by decide +kernel)

end CafeSession.Manager

import CafeSession.Arrays.Keyed
import CafeSession.Autostart.RestartCommand

namespace CafeSession.Xsmp

open CafeSession.Arrays CafeSession.Autostart CafeSession.Shell

inductive PropertyMessage where
  | setProperties (props : List SmProp)
  | deleteProperties (names : List String)
deriving DecidableEq

/-- `delete_property`. -/
def deleteProperty (props : List SmProp) (name : String) : List SmProp :=
  match props.findIdx? (fun prop => prop.name = name) with
  | none => props
  | some index => removeIndexFast props index

/-- `set_properties_callback`. -/
def setProperties (props : List SmProp) : List SmProp → List SmProp
  | [] => props
  | prop :: rest => setProperties (deleteProperty props prop.name ++ [prop]) rest

/-- `delete_properties_callback`. -/
def deleteProperties (props : List SmProp) : List String → List SmProp
  | [] => props
  | name :: rest => deleteProperties (deleteProperty props name) rest

/-- `get_properties_callback`: what is returned to the client. -/
def getProperties (props : List SmProp) : List SmProp := props

def PropertyMessage.deliver (props : List SmProp) : PropertyMessage → List SmProp
  | .setProperties set => Xsmp.setProperties props set
  | .deleteProperties names => Xsmp.deleteProperties props names

def deliverAll (props : List SmProp) (messages : List PropertyMessage) : List SmProp :=
  messages.foldl PropertyMessage.deliver props

/-- One property of a message. -/
inductive Change where
  | set (prop : SmProp)
  | deleted (name : String)

namespace Change

def name : Change → String
  | .set prop => prop.name
  | .deleted name => name

/-- What the change leaves under its name. -/
def left : Change → Option SmProp
  | .set prop => some prop
  | .deleted _ => none

def apply (props : List SmProp) : Change → List SmProp
  | .set prop => put SmProp.name props prop
  | .deleted name => remove SmProp.name props name

end Change

def PropertyMessage.changes : PropertyMessage → List Change
  | .setProperties props => props.map .set
  | .deleteProperties names => names.map .deleted

/-- What was last said under the name. -/
def inForce (name : String) (changes : List Change) : Option SmProp :=
  (changes.reverse.find? (fun change => change.name = name)).bind Change.left

def history (messages : List PropertyMessage) : List Change :=
  messages.flatMap PropertyMessage.changes

theorem inForce_append (name : String) (changes : List Change) (change : Change) :
    inForce name (changes ++ [change]) =
      if change.name = name then change.left else inForce name changes := by
  unfold inForce
  rw [List.reverse_append, List.reverse_singleton, List.singleton_append, List.find?_cons]
  by_cases same : change.name = name
  · simp [same]
  · simp [same]

variable {props : List SmProp}

theorem setProperties_eq_foldl (props set : List SmProp) :
    setProperties props set = (set.map Change.set).foldl Change.apply props := by
  induction set generalizing props with
  | nil => rfl
  | cons prop rest ih => exact ih _

theorem deleteProperties_eq_foldl (props : List SmProp) (names : List String) :
    deleteProperties props names = (names.map Change.deleted).foldl Change.apply props := by
  induction names generalizing props with
  | nil => rfl
  | cons name rest ih => exact ih _

theorem deliver_eq_foldl (props : List SmProp) (message : PropertyMessage) :
    message.deliver props = message.changes.foldl Change.apply props := by
  cases message with
  | setProperties set => exact setProperties_eq_foldl props set
  | deleteProperties names => exact deleteProperties_eq_foldl props names

theorem deliverAll_eq_foldl (props : List SmProp) (messages : List PropertyMessage) :
    deliverAll props messages = (history messages).foldl Change.apply props := by
  induction messages generalizing props with
  | nil => rfl
  | cons message rest ih =>
      unfold deliverAll history at *
      rw [List.foldl_cons, List.flatMap_cons, List.foldl_append, ← deliver_eq_foldl, ih]

theorem Change.apply_distinct (distinct : Distinct SmProp.name props) (change : Change) :
    Distinct SmProp.name (change.apply props) := by
  cases change with
  | set prop => exact distinct.put prop
  | deleted name => exact distinct.remove name

theorem foldl_apply_distinct (distinct : Distinct SmProp.name props) (changes : List Change) :
    Distinct SmProp.name (changes.foldl Change.apply props) := by
  induction changes generalizing props with
  | nil => exact distinct
  | cons change rest ih => exact ih (change.apply_distinct distinct)

theorem deliver_distinct (distinct : Distinct SmProp.name props) (message : PropertyMessage) :
    Distinct SmProp.name (message.deliver props) := by
  rw [deliver_eq_foldl]
  exact foldl_apply_distinct distinct message.changes

theorem Change.lookup_apply (distinct : Distinct SmProp.name props) (change : Change) :
    lookup SmProp.name (change.apply props) =
      Function.update (lookup SmProp.name props) change.name change.left := by
  cases change with
  | set prop => exact lookup_put distinct prop
  | deleted name => exact lookup_remove distinct name

/-- Under each name the array has what was said last. -/
theorem lookup_foldl_apply (changes : List Change) (name : String) :
    lookup SmProp.name (changes.foldl Change.apply []) name = inForce name changes := by
  induction changes using List.reverseRecOn with
  | nil => rfl
  | append_singleton changes change ih =>
      have empty : Distinct SmProp.name [] := List.nodup_nil
      have distinct := foldl_apply_distinct empty changes
      rw [List.foldl_append, List.foldl_cons, List.foldl_nil, change.lookup_apply distinct,
        inForce_append]
      by_cases same : change.name = name
      · rw [if_pos same, ← same, Function.update_self]
      · rw [if_neg same, Function.update_of_ne (Ne.symm same), ih]

theorem distinct_deliverAll (messages : List PropertyMessage) :
    Distinct SmProp.name (deliverAll [] messages) := by
  have empty : Distinct SmProp.name [] := List.nodup_nil
  rw [deliverAll_eq_foldl]
  exact foldl_apply_distinct empty _

/-- A property in force was set by one of the messages. -/
theorem mem_history_of_inForce {changes : List Change} {name : String} {prop : SmProp}
    (force : inForce name changes = some prop) : .set prop ∈ changes := by
  obtain ⟨change, found, left⟩ := Option.bind_eq_some_iff.mp force
  have member := List.mem_reverse.mp (List.mem_of_find?_eq_some found)
  cases change with
  | set prop =>
      cases left
      exact member
  | deleted name => cases left

theorem lookup_deliverAll (messages : List PropertyMessage) (name : String) :
    lookup SmProp.name (deliverAll [] messages) name = inForce name (history messages) := by
  rw [deliverAll_eq_foldl]
  exact lookup_foldl_apply _ name

/-- The client after the messages, from an empty array. -/
def clientAfter (startupId : Bytes) (messages : List PropertyMessage) : XsmpClient :=
  ⟨deliverAll [] messages, startupId⟩

theorem findProperty_clientAfter (startupId : Bytes) (messages : List PropertyMessage)
    (name : String) :
    (clientAfter startupId messages).findProperty name = inForce name (history messages) :=
  lookup_deliverAll messages name

/-- The properties of a client are a finite map from names: each name once, the
last property set under it unless it was deleted since, and all of them returned. -/
theorem properties_finite_map (startupId : Bytes) (messages : List PropertyMessage) :
    ((clientAfter startupId messages).props.map SmProp.name).Nodup ∧
      (∀ name, (clientAfter startupId messages).findProperty name =
        inForce name (history messages)) ∧
      (∀ prop, prop ∈ getProperties (clientAfter startupId messages).props ↔
        inForce prop.name (history messages) = some prop) ∧
      (getProperties (clientAfter startupId messages).props).Nodup := by
  have distinct := distinct_deliverAll messages
  refine ⟨distinct, findProperty_clientAfter startupId messages, ?_, distinct.of_map SmProp.name⟩
  intro prop
  rw [← lookup_deliverAll messages, lookup_eq_some_iff distinct]
  exact ⟨fun member => ⟨member, rfl⟩, fun found => found.1⟩

end CafeSession.Xsmp

import Mathlib.Data.List.Nodup
import CafeSession.UnixSignals.Handler

namespace CafeSession.UnixSignals

open CafeSession.Transition

variable {Func Data Action Fatal : Type}

structure Registry (Func Data Fatal : Type) where
  /-- newest first -/
  callbacks : List (CallbackData Func Data)
  nextId : UInt32
  fatalFunc : Option Fatal
  pipe : List UInt8
  watched : Bool
  exited : Bool
  log : List (Effect Func Data Fatal)

namespace Registry

def empty : Registry Func Data Fatal where
  callbacks := []
  nextId := 1
  fatalFunc := none
  pipe := []
  watched := true
  exited := false
  log := []

/-- The callbacks for a signal. -/
def on (registry : Registry Func Data Fatal) (signal : Int) : List (CallbackData Func Data) :=
  registry.callbacks.filter (fun cdata => cdata.signalNumber = signal)

def add (registry : Registry Func Data Fatal) (signal : Int) (callback : Option Func)
    (data : Option Data) : Registry Func Data Fatal :=
  { registry with
    callbacks := ⟨signal, callback, data, registry.nextId⟩ :: registry.callbacks
    nextId := registry.nextId + 1 }

def remove (registry : Registry Func Data Fatal) (id : UInt32) : Registry Func Data Fatal :=
  { registry with callbacks := registry.callbacks.filter (fun cdata => cdata.id ≠ id) }

/-- A signal that is caught waits in the pipe, or ends the process. -/
def raise (registry : Registry Func Data Fatal) (signo : Int) : Registry Func Data Fatal :=
  if crashes signo then { registry with exited := true }
  else { registry with
    pipe := registry.pipe ++ [toByte signo]
    log := .caught signo :: registry.log }

/-- The bytes are handled one after the other, and the callbacks for each in turn. -/
def dispatch (registry : Registry Func Data Fatal) (count : Nat)
    (answers : Answers Func Data Fatal) : Registry Func Data Fatal :=
  let (log, isFatal) := (registry.pipe.take count).foldl (fun outcome byte =>
    (registry.on (ofByte byte)).foldl (Process.runCallback answers (ofByte byte))
      (.handling (ofByte byte) :: outcome.1, outcome.2)) (registry.log, false)
  let read := { registry with pipe := registry.pipe.drop count, log := log }
  if isFatal then
    match registry.fatalFunc with
    | some func => { read with log := .fatal func :: log, watched := false }
    | none => { read with exited := true }
  else read

variable [DecidableEq Func] [DecidableEq Data]

/-- The newest callback with this function and data is removed. -/
def removeFunc (registry : Registry Func Data Fatal) (signal : Int) (callback : Option Func)
    (data : Option Data) : Registry Func Data Fatal :=
  match (registry.on signal).find? (fun found => found.func = callback && found.data = data) with
  | some found => registry.remove found.id
  | none => registry

def step (registry : Registry Func Data Fatal) (event : Event Func Data Fatal) :
    Option (Registry Func Data Fatal) :=
  if registry.exited then none
  else match event with
    | .add signal callback data => some (registry.add signal callback data)
    | .addFatal =>
        some ([sigIll, sigBus, sigSegv, sigAbrt, sigTrap].foldl
          (fun registry signal => registry.add signal none none) registry)
    | .remove id => some (registry.remove id)
    | .removeFunc signal callback data => some (registry.removeFunc signal callback data)
    | .setFatalFunc func => some { registry with fatalFunc := func }
    | .raised signo =>
        if 1 ≤ signo ∧ signo ≤ 64 ∧ registry.on signo ≠ [] then
          some (registry.raise signo)
        else none
    | .dispatched count answers =>
        if registry.watched ∧ 0 < count ∧ count ≤ 256 ∧ count ≤ registry.pipe.length then
          some (registry.dispatch count answers)
        else none

end Registry

def registrySystem [DecidableEq Func] [DecidableEq Data] :
    System (Registry Func Data Fatal) (Event Func Data Fatal) where
  initial registry := registry = .empty
  step := Registry.step

def handlerSystem [DecidableEq Func] [DecidableEq Data] [DecidableEq Action]
    (original : Int → Action) : System (Process Func Data Action Fatal) (Event Func Data Fatal) where
  initial process := process = .start original
  step := Process.step

structure Represents (original : Int → Action) (registry : Registry Func Data Fatal)
    (process : Process Func Data Action Fatal) : Prop where
  lookup : ∀ signal, process.handler.lookup signal = (registry.on signal).map CallbackData.id
  idLookup : ∀ id, process.handler.idLookup id =
    registry.callbacks.find? (fun cdata => cdata.id = id)
  actionLookup : ∀ signal, process.handler.actionLookup signal =
    if registry.on signal = [] then none else some (.other (original signal))
  disposition : ∀ signal, process.disposition signal =
    if registry.on signal = [] then .other (original signal) else .signalHandler
  nextId : process.handler.nextId = registry.nextId
  fatalFunc : process.handler.fatalFunc = registry.fatalFunc
  pipe : process.pipe = registry.pipe
  watched : process.watched = registry.watched
  exited : process.exited = registry.exited
  log : process.log = registry.log
  distinct : (registry.callbacks.map CallbackData.id).Nodup
  older : ∀ cdata ∈ registry.callbacks, cdata.id.toNat < registry.nextId.toNat

variable {original : Int → Action} {registry : Registry Func Data Fatal}
variable {process : Process Func Data Action Fatal}

theorem represents_start : Represents original (.empty : Registry Func Data Fatal)
    (.start original) where
  lookup _ := rfl
  idLookup _ := rfl
  actionLookup _ := rfl
  disposition _ := rfl
  nextId := rfl
  fatalFunc := rfl
  pipe := rfl
  watched := rfl
  exited := rfl
  log := rfl
  distinct := .nil
  older cdata absurd := by cases absurd

namespace Registry

theorem on_add (registry : Registry Func Data Fatal) (signal other : Int) (callback : Option Func)
    (data : Option Data) : (registry.add signal callback data).on other =
      if signal = other then ⟨signal, callback, data, registry.nextId⟩ :: registry.on other
      else registry.on other := by
  unfold on add
  rw [List.filter_cons]
  simp only [decide_eq_true_eq]

end Registry

theorem toNat_succ {id : UInt32} (room : id.toNat + 1 < UInt32.size) :
    (id + 1).toNat = id.toNat + 1 := by
  rw [UInt32.toNat_add]
  exact Nat.mod_eq_of_lt room

/-- The signal is caught, if it is not yet; nothing else changes. -/
theorem Represents.caught (represents : Represents original registry process) (signal : Int) :
    ∃ actions dispositions,
      (if process.handler.actionLookup signal = none then process.catchSignal signal else process) =
        { process with
          disposition := dispositions
          handler := { process.handler with actionLookup := actions } } ∧
      (∀ other, actions other = if signal = other then some (.other (original signal))
        else process.handler.actionLookup other) ∧
      ∀ other, dispositions other = if signal = other then .signalHandler
        else process.disposition other := by
  have action := represents.actionLookup signal
  have disposition := represents.disposition signal
  by_cases none_yet : registry.on signal = []
  · rw [if_pos none_yet] at action disposition
    rw [if_pos action]
    refine ⟨_, _, rfl, ?_, ?_⟩
    · intro other
      by_cases same : signal = other
      · rw [← same, if_pos rfl, Function.update_self, disposition]
      · rw [if_neg same, Function.update_of_ne fun equal => same equal.symm]
    · intro other
      by_cases same : signal = other
      · rw [← same, if_pos rfl, Function.update_self]
      · rw [if_neg same, Function.update_of_ne fun equal => same equal.symm]
  · rw [if_neg none_yet] at action disposition
    rw [if_neg (by rw [action]; exact Option.some_ne_none _)]
    refine ⟨process.handler.actionLookup, process.disposition, rfl, ?_, ?_⟩
    · intro other
      by_cases same : signal = other
      · rw [← same, if_pos rfl, action]
      · rw [if_neg same]
    · intro other
      by_cases same : signal = other
      · rw [← same, if_pos rfl, disposition]
      · rw [if_neg same]

/-- A callback more, and its signal is caught if it was not. -/
theorem Represents.add (represents : Represents original registry process)
    (room : registry.nextId.toNat + 1 < UInt32.size) (signal : Int) (callback : Option Func)
    (data : Option Data) :
    Represents original (registry.add signal callback data) (process.add signal callback data) := by
  obtain ⟨actions, dispositions, caught, actionLookup, disposition⟩ := represents.caught signal
  have next := toNat_succ room
  unfold Process.add
  rw [caught]
  refine ⟨?_, ?_, ?_, ?_, ?_, represents.fatalFunc, represents.pipe, represents.watched,
    represents.exited, represents.log, ?_, ?_⟩
  · intro other
    change Function.update process.handler.lookup signal
      (process.handler.nextId :: process.handler.lookup signal) other = _
    rw [Registry.on_add]
    by_cases same : signal = other
    · rw [if_pos same, List.map_cons, ← same, Function.update_self, represents.lookup,
        represents.nextId]
    · rw [if_neg same, Function.update_of_ne fun equal => same equal.symm, represents.lookup]
  · intro id
    change Function.update process.handler.idLookup process.handler.nextId
      (some ⟨signal, callback, data, process.handler.nextId⟩) id = _
    rw [Registry.add, List.find?_cons, represents.nextId]
    by_cases same : registry.nextId = id
    · rw [decide_eq_true same, ← same, Function.update_self]
    · rw [decide_eq_false same, Function.update_of_ne fun equal => same equal.symm,
        represents.idLookup]
  · intro other
    rw [Registry.on_add]
    refine (actionLookup other).trans ?_
    by_cases same : signal = other
    · rw [if_pos same, if_pos same, if_neg (List.cons_ne_nil _ _), same]
    · rw [if_neg same, if_neg same, represents.actionLookup]
  · intro other
    rw [Registry.on_add]
    refine (disposition other).trans ?_
    by_cases same : signal = other
    · rw [if_pos same, if_pos same, if_neg (List.cons_ne_nil _ _)]
    · rw [if_neg same, if_neg same, represents.disposition]
  · exact congrArg (· + 1) represents.nextId
  · refine List.nodup_cons.mpr ⟨?_, represents.distinct⟩
    intro member
    obtain ⟨cdata, old, same⟩ := List.mem_map.mp member
    have before := represents.older cdata old
    rw [same] at before
    exact Nat.lt_irrefl _ before
  · intro cdata member
    change cdata.id.toNat < (registry.nextId + 1).toNat
    rw [next]
    cases List.mem_cons.mp member with
    | inl new =>
        rw [new]
        exact Nat.lt_succ_self _
    | inr old => exact Nat.lt_succ_of_lt (represents.older cdata old)

/-- An id is that of one callback. -/
theorem Represents.same_of_id (represents : Represents original registry process)
    {found cdata : CallbackData Func Data} (member : found ∈ registry.callbacks)
    (other : cdata ∈ registry.callbacks) (same : cdata.id = found.id) : cdata = found :=
  List.inj_on_of_nodup_map represents.distinct other member same

theorem Represents.find_id (represents : Represents original registry process)
    {found : CallbackData Func Data} (member : found ∈ registry.callbacks) :
    process.handler.idLookup found.id = some found := by
  rw [represents.idLookup]
  cases search : registry.callbacks.find? (fun cdata => cdata.id = found.id) with
  | none =>
      have absent := List.find?_eq_none.mp search found member
      exact absurd (decide_eq_true rfl) absent
  | some cdata =>
      have same : cdata.id = found.id := by simpa using List.find?_some search
      rw [represents.same_of_id member (List.mem_of_find?_eq_some search) same]

namespace Registry

theorem mem_on {signal : Int} {cdata : CallbackData Func Data} :
    cdata ∈ registry.on signal ↔ cdata ∈ registry.callbacks ∧ cdata.signalNumber = signal := by
  rw [on, List.mem_filter, decide_eq_true_eq]

theorem on_remove (registry : Registry Func Data Fatal) (id : UInt32) (signal : Int) :
    (registry.remove id).on signal = (registry.on signal).filter (fun cdata => cdata.id ≠ id) := by
  rw [on, on, remove, List.filter_comm]

end Registry

theorem Represents.on_remove_of_ne (represents : Represents original registry process)
    {found : CallbackData Func Data} (member : found ∈ registry.callbacks) {signal : Int}
    (other : found.signalNumber ≠ signal) :
    (registry.remove found.id).on signal = registry.on signal := by
  rw [Registry.on_remove, List.filter_eq_self]
  intro cdata member_on
  obtain ⟨inside, named⟩ := Registry.mem_on.mp member_on
  refine decide_eq_true ?_
  intro same
  rw [represents.same_of_id member inside same] at named
  exact other named

theorem Represents.ids_left (represents : Represents original registry process)
    (found : CallbackData Func Data) :
    (process.handler.lookup found.signalNumber).filter (fun id => id ≠ found.id) =
      ((registry.remove found.id).on found.signalNumber).map CallbackData.id := by
  rw [represents.lookup, Registry.on_remove, List.filter_map]
  rfl

/-- The signal is released if no callback for it is left; nothing else changes. -/
theorem Represents.released (represents : Represents original registry process)
    {found : CallbackData Func Data} (member : found ∈ registry.callbacks) :
    ∃ actions dispositions,
      (if (process.handler.lookup found.signalNumber).filter (fun id => id ≠ found.id) = [] then
          process.uncatchSignal found.signalNumber else process) =
        { process with
          disposition := dispositions
          handler := { process.handler with actionLookup := actions } } ∧
      (∀ signal, actions signal =
        if (registry.remove found.id).on signal = [] then none else some (.other (original signal))) ∧
      ∀ signal, dispositions signal =
        if (registry.remove found.id).on signal = [] then .other (original signal)
        else .signalHandler := by
  have inside : registry.on found.signalNumber ≠ [] :=
    List.ne_nil_of_mem (Registry.mem_on.mpr ⟨member, rfl⟩)
  have action := represents.actionLookup found.signalNumber
  have disposition := represents.disposition found.signalNumber
  rw [if_neg inside] at action disposition
  have elsewhere : ∀ signal, signal ≠ found.signalNumber →
      (registry.remove found.id).on signal = registry.on signal := fun signal other =>
    represents.on_remove_of_ne member fun same => other same.symm
  by_cases last : (registry.remove found.id).on found.signalNumber = []
  · have empty : (process.handler.lookup found.signalNumber).filter (fun id => id ≠ found.id) = [] := by
      rw [represents.ids_left, last, List.map_nil]
    rw [if_pos empty, Process.uncatchSignal, action]
    refine ⟨_, _, rfl, ?_, ?_⟩
    · intro signal
      by_cases same : signal = found.signalNumber
      · rw [same, if_pos last, Function.update_self]
      · rw [elsewhere signal same, Function.update_of_ne same, represents.actionLookup]
    · intro signal
      change Function.update process.disposition found.signalNumber
        (.other (original found.signalNumber)) signal = _
      by_cases same : signal = found.signalNumber
      · rw [same, if_pos last, Function.update_self]
      · rw [elsewhere signal same, Function.update_of_ne same, represents.disposition]
  · have full : (process.handler.lookup found.signalNumber).filter (fun id => id ≠ found.id) ≠ [] := by
      rw [represents.ids_left, Ne, List.map_eq_nil_iff]
      exact last
    rw [if_neg full]
    refine ⟨process.handler.actionLookup, process.disposition, rfl, ?_, ?_⟩
    · intro signal
      by_cases same : signal = found.signalNumber
      · rw [same, if_neg last, action]
      · rw [elsewhere signal same, represents.actionLookup]
    · intro signal
      by_cases same : signal = found.signalNumber
      · rw [same, if_neg last, disposition]
      · rw [elsewhere signal same, represents.disposition]

/-- The last callback for a signal gives it its old disposition back. -/
theorem Represents.removed (represents : Represents original registry process)
    {found : CallbackData Func Data} (member : found ∈ registry.callbacks) :
    Represents original (registry.remove found.id) (process.removeAndFreeData found) := by
  obtain ⟨actions, dispositions, released, actionLookup, disposition⟩ := represents.released member
  unfold Process.removeAndFreeData
  dsimp only
  rw [released]
  refine ⟨?_, ?_, actionLookup, disposition, represents.nextId, represents.fatalFunc,
    represents.pipe, represents.watched, represents.exited, represents.log, ?_, ?_⟩
  · intro signal
    change Function.update process.handler.lookup found.signalNumber
      ((process.handler.lookup found.signalNumber).filter (fun id => id ≠ found.id)) signal = _
    by_cases same : signal = found.signalNumber
    · rw [same, Function.update_self, represents.ids_left]
    · rw [Function.update_of_ne same, represents.lookup,
        represents.on_remove_of_ne member fun equal => same equal.symm]
  · intro id
    change Function.update process.handler.idLookup found.id none id = _
    rw [Registry.remove, List.find?_filter]
    by_cases same : id = found.id
    · rw [same, Function.update_self]
      symm
      rw [List.find?_eq_none]
      intro cdata _ both
      simp at both
    · rw [Function.update_of_ne same, represents.idLookup]
      congr 1
      funext cdata
      by_cases named : cdata.id = id
      · simp [named, same]
      · simp [named]
  · exact represents.distinct.sublist (List.Sublist.map _ List.filter_sublist)
  · intro cdata inside
    exact represents.older cdata (List.mem_of_mem_filter inside)

theorem Represents.remove (represents : Represents original registry process) (id : UInt32) :
    Represents original (registry.remove id) (process.remove id) := by
  unfold Process.remove
  rw [represents.idLookup]
  cases search : registry.callbacks.find? (fun cdata => cdata.id = id) with
  | none =>
      have absent := List.find?_eq_none.mp search
      have same : registry.remove id = registry := by
        rw [Registry.remove, List.filter_eq_self.mpr]
        intro cdata member
        refine decide_eq_true ?_
        intro equal
        exact absent cdata member (decide_eq_true equal)
      rw [same]
      exact represents
  | some found =>
      have same : found.id = id := by simpa using List.find?_some search
      rw [← same]
      exact represents.removed (List.mem_of_find?_eq_some search)

/-- What is found under the ids of a signal. -/
theorem Represents.found (represents : Represents original registry process) (signal : Int) :
    (process.handler.lookup signal).filterMap process.handler.idLookup = registry.on signal := by
  rw [represents.lookup, List.filterMap_map]
  have all : ∀ cdata ∈ registry.on signal,
      (process.handler.idLookup ∘ CallbackData.id) cdata = some cdata := fun cdata member =>
    represents.find_id (Registry.mem_on.mp member).1
  rw [List.filterMap_congr all, List.filterMap_some]

section Compare

variable [DecidableEq Func] [DecidableEq Data]

theorem Represents.removeFunc (represents : Represents original registry process) (signal : Int)
    (callback : Option Func) (data : Option Data) :
    Represents original (registry.removeFunc signal callback data)
      (process.removeFunc signal callback data) := by
  unfold Process.removeFunc Process.findCallbackDataByFunc Registry.removeFunc
  rw [represents.found]
  cases search : (registry.on signal).find?
      (fun found => found.func = callback && found.data = data) with
  | none => exact represents
  | some found =>
      exact represents.removed (Registry.mem_on.mp (List.mem_of_find?_eq_some search)).1

end Compare

theorem Represents.addAll (signals : List Int) : ∀ {registry : Registry Func Data Fatal}
    {process : Process Func Data Action Fatal}, Represents original registry process →
    registry.nextId.toNat + signals.length < UInt32.size →
    Represents original
      (signals.foldl (fun registry signal => registry.add signal none none) registry)
      (signals.foldl (fun process signal => process.add signal none none) process) ∧
    (signals.foldl (fun registry signal => registry.add signal none none) registry).nextId.toNat =
      registry.nextId.toNat + signals.length := by
  induction signals with
  | nil => exact fun represents _ => ⟨represents, rfl⟩
  | cons signal signals ih =>
      intro registry process represents room
      rw [List.length_cons] at room
      have next : (registry.add signal none none).nextId.toNat = registry.nextId.toNat + 1 :=
        toNat_succ (by omega)
      obtain ⟨rest, last⟩ := ih (represents.add (by omega) signal none none) (by omega)
      refine ⟨rest, last.trans ?_⟩
      rw [next, List.length_cons]
      omega

/-- A byte calls what is registered, newest first. -/
theorem Represents.handleByte (represents : Represents original registry process)
    (answers : Answers Func Data Fatal) (outcome : List (Effect Func Data Fatal) × Bool)
    (byte : UInt8) :
    Process.handleByte process.handler answers outcome byte =
      (registry.on (ofByte byte)).foldl (Process.runCallback answers (ofByte byte))
        (.handling (ofByte byte) :: outcome.1, outcome.2) := by
  unfold Process.handleByte
  dsimp only
  rw [represents.lookup, List.foldl_map]
  refine List.foldl_ext _ _ _ ?_
  intro outcome cdata member
  rw [represents.find_id (Registry.mem_on.mp member).1]

theorem Represents.dispatch (represents : Represents original registry process) (count : Nat)
    (answers : Answers Func Data Fatal) :
    Represents original (registry.dispatch count answers) (process.signalIoWatch count answers) := by
  have bytes : Process.handleByte process.handler answers = fun outcome byte =>
      (registry.on (ofByte byte)).foldl (Process.runCallback answers (ofByte byte))
        (.handling (ofByte byte) :: outcome.1, outcome.2) := by
    funext outcome byte
    exact represents.handleByte answers outcome byte
  obtain ⟨lookup, idLookup, actionLookup, disposition, nextId, fatalFunc, pipe, watched, exited,
    log, distinct, older⟩ := represents
  unfold Process.signalIoWatch Registry.dispatch
  rw [bytes, pipe, log, fatalFunc]
  rcases (registry.pipe.take count).foldl _ (registry.log, false) with ⟨after, _ | _⟩
  · exact ⟨lookup, idLookup, actionLookup, disposition, nextId, fatalFunc, rfl, watched, exited,
      rfl, distinct, older⟩
  · cases fatal : registry.fatalFunc with
    | none =>
        exact ⟨lookup, idLookup, actionLookup, disposition, nextId, fatalFunc.trans fatal, rfl,
          watched, rfl, rfl, distinct, older⟩
    | some func =>
        exact ⟨lookup, idLookup, actionLookup, disposition, nextId, fatalFunc.trans fatal, rfl,
          rfl, exited, rfl, distinct, older⟩

theorem Registry.dispatch_nextId (registry : Registry Func Data Fatal) (count : Nat)
    (answers : Answers Func Data Fatal) :
    (registry.dispatch count answers).nextId = registry.nextId := by
  unfold dispatch
  rcases (registry.pipe.take count).foldl _ (registry.log, false) with ⟨after, _ | _⟩
  · rfl
  · cases registry.fatalFunc <;> rfl

theorem Registry.raise_nextId (registry : Registry Func Data Fatal) (signo : Int) :
    (registry.raise signo).nextId = registry.nextId := by
  unfold raise
  split_ifs <;> rfl

theorem Represents.raised (represents : Represents original registry process) (signo : Int) :
    Represents original (registry.raise signo) (process.signalHandler signo) := by
  obtain ⟨lookup, idLookup, actionLookup, disposition, nextId, fatalFunc, pipe, watched, exited,
    log, distinct, older⟩ := represents
  unfold Process.signalHandler Registry.raise
  split_ifs with crash
  · exact ⟨lookup, idLookup, actionLookup, disposition, nextId, fatalFunc, pipe, watched, rfl,
      log, distinct, older⟩
  · rw [pipe, log]
    exact ⟨lookup, idLookup, actionLookup, disposition, nextId, fatalFunc, rfl, watched, exited,
      rfl, distinct, older⟩

/-- A signal is caught just while a callback is registered for it. -/
theorem Represents.caught_iff (represents : Represents original registry process) (signo : Int) :
    process.disposition signo = .signalHandler ↔ registry.on signo ≠ [] := by
  rw [represents.disposition]
  split_ifs with none_left <;> simp [none_left]

/-- The callbacks that an event adds. -/
def Event.adds : Event Func Data Fatal → Nat
  | .add _ _ _ => 1
  | .addFatal => 5
  | _ => 0

def registrations : List (Event Func Data Fatal) → Nat
  | [] => 0
  | event :: events => event.adds + registrations events

variable [DecidableEq Func] [DecidableEq Data] [DecidableEq Action]

/-- An event occurs for the process just when it does for the registry, and what it
does to the one it does to the other. -/
theorem Represents.step (represents : Represents original registry process)
    (event : Event Func Data Fatal)
    (room : registry.nextId.toNat + event.adds < UInt32.size) :
    (registry.step event = none ∧ process.step event = none) ∨
    ∃ next after, registry.step event = some next ∧ process.step event = some after ∧
      Represents original next after ∧ next.nextId.toNat = registry.nextId.toNat + event.adds := by
  have same := represents.exited
  unfold Registry.step Process.step
  by_cases exited : registry.exited = true
  · rw [if_pos exited, if_pos (same.trans exited)]
    exact .inl ⟨rfl, rfl⟩
  rw [if_neg exited, if_neg (by rw [same]; exact exited)]
  cases event with
  | add signal callback data =>
      exact .inr ⟨_, _, rfl, rfl, represents.add room signal callback data, toNat_succ room⟩
  | addFatal =>
      obtain ⟨added, next⟩ := Represents.addAll [sigIll, sigBus, sigSegv, sigAbrt, sigTrap]
        represents room
      exact .inr ⟨_, _, rfl, rfl, added, next⟩
  | remove id => exact .inr ⟨_, _, rfl, rfl, represents.remove id, rfl⟩
  | removeFunc signal callback data =>
      refine .inr ⟨_, _, rfl, rfl, represents.removeFunc signal callback data, ?_⟩
      unfold Registry.removeFunc
      split <;> rfl
  | setFatalFunc func =>
      obtain ⟨lookup, idLookup, actionLookup, disposition, nextId, _, pipe, watched, exited,
        log, distinct, older⟩ := represents
      exact .inr ⟨_, _, rfl, rfl, ⟨lookup, idLookup, actionLookup, disposition, nextId, rfl, pipe,
        watched, exited, log, distinct, older⟩, rfl⟩
  | raised signo =>
      simp only [represents.caught_iff]
      by_cases caught : 1 ≤ signo ∧ signo ≤ 64 ∧ registry.on signo ≠ []
      · rw [if_pos caught, if_pos caught]
        exact .inr ⟨_, _, rfl, rfl, represents.raised signo,
          congrArg UInt32.toNat (registry.raise_nextId signo)⟩
      · rw [if_neg caught, if_neg caught]
        exact .inl ⟨rfl, rfl⟩
  | dispatched count answers =>
      have same_pipe := represents.pipe
      have same_watch := represents.watched
      dsimp only
      by_cases ready : registry.watched = true ∧ 0 < count ∧ count ≤ 256 ∧
          count ≤ registry.pipe.length
      · rw [if_pos ready, if_pos (by rw [same_watch, same_pipe]; exact ready)]
        exact .inr ⟨_, _, rfl, rfl, represents.dispatch count answers,
          congrArg UInt32.toNat (registry.dispatch_nextId count answers)⟩
      · rw [if_neg ready, if_neg (by rw [same_watch, same_pipe]; exact ready)]
        exact .inl ⟨rfl, rfl⟩

theorem Represents.run (events : List (Event Func Data Fatal)) :
    ∀ {registry : Registry Func Data Fatal} {process : Process Func Data Action Fatal},
      Represents original registry process →
      registry.nextId.toNat + registrations events < UInt32.size →
      Option.Rel (Represents original) (registrySystem.run registry events)
        ((handlerSystem original).run process events) := by
  induction events with
  | nil => exact fun represents _ => .some represents
  | cons event events ih =>
      intro registry process represents room
      rw [registrations] at room
      rw [System.run_cons, System.run_cons]
      cases represents.step event (by omega) with
      | inl never =>
          obtain ⟨listed, stepped⟩ := never
          simp only [registrySystem, handlerSystem, listed, stepped, Option.bind_none]
          exact .none
      | inr both =>
          obtain ⟨next, after, listed, stepped, related, count⟩ := both
          have rest := ih related (by omega)
          simp only [registrySystem, handlerSystem, listed, stepped, Option.bind_some]
          exact rest

/-- In every run of registrations for signals that can be caught, removals, signals
and dispatches with fewer than 2^32 - 1 registrations, the three tables, the
dispositions of the process and the pipe are those of a list of callbacks: the same
events can occur, and what each does to the process it does to the list.  So a signal is caught exactly while a
callback is registered for it, the process has its old disposition for every
other signal, a removal removes one callback and no other, and a byte calls the
callbacks that are registered for its signal, newest first. -/
theorem handler_refines_registry (original : Int → Action) (events : List (Event Func Data Fatal))
    (few : registrations events + 1 < UInt32.size) :
    Option.Rel (Represents original) (registrySystem.run .empty events)
      ((handlerSystem original).run (.start original) events) := by
  refine represents_start.run events ?_
  rw [Nat.add_comm]
  exact few

/-- Two callbacks for a signal, which both run, newest first; both are removed, one
by its function and one by its id, and the process has its old disposition. -/
def termTwice : List (Event Bool Unit Unit) :=
  [.add sigTerm (some false) none, .add sigTerm (some true) none, .raised sigTerm,
    .dispatched 1 (fun _ _ _ _ => true), .removeFunc sigTerm (some false) none, .remove 2]

theorem termTwice_refined :
    ∃ registry process, registrySystem.run .empty termTwice = some registry ∧
      (handlerSystem (fun signal => signal)).run (.start (fun signal => signal)) termTwice =
        some process ∧
      process.log = [.ran sigTerm false none true, .ran sigTerm true none true,
        .handling sigTerm, .caught sigTerm] ∧
      process.disposition sigTerm = .other sigTerm := by
  have refined := handler_refines_registry (fun signal => signal) termTwice (by decide)
  obtain ⟨registry, listed⟩ : ∃ registry, registrySystem.run .empty termTwice = some registry :=
    ⟨_, rfl⟩
  obtain ⟨process, ran⟩ : ∃ process,
      (handlerSystem (fun signal => signal)).run (.start (fun signal => signal)) termTwice =
        some process := ⟨_, rfl⟩
  rw [listed, ran] at refined
  cases refined with
  | some represents =>
      refine ⟨registry, process, listed, ran, ?_, ?_⟩
      · cases listed
        rw [represents.log]
        decide
      · cases listed
        rw [represents.disposition]
        decide

end CafeSession.UnixSignals

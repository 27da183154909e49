import CafeSession.UnixSignals.Registry

namespace CafeSession.UnixSignals

open CafeSession.Transition

section Log

variable {Func Data Fatal : Type}

/-- The signals that were written to the pipe, newest first. -/
def caughts (log : List (Effect Func Data Fatal)) : List Int :=
  log.filterMap (fun effect => match effect with
    | .caught signo => some signo
    | _ => none)

/-- The signals that were read from the pipe, newest first. -/
def handlings (log : List (Effect Func Data Fatal)) : List Int :=
  log.filterMap (fun effect => match effect with
    | .handling signum => some signum
    | _ => none)

/-- The callbacks that were called, newest first, with what they answered. -/
def calls (log : List (Effect Func Data Fatal)) : List (Int × Func × Option Data × Bool) :=
  log.filterMap (fun effect => match effect with
    | .ran signum func data answer => some (signum, func, data, answer)
    | _ => none)

def fatals (log : List (Effect Func Data Fatal)) : List Fatal :=
  log.filterMap (fun effect => match effect with
    | .fatal func => some func
    | _ => none)

end Log

def sigPipe : Int := 13

inductive Callback where
  | signalCb
deriving DecidableEq

/-- The session manager, as the data of a callback. -/
inductive Pointer where
  | manager
deriving DecidableEq

inductive FatalFunc where
  | shutdownCb (data : Pointer)
deriving DecidableEq

/-- What `signal_cb` returns; for `SIGINT` and `SIGTERM` it has called
`csm_manager_logout` with the force mode. -/
def signalCb (signo : Int) : Bool :=
  !(signo = sigFpe || signo = sigPipe)

/-- The registrations of `main`. -/
def mainSetup : List (Event Callback Pointer FatalFunc) :=
  [.addFatal, .add sigFpe (some .signalCb) none, .add sigHup (some .signalCb) none,
    .add sigUsr1 (some .signalCb) none, .add sigTerm (some .signalCb) (some .manager),
    .add sigInt (some .signalCb) (some .manager), .setFatalFunc (some (.shutdownCb .manager))]

/-- What can happen once `main` has registered its callbacks. -/
inductive Later : Event Callback Pointer FatalFunc → Prop where
  | raised (signo : Int) : Later (.raised signo)
  | dispatched (count : Nat) :
      Later (.dispatched count (fun _ signum _ _ => signalCb signum))

/-- The data that `signal_cb` is registered with. -/
def signalData (signum : Int) : Option Pointer :=
  if signum = sigTerm ∨ signum = sigInt then some .manager else none

/-- The signals that `signal_cb` is registered for. -/
def mainSignals : List Int := [sigHup, sigInt, sigFpe, sigUsr1, sigTerm]

/-- The registry once `main` is done. -/
def mainRegistry : Registry Callback Pointer FatalFunc :=
  { Registry.empty with
    callbacks := [⟨sigInt, some .signalCb, some .manager, 10⟩,
      ⟨sigTerm, some .signalCb, some .manager, 9⟩, ⟨sigUsr1, some .signalCb, none, 8⟩,
      ⟨sigHup, some .signalCb, none, 7⟩, ⟨sigFpe, some .signalCb, none, 6⟩,
      ⟨sigTrap, none, none, 5⟩, ⟨sigAbrt, none, none, 4⟩, ⟨sigSegv, none, none, 3⟩,
      ⟨sigBus, none, none, 2⟩, ⟨sigIll, none, none, 1⟩]
    nextId := 11
    fatalFunc := some (.shutdownCb .manager) }

theorem run_mainSetup : registrySystem.run .empty mainSetup = some mainRegistry := rfl

theorem ofByte_toByte {signo : Int} (positive : 1 ≤ signo) (small : signo ≤ 64) :
    ofByte (toByte signo) = signo := by
  obtain ⟨number, rfl⟩ := Int.eq_ofNat_of_zero_le (by omega : 0 ≤ signo)
  have all : ∀ number : Nat, number < 65 → ofByte (toByte (number : Int)) = number := by decide
  exact all number (by omega)

/-- A callback of `main` is for one of its signals, or for a signal that ends the
process at once. -/
theorem mem_mainSignals {signo : Int} (caught : mainRegistry.on signo ≠ [])
    (lives : crashes signo = false) : signo ∈ mainSignals := by
  obtain ⟨cdata, member⟩ := List.exists_mem_of_ne_nil _ caught
  obtain ⟨inside, rfl⟩ := Registry.mem_on.mp member
  have all : ∀ cdata ∈ mainRegistry.callbacks, crashes cdata.signalNumber = false →
      cdata.signalNumber ∈ mainSignals := by decide
  exact all cdata inside lives

/-- There is one callback for each of the signals. -/
theorem on_mainSignals {signum : Int} (member : signum ∈ mainSignals) : ∃ id,
    mainRegistry.on signum = [⟨signum, some .signalCb, signalData signum, id⟩] := by
  simp only [mainSignals, List.mem_cons, List.not_mem_nil, or_false] at member
  obtain rfl | rfl | rfl | rfl | rfl := member
  · exact ⟨7, rfl⟩
  · exact ⟨10, rfl⟩
  · exact ⟨6, rfl⟩
  · exact ⟨8, rfl⟩
  · exact ⟨9, rfl⟩

/-- What `signal_cb` is called with for a signal, and what it answers. -/
def answered (signum : Int) : Int × Callback × Option Pointer × Bool :=
  (signum, .signalCb, signalData signum, signalCb signum)

structure Accounted (registry : Registry Callback Pointer FatalFunc) : Prop where
  callbacks : registry.callbacks = mainRegistry.callbacks
  fatalFunc : registry.fatalFunc = some (.shutdownCb .manager)
  waiting : ∀ byte ∈ registry.pipe, ofByte byte ∈ mainSignals
  fifo : caughts registry.log = (registry.pipe.map ofByte).reverse ++ handlings registry.log
  called : calls registry.log = (handlings registry.log).map answered
  fatal : fatals registry.log =
    if sigFpe ∈ handlings registry.log then [.shutdownCb .manager] else []
  watched : registry.watched = decide (sigFpe ∉ handlings registry.log)

theorem accounted_mainRegistry : Accounted mainRegistry where
  callbacks := rfl
  fatalFunc := rfl
  waiting byte absurd := by cases absurd
  fifo := rfl
  called := rfl
  fatal := rfl
  watched := rfl

variable {registry : Registry Callback Pointer FatalFunc}

theorem Accounted.on (accounted : Accounted registry) (signal : Int) :
    registry.on signal = mainRegistry.on signal := by
  rw [Registry.on, accounted.callbacks, Registry.on]

theorem Accounted.raise (accounted : Accounted registry) {signo : Int} (positive : 1 ≤ signo)
    (small : signo ≤ 64) (caught : registry.on signo ≠ []) : Accounted (registry.raise signo) := by
  have same := ofByte_toByte positive small
  rw [accounted.on] at caught
  obtain ⟨callbacks, fatalFunc, waiting, fifo, called, fatal, watched⟩ := accounted
  unfold Registry.raise
  split_ifs with crash
  · exact ⟨callbacks, fatalFunc, waiting, fifo, called, fatal, watched⟩
  · have registered := mem_mainSignals caught (Bool.eq_false_iff.mpr crash)
    refine ⟨callbacks, fatalFunc, ?_, ?_, called, fatal, watched⟩
    · intro byte member
      cases List.mem_append.mp member with
      | inl old => exact waiting byte old
      | inr new =>
          rw [List.mem_singleton.mp new, same]
          exact registered
    · change signo :: caughts registry.log = _
      rw [fifo, List.map_append, List.map_singleton, same, List.reverse_append,
        List.reverse_singleton]
      rfl

/-- Of the signals that are registered one is fatal. -/
theorem not_signalCb {signum : Int} (member : signum ∈ mainSignals) :
    (!signalCb signum) = decide (sigFpe = signum) := by
  have all : ∀ signum ∈ mainSignals, (!signalCb signum) = decide (sigFpe = signum) := by decide
  exact all signum member

/-- What reading bytes leads to: each is handled with one call, and a fatal answer
comes from the signal that is fatal. -/
theorem handle_bytes (bytes : List UInt8) (registered : ∀ byte ∈ bytes, ofByte byte ∈ mainSignals) :
    ∀ outcome : List (Effect Callback Pointer FatalFunc) × Bool,
      let after := bytes.foldl (fun outcome byte =>
        (mainRegistry.on (ofByte byte)).foldl
          (Process.runCallback (fun _ signum _ _ => signalCb signum) (ofByte byte))
          (.handling (ofByte byte) :: outcome.1, outcome.2)) outcome
      handlings after.1 = (bytes.map ofByte).reverse ++ handlings outcome.1 ∧
      calls after.1 = (bytes.map ofByte).reverse.map answered ++ calls outcome.1 ∧
      caughts after.1 = caughts outcome.1 ∧ fatals after.1 = fatals outcome.1 ∧
      after.2 = (outcome.2 || decide (sigFpe ∈ bytes.map ofByte)) := by
  induction bytes with
  | nil =>
      intro outcome
      simp
  | cons byte bytes ih =>
      intro outcome
      obtain ⟨id, on⟩ := on_mainSignals (registered byte List.mem_cons_self)
      obtain ⟨handled, called, caught, fatal, ends⟩ := ih
        (fun other member => registered other (List.mem_cons_of_mem _ member))
        (.ran (ofByte byte) .signalCb (signalData (ofByte byte)) (signalCb (ofByte byte)) ::
          .handling (ofByte byte) :: outcome.1, outcome.2 || !signalCb (ofByte byte))
      dsimp only
      rw [List.foldl_cons, on, List.foldl_cons, List.foldl_nil, List.map_cons, List.reverse_cons,
        List.append_assoc, List.map_append, List.append_assoc]
      refine ⟨handled, called, caught, fatal, ?_⟩
      refine ends.trans ?_
      rw [not_signalCb (registered byte List.mem_cons_self), Bool.or_assoc]
      simp only [List.mem_cons, Bool.decide_or]

theorem Accounted.dispatch (accounted : Accounted registry) (count : Nat)
    (ready : registry.watched = true) :
    Accounted (registry.dispatch count (fun _ signum _ _ => signalCb signum)) := by
  have on : ∀ byte, registry.on (ofByte byte) = mainRegistry.on (ofByte byte) := fun byte =>
    accounted.on (ofByte byte)
  obtain ⟨callbacks, fatalFunc, waiting, fifo, called, fatal, watched⟩ := accounted
  obtain ⟨handled, calledNow, caught, fatalNow, ends⟩ := handle_bytes (registry.pipe.take count)
    (fun byte member => waiting byte (List.mem_of_mem_take member)) (registry.log, false)
  have quiet : sigFpe ∉ handlings registry.log := by
    rw [watched] at ready
    exact of_decide_eq_true ready
  have left : caughts registry.log =
      ((registry.pipe.drop count).map ofByte).reverse ++
        (((registry.pipe.take count).map ofByte).reverse ++ handlings registry.log) := by
    rw [fifo, ← List.append_assoc, ← List.reverse_append, ← List.map_append,
      List.take_append_drop]
  have later : ∀ byte ∈ registry.pipe.drop count, ofByte byte ∈ mainSignals :=
    fun byte member => waiting byte (List.mem_of_mem_drop member)
  have silent : fatals registry.log = [] := by rw [fatal, if_neg quiet]
  unfold Registry.dispatch
  simp only [on]
  rcases outcome : (registry.pipe.take count).foldl _ (registry.log, false) with ⟨log, isFatal⟩
  rw [outcome] at handled calledNow caught fatalNow ends
  have member : sigFpe ∈ handlings log ↔ isFatal = true := by
    change isFatal = (false || _) at ends
    rw [handled, List.mem_append, List.mem_reverse, or_iff_left quiet, ends, Bool.false_or,
      decide_eq_true_eq]
  cases isFatal with
  | false =>
      have none_fatal : sigFpe ∉ handlings log := fun inside => by cases member.mp inside
      refine ⟨callbacks, fatalFunc, later, ?_, ?_, ?_, ?_⟩
      · exact (caught.trans left).trans (congrArg _ handled.symm)
      · rw [called] at calledNow
        exact calledNow.trans ((List.map_append).symm.trans (congrArg _ handled.symm))
      · exact (fatalNow.trans silent).trans (if_neg none_fatal).symm
      · exact ready.trans (decide_eq_true none_fatal).symm
  | true =>
      have one_fatal : sigFpe ∈ handlings log := member.mpr rfl
      simp only [if_true, fatalFunc]
      refine ⟨callbacks, rfl, later, ?_, ?_, ?_, ?_⟩
      · exact (caught.trans left).trans (congrArg _ handled.symm)
      · rw [called] at calledNow
        exact calledNow.trans ((List.map_append).symm.trans (congrArg _ handled.symm))
      · refine Eq.trans ?_ (if_pos one_fatal).symm
        exact congrArg _ (fatalNow.trans silent)
      · exact (decide_eq_false (not_not_intro one_fatal)).symm

theorem Accounted.step {event : Event Callback Pointer FatalFunc} (later : Later event)
    (accounted : Accounted registry) {after : Registry Callback Pointer FatalFunc}
    (stepped : registry.step event = some after) : Accounted after := by
  unfold Registry.step at stepped
  cases later with
  | raised signo =>
      simp only [Option.ite_none_left_eq_some, Option.ite_none_right_eq_some,
        Option.some.injEq] at stepped
      obtain ⟨_, ⟨positive, small, caught⟩, rfl⟩ := stepped
      exact accounted.raise positive small caught
  | dispatched count =>
      simp only [Option.ite_none_left_eq_some, Option.ite_none_right_eq_some,
        Option.some.injEq] at stepped
      obtain ⟨_, ready, rfl⟩ := stepped
      exact accounted.dispatch count ready.1

theorem accounted_run (events : List (Event Callback Pointer FatalFunc)) :
    ∀ {registry : Registry Callback Pointer FatalFunc}, (∀ event ∈ events, Later event) →
      Accounted registry → ∀ {after}, registrySystem.run registry events = some after →
      Accounted after := by
  induction events with
  | nil =>
      intro registry _ accounted after ran
      cases ran
      exact accounted
  | cons event events ih =>
      intro registry later accounted after ran
      obtain ⟨next, stepped, rest⟩ := Option.bind_eq_some_iff.mp ran
      exact ih (fun other member => later other (List.mem_cons_of_mem _ member))
        (accounted.step (later event List.mem_cons_self) stepped) rest

/-- Whatever signals come in after `main` has registered its callbacks, and however
many bytes the main loop reads at a time: the signals that were caught are those
that were handled and, in order, those that wait in the pipe; each that was handled
called `signal_cb` once; `shutdown_cb` was called once if `SIGFPE` was handled, and
not otherwise, and from then on nothing more is handled. -/
theorem signals_accounted {Action : Type} [DecidableEq Action] (original : Int → Action)
    (events : List (Event Callback Pointer FatalFunc)) (later : ∀ event ∈ events, Later event)
    {process : Process Callback Pointer Action FatalFunc}
    (ran : (handlerSystem original).run (.start original) (mainSetup ++ events) = some process) :
    caughts process.log = (process.pipe.map ofByte).reverse ++ handlings process.log ∧
    calls process.log = (handlings process.log).map answered ∧
    fatals process.log =
      (if sigFpe ∈ handlings process.log then [.shutdownCb .manager] else []) ∧
    (process.watched = true ↔ sigFpe ∉ handlings process.log) := by
  have none_added : ∀ events : List (Event Callback Pointer FatalFunc),
      (∀ event ∈ events, Later event) → registrations events = 0 := by
    intro events
    induction events with
    | nil => exact fun _ => rfl
    | cons event events ih =>
        intro later
        have first : event.adds = 0 := by
          cases later event List.mem_cons_self <;> rfl
        rw [registrations, first, ih fun other member => later other (List.mem_cons_of_mem _ member)]
  have room : (Registry.empty : Registry Callback Pointer FatalFunc).nextId.toNat +
      registrations (mainSetup ++ events) < UInt32.size := by
    simp only [mainSetup, List.cons_append, List.nil_append, registrations,
      none_added events later]
    decide
  have start : Represents original (.empty : Registry Callback Pointer FatalFunc)
      (.start original) := represents_start
  have related := start.run (mainSetup ++ events) room
  rw [ran, System.run_append, run_mainSetup, Option.bind_some] at related
  cases listed : registrySystem.run mainRegistry events with
  | none =>
      rw [listed] at related
      cases related
  | some registry =>
      rw [listed] at related
      cases related with
      | some represents =>
          have accounted := accounted_run events later accounted_mainRegistry listed
          rw [represents.log, represents.pipe, represents.watched]
          refine ⟨accounted.fifo, accounted.called, accounted.fatal, ?_⟩
          rw [accounted.watched, decide_eq_true_eq]

/-- A logout is asked for, and a division by zero comes while it is handled. -/
def termThenFpe : List (Event Callback Pointer FatalFunc) :=
  [.raised sigTerm, .raised sigHup, .dispatched 1 (fun _ signum _ _ => signalCb signum),
    .raised sigFpe, .dispatched 2 (fun _ signum _ _ => signalCb signum), .raised sigTerm]

theorem term_then_fpe_accounted :
    ∃ process, (handlerSystem (fun signal => signal)).run (.start (fun signal => signal))
        (mainSetup ++ termThenFpe) = some process ∧
      calls process.log = [answered sigFpe, answered sigHup, answered sigTerm] ∧
      process.watched = false ∧ process.pipe = [toByte sigTerm] := by
  have later : ∀ event ∈ termThenFpe, Later event := by
    intro event member
    simp only [termThenFpe, List.mem_cons, List.not_mem_nil, or_false] at member
    obtain rfl | rfl | rfl | rfl | rfl | rfl := member
    · exact .raised _
    · exact .raised _
    · exact .dispatched _
    · exact .raised _
    · exact .dispatched _
    · exact .raised _
  obtain ⟨process, ran⟩ : ∃ process,
      (handlerSystem (fun signal => signal)).run (.start (fun signal => signal))
        (mainSetup ++ termThenFpe) = some process := ⟨_, rfl⟩
  obtain ⟨fifo, called, fatal, watched⟩ := signals_accounted (fun signal => signal) termThenFpe
    later ran
  have handled : handlings process.log = [sigFpe, sigHup, sigTerm] := by
    cases ran
    decide +kernel
  refine ⟨process, ran, ?_, ?_, ?_⟩
  · rw [called, handled]
    rfl
  · rw [Bool.eq_false_iff, Ne, watched, handled]
    decide
  · cases ran
    decide +kernel

end CafeSession.UnixSignals

import Mathlib.Logic.Function.Basic
import Mathlib.Data.List.Basic
import CafeSession.Transition.System

/-! # The handler of Unix signals

`CdmSignalHandler`: what is to be called for a signal is kept in three tables, a
signal that is caught is written to a pipe as a byte, and the main loop reads the
pipe and calls what is registered. -/

namespace CafeSession.UnixSignals

open CafeSession.Transition

/-- What the process does on a signal: call `signal_handler`, or what it did before. -/
inductive Disposition (Action : Type) where
  | signalHandler
  | other (action : Action)
deriving DecidableEq

structure CallbackData (Func Data : Type) where
  signalNumber : Int
  func : Option Func
  data : Option Data
  id : UInt32
deriving DecidableEq

/-- `CdmSignalHandler`; a list that is `NULL` is empty, and newest ids come first. -/
structure Handler (Func Data Action Fatal : Type) where
  lookup : Int → List UInt32
  idLookup : UInt32 → Option (CallbackData Func Data)
  actionLookup : Int → Option (Disposition Action)
  nextId : UInt32
  /-- `fatal_func` with its data -/
  fatalFunc : Option Fatal

inductive Effect (Func Data Fatal : Type) where
  /-- the byte of the signal is written to the pipe -/
  | caught (signo : Int)
  /-- the byte of the signal has been read -/
  | handling (signum : Int)
  /-- a callback has been called, and has answered -/
  | ran (signum : Int) (func : Func) (data : Option Data) (answer : Bool)
  | fatal (func : Fatal)
deriving DecidableEq

structure Process (Func Data Action Fatal : Type) where
  handler : Handler Func Data Action Fatal
  disposition : Int → Disposition Action
  pipe : List UInt8
  /-- the watch on the pipe is there -/
  watched : Bool
  exited : Bool
  /-- newest first -/
  log : List (Effect Func Data Fatal)

/-- What a callback answers, when this has happened. -/
abbrev Answers (Func Data Fatal : Type) :=
  List (Effect Func Data Fatal) → Int → Func → Option Data → Bool

inductive Event (Func Data Fatal : Type) where
  | add (signalNumber : Int) (callback : Option Func) (data : Option Data)
  | addFatal
  | remove (id : UInt32)
  | removeFunc (signalNumber : Int) (callback : Option Func) (data : Option Data)
  | setFatalFunc (func : Option Fatal)
  /-- the kernel delivers a signal that is caught -/
  | raised (signo : Int)
  /-- the main loop finds so many bytes in the pipe -/
  | dispatched (count : Nat) (answers : Answers Func Data Fatal)

def sigHup : Int := 1
def sigInt : Int := 2
def sigIll : Int := 4
def sigTrap : Int := 5
def sigAbrt : Int := 6
def sigBus : Int := 7
def sigFpe : Int := 8
def sigUsr1 : Int := 10
def sigSegv : Int := 11
def sigTerm : Int := 15

/-- The signals after which `signal_handler` exits at once. -/
def crashes (signo : Int) : Bool :=
  signo = sigSegv || signo = sigBus || signo = sigIll || signo = sigAbrt || signo = sigTrap

/-- The byte that `signal_handler` writes. -/
def toByte (signo : Int) : UInt8 :=
  UInt8.ofInt signo

/-- What `signal_io_watch` takes a byte for; `char` is signed. -/
def ofByte (byte : UInt8) : Int :=
  byte.toInt8.toInt

variable {Func Data Action Fatal : Type}

namespace Handler

/-- `cdm_signal_handler_init`. -/
def init : Handler Func Data Action Fatal where
  lookup _ := []
  idLookup _ := none
  actionLookup _ := none
  nextId := 1
  fatalFunc := none

end Handler

namespace Process

/-- A process before it has a callback, with the dispositions it was started with. -/
def start (original : Int → Action) : Process Func Data Action Fatal where
  handler := .init
  disposition signal := .other (original signal)
  pipe := []
  watched := true
  exited := false
  log := []

/-- `catch_signal`, for a signal that can be caught: `sigaction` fails for SIGKILL,
SIGSTOP and a number that is no signal, and leaves the process as it is. -/
def catchSignal (process : Process Func Data Action Fatal) (signalNumber : Int) :
    Process Func Data Action Fatal :=
  { process with
    disposition := Function.update process.disposition signalNumber .signalHandler
    handler := { process.handler with
      actionLookup := Function.update process.handler.actionLookup signalNumber
        (some (process.disposition signalNumber)) } }

/-- `uncatch_signal`; `sigaction` without an action changes nothing. -/
def uncatchSignal (process : Process Func Data Action Fatal) (signalNumber : Int) :
    Process Func Data Action Fatal :=
  { process with
    disposition := match process.handler.actionLookup signalNumber with
      | some oldAction => Function.update process.disposition signalNumber oldAction
      | none => process.disposition
    handler := { process.handler with
      actionLookup := Function.update process.handler.actionLookup signalNumber none } }

/-- `cdm_signal_handler_add`. -/
def add (process : Process Func Data Action Fatal) (signalNumber : Int) (callback : Option Func)
    (data : Option Data) : Process Func Data Action Fatal :=
  let id := process.handler.nextId
  let caught :=
    if process.handler.actionLookup signalNumber = none then process.catchSignal signalNumber
    else process
  { caught with handler := { caught.handler with
      nextId := id + 1
      idLookup := Function.update caught.handler.idLookup id
        (some ⟨signalNumber, callback, data, id⟩)
      lookup := Function.update caught.handler.lookup signalNumber
        (id :: caught.handler.lookup signalNumber) } }

/-- `cdm_signal_handler_add_fatal`. -/
def addFatal (process : Process Func Data Action Fatal) : Process Func Data Action Fatal :=
  [sigIll, sigBus, sigSegv, sigAbrt, sigTrap].foldl
    (fun process signal => process.add signal none none) process

/-- `cdm_signal_handler_remove_and_free_data`. -/
def removeAndFreeData (process : Process Func Data Action Fatal) (cdata : CallbackData Func Data) :
    Process Func Data Action Fatal :=
  let list := (process.handler.lookup cdata.signalNumber).filter (fun id => id ≠ cdata.id)
  let released := if list = [] then process.uncatchSignal cdata.signalNumber else process
  { released with handler := { released.handler with
      lookup := Function.update released.handler.lookup cdata.signalNumber list
      idLookup := Function.update released.handler.idLookup cdata.id none } }

/-- `cdm_signal_handler_remove`. -/
def remove (process : Process Func Data Action Fatal) (id : UInt32) :
    Process Func Data Action Fatal :=
  match process.handler.idLookup id with
  | some found => process.removeAndFreeData found
  | none => process

section Compare

variable [DecidableEq Func] [DecidableEq Data]

/-- `find_callback_data_by_func`. -/
def findCallbackDataByFunc (process : Process Func Data Action Fatal) (signalNumber : Int)
    (callback : Option Func) (data : Option Data) : Option (CallbackData Func Data) :=
  ((process.handler.lookup signalNumber).filterMap process.handler.idLookup).find?
    (fun found => found.func = callback && found.data = data)

/-- `cdm_signal_handler_remove_func`. -/
def removeFunc (process : Process Func Data Action Fatal) (signalNumber : Int)
    (callback : Option Func) (data : Option Data) : Process Func Data Action Fatal :=
  match process.findCallbackDataByFunc signalNumber callback data with
  | some found => process.removeAndFreeData found
  | none => process

end Compare

/-- `signal_handler`, without the backtrace. -/
def signalHandler (process : Process Func Data Action Fatal) (signo : Int) :
    Process Func Data Action Fatal :=
  if crashes signo then { process with exited := true }
  else { process with
    pipe := process.pipe ++ [toByte signo]
    log := .caught signo :: process.log }

/-- Call what is registered, if there is a function to call; `true` stands for a
callback that was fatal. -/
def runCallback (answers : Answers Func Data Fatal) (signum : Int)
    (outcome : List (Effect Func Data Fatal) × Bool) (cdata : CallbackData Func Data) :
    List (Effect Func Data Fatal) × Bool :=
  match cdata.func with
  | some func =>
      let res := answers outcome.1 signum func cdata.data
      (.ran signum func cdata.data res :: outcome.1, outcome.2 || !res)
  | none => outcome

/-- The handlers of one byte. -/
def handleByte (handler : Handler Func Data Action Fatal) (answers : Answers Func Data Fatal)
    (outcome : List (Effect Func Data Fatal) × Bool) (byte : UInt8) :
    List (Effect Func Data Fatal) × Bool :=
  let signum := ofByte byte
  (handler.lookup signum).foldl (fun outcome id =>
    match handler.idLookup id with
    | some cdata => runCallback answers signum outcome cdata
    | none => outcome) (.handling signum :: outcome.1, outcome.2)

/-- `signal_io_watch`, when so many bytes are read. -/
def signalIoWatch (process : Process Func Data Action Fatal) (count : Nat)
    (answers : Answers Func Data Fatal) : Process Func Data Action Fatal :=
  let (log, isFatal) :=
    (process.pipe.take count).foldl (handleByte process.handler answers) (process.log, false)
  let read := { process with pipe := process.pipe.drop count, log := log }
  if isFatal then
    match process.handler.fatalFunc with
    | some func => { read with log := .fatal func :: log, watched := false }
    | none => { read with exited := true }
  else read

variable [DecidableEq Func] [DecidableEq Data] [DecidableEq Action]

/-- `none`: the event cannot occur.  The buffer of the watch takes 256 bytes, and
Linux has 64 signals. -/
def step (process : Process Func Data Action Fatal) (event : Event Func Data Fatal) :
    Option (Process Func Data Action Fatal) :=
  if process.exited then none
  else match event with
    | .add signalNumber callback data => some (process.add signalNumber callback data)
    | .addFatal => some process.addFatal
    | .remove id => some (process.remove id)
    | .removeFunc signalNumber callback data => some (process.removeFunc signalNumber callback data)
    | .setFatalFunc func =>
        some { process with handler := { process.handler with fatalFunc := func } }
    | .raised signo =>
        if 1 ≤ signo ∧ signo ≤ 64 ∧ process.disposition signo = .signalHandler then
          some (process.signalHandler signo)
        else none
    | .dispatched count answers =>
        if process.watched ∧ 0 < count ∧ count ≤ 256 ∧ count ≤ process.pipe.length then
          some (process.signalIoWatch count answers)
        else none

end Process

end CafeSession.UnixSignals

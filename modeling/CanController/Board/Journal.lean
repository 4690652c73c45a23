import CanController.Interrupt.Controller
import CanController.Interrupt.Table
import CanController.Mode
import CanController.Register.Setup

/-!
The journal of a board: everything that can be noticed from outside while it runs, in the order in
which it happens.  What one observer sees (the registers, the clock, the interrupt lines, the
handlers, the log, the pauses) is a selection from it.
-/

namespace CanController

inductive LogLevel
  | trace
  | debug
deriving DecidableEq

def LogLevel.name : LogLevel → String
  | trace => "trace"
  | debug => "debug"

inductive LogRecord
  | cellReset
  | sleepCleared
  | sleepRequested
  | initializationRequested
  | normalRequested
  | entered (mode : Mode)
  | reconfigured (setup : Setup)
  | attached (source : Source)
  | detached (source : Source)
deriving DecidableEq

namespace LogRecord

def level : LogRecord → LogLevel
  | cellReset | reconfigured _ => .debug
  | _ => .trace

def message : LogRecord → String
  | cellReset => "peripheral clocked and reset"
  | sleepCleared => "sleep request cleared"
  | sleepRequested => "sleep requested"
  | initializationRequested => "initialization requested"
  | normalRequested => "normal mode requested"
  | entered mode => "entered " ++ mode.name ++ " mode"
  | reconfigured setup =>
      "reconfigured: mcr " ++ Word.hex setup.control ++ " ier " ++ Word.hex setup.interrupts
        ++ " btr " ++ Word.hex setup.timing
  | attached source => "attached " ++ source.name ++ " handler"
  | detached source => "detached " ++ source.name ++ " handler"

end LogRecord

inductive ClockSignal
  | enable
  | reset
deriving DecidableEq

inductive Event
  /-- The driver writes a word to a register, whether or not that changes it. -/
  | written (register : Register) (word : Word)
  | clock (signal : ClockSignal)
  | line (line : Line) (isUnmasked : Bool)
  | slot (source : Source) (content : Option Handler)
  | gate (isOpen : Bool)
  /-- A handler runs because its source was dispatched. -/
  | dispatched (source : Source) (handler : Handler)
  /-- A handler runs because it was called by hand. -/
  | invoked (handler : Handler)
  /-- A record is logged while the control word is `control`. -/
  | logged (record : LogRecord) (control : Word)
  /-- A pause begins while the configuration words are `setup`. -/
  | paused (setup : Setup) (microseconds : UInt32)
deriving DecidableEq

abbrev Journal := Array Event

namespace Journal

def clockSignals (journal : Journal) : List ClockSignal :=
  journal.toList.filterMap fun
    | .clock signal => some signal
    | _ => none

/-- The lines unmasked (`true`) and masked (`false`). -/
def lineChanges (journal : Journal) : List (Line × Bool) :=
  journal.toList.filterMap fun
    | .line line isUnmasked => some (line, isUnmasked)
    | _ => none

def handlersRun (journal : Journal) : List Handler :=
  journal.toList.filterMap fun
    | .dispatched _ handler => some handler
    | .invoked handler => some handler
    | _ => none

def log (journal : Journal) : List (LogRecord × Word) :=
  journal.toList.filterMap fun
    | .logged record control => some (record, control)
    | _ => none

def pauses (journal : Journal) : List (Setup × UInt32) :=
  journal.toList.filterMap fun
    | .paused setup microseconds => some (setup, microseconds)
    | _ => none

def microseconds (journal : Journal) : Nat :=
  journal.pauses.foldl (fun total pause => total + pause.2.toNat) 0

/-- The configuration words at the pauses, with the length of every run of equal ones. -/
def pauseRuns (journal : Journal) : List (Setup × Nat) :=
  (journal.pauses.map (·.1)).foldr lengthen []
where
  lengthen (setup : Setup) : List (Setup × Nat) → List (Setup × Nat)
    | (same, count) :: rest =>
        if setup = same then (same, count + 1) :: rest else (setup, 1) :: (same, count) :: rest
    | [] => [(setup, 1)]

end Journal

end CanController

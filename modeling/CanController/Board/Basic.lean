import CanController.Board.Journal
import CanController.Timing.BitTiming

/-!
A board carries the cell's registers and clock, the handler table and the interrupt controller; it
keeps a journal and stands in surroundings of which nothing is said here.  This module has the
steps everything else is made of: register accesses, log records, and handlers that run.
-/

namespace CanController

structure Board (Surroundings : Type) where
  memory : Memory
  clock : Hertz
  table : HandlerTable
  controller : Controller
  journal : Journal
  surroundings : Surroundings
deriving DecidableEq

namespace Board

variable {Surroundings : Type}

def record (board : Board Surroundings) (event : Event) : Board Surroundings :=
  { board with journal := board.journal.push event }

/-- A log record shows the control word of its moment. -/
def log (board : Board Surroundings) (record : LogRecord) : Board Surroundings :=
  board.record (.logged record (board.memory.read .masterControl))

/-- The driver writes a register. -/
def write (board : Board Surroundings) (register : Register) (word : Word) :
    Board Surroundings :=
  { board with memory := board.memory.write register word }.record (.written register word)

def modify (board : Board Surroundings) (register : Register) (change : Word → Word) :
    Board Surroundings :=
  board.write register (change (board.memory.read register))

def mode (board : Board Surroundings) : Mode :=
  board.memory.mode

/-- What a handler writes is no write of the driver. -/
def perform (board : Board Surroundings) (handler : Handler) : Board Surroundings :=
  { board with
    memory := handler.writes.foldl (fun memory (address, word) => memory.set address word)
      board.memory }

/-- Let handlers run for dispatched sources, one after the other. -/
def runAll (board : Board Surroundings) (calls : List (Source × Handler)) : Board Surroundings :=
  calls.foldl
    (fun board (source, handler) => (board.record (.dispatched source handler)).perform handler)
    board

theorem journal_runAll (board : Board Surroundings) (calls : List (Source × Handler)) :
    (board.runAll calls).journal.toList =
      board.journal.toList ++ calls.map fun call => .dispatched call.1 call.2 := by
  induction calls generalizing board with
  | nil => simp [runAll]
  | cons call calls inductionHypothesis =>
      have rest := inductionHypothesis ((board.record (.dispatched call.1 call.2)).perform call.2)
      rw [runAll, List.foldl_cons]
      refine rest.trans ?_
      simp [perform, record]

/-- Handlers that run leave the table as it is. -/
theorem table_runAll (board : Board Surroundings) (calls : List (Source × Handler)) :
    (board.runAll calls).table = board.table := by
  induction calls generalizing board with
  | nil => rfl
  | cons call calls inductionHypothesis => exact inductionHypothesis _

/-- Handlers that run leave the interrupt controller as it is. -/
theorem controller_runAll (board : Board Surroundings) (calls : List (Source × Handler)) :
    (board.runAll calls).controller = board.controller := by
  induction calls generalizing board with
  | nil => rfl
  | cons call calls inductionHypothesis => exact inductionHypothesis _

/-- Dispatch a source: its handler runs if the gate is open, and what that dispatches runs after. -/
def dispatch (board : Board Surroundings) (source : Source) : Board Surroundings :=
  board.runAll (board.table.calls source)

/-- Run a handler by hand.  The gate decides only about what the handler dispatches. -/
def invoke (board : Board Surroundings) (handler : Handler) : Board Surroundings :=
  handler.dispatches.foldl dispatch ((board.record (.invoked handler)).perform handler)

def store (board : Board Surroundings) (source : Source) (content : Option Handler) :
    Board Surroundings :=
  { board with table := board.table.store source content }.record (.slot source content)

/-- Open or close the gate of the handler table. -/
def setGate (board : Board Surroundings) (isOpen : Bool) : Board Surroundings :=
  { board with table := { board.table with isOpen } }.record (.gate isOpen)

end Board

end CanController

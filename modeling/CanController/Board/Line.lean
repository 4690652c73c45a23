import CanController.Board.Basic

/-!
Interrupts on their way to the handlers.  A raised source is dispatched if its line is unmasked and
waits otherwise; unmasking a line serves the sources that wait on it, and masking it lets the armed
ones in first.
-/

namespace CanController.Board

variable {Surroundings : Type}

def raise (board : Board Surroundings) (source : Source) : Board Surroundings :=
  if board.controller.IsUnmasked (board.controller.line source) then
    board.dispatch source
  else
    { board with controller := board.controller.setPending source true }

def arm (board : Board Surroundings) (source : Source) : Board Surroundings :=
  { board with controller := board.controller.setArmed source true }

def servePending (board : Board Surroundings) (source : Source) : Board Surroundings :=
  if board.controller.pending.get source then
    { board with controller := board.controller.setPending source false }.dispatch source
  else
    board

def raiseArmed (board : Board Surroundings) (source : Source) : Board Surroundings :=
  if board.controller.armed.get source then
    { board with controller := board.controller.setArmed source false }.raise source
  else
    board

/-- Unmask a line, then serve its pending sources. -/
def unmask (board : Board Surroundings) (line : Line) : Board Surroundings :=
  let board := board.record (.line line true)
  let board := { board with controller := board.controller.unmask line }
  (board.controller.sources line).foldl servePending board

/-- Raise the armed sources of a line, then mask it. -/
def mask (board : Board Surroundings) (line : Line) : Board Surroundings :=
  let board := board.record (.line line false)
  let board := (board.controller.sources line).foldl raiseArmed board
  { board with controller := board.controller.mask line }

end CanController.Board

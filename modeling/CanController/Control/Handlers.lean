import CanController.Board.Line

/-!
Handlers come and go while the line of their source is masked, so that no dispatch meets a slot in
the middle of a change.
-/

namespace CanController.Board

variable {Surroundings : Type}

/-- Put a handler into the slot of a source and unmask its line. -/
def attach (board : Board Surroundings) (source : Source) (handler : Handler) :
    Board Surroundings :=
  let line := board.controller.line source
  (((board.mask line).store source (some handler)).unmask line).log (.attached source)

/-- Mask the line of a source and empty its slot. -/
def detach (board : Board Surroundings) (source : Source) : Board Surroundings :=
  ((board.mask (board.controller.line source)).store source none).log (.detached source)

def release (board : Board Surroundings) : Board Surroundings :=
  (Source.all.foldl detach board).setGate false

end CanController.Board

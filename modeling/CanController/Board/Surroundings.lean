import CanController.Board.Basic

/-!
What goes on around the driver while it pauses.  The surroundings see how long the pause is and
what the registers hold, and answer with effects on the board; what they remember from one pause to
the next is up to them.
-/

namespace CanController

inductive Effect
  | write (address : Address) (word : Word)
  | dispatch (source : Source)
deriving DecidableEq

/-- How surroundings act during a pause: in a pause of so many microseconds, on what they see in
the registers and remember, these effects take place in turn and this is remembered. -/
structure Environment (Surroundings : Type) where
  react : UInt32 → Memory → Surroundings → List Effect × Surroundings

namespace Board

variable {Surroundings : Type}

def undergo (board : Board Surroundings) : Effect → Board Surroundings
  | .write address word => { board with memory := board.memory.set address word }
  | .dispatch source => board.dispatch source

/-- Pause for so many microseconds, which gives the surroundings an opportunity to act. -/
def pause (environment : Environment Surroundings) (microseconds : UInt32)
    (board : Board Surroundings) : Board Surroundings :=
  let reaction := environment.react microseconds board.memory board.surroundings
  let board := board.record (.paused board.memory.setup microseconds)
  reaction.1.foldl undergo { board with surroundings := reaction.2 }

end Board

end CanController

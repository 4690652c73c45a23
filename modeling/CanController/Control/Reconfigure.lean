import CanController.Control.Mode

/-!
Reconfiguration.  Configuration is written in initialization mode only: the driver enters that mode,
writes the three words in one go, and returns the cell to bus traffic.  A timing that the clock
cannot realize is refused before anything is touched.
-/

namespace CanController.Board

variable {Surroundings : Type}

/-- Give the cell its clock and reset it.  The driver writes no register for that. -/
def resetCell (board : Board Surroundings) : Board Surroundings :=
  let board := (board.record (.clock .enable)).record (.clock .reset)
  { board with memory := board.memory.reset }.log .cellReset

/-- Write the configuration bits of the three words. -/
def configure (board : Board Surroundings) (setup : Setup) : Board Surroundings :=
  board
    |>.modify .masterControl (Word.merge MasterControl.configMask setup.control)
    |>.modify .interruptEnable (Word.merge InterruptEnable.configMask setup.interrupts)
    |>.modify .timingControl (Word.merge TimingControl.configMask setup.timing)

/-- Configure the cell by an excursion into initialization mode. -/
def apply (environment : Environment Surroundings) (limit : PollLimit) (setup : Setup)
    (board : Board Surroundings) : Except Error Unit × Board Surroundings :=
  match board.enterInitialization environment limit with
  | (.error error, board) => (.error error, board)
  | (.ok (), board) =>
      match (board.configure setup).enterNormal environment limit with
      | (.error error, board) => (.error error, board)
      | (.ok (), board) => (.ok (), board.log (.reconfigured board.memory.setup))

/-- Apply a configuration, unless the clock cannot realize its timing. -/
def reconfigure (environment : Environment Surroundings) (config : Config)
    (board : Board Surroundings) : Except Error Unit × Board Surroundings :=
  match config.setup board.clock with
  | .error cause => (.error (.unsupportedConfiguration cause), board)
  | .ok setup => board.apply environment config.pollLimit setup

theorem reconfigure_of_unsupported {environment : Environment Surroundings} {config : Config}
    {board : Board Surroundings} {cause : BitTimingError}
    (refused : config.setup board.clock = .error cause) :
    board.reconfigure environment config = (.error (.unsupportedConfiguration cause), board) := by
  rw [reconfigure, refused]

theorem reconfigure_of_supported {environment : Environment Surroundings} {config : Config}
    {board : Board Surroundings} {setup : Setup}
    (supported : config.setup board.clock = .ok setup) :
    board.reconfigure environment config = board.apply environment config.pollLimit setup := by
  rw [reconfigure, supported]

def start (environment : Environment Surroundings) (config : Config)
    (board : Board Surroundings) : Except Error Unit × Board Surroundings :=
  board.resetCell.reconfigure environment config

end CanController.Board

import CanController.Board.Surroundings
import CanController.Config
import CanController.Error

/-!
Mode control.  A mode is requested in the control word and awaited in the status word: the driver
looks once, then again after each pause, until it sees the mode or has made as many pauses as it
may.  A wait writes no register.
-/

namespace CanController.Board

variable {Surroundings : Type}

def wake (board : Board Surroundings) : Board Surroundings :=
  (board.modify .masterControl (MasterControl.sleepRequest.put false)).log .sleepCleared

def requestSleep (board : Board Surroundings) : Board Surroundings :=
  (board.modify .masterControl (MasterControl.sleepRequest.put true)).log .sleepRequested

/-- Request initialization; the request for sleep is withdrawn first. -/
def requestInitialization (board : Board Surroundings) : Board Surroundings :=
  (board.wake.modify .masterControl (MasterControl.initializationRequest.put true)).log
    .initializationRequested

/-- Withdraw the request for initialization.  A request for sleep stays. -/
def requestNormal (board : Board Surroundings) : Board Surroundings :=
  (board.modify .masterControl (MasterControl.initializationRequest.put false)).log
    .normalRequested

/-- Wait for a mode with at most so many pauses, each of `interval` microseconds. -/
def awaitMode (environment : Environment Surroundings) (target : Mode) (interval : UInt32) :
    Nat → Board Surroundings → Except Error Unit × Board Surroundings
  | 0, board =>
      if board.mode = target then (.ok (), board.log (.entered target))
      else (.error (.timeout target board.mode), board)
  | attempts + 1, board =>
      if board.mode = target then (.ok (), board.log (.entered target))
      else awaitMode environment target interval attempts (board.pause environment interval)

def await (environment : Environment Surroundings) (limit : PollLimit) (target : Mode)
    (board : Board Surroundings) : Except Error Unit × Board Surroundings :=
  awaitMode environment target limit.interval limit.attempts.toNat board

def enterInitialization (environment : Environment Surroundings) (limit : PollLimit)
    (board : Board Surroundings) : Except Error Unit × Board Surroundings :=
  board.requestInitialization.await environment limit .initialization

def enterNormal (environment : Environment Surroundings) (limit : PollLimit)
    (board : Board Surroundings) : Except Error Unit × Board Surroundings :=
  board.requestNormal.await environment limit .normal

end CanController.Board

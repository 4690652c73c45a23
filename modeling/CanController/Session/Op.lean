import CanController.Board.Hardware
import CanController.Control.Handlers
import CanController.Control.Reconfigure
import CanController.ErrorStatus
import CanController.Mailbox.Contents

/-!
The operations of a session, sorted by what they act on, and the replies they get.
-/

namespace CanController

/-- Operations on the mode and the configuration. -/
inductive ModeOp
  | resetCell
  | start (rate : BitRate) (options : Options) (modes : TestModes)
  | wake
  | requestInitialization
  | requestNormal
  | requestSleep
  | enterInitialization
  | enterNormal
  | reconfigure
  | apply (setup : Setup)
  | update (change : Config.Change)
  | mode
  | poll (target : Mode)
deriving DecidableEq

inductive HandlerOp
  | attach (source : Source) (handler : Handler)
  | detach (source : Source)
  | setGate (isOpen : Bool)
  | isAttached
  | invoke (source : Source)
deriving DecidableEq

/-- Questions about the state of the cell. -/
inductive QueryOp
  | clock
  | errorStatus
  | isFree (number : Nat)
  | firstFree
  | txMailbox (number : Nat)
  | rxMailbox (fifo : RxFifo)
  | fifoStatus (fifo : RxFifo)
deriving DecidableEq

/-- Accesses of the driver to a register. -/
inductive RegisterOp
  | read (register : Register)
  | bits (register : Register)
  | set (register : Register) (field : Field) (value : Nat)
  | merge (register : Register) (mask word : Word)
deriving DecidableEq

/-- What happens on the board without the driver. -/
inductive WorldOp
  | write (register : Register) (word : Word)
  | poke (address : Address) (word : Word)
  | peek (address : Address)
  | dump (blank : Word)
  | settle
  | setHardware (settings : HardwareSettings)
  | dispatch (source : Source)
  | raise (source : Source)
  | arm (source : Source)
  | isOpen
deriving DecidableEq

inductive Op
  | mode (op : ModeOp)
  | handler (op : HandlerOp)
  | query (op : QueryOp)
  | register (op : RegisterOp)
  | world (op : WorldOp)
  /-- The driver gives up the cell. -/
  | release
  /-- A new driver takes over a cell that was given up, and perhaps its clock is another one. -/
  | adopt (config : Config) (clock : Option Hertz)
deriving DecidableEq

inductive Reply
  | done
  | failed (error : Error)
  | wouldBlock
  /-- The operation needs a driver and there is none, or the other way round. -/
  | unavailable
  | flag (value : Bool)
  | flags (values : PerSource Bool)
  | mode (mode : Mode)
  | config (config : Config)
  | clock (clock : Hertz)
  | errorStatus (status : ErrorStatus)
  | mailbox (found : Option TxMailbox)
  | contents (contents : MailboxContents) (offset : Nat)
  | fifoStatus (status : FifoStatus)
  | word (word : Word)
  | fields (word : Word) (layout : Layout)
  | words (words : List (Address × Word))
deriving DecidableEq

namespace Reply

def ofExcept {Value : Type} (result : Except Error Value) (reply : Value → Reply) : Reply :=
  match result with
  | .ok value => reply value
  | .error error => .failed error

/-- The reply to an operation that has nothing to say but whether it worked. -/
def ofOutcome (outcome : Except Error Unit) : Reply :=
  ofExcept outcome fun () => done

end Reply

end CanController

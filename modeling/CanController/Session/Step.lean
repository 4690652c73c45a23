import CanController.Session.Op

/-!
A session: one driver on one board with simulated hardware, and a list of operations.  Each step
starts with an empty journal and fresh pause counters, and is reported with its reply, its journal,
and a glance at the registers and the mode after it.
-/

namespace CanController

structure Session where
  board : Board Hardware
  /-- The driver's configuration; none while the cell is given up. -/
  config? : Option Config
deriving DecidableEq

structure Report where
  reply : Reply
  registers : List Word
  /-- The mode that the driver reports, if there is a driver. -/
  mode? : Option Mode
  journal : Journal
deriving DecidableEq

def ModeOp.run (op : ModeOp) (config : Config) (board : Board Hardware) :
    Reply × Config × Board Hardware :=
  let environment := Hardware.environment
  let limit := config.pollLimit
  let waited (config : Config) (result : Except Error Unit × Board Hardware) :=
    (Reply.ofOutcome result.1, config, result.2)
  match op with
  | resetCell => (.done, config, board.resetCell)
  | start rate options modes =>
      let config := config.start rate options modes
      waited config (board.start environment config)
  | wake => (.done, config, board.wake)
  | requestInitialization => (.done, config, board.requestInitialization)
  | requestNormal => (.done, config, board.requestNormal)
  | requestSleep => (.done, config, board.requestSleep)
  | enterInitialization => waited config (board.enterInitialization environment limit)
  | enterNormal => waited config (board.enterNormal environment limit)
  | reconfigure => waited config (board.reconfigure environment config)
  | apply setup => waited config (board.apply environment limit setup)
  | update change => (.config (config.update change), config.update change, board)
  | mode => (.mode board.mode, config, board)
  | poll target => (if board.mode = target then .done else .wouldBlock, config, board)

def HandlerOp.run (op : HandlerOp) (board : Board Hardware) : Reply × Board Hardware :=
  match op with
  | attach source handler => (.done, board.attach source handler)
  | detach source => (.done, board.detach source)
  | setGate isOpen => (.done, board.setGate isOpen)
  | isAttached =>
      let attached (source : Source) := (board.table.slots.get source).isSome
      (.flags ⟨attached .tx, attached .rx, attached .statusChange⟩, board)
  | invoke source =>
      match board.table.slots.get source with
      | some handler => (.flag true, board.invoke handler)
      | none => (.flag false, board)

def QueryOp.answer (op : QueryOp) (board : Board Hardware) : Reply :=
  let memory := board.memory
  match op with
  | clock => .clock board.clock
  | errorStatus => .errorStatus (.ofWord (memory.read .errorState))
  | isFree number =>
      .ofExcept (TxMailbox.ofNumber number) fun mailbox => .flag (mailbox.isFree memory)
  | firstFree => .mailbox (TxMailbox.firstFree? memory)
  | txMailbox number =>
      .ofExcept (TxMailbox.ofNumber number) fun mailbox =>
        .contents (mailbox.contents memory) mailbox.offset
  | rxMailbox fifo => .contents (fifo.contents memory) fifo.offset
  | fifoStatus fifo => .fifoStatus (fifo.status memory)

def RegisterOp.run (op : RegisterOp) (board : Board Hardware) : Reply × Board Hardware :=
  match op with
  | read register => (.fields (board.memory.read register) register.layout, board)
  | bits register => (.word (board.memory.read register), board)
  | set register field value => (.done, board.modify register (field.set value))
  | merge register mask word => (.done, board.modify register (Word.merge mask word))

def WorldOp.run (op : WorldOp) (board : Board Hardware) : Reply × Board Hardware :=
  match op with
  | write register word => (.done, { board with memory := board.memory.write register word })
  | poke address word => (.done, { board with memory := board.memory.set address word })
  | peek address => (.word (board.memory.get address), board)
  | dump blank => (.words (board.memory.contents blank), board)
  | settle => (.done, { board with memory := board.memory.settle })
  | setHardware settings => (.done, { board with surroundings := .fresh settings })
  | dispatch source => (.done, board.dispatch source)
  | raise source => (.done, board.raise source)
  | arm source => (.done, board.arm source)
  | isOpen => (.flag board.table.isOpen, board)

namespace Session

/-- A driver that has just taken over the cell of a new board: the handler table is empty and the
interrupt controller idle. -/
def new (memory : Memory) (clock : Hertz) (wiring : PerSource Line)
    (settings : HardwareSettings) (config : Config) : Session where
  board := ⟨memory, clock, .empty, .idle wiring, #[], .fresh settings⟩
  config? := some config

def run (session : Session) (op : Op) : Reply × Session :=
  match op, session.config? with
  | .world op, _ =>
      let (reply, board) := op.run session.board
      (reply, { session with board })
  | .mode op, some config =>
      let (reply, config, board) := op.run config session.board
      (reply, ⟨board, some config⟩)
  | .handler op, some _ =>
      let (reply, board) := op.run session.board
      (reply, { session with board })
  | .query op, some _ => (op.answer session.board, session)
  | .register op, some _ =>
      let (reply, board) := op.run session.board
      (reply, { session with board })
  | .release, some _ => (.done, ⟨session.board.release, none⟩)
  | .adopt config clock, none =>
      (.done, ⟨{ session.board with clock := clock.getD session.board.clock }, some config⟩)
  | _, _ => (.unavailable, session)

/-- A session about to make a step: nothing is in the journal and no pause has been made. -/
def ready (session : Session) : Session :=
  { session with
    board := { session.board with
      journal := #[]
      surroundings := .fresh session.board.surroundings.settings } }

/-- Make one step. -/
def step (session : Session) (op : Op) : Report × Session :=
  let (reply, session) := session.ready.run op
  let report := {
    reply
    registers := Register.front.map session.board.memory.read
    mode? := session.config?.map fun _ => session.board.mode
    journal := session.board.journal }
  (report, session)

def steps (session : Session) : List Op → List Report × Session
  | [] => ([], session)
  | op :: ops =>
      let (report, session) := session.step op
      let (reports, session) := session.steps ops
      (report :: reports, session)

end Session

end CanController

import CanController.Mailbox.Slot
import CanController.Register.Catalog

/-!
The register map: which word of the controller's block is which register.  The block has 172 words;
those of no register are reserved.  Distinct registers are distinct words (`address_injective`).
-/

namespace CanController

def filterBanks : Nat := 14

def blockWords : Nat := 172

def blockBytes : Nat := 4 * blockWords

/-- A word of the register block, reserved ones included. -/
abbrev Address := Fin blockWords

inductive MailboxPart
  | identifier
  | length
  | dataLow
  | dataHigh
deriving DecidableEq

def MailboxPart.all : List MailboxPart :=
  [identifier, length, dataLow, dataHigh]

def MailboxPart.index : MailboxPart → Nat
  | identifier => 0
  | length => 1
  | dataLow => 2
  | dataHigh => 3

inductive FilterHalf
  | first
  | second
deriving DecidableEq

def FilterHalf.index : FilterHalf → Nat
  | first => 0
  | second => 1

inductive Register
  | masterControl
  | masterStatus
  | transmitStatus
  | receiveFifo (fifo : RxFifo)
  | interruptEnable
  | errorState
  | timingControl
  | txMailbox (mailbox : TxMailbox) (part : MailboxPart)
  | rxMailbox (fifo : RxFifo) (part : MailboxPart)
  | filterMaster
  | filterMode
  | filterScale
  | filterAssignment
  | filterActivation
  | filterBank (bank : Fin filterBanks) (half : FilterHalf)
deriving DecidableEq

namespace Register

def position : Register → Nat
  | masterControl => 0
  | masterStatus => 1
  | transmitStatus => 2
  | receiveFifo fifo => 3 + fifo.index
  | interruptEnable => 5
  | errorState => 6
  | timingControl => 7
  | txMailbox mailbox part => 96 + 4 * mailbox.index + part.index
  | rxMailbox fifo part => 108 + 4 * fifo.index + part.index
  | filterMaster => 128
  | filterMode => 129
  | filterScale => 131
  | filterAssignment => 133
  | filterActivation => 135
  | filterBank bank half => 144 + 2 * bank.val + half.index

theorem position_lt (register : Register) : register.position < blockWords := by
  cases register with
  | receiveFifo fifo => cases fifo <;> decide
  | txMailbox mailbox part => cases mailbox <;> cases part <;> decide
  | rxMailbox fifo part => cases fifo <;> cases part <;> decide
  | filterBank bank half =>
      have := bank.isLt
      cases half <;> simp only [position, FilterHalf.index, filterBanks, blockWords] at * <;> omega
  | _ => decide

def address (register : Register) : Address :=
  ⟨register.position, register.position_lt⟩

def offset (register : Register) : Nat :=
  4 * register.position

/-- The registers of the block's first words, as a glance at the controller shows them. -/
def front : List Register :=
  [masterControl, masterStatus, transmitStatus, receiveFifo .fifo0, receiveFifo .fifo1,
    interruptEnable, errorState, timingControl]

def all : List Register :=
  front
  ++ (TxMailbox.all.flatMap fun mailbox => MailboxPart.all.map (txMailbox mailbox))
  ++ (RxFifo.all.flatMap fun fifo => MailboxPart.all.map (rxMailbox fifo))
  ++ [filterMaster, filterMode, filterScale, filterAssignment, filterActivation]
  ++ (List.finRange filterBanks).flatMap fun bank =>
    [filterBank bank .first, filterBank bank .second]

/-- The register at a place in the block; reserved words have none. -/
def at? (place : Address) : Option Register :=
  all.find? (·.address = place)

theorem at?_address (register : Register) : at? register.address = some register := by
  cases register with
  | receiveFifo fifo => cases fifo <;> decide
  | txMailbox mailbox part => cases mailbox <;> cases part <;> decide
  | rxMailbox fifo part => cases fifo <;> cases part <;> decide
  | filterBank bank half => cases half <;> revert bank <;> decide
  | _ => decide

theorem address_injective {one other : Register} (same : one.address = other.address) :
    one = other :=
  Option.some.inj ((at?_address one).symm.trans (same ▸ at?_address other))

def layout : Register → Layout
  | masterControl => MasterControl.layout
  | masterStatus => MasterStatus.layout
  | transmitStatus => TransmitStatus.layout
  | receiveFifo _ => ReceiveFifo.layout
  | interruptEnable => InterruptEnable.layout
  | errorState => ErrorState.layout
  | timingControl => TimingControl.layout
  | txMailbox _ .identifier | rxMailbox _ .identifier => MailboxIdentifier.layout
  | txMailbox _ .length | rxMailbox _ .length => MailboxLength.layout
  | _ => .plain

end Register

end CanController

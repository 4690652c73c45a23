import CanController.Error
import CanController.Register.Memory

/-!
What the message slots hold.  A mailbox is four words: the identifier, the length and time stamp,
and eight data bytes, lowest byte of the lower word first.  Nothing is cached: every question is
answered from the words in memory.
-/

namespace CanController

/-- The identifier of a frame: eleven bits, or twenty-nine when extended. -/
inductive Identifier
  | standard (value : Nat)
  | extended (value : Nat)
deriving DecidableEq

namespace Identifier

def ofWord (word : Word) : Identifier :=
  if MailboxIdentifier.isExtended.test word then
    .extended (MailboxIdentifier.extended.get word)
  else
    .standard (MailboxIdentifier.standard.get word)

/-- An identifier never has more bits than its kind allows. -/
def InRange : Identifier → Prop
  | standard value => value < 0x800
  | extended value => value < 0x20000000

theorem inRange_ofWord (word : Word) : (ofWord word).InRange := by
  unfold ofWord
  split
  · exact (word.extractLsb' 3 29).isLt
  · exact (word.extractLsb' 21 11).isLt

end Identifier

structure MailboxContents where
  identifier : Identifier
  isRemote : Bool
  dataLength : Nat
  timestamp : Nat
  filterMatch : Nat
  data : List Nat
deriving DecidableEq

def MailboxContents.ofMemory (memory : Memory) (register : MailboxPart → Register) :
    MailboxContents where
  identifier := .ofWord (memory.read (register .identifier))
  isRemote := MailboxIdentifier.remote.test (memory.read (register .identifier))
  dataLength := MailboxLength.dataLength.get (memory.read (register .length))
  timestamp := MailboxLength.timestamp.get (memory.read (register .length))
  filterMatch := MailboxLength.filterMatch.get (memory.read (register .length))
  data := Word.bytes (memory.read (register .dataLow)) ++
    Word.bytes (memory.read (register .dataHigh))

namespace TxMailbox

def ofNumber (number : Nat) : Except Error TxMailbox :=
  match ofNumber? number with
  | some mailbox => .ok mailbox
  | none => .error .invalidArgument

/-- Whether the mailbox is empty, so that a frame may be put into it. -/
def isFree (memory : Memory) (mailbox : TxMailbox) : Bool :=
  TransmitStatus.isEmpty mailbox.index (memory.read .transmitStatus)

def firstFree? (memory : Memory) : Option TxMailbox :=
  all.find? (isFree memory)

def contents (memory : Memory) (mailbox : TxMailbox) : MailboxContents :=
  .ofMemory memory (.txMailbox mailbox)

/-- Where the mailbox starts in the block, in bytes. -/
def offset (mailbox : TxMailbox) : Nat :=
  (Register.txMailbox mailbox .identifier).offset

end TxMailbox

structure FifoStatus where
  pending : Nat
  isFull : Bool
  /-- A frame was lost because the FIFO was full. -/
  isOverrun : Bool
deriving DecidableEq

namespace RxFifo

def status (memory : Memory) (fifo : RxFifo) : FifoStatus :=
  let word := memory.read (.receiveFifo fifo)
  ⟨ReceiveFifo.pending.get word, ReceiveFifo.full.test word, ReceiveFifo.overrun.test word⟩

/-- The frame that is next out of the FIFO. -/
def contents (memory : Memory) (fifo : RxFifo) : MailboxContents :=
  .ofMemory memory (.rxMailbox fifo)

/-- Where the FIFO's output mailbox starts in the block, in bytes. -/
def offset (fifo : RxFifo) : Nat :=
  (Register.rxMailbox fifo .identifier).offset

end RxFifo

end CanController

/-!
The message slots of the controller: three transmit mailboxes, numbered from one, and two receive
FIFOs.  The register map and the status words count both from zero.
-/

namespace CanController

inductive TxMailbox
  | first
  | second
  | third
deriving DecidableEq

namespace TxMailbox

/-- Every mailbox, in the order in which a free one is looked for. -/
def all : List TxMailbox :=
  [first, second, third]

theorem mem_all (mailbox : TxMailbox) : mailbox ∈ all := by
  cases mailbox <;> simp [all]

def index : TxMailbox → Nat
  | first => 0
  | second => 1
  | third => 2

theorem index_lt (mailbox : TxMailbox) : mailbox.index < 3 := by
  cases mailbox <;> decide

theorem index_injective {one other : TxMailbox} (same : one.index = other.index) :
    one = other := by
  cases one <;> cases other <;> simp [index] at same <;> rfl

/-- The number that users give the mailbox. -/
def number (mailbox : TxMailbox) : Nat :=
  mailbox.index + 1

def ofNumber? : Nat → Option TxMailbox
  | 1 => some first
  | 2 => some second
  | 3 => some third
  | _ => none

theorem ofNumber?_eq_some_iff {number : Nat} {mailbox : TxMailbox} :
    ofNumber? number = some mailbox ↔ number = mailbox.number := by
  constructor
  · intro found
    unfold ofNumber? at found
    split at found <;> simp at found <;> subst found <;> rfl
  · rintro rfl
    cases mailbox <;> rfl

def name : TxMailbox → String
  | first => "First"
  | second => "Second"
  | third => "Third"

end TxMailbox

inductive RxFifo
  | fifo0
  | fifo1
deriving DecidableEq

namespace RxFifo

def all : List RxFifo :=
  [fifo0, fifo1]

def index : RxFifo → Nat
  | fifo0 => 0
  | fifo1 => 1

def name : RxFifo → String
  | fifo0 => "Fifo0"
  | fifo1 => "Fifo1"

end RxFifo

end CanController

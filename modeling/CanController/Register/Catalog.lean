import CanController.Register.Layout

/-!
The register words of the controller: their fields, their values after a reset, and the masks of
the bits that carry configuration.  A configuration mask is the union of the configuration
fields, so requests, acknowledges and reserved bits are outside it.
-/

namespace CanController

namespace MasterControl

/-- Reception and transmission stop while a debugger halts the core. -/
def debugFreeze : Field := .flag "dbf" 16
def softwareReset : Field := .flag "reset" 15
def timeTriggered : Field := .flag "ttcm" 7
def autoBusOff : Field := .flag "abom" 6
def autoWakeUp : Field := .flag "awum" 5
def noRetransmit : Field := .flag "nart" 4
def rxFifoLocked : Field := .flag "rflm" 3
def txFifoPriority : Field := .flag "txfp" 2
def sleepRequest : Field := .flag "sleep" 1
def initializationRequest : Field := .flag "inrq" 0

def layout : Layout where
  name := "Mcr"
  fields := [debugFreeze, softwareReset, timeTriggered, autoBusOff, autoWakeUp, noRetransmit,
    rxFifoLocked, txFifoPriority, sleepRequest, initializationRequest]

def resetValue : Word := 0x00010002

/-- The software reset and the two mode requests carry no configuration. -/
def configMask : Word :=
  Field.union [debugFreeze, timeTriggered, autoBusOff, autoWakeUp, noRetransmit, rxFifoLocked,
    txFifoPriority]

theorem configMask_eq : configMask = 0x000100FC#32 := by decide

end MasterControl

namespace MasterStatus

def sleepAcknowledge : Field := .flag "slak" 1
def initializationAcknowledge : Field := .flag "inak" 0

def layout : Layout where
  name := "Msr"
  fields := [.flag "rx" 11, .flag "samp" 10, .flag "rxm" 9, .flag "txm" 8, .flag "slaki" 4,
    .flag "wkui" 3, .flag "erri" 2, sleepAcknowledge, initializationAcknowledge]

def resetValue : Word := 0x00000C02

end MasterStatus

namespace TransmitStatus

def mailboxEmpty2 : Field := .flag "tme2" 28
def mailboxEmpty1 : Field := .flag "tme1" 27
def mailboxEmpty0 : Field := .flag "tme0" 26

def layout : Layout where
  name := "Tsr"
  fields := [.flag "low2" 31, .flag "low1" 30, .flag "low0" 29,
    mailboxEmpty2, mailboxEmpty1, mailboxEmpty0, .range "code" 25 24,
    .flag "abrq2" 23, .flag "terr2" 19, .flag "alst2" 18, .flag "txok2" 17, .flag "rqcp2" 16,
    .flag "abrq1" 15, .flag "terr1" 11, .flag "alst1" 10, .flag "txok1" 9, .flag "rqcp1" 8,
    .flag "abrq0" 7, .flag "terr0" 3, .flag "alst0" 2, .flag "txok0" 1, .flag "rqcp0" 0]

def resetValue : Word := 0x1C000000

def emptyOffset : Nat := 26

/-- The flag `index` places above the first mailbox's empty flag. -/
def isEmpty (index : Nat) (word : Word) : Bool :=
  word.getLsbD (emptyOffset + index)

theorem isEmpty_zero (word : Word) : isEmpty 0 word = mailboxEmpty0.test word := rfl

theorem isEmpty_one (word : Word) : isEmpty 1 word = mailboxEmpty1.test word := rfl

theorem isEmpty_two (word : Word) : isEmpty 2 word = mailboxEmpty2.test word := rfl

end TransmitStatus

namespace ReceiveFifo

def overrun : Field := .flag "fovr" 4
def full : Field := .flag "full" 3
def pending : Field := .range "fmp" 1 0

def layout : Layout where
  name := "Rfr"
  fields := [.flag "rfom" 5, overrun, full, pending]

end ReceiveFifo

namespace InterruptEnable

def layout : Layout where
  name := "Ier"
  fields := [.flag "slkie" 17, .flag "wkuie" 16, .flag "errie" 15, .flag "lecie" 11,
    .flag "bofie" 10, .flag "epvie" 9, .flag "ewgie" 8, .flag "fovie1" 6, .flag "ffie1" 5,
    .flag "fmpie1" 4, .flag "fovie0" 3, .flag "ffie0" 2, .flag "fmpie0" 1, .flag "tmeie" 0]

def resetValue : Word := 0

/-- Every documented bit carries configuration. -/
def configMask : Word :=
  Field.union layout.fields

theorem configMask_eq : configMask = 0x00038F7F#32 := by decide

end InterruptEnable

namespace ErrorState

def receiveErrors : Field := .range "rec" 31 24
def transmitErrors : Field := .range "tec" 23 16
def lastError : Field := .range "lec" 6 4
def busOff : Field := .flag "boff" 2
def errorPassive : Field := .flag "epvf" 1
def errorWarning : Field := .flag "ewgf" 0

def layout : Layout where
  name := "Esr"
  fields := [receiveErrors, transmitErrors, lastError, busOff, errorPassive, errorWarning]

end ErrorState

namespace TimingControl

def silent : Field := .flag "silm" 31
def loopback : Field := .flag "lbkm" 30

/-- The four timing fields hold their quantity less one. -/
def jumpWidth : Field := .range "sjw" 25 24
def segment2 : Field := .range "ts2" 22 20
def segment1 : Field := .range "ts1" 19 16
def prescaler : Field := .range "brp" 9 0

def layout : Layout where
  name := "Btr"
  fields := [silent, loopback, jumpWidth, segment2, segment1, prescaler]

def resetValue : Word := 0x01230000

/-- Every documented bit carries configuration. -/
def configMask : Word :=
  Field.union layout.fields

theorem configMask_eq : configMask = 0xC37F03FF#32 := by decide

end TimingControl

namespace MailboxIdentifier

def standard : Field := .range "stid" 31 21

/-- An extended identifier takes the standard one's bits and those below. -/
def extended : Field := .range "exid" 31 3
def isExtended : Field := .flag "ide" 2
def remote : Field := .flag "rtr" 1
def transmitRequest : Field := .flag "txrq" 0

def layout : Layout where
  name := "MailboxId"
  fields := [standard, extended, isExtended, remote, transmitRequest]

end MailboxIdentifier

namespace MailboxLength

def timestamp : Field := .range "time" 31 16
def filterMatch : Field := .range "fmi" 15 8
def transmitTime : Field := .flag "tgt" 8
def dataLength : Field := .range "dlc" 3 0

def layout : Layout where
  name := "MailboxDataLength"
  fields := [timestamp, filterMatch, transmitTime, dataLength]

end MailboxLength

/-- The layouts of all words that have documented fields. -/
def Layout.catalog : List Layout :=
  [MasterControl.layout, MasterStatus.layout, TransmitStatus.layout, ReceiveFifo.layout,
    InterruptEnable.layout, ErrorState.layout, TimingControl.layout, MailboxIdentifier.layout,
    MailboxLength.layout]

theorem fits_of_mem_catalog :
    ∀ layout ∈ Layout.catalog, ∀ field ∈ layout.fields,
      0 < field.width ∧ field.low + field.width ≤ 32 := by
  decide

end CanController

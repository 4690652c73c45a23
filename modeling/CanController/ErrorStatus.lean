import CanController.Register.Catalog

/-!
The state of the cell's error management: the two error counters, the kind of the last error on the
bus, and the flags derived from the counters.
-/

namespace CanController

inductive LastError
  | none
  | stuff
  | form
  | acknowledgment
  | bitRecessive
  | bitDominant
  | checksum
  | setBySoftware
deriving DecidableEq

namespace LastError

/-- Only the low three bits of the code count. -/
def ofCode (code : Nat) : LastError :=
  match code % 8 with
  | 0 => none
  | 1 => stuff
  | 2 => form
  | 3 => acknowledgment
  | 4 => bitRecessive
  | 5 => bitDominant
  | 6 => checksum
  | _ => setBySoftware

def name : LastError → String
  | none => "NoError"
  | stuff => "Stuff"
  | form => "Form"
  | acknowledgment => "Acknowledgment"
  | bitRecessive => "BitRecessive"
  | bitDominant => "BitDominant"
  | checksum => "Crc"
  | setBySoftware => "SetBySoftware"

end LastError

structure ErrorStatus where
  receiveErrors : Nat
  transmitErrors : Nat
  lastError : LastError
  /-- The transmit counter has passed 255. -/
  busOff : Bool
  /-- A counter is above 127. -/
  errorPassive : Bool
  /-- A counter is at least 96. -/
  errorWarning : Bool
deriving DecidableEq

namespace ErrorStatus

def ofWord (word : Word) : ErrorStatus where
  receiveErrors := ErrorState.receiveErrors.get word
  transmitErrors := ErrorState.transmitErrors.get word
  lastError := .ofCode (ErrorState.lastError.get word)
  busOff := ErrorState.busOff.test word
  errorPassive := ErrorState.errorPassive.test word
  errorWarning := ErrorState.errorWarning.test word

def describe (status : ErrorStatus) : String :=
  "ErrorStatus \x7b rec: " ++ toString status.receiveErrors
    ++ ", tec: " ++ toString status.transmitErrors
    ++ ", lec: " ++ status.lastError.name
    ++ ", boff: " ++ toString status.busOff
    ++ ", epvf: " ++ toString status.errorPassive
    ++ ", ewgf: " ++ toString status.errorWarning ++ " \x7d"

end ErrorStatus

end CanController

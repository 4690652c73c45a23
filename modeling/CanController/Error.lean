import CanController.Mode
import CanController.Timing.BitTiming

/-!
What the driver reports when it cannot do as asked: an argument outside the supported set, a mode
change that was not acknowledged in time, or a timing that the clock cannot realize.
-/

namespace CanController

inductive Error
  | invalidArgument
  /-- `observed` is the mode at the last look. -/
  | timeout (target observed : Mode)
  | unsupportedConfiguration (cause : BitTimingError)
deriving DecidableEq

namespace Error

def kind : Error → String
  | invalidArgument => "InvalidArgument"
  | timeout .. => "Timeout"
  | unsupportedConfiguration _ => "UnsupportedConfiguration"

def message (error : Error) : String :=
  match error with
  | invalidArgument => error.kind
  | timeout target observed =>
      error.kind ++ " \x7b target: " ++ target.name ++ ", observed: " ++ observed.name ++ " \x7d"
  | unsupportedConfiguration cause => error.kind ++ "(" ++ cause.message ++ ")"

end Error

end CanController

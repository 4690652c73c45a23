import CanController.Register.Memory

/-!
The three words that carry configuration: control, interrupt enable and timing.  Writing them keeps
every bit outside their configuration masks.
-/

namespace CanController

structure Setup where
  control : Word
  interrupts : Word
  timing : Word
deriving DecidableEq

namespace Memory

def setup (memory : Memory) : Setup :=
  ⟨memory.read .masterControl, memory.read .interruptEnable, memory.read .timingControl⟩

/-- Write the configuration bits of the three words. -/
def configure (memory : Memory) (setup : Setup) : Memory :=
  memory
    |>.merge .masterControl MasterControl.configMask setup.control
    |>.merge .interruptEnable InterruptEnable.configMask setup.interrupts
    |>.merge .timingControl TimingControl.configMask setup.timing

end Memory

end CanController

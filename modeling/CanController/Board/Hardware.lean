import CanController.Board.Surroundings

/-!
Simulated hardware.  It counts the pauses of a step.  Once the control word has been the same for
more than `latency` pauses in a row, responsive hardware settles at each further one; after that
come the script's effects for this pause.
-/

namespace CanController

/-- An effect at the pause of this number, the first of a step having number one. -/
structure ScriptEntry where
  pause : Nat
  effect : Effect
deriving DecidableEq

structure HardwareSettings where
  isResponsive : Bool
  latency : Nat
  script : List ScriptEntry
deriving DecidableEq

def HardwareSettings.prompt : HardwareSettings :=
  ⟨true, 0, []⟩

structure Hardware where
  settings : HardwareSettings
  pauses : Nat
  /-- How many of the last pauses saw the control word `lastControl?`. -/
  streak : Nat
  lastControl? : Option Word
deriving DecidableEq

namespace Hardware

def fresh (settings : HardwareSettings) : Hardware :=
  ⟨settings, 0, 0, none⟩

def count (hardware : Hardware) (control : Word) : Hardware :=
  { hardware with
    pauses := hardware.pauses + 1
    streak := if hardware.lastControl? = some control then hardware.streak + 1 else 1
    lastControl? := some control }

/-- Whether the control word has been stable for long enough to be followed. -/
def Follows (hardware : Hardware) : Prop :=
  hardware.settings.isResponsive = true ∧ hardware.settings.latency < hardware.streak

instance (hardware : Hardware) : Decidable hardware.Follows :=
  inferInstanceAs (Decidable (_ ∧ _))

def effects (hardware : Hardware) (memory : Memory) : List Effect :=
  let settling :=
    if hardware.Follows then
      [Effect.write Register.masterStatus.address memory.settledStatus]
    else
      []
  let scripted := hardware.settings.script.filter (·.pause = hardware.pauses)
  settling ++ scripted.map (·.effect)

def environment : Environment Hardware where
  react _ memory hardware :=
    let hardware := hardware.count (memory.read .masterControl)
    (hardware.effects memory, hardware)

end Hardware

end CanController

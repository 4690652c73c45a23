import CanController.Register.Memory

/-!
Operating modes.  The status word acknowledges the mode: initialization wins over sleep, and with
neither acknowledged the cell takes part in bus traffic.  The control word requests a mode; a cell
that settles acknowledges what is requested, and there too initialization wins over sleep.
-/

namespace CanController

inductive Mode
  | sleep
  | initialization
  | normal
deriving DecidableEq

namespace Mode

/-- The mode that a status word acknowledges. -/
def ofStatus (status : Word) : Mode :=
  if MasterStatus.initializationAcknowledge.test status then .initialization
  else if MasterStatus.sleepAcknowledge.test status then .sleep
  else .normal

/-- The mode that a control word requests. -/
def ofControl (control : Word) : Mode :=
  if MasterControl.initializationRequest.test control then .initialization
  else if MasterControl.sleepRequest.test control then .sleep
  else .normal

/-- A status word that acknowledges the mode, with the other bits of `status`. -/
def acknowledge (mode : Mode) (status : Word) : Word :=
  status
    |> MasterStatus.initializationAcknowledge.put (mode = .initialization)
    |> MasterStatus.sleepAcknowledge.put (mode = .sleep)

@[simp]
theorem ofStatus_acknowledge (mode : Mode) (status : Word) :
    ofStatus (mode.acknowledge status) = mode := by
  rw [ofStatus, acknowledge, Field.test_put_of_disjoint (by decide) (by decide),
    Field.test_put_self (by decide) (by decide), Field.test_put_self (by decide) (by decide)]
  cases mode <;> rfl

def name : Mode → String
  | sleep => "Sleep"
  | initialization => "Initialization"
  | normal => "Normal"

end Mode

namespace Memory

def mode (memory : Memory) : Mode :=
  .ofStatus (memory.read .masterStatus)

/-- The status word that acknowledges the mode requested of the cell. -/
def settledStatus (memory : Memory) : Word :=
  (Mode.ofControl (memory.read .masterControl)).acknowledge (memory.read .masterStatus)

/-- Let the cell acknowledge the mode requested of it. -/
def settle (memory : Memory) : Memory :=
  memory.write .masterStatus memory.settledStatus

@[simp]
theorem mode_settle (memory : Memory) :
    memory.settle.mode = .ofControl (memory.read .masterControl) := by
  rw [mode, settle, read_write_self, settledStatus, Mode.ofStatus_acknowledge]

end Memory

end CanController

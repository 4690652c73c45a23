import CanController.Mode
import CanController.Register.Setup

/-!
Memories that agree on part of the block.  What is done to a word depends on that word and on the
registers that mode control reads, so memories that agree on these, and perhaps on more, go on
agreeing.  A reset makes any two memories agree on the words that it defines, and touches no other.
-/

namespace CanController

namespace Register

/-- The registers that mode control reads and writes. -/
def steering : List Register :=
  [masterControl, masterStatus, interruptEnable, timingControl]

/-- The words that a reset defines. -/
def resetValues : List (Register × Word) :=
  [(masterControl, MasterControl.resetValue), (masterStatus, MasterStatus.resetValue),
    (transmitStatus, TransmitStatus.resetValue), (timingControl, TimingControl.resetValue),
    (interruptEnable, InterruptEnable.resetValue)]

/-- The place is one of a word that a reset defines. -/
def IsReset (address : Address) : Prop :=
  ∃ entry ∈ resetValues, address = entry.1.address

instance (address : Address) : Decidable (IsReset address) :=
  inferInstanceAs (Decidable (∃ entry ∈ resetValues, address = entry.1.address))

theorem isReset_of_steering {register : Register} (steers : register ∈ steering) :
    IsReset register.address := by
  simp only [steering, List.mem_cons, List.not_mem_nil, or_false] at steers
  rcases steers with rfl | rfl | rfl | rfl <;> simp [IsReset, resetValues]

end Register

namespace Memory

/-- The memories hold the same words at these places. -/
def AgreeOn (places : Address → Prop) (one other : Memory) : Prop :=
  ∀ address, places address → one.get address = other.get address

theorem agreeOn_refl (places : Address → Prop) (memory : Memory) : AgreeOn places memory memory :=
  fun _ _ => rfl

theorem eq_of_agreeOn {one other : Memory} (agree : AgreeOn (fun _ => True) one other) :
    one = other :=
  ext fun address => agree address trivial

namespace AgreeOn

variable {places : Address → Prop} {one other : Memory}

theorem set (agree : AgreeOn places one other) (address : Address) (word : Word) :
    AgreeOn places (one.set address word) (other.set address word) := by
  intro place listed
  by_cases same : address = place
  · subst same
    rw [get_set_self, get_set_self]
  · rw [get_set_ne same, get_set_ne same]
    exact agree place listed

theorem write (agree : AgreeOn places one other) (register : Register) (word : Word) :
    AgreeOn places (one.write register word) (other.write register word) :=
  agree.set _ _

theorem reset (agree : AgreeOn places one other) : AgreeOn places one.reset other.reset :=
  ((((agree.write _ _).write _ _).write _ _).write _ _).write _ _

theorem read (agree : AgreeOn places one other) {register : Register}
    (listed : places register.address) : one.read register = other.read register :=
  agree register.address listed

section Steering

variable (agree : AgreeOn places one other)
  (sees : ∀ register ∈ Register.steering, places register.address)
include agree sees

theorem mode : one.mode = other.mode := by
  rw [Memory.mode, Memory.mode, agree.read (sees .masterStatus (by decide))]

theorem setup : one.setup = other.setup := by
  rw [Memory.setup, Memory.setup, agree.read (sees .masterControl (by decide)),
    agree.read (sees .interruptEnable (by decide)), agree.read (sees .timingControl (by decide))]

theorem settle : AgreeOn places one.settle other.settle := by
  rw [Memory.settle, Memory.settle, settledStatus, settledStatus,
    agree.read (sees .masterControl (by decide)), agree.read (sees .masterStatus (by decide))]
  exact agree.write _ _

end Steering

end AgreeOn

section Reset

variable (memory : Memory)

theorem read_reset {entry : Register × Word} (listed : entry ∈ Register.resetValues) :
    memory.reset.read entry.1 = entry.2 := by
  simp only [Register.resetValues, List.mem_cons, List.not_mem_nil, or_false] at listed
  rcases listed with rfl | rfl | rfl | rfl | rfl <;>
    simp (disch := decide) only [reset, read_write_self, read_write_ne]

theorem get_reset {address : Address} (apart : ¬ Register.IsReset address) :
    memory.reset.get address = memory.get address := by
  have distinct : ∀ entry ∈ Register.resetValues, entry.1.address ≠ address :=
    fun entry listed same => apart ⟨entry, listed, same.symm⟩
  simp only [Register.resetValues, List.forall_mem_cons] at distinct
  obtain ⟨control, status, transmit, timing, interrupts, -⟩ := distinct
  rw [reset, write, write, write, write, write, get_set_ne interrupts, get_set_ne timing,
    get_set_ne transmit, get_set_ne status, get_set_ne control]

theorem agreeOn_reset (other : Memory) : AgreeOn Register.IsReset memory.reset other.reset := by
  rintro address ⟨entry, listed, rfl⟩
  exact (memory.read_reset listed).trans (other.read_reset listed).symm

end Reset

end Memory

end CanController

import CanController.Register.Map

/-!
The register block as memory.  Words are read and written by address or by register; a masked
update of a register replaces the bits under its mask and writes the others back as they were.
Accesses to distinct addresses never meet (`get_set_ne`), hence those to distinct registers do not.
-/

namespace CanController

structure Memory where
  words : Vector Word blockWords
deriving DecidableEq

namespace Memory

def filled (word : Word) : Memory :=
  ⟨Vector.replicate blockWords word⟩

def get (memory : Memory) (address : Address) : Word :=
  memory.words[address]

def set (memory : Memory) (address : Address) (word : Word) : Memory :=
  ⟨memory.words.set address word⟩

@[ext]
theorem ext {one other : Memory} (same : ∀ address, one.get address = other.get address) :
    one = other := by
  cases one; cases other
  exact congrArg Memory.mk (Vector.ext fun place inside => same ⟨place, inside⟩)

@[simp]
theorem get_filled (word : Word) (address : Address) : (filled word).get address = word := by
  simp [get, filled]

@[simp]
theorem get_set_self (memory : Memory) (address : Address) (word : Word) :
    (memory.set address word).get address = word := by
  simp [get, set]

theorem get_set_ne {address other : Address} (distinct : address ≠ other) (memory : Memory)
    (word : Word) : (memory.set address word).get other = memory.get other := by
  have apart : address.val ≠ other.val := fun same => distinct (Fin.ext same)
  simp [get, set, Vector.getElem_set_ne, apart]

def read (memory : Memory) (register : Register) : Word :=
  memory.get register.address

def write (memory : Memory) (register : Register) (word : Word) : Memory :=
  memory.set register.address word

def modify (memory : Memory) (register : Register) (change : Word → Word) : Memory :=
  memory.write register (change (memory.read register))

/-- Only the bits of `word` under `mask` reach the register. -/
def merge (memory : Memory) (register : Register) (mask word : Word) : Memory :=
  memory.modify register (Word.merge mask word)

@[simp]
theorem read_write_self (memory : Memory) (register : Register) (word : Word) :
    (memory.write register word).read register = word :=
  get_set_self ..

theorem read_write_ne {register other : Register} (distinct : register ≠ other) (memory : Memory)
    (word : Word) : (memory.write register word).read other = memory.read other :=
  get_set_ne (fun same => distinct (Register.address_injective same)) ..

@[simp]
theorem read_modify_self (memory : Memory) (register : Register) (change : Word → Word) :
    (memory.modify register change).read register = change (memory.read register) :=
  read_write_self ..

theorem read_modify_ne {register other : Register} (distinct : register ≠ other)
    (memory : Memory) (change : Word → Word) :
    (memory.modify register change).read other = memory.read other :=
  read_write_ne distinct ..

/-- Put the words that a reset defines to their reset values, and touch no other. -/
def reset (memory : Memory) : Memory :=
  memory
    |>.write .masterControl MasterControl.resetValue
    |>.write .masterStatus MasterStatus.resetValue
    |>.write .transmitStatus TransmitStatus.resetValue
    |>.write .timingControl TimingControl.resetValue
    |>.write .interruptEnable InterruptEnable.resetValue

/-- The block as it is after power-on: the filters are held in their initialization mode. -/
def powerOn : Memory :=
  (filled 0).reset.write .filterMaster 0x2A1C0E01

def contents (memory : Memory) (blank : Word) : List (Address × Word) :=
  (List.finRange blockWords).filterMap fun address =>
    let word := memory.get address
    if word = blank then none else some (address, word)

end Memory

end CanController

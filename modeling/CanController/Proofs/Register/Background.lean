import CanController.Proofs.Register.Handshake

/-!
What mode control leaves alone.  Requests, acknowledges and configuration are bits of four words;
all other bits of the block are its `background`.  No step of mode control moves the background, so
a memory whose cell is on the bus is known from its background and its configuration words.
-/

namespace CanController.Memory

/-- The bits at an address that mode control may move. -/
def modeBits (address : Address) : Word :=
  if address = Register.masterControl.address then MasterControl.configMask ||| 3#32
  else if address = Register.masterStatus.address then 3#32
  else if address = Register.interruptEnable.address then InterruptEnable.configMask
  else if address = Register.timingControl.address then TimingControl.configMask
  else 0#32

/-- The words of the block without the bits that mode control may move. -/
def background (memory : Memory) (address : Address) : Word :=
  memory.get address &&& ~~~modeBits address

theorem modeBits_masterStatus : modeBits Register.masterStatus.address = 3#32 := by decide

theorem background_write {memory : Memory} {register : Register} {word : Word}
    (kept : word &&& ~~~modeBits register.address =
      memory.read register &&& ~~~modeBits register.address) :
    (memory.write register word).background = memory.background := by
  funext address
  by_cases same : register.address = address
  · subst same
    simpa [background, write, read] using kept
  · rw [background, write, get_set_ne same, background]

/-- Merges under the mode bits of a register do not reach the background. -/
theorem background_merge {register : Register} {mask : Word}
    (moved : mask &&& ~~~modeBits register.address = 0) (memory : Memory) (word : Word) :
    (memory.merge register mask word).background = memory.background :=
  background_write (Word.merge_and_kept moved ..)

theorem background_put {register : Register} {field : Field}
    (moved : field.mask &&& ~~~modeBits register.address = 0) (memory : Memory) (value : Bool) :
    (memory.modify register (field.put value)).background = memory.background :=
  background_write (Field.put_and_kept moved ..)

theorem background_settle (memory : Memory) : memory.settle.background = memory.background := by
  apply background_write
  rw [modeBits_masterStatus]
  exact Mode.acknowledge_and_kept ..

theorem background_configure (memory : Memory) (setup : Setup) :
    (memory.configure setup).background = memory.background := by
  rw [configure, background_merge (by decide), background_merge (by decide),
    background_merge (by decide)]

theorem getLsbD_eq_of_background {one other : Memory}
    (same : one.background = other.background) {address : Address} {bit : Nat}
    (kept : (modeBits address).getLsbD bit = false) :
    (one.get address).getLsbD bit = (other.get address).getLsbD bit := by
  by_cases inside : bit < 32
  · have bits := congrArg (BitVec.getLsbD · bit) (congrFun same address)
    simp only [background, BitVec.getLsbD_and, BitVec.getLsbD_not, kept, inside, decide_true,
      Bool.not_false, Bool.and_true] at bits
    exact bits
  · rw [BitVec.getLsbD_of_ge _ _ (Nat.le_of_not_lt inside),
      BitVec.getLsbD_of_ge _ _ (Nat.le_of_not_lt inside)]

/-- The words that carry neither configuration nor requests nor acknowledges. -/
theorem get_eq_of_background {one other : Memory} (same : one.background = other.background)
    {address : Address}
    (apart : ∀ register ∈ [Register.masterControl, .masterStatus, .interruptEnable,
      .timingControl], address ≠ register.address) :
    one.get address = other.get address := by
  simp only [List.forall_mem_cons] at apart
  obtain ⟨control, status, interrupts, timing, -⟩ := apart
  have unmoved : modeBits address = 0#32 := by
    simp [modeBits, control, status, interrupts, timing]
  have words := congrFun same address
  rw [background, background, unmoved, BitVec.not_zero, BitVec.and_allOnes,
    BitVec.and_allOnes] at words
  exact words

/-- On the bus, the status word has no acknowledge and is otherwise background. -/
theorem read_masterStatus_of_normal {one other : Memory}
    (same : one.background = other.background) (normal : one.mode = .normal) :
    one.read .masterStatus = other.read .masterStatus &&& ~~~3#32 := by
  have kept := congrFun same Register.masterStatus.address
  rw [background, background, modeBits_masterStatus] at kept
  apply Word.eq_of_and_eq 3#32
  · rw [Mode.and_of_ofStatus_eq_normal normal, BitVec.and_assoc]
    exact (BitVec.and_zero).symm
  · rw [BitVec.and_assoc, BitVec.and_self]
    exact kept

/-- What new words come to, laid over old ones, depends on the background alone. -/
theorem laidOver_eq_of_background {one other : Memory} (same : one.background = other.background)
    (new : Setup) : new.laidOver one.setup = new.laidOver other.setup := by
  have kept (register : Register) : one.read register &&& ~~~modeBits register.address =
      other.read register &&& ~~~modeBits register.address :=
    congrFun same register.address
  have control : one.setup.control &&& ~~~(MasterControl.configMask ||| 3#32) =
      other.setup.control &&& ~~~(MasterControl.configMask ||| 3#32) := kept .masterControl
  have interrupts : one.setup.interrupts &&& ~~~InterruptEnable.configMask =
      other.setup.interrupts &&& ~~~InterruptEnable.configMask := kept .interruptEnable
  have timing : one.setup.timing &&& ~~~TimingControl.configMask =
      other.setup.timing &&& ~~~TimingControl.configMask := kept .timingControl
  rw [Setup.laidOver, control, interrupts, timing, Setup.laidOver]

theorem eq_of_background {one other : Memory} (same : one.background = other.background)
    (setup : one.setup = other.setup) (normal : one.mode = .normal)
    (otherNormal : other.mode = .normal) : one = other := by
  apply ext
  intro address
  by_cases control : address = Register.masterControl.address
  · subst control
    exact congrArg Setup.control setup
  by_cases interrupts : address = Register.interruptEnable.address
  · subst interrupts
    exact congrArg Setup.interrupts setup
  by_cases timing : address = Register.timingControl.address
  · subst timing
    exact congrArg Setup.timing setup
  by_cases status : address = Register.masterStatus.address
  · subst status
    exact (read_masterStatus_of_normal same normal).trans
      (read_masterStatus_of_normal rfl otherNormal).symm
  · exact get_eq_of_background same (by simp [control, status, interrupts, timing])

end CanController.Memory

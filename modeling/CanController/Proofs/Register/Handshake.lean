import CanController.Proofs.Register.Merge
import CanController.Register.Setup
import CanController.Mode

/-!
The handshake between driver and cell.  The driver requests a mode in the control word and the
cell acknowledges it in the status word; neither touches the other's word.  An excursion into
initialization takes the configuration words from their old contents to those `requesting`
initialization, and from there to the new contents `laidOver` the old ones.
-/

namespace CanController

namespace MasterControl

theorem withdraw_sleep (control : Word) :
    sleepRequest.put false control = control &&& ~~~2#32 := by
  have cleared : sleepRequest.put false control = Word.merge 2#32 0#32 control := rfl
  rw [cleared, Word.merge, BitVec.zero_and, BitVec.or_zero]

theorem withdraw_initialization (control : Word) :
    initializationRequest.put false control = control &&& ~~~1#32 := by
  have cleared : initializationRequest.put false control = Word.merge 1#32 0#32 control := rfl
  rw [cleared, Word.merge, BitVec.zero_and, BitVec.or_zero]

theorem request_initialization (control : Word) :
    initializationRequest.put true control = control ||| 1#32 := by
  have raised : initializationRequest.put true control = Word.merge 1#32 1#32 control := rfl
  rw [raised, Word.merge, BitVec.and_self, Word.and_not_or_self]

end MasterControl

namespace Setup

/-- The words while initialization is requested: the request for sleep is withdrawn. -/
def requesting (setup : Setup) : Setup :=
  { setup with control := (setup.control &&& ~~~2#32) ||| 1#32 }

/-- The words once `new` is in force: its configuration bits, no request, and every other bit as
in `old`. -/
def laidOver (new old : Setup) : Setup where
  control :=
    (old.control &&& ~~~(MasterControl.configMask ||| 3#32)) |||
      (new.control &&& MasterControl.configMask)
  interrupts :=
    (old.interrupts &&& ~~~InterruptEnable.configMask) |||
      (new.interrupts &&& InterruptEnable.configMask)
  timing :=
    (old.timing &&& ~~~TimingControl.configMask) ||| (new.timing &&& TimingControl.configMask)

theorem test_requesting (setup : Setup) :
    MasterControl.initializationRequest.test setup.requesting.control = true := by
  simp [requesting, Field.test, MasterControl.initializationRequest, Field.flag]

theorem ofControl_requesting (setup : Setup) :
    Mode.ofControl setup.requesting.control = .initialization := by
  rw [Mode.ofControl, if_pos setup.test_requesting]

theorem control_laidOver_eq_merge (new old : Setup) : (new.laidOver old).control =
    Word.merge (MasterControl.configMask ||| 3#32) (new.control &&& MasterControl.configMask)
      old.control := by
  have kept : MasterControl.configMask &&& (MasterControl.configMask ||| 3#32) =
      MasterControl.configMask := by decide
  rw [Word.merge, BitVec.and_assoc, kept]
  rfl

theorem timing_laidOver_eq_merge (new old : Setup) : (new.laidOver old).timing =
    Word.merge TimingControl.configMask new.timing old.timing := rfl

/-- Nothing is requested once the new words are in force. -/
theorem test_control_laidOver_of_request (new old : Setup) {field : Field}
    (request : field.Within 3#32) (proper : 0 < field.width) :
    field.test (new.laidOver old).control = false := by
  have apart : MasterControl.configMask &&& 3#32 = 0#32 := by decide
  have unset : field.test 0#32 = false := BitVec.getLsbD_zero
  rw [← unset]
  apply Field.test_eq_of_and_eq field request proper
  rw [control_laidOver_eq_merge, Word.merge_and_part (by decide), BitVec.and_assoc, apart,
    BitVec.and_zero, BitVec.zero_and]

theorem ofControl_laidOver (new old : Setup) :
    Mode.ofControl (new.laidOver old).control = .normal := by
  have initialization :
      MasterControl.initializationRequest.test (new.laidOver old).control = false :=
    test_control_laidOver_of_request new old (by decide) (by decide)
  have sleep : MasterControl.sleepRequest.test (new.laidOver old).control = false :=
    test_control_laidOver_of_request new old (by decide) (by decide)
  simp [Mode.ofControl, initialization, sleep]

/-- Only one of the two requests initialization. -/
theorem requesting_ne_laidOver (old new : Setup) :
    old.requesting.control ≠ (new.laidOver old).control := by
  intro same
  have requested := ofControl_requesting old
  rw [same, ofControl_laidOver] at requested
  contradiction

/-- Configuration laid over words that request initialization, with that request withdrawn. -/
theorem withdraw_merge_requesting (new old : Setup) :
    MasterControl.initializationRequest.put false
        (Word.merge MasterControl.configMask new.control old.requesting.control) =
      (new.laidOver old).control := by
  rw [MasterControl.withdraw_initialization]
  apply BitVec.eq_of_getLsbD_eq
  intro bit inside
  have apart : (MasterControl.configMask &&& 1#32).getLsbD bit = false := by
    rw [show MasterControl.configMask &&& 1#32 = 0#32 by decide]
    exact BitVec.getLsbD_zero
  have requests : (3#32).getLsbD bit = ((2#32).getLsbD bit || (1#32).getLsbD bit) := by
    rw [← BitVec.getLsbD_or]
    rfl
  rw [BitVec.getLsbD_and] at apart
  simp only [laidOver, requesting, Word.getLsbD_merge, BitVec.getLsbD_or, BitVec.getLsbD_and,
    BitVec.getLsbD_not, requests, inside, decide_true, Bool.true_and]
  revert apart
  cases MasterControl.configMask.getLsbD bit <;> cases (1#32).getLsbD bit <;>
    cases (2#32).getLsbD bit <;> simp

end Setup

namespace Mode

theorem ofStatus_eq_initialization_iff {status : Word} :
    ofStatus status = .initialization ↔
      MasterStatus.initializationAcknowledge.test status = true := by
  cases acknowledged : MasterStatus.initializationAcknowledge.test status with
  | true => simp [ofStatus, acknowledged]
  | false =>
      cases asleep : MasterStatus.sleepAcknowledge.test status <;>
        simp [ofStatus, acknowledged, asleep]

/-- A cell on the bus acknowledges nothing. -/
theorem and_of_ofStatus_eq_normal {status : Word} (normal : ofStatus status = .normal) :
    status &&& 3#32 = 0 := by
  have neither : status.getLsbD 0 = false ∧ status.getLsbD 1 = false := by
    cases initialization : MasterStatus.initializationAcknowledge.test status with
    | true => simp [ofStatus, initialization] at normal
    | false =>
        cases sleep : MasterStatus.sleepAcknowledge.test status with
        | true => simp [ofStatus, initialization, sleep] at normal
        | false => exact ⟨initialization, sleep⟩
  apply BitVec.eq_of_getLsbD_eq
  intro bit inside
  have marks : (3#32).getLsbD bit = (decide (bit = 0) || decide (bit = 1)) := by
    revert bit
    decide
  rw [BitVec.getLsbD_and, marks]
  by_cases first : bit = 0
  · subst first
    rw [neither.1, Bool.false_and]
    rfl
  · by_cases second : bit = 1
    · subst second
      rw [neither.2, Bool.false_and]
      rfl
    · simp [first, second]

/-- Both acknowledges are written at once. -/
theorem acknowledge_eq_merge (mode : Mode) : ∃ acknowledges : Word, ∀ status : Word,
    mode.acknowledge status = Word.merge 3#32 acknowledges status := by
  refine ⟨Word.merge 2#32 (BitVec.ofNat 32 ((decide (mode = .sleep)).toNat <<< 1))
    (BitVec.ofNat 32 ((decide (mode = .initialization)).toNat <<< 0)), ?_⟩
  intro status
  exact Word.merge_merge ..

theorem acknowledge_acknowledge (mode : Mode) (status : Word) :
    mode.acknowledge (mode.acknowledge status) = mode.acknowledge status := by
  obtain ⟨acknowledges, merged⟩ := acknowledge_eq_merge mode
  rw [merged, merged, Word.merge_merge_self]

theorem acknowledge_and_kept (mode : Mode) (status : Word) :
    mode.acknowledge status &&& ~~~3#32 = status &&& ~~~3#32 := by
  obtain ⟨acknowledges, merged⟩ := acknowledge_eq_merge mode
  rw [merged, Word.merge_and_kept (by decide)]

end Mode

namespace Memory

variable (memory : Memory)

@[simp]
theorem setup_modify_masterControl (change : Word → Word) :
    (memory.modify .masterControl change).setup =
      { memory.setup with control := change memory.setup.control } := by
  simp only [setup, read_modify_self, read_modify_ne (show Register.masterControl ≠
    Register.interruptEnable by decide), read_modify_ne (show Register.masterControl ≠
    Register.timingControl by decide)]

@[simp]
theorem setup_write_masterStatus (status : Word) :
    (memory.write .masterStatus status).setup = memory.setup := by
  simp only [setup, read_write_ne (show Register.masterStatus ≠ Register.masterControl by decide),
    read_write_ne (show Register.masterStatus ≠ Register.interruptEnable by decide),
    read_write_ne (show Register.masterStatus ≠ Register.timingControl by decide)]

theorem setup_configure (setup : Setup) :
    (memory.configure setup).setup =
      ⟨Word.merge MasterControl.configMask setup.control memory.setup.control,
        Word.merge InterruptEnable.configMask setup.interrupts memory.setup.interrupts,
        Word.merge TimingControl.configMask setup.timing memory.setup.timing⟩ := by
  have controlInterrupts : Register.masterControl ≠ .interruptEnable := by decide
  have controlTiming : Register.masterControl ≠ .timingControl := by decide
  have interruptsTiming : Register.interruptEnable ≠ .timingControl := by decide
  simp only [configure, Memory.setup, merge, read_modify_self, read_modify_ne controlInterrupts,
    read_modify_ne controlTiming, read_modify_ne interruptsTiming,
    read_modify_ne controlInterrupts.symm, read_modify_ne controlTiming.symm,
    read_modify_ne interruptsTiming.symm]

@[simp]
theorem setup_settle : memory.settle.setup = memory.setup :=
  memory.setup_write_masterStatus _

@[simp]
theorem settle_settle : memory.settle.settle = memory.settle := by
  have control : memory.settle.read .masterControl = memory.read .masterControl :=
    congrArg Setup.control memory.setup_settle
  have status : memory.settle.settledStatus = memory.settledStatus := by
    rw [settledStatus, control, settle, read_write_self, settledStatus,
      Mode.acknowledge_acknowledge]
  apply ext
  intro address
  rw [settle, status]
  by_cases same : Register.masterStatus.address = address
  · subst same
    simp [settle, write]
  · rw [write, get_set_ne same]

end Memory

end CanController

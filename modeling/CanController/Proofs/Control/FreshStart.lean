import CanController.Proofs.Control.Realization
import CanController.Proofs.Register.Agreement

/-!
Starting from a reset.  The reset values have no bit outside the configuration masks but the
sleep request, and what a configuration is encoded in has no bit outside them at all.  So after a
start that succeeds the configuration words are those of the configuration, exactly.
-/

namespace CanController

theorem Options.toWord_and_configMask (options : Options) :
    options.toWord &&& MasterControl.configMask = options.toWord :=
  Word.and_eq_self options.toWord_and_outside

theorem TestModes.apply_and_configMask {timing : BitTiming} {clock : Hertz} {word : Word}
    (encoded : timing.encode clock = .ok word) (modes : TestModes) :
    modes.apply word &&& TimingControl.configMask = modes.apply word := by
  obtain ⟨divisor, -, rfl⟩ := BitTiming.encode_eq_ok_iff.mp encoded
  apply Word.and_eq_self
  simp (disch := decide) only [apply, BitTiming.pack, Field.put_and_kept, Field.set_and_kept]
  exact BitVec.zero_and

namespace Memory

/-- The configuration words after a reset. -/
def resetSetup : Setup :=
  ⟨MasterControl.resetValue, InterruptEnable.resetValue, TimingControl.resetValue⟩

theorem setup_reset (memory : Memory) : memory.reset.setup = resetSetup := by
  have control := memory.read_reset
    (show (Register.masterControl, MasterControl.resetValue) ∈ Register.resetValues by decide)
  have interrupts := memory.read_reset
    (show (Register.interruptEnable, InterruptEnable.resetValue) ∈ Register.resetValues by decide)
  have timing := memory.read_reset
    (show (Register.timingControl, TimingControl.resetValue) ∈ Register.resetValues by decide)
  rw [setup, control, interrupts, timing, resetSetup]

end Memory

/-- Nothing of the reset values is left where words are laid over them. -/
theorem Setup.laidOver_resetSetup (new : Setup) : new.laidOver Memory.resetSetup =
    ⟨new.control &&& MasterControl.configMask, new.interrupts &&& InterruptEnable.configMask,
      new.timing &&& TimingControl.configMask⟩ := by
  have control : Memory.resetSetup.control &&& ~~~(MasterControl.configMask ||| 3#32) = 0#32 := by
    decide
  have interrupts : Memory.resetSetup.interrupts &&& ~~~InterruptEnable.configMask = 0#32 := by
    decide
  have timing : Memory.resetSetup.timing &&& ~~~TimingControl.configMask = 0#32 := by decide
  rw [laidOver, control, interrupts, timing, BitVec.zero_or, BitVec.zero_or, BitVec.zero_or]

namespace Board

variable {board : Board Hardware} {settings : HardwareSettings}
  (start : board.surroundings = .fresh settings) (unscripted : settings.script = [])
include start unscripted

theorem steered_start (config : Config) :
    board.resetCell.Steered (board.start Hardware.environment config).2 := by
  have fresh : board.resetCell.surroundings = .fresh settings := start
  exact steered_reconfigure fresh unscripted config

theorem get_start (config : Config) {address : Address} (apart : ¬ Register.IsReset address) :
    (board.start Hardware.environment config).2.memory.get address =
      board.memory.get address := by
  have steered := steered_start start unscripted config
  rw [Memory.get_eq_of_background steered.background]
  · exact board.memory.get_reset apart
  · rintro register steers rfl
    exact apart (Register.isReset_of_steering steers)

/-- The five words that a start leaves behind when it succeeds. -/
theorem words_start {config : Config}
    (succeeded : (board.start Hardware.environment config).1 = .ok ()) :
    let memory := (board.start Hardware.environment config).2.memory
    memory.setup.Realizes
        { config with interrupts := config.interrupts &&& InterruptEnable.configMask }
        board.clock ∧
      memory.read .masterStatus = 0x00000C00#32 ∧
      memory.read .transmitStatus = TransmitStatus.resetValue := by
  intro memory
  have steered := steered_start start unscripted config
  have fresh : board.resetCell.surroundings = .fresh settings := start
  obtain ⟨setup, realized, words⟩ := setup_reconfigure (avoids_of_start fresh unscripted) succeeded
  obtain ⟨timing, encoded, rfl⟩ := Config.setup_eq_ok_iff.mp realized
  refine ⟨?_, ?_, ?_⟩
  · apply Config.setup_eq_ok_iff_realizes.mp
    refine Config.setup_eq_ok_iff.mpr ⟨timing, encoded, words.trans ?_⟩
    rw [show board.resetCell.memory.setup = Memory.resetSetup from board.memory.setup_reset,
      Setup.laidOver_resetSetup, Options.toWord_and_configMask,
      TestModes.apply_and_configMask encoded]
  · have status : board.resetCell.memory.read .masterStatus = MasterStatus.resetValue :=
      board.memory.read_reset (show (Register.masterStatus, _) ∈ Register.resetValues by decide)
    refine (Memory.read_masterStatus_of_normal steered.background
      (mode_reconfigure succeeded)).trans ?_
    rw [status]
    decide
  · refine (Memory.get_eq_of_background steered.background (by decide)).trans ?_
    exact board.memory.read_reset
      (show (Register.transmitStatus, _) ∈ Register.resetValues by decide)

omit start unscripted in
theorem start_of_unsupported {config : Config} {cause : BitTimingError}
    (refused : config.setup board.clock = .error cause) :
    (board.start Hardware.environment config).2 = board.resetCell := by
  have unsupported : config.setup board.resetCell.clock = .error cause := refused
  rw [Board.start, reconfigure_of_unsupported unsupported]

end Board

end CanController

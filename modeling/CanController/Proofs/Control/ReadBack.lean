import CanController.Proofs.Control.Reconfigure
import CanController.Proofs.Timing.RoundTrip

/-!
Reading a configuration back from the registers.  The words of a configuration hold each of its
parts in fields of their own, all under the configuration masks, and an excursion that succeeds
lays exactly the bits under these masks over the old words.  So what was configured can be read
from the registers, whatever they held before.
-/

namespace CanController

namespace Options

/-- The options that a control word has in force. -/
def ofWord (word : Word) : Options where
  debugFreeze := MasterControl.debugFreeze.test word
  timeTriggered := MasterControl.timeTriggered.test word
  autoBusOff := MasterControl.autoBusOff.test word
  autoWakeUp := MasterControl.autoWakeUp.test word
  noRetransmit := MasterControl.noRetransmit.test word
  rxFifoLocked := MasterControl.rxFifoLocked.test word
  txFifoPriority := MasterControl.txFifoPriority.test word

theorem ofWord_toWord (options : Options) : ofWord options.toWord = options := by
  simp (disch := decide) only [ofWord, toWord, Field.test_put_of_disjoint, Field.test_put_self]

theorem ofWord_congr {one other : Word}
    (same : one &&& MasterControl.configMask = other &&& MasterControl.configMask) :
    ofWord one = ofWord other := by
  have agree (field : Field) (within : field.Within MasterControl.configMask)
      (proper : 0 < field.width) : field.test one = field.test other :=
    Field.test_eq_of_and_eq field within proper same
  simp only [ofWord, Options.mk.injEq]
  refine ⟨agree _ ?_ ?_, agree _ ?_ ?_, agree _ ?_ ?_, agree _ ?_ ?_, agree _ ?_ ?_,
    agree _ ?_ ?_, agree _ ?_ ?_⟩ <;> decide

end Options

namespace TestModes

/-- The test modes that a timing word has in force. -/
def ofWord (word : Word) : TestModes where
  silent := TimingControl.silent.test word
  loopback := TimingControl.loopback.test word

theorem ofWord_apply (modes : TestModes) (word : Word) : ofWord (modes.apply word) = modes := by
  simp (disch := decide) only [ofWord, apply, Field.test_put_of_disjoint, Field.test_put_self]

theorem ofWord_congr {one other : Word}
    (same : one &&& TimingControl.configMask = other &&& TimingControl.configMask) :
    ofWord one = ofWord other := by
  simp only [ofWord, TestModes.mk.injEq]
  exact ⟨Field.test_eq_of_and_eq _ (by decide) (by decide) same,
    Field.test_eq_of_and_eq _ (by decide) (by decide) same⟩

/-- The test modes stay out of the fields that hold the timing. -/
theorem decode?_apply (modes : TestModes) (word : Word) (clock : Hertz) :
    BitTiming.decode? (modes.apply word) clock = BitTiming.decode? word clock := by
  apply BitTiming.decode?_congr
  rw [apply, Field.put_and_kept (by decide), Field.put_and_kept (by decide)]

end TestModes

namespace Setup

variable (new old : Setup)

theorem control_laidOver_and_configMask :
    (new.laidOver old).control &&& MasterControl.configMask =
      new.control &&& MasterControl.configMask := by
  rw [control_laidOver_eq_merge, Word.merge_and_part (by decide), BitVec.and_assoc, BitVec.and_self]

/-- A field that is neither configuration nor request is as it was. -/
theorem test_control_laidOver_of_kept {field : Field}
    (apart : (MasterControl.configMask ||| 3#32) &&& field.mask = 0) (proper : 0 < field.width) :
    field.test (new.laidOver old).control = field.test old.control := by
  apply Field.test_eq_of_and_eq field field.within_mask proper
  rw [control_laidOver_eq_merge, Word.merge_and_kept apart]

theorem interrupts_laidOver_and_configMask :
    (new.laidOver old).interrupts &&& InterruptEnable.configMask =
      new.interrupts &&& InterruptEnable.configMask :=
  Word.merge_and_part (by decide) ..

theorem timing_laidOver_and_part {part : Word} (within : part &&& ~~~TimingControl.configMask = 0) :
    (new.laidOver old).timing &&& part = new.timing &&& part := by
  rw [timing_laidOver_eq_merge, Word.merge_and_part within]

end Setup

namespace Config

/-- The words that realize a configuration, by the one part that can fail. -/
theorem setup_eq_ok_iff {config : Config} {clock : Hertz} {setup : Setup} :
    config.setup clock = .ok setup ↔ ∃ timing, config.timing.encode clock = .ok timing ∧
      setup = ⟨config.options.toWord, config.interrupts, config.testModes.apply timing⟩ := by
  unfold Config.setup
  cases encoded : config.timing.encode clock with
  | error cause => simp [Except.map]
  | ok timing => simp [Except.map, eq_comm]

end Config

namespace Board

/-- What a reconfiguration on a quiet cell has applied reads back as the configuration. -/
theorem reconfigure_reads_back {board : Board Hardware} (quiet : board.surroundings.Quiet)
    {config : Config}
    (succeeded : (board.reconfigure Hardware.environment config).1 = .ok ()) :
    let old := board.memory.setup
    let new := (board.reconfigure Hardware.environment config).2.memory.setup
    Options.ofWord new.control = config.options ∧
      MasterControl.softwareReset.test new.control =
        MasterControl.softwareReset.test old.control ∧
      MasterControl.sleepRequest.test new.control = false ∧
      MasterControl.initializationRequest.test new.control = false ∧
      new.interrupts &&& InterruptEnable.configMask =
        config.interrupts &&& InterruptEnable.configMask ∧
      TestModes.ofWord new.timing = config.testModes ∧
      BitTiming.decode? new.timing board.clock = some config.timing := by
  intro old new
  obtain ⟨setup, realized, words⟩ := setup_reconfigure (quiet.avoids board.table) succeeded
  obtain ⟨timing, encoded, rfl⟩ := Config.setup_eq_ok_iff.mp realized
  have laid : new = Setup.laidOver _ old := words
  rw [laid]
  refine ⟨?_, ?_, ?_, ?_, ?_, ?_, ?_⟩
  · rw [Options.ofWord_congr (Setup.control_laidOver_and_configMask _ _), Options.ofWord_toWord]
  · exact Setup.test_control_laidOver_of_kept _ _ (by decide) (by decide)
  · exact Setup.test_control_laidOver_of_request _ _ (by decide) (by decide)
  · exact Setup.test_control_laidOver_of_request _ _ (by decide) (by decide)
  · exact Setup.interrupts_laidOver_and_configMask _ _
  · rw [TestModes.ofWord_congr (Setup.timing_laidOver_and_part _ _ (by decide)),
      TestModes.ofWord_apply]
  · rw [BitTiming.decode?_congr (Setup.timing_laidOver_and_part _ _ (by decide)),
      TestModes.decode?_apply, BitTiming.decode?_of_encode encoded]

/-- Half a megabit from a clock of 36 MHz, silent, with two interrupts enabled. -/
theorem reads_back_at_power_on :
    let board := atPowerOn .prompt
    let config : Config :=
      ⟨⟨false, true, true, false, false, false, true⟩, ⟨true, false⟩, 0x3#32,
        .standard 500000, ⟨1, 10⟩⟩
    let outcome := board.reconfigure Hardware.environment config
    board.surroundings.Quiet ∧ outcome.1 = .ok () ∧
      Options.ofWord outcome.2.memory.setup.control = config.options ∧
      outcome.2.memory.setup.interrupts &&& InterruptEnable.configMask =
        config.interrupts &&& InterruptEnable.configMask ∧
      TestModes.ofWord outcome.2.memory.setup.timing = config.testModes ∧
      BitTiming.decode? outcome.2.memory.setup.timing board.clock = some config.timing := by
  intro board config outcome
  have quiet : board.surroundings.Quiet := rfl
  have encoded : (BitTiming.standard 500000).encode 36000000 =
      .ok ((BitTiming.standard 500000).pack 12) := rfl
  have realized : config.setup board.clock = .ok ⟨config.options.toWord, config.interrupts,
      config.testModes.apply ((BitTiming.standard 500000).pack 12)⟩ :=
    Config.setup_eq_ok_iff.mpr ⟨_, encoded, rfl⟩
  have succeeded : outcome.1 = .ok () := by
    have start : board.surroundings = .fresh .prompt := rfl
    obtain ⟨_, -, -, applied⟩ := apply_of_answered start rfl ⟨1, 10⟩ _ (by decide)
    exact congrArg Prod.fst ((reconfigure_of_supported realized).trans applied)
  obtain ⟨options, -, -, -, interrupts, modes, timing⟩ := reconfigure_reads_back quiet succeeded
  rw [show outcome = board.reconfigure Hardware.environment config from rfl]
  exact ⟨quiet, succeeded, options, interrupts, modes, timing⟩

end Board

end CanController

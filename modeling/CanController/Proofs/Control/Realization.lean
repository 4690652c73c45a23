import CanController.Proofs.Control.ReadBack
import CanController.Proofs.Register.Lens

/-!
The words that a configuration stands for, told by what is in them.  Options and test modes show in
their flags, a timing word less its test modes is the encoded timing, and no other bit is set.  That
leaves one choice of words, and the configuration is encoded in these.
-/

namespace CanController

namespace Options

/-- The control word with the options that a word has in force. -/
theorem toWord_ofWord (word : Word) : (ofWord word).toWord = word &&& MasterControl.configMask := by
  simp (disch := decide) only [toWord, ofWord, Field.put, Field.toNat_test]
  have copied := Field.setAll_get [MasterControl.debugFreeze, MasterControl.timeTriggered,
    MasterControl.autoBusOff, MasterControl.autoWakeUp, MasterControl.noRetransmit,
    MasterControl.rxFifoLocked, MasterControl.txFifoPriority] word 0
  exact copied.trans (Word.merge_onto_zero ..)

theorem toWord_and_outside (options : Options) :
    options.toWord &&& ~~~MasterControl.configMask = 0#32 := by
  simp (disch := decide) only [toWord, Field.put_and_kept]
  exact BitVec.zero_and

end Options

namespace TestModes

/-- The bits of a timing word that hold no timing. -/
def mask : Word :=
  Field.union [TimingControl.silent, TimingControl.loopback]

theorem apply_and_outside (modes : TestModes) (word : Word) :
    modes.apply word &&& ~~~mask = word &&& ~~~mask := by
  rw [apply, Field.put_and_kept (by decide), Field.put_and_kept (by decide)]

theorem ofWord_apply_outside (word : Word) : (ofWord word).apply (word &&& ~~~mask) = word := by
  have copied : (ofWord word).apply (word &&& ~~~mask) =
      Word.merge mask word (word &&& ~~~mask) := by
    simp (disch := decide) only [apply, ofWord, Field.put, Field.toNat_test]
    exact Field.setAll_get [TimingControl.silent, TimingControl.loopback] ..
  rw [copied]
  apply Word.eq_of_and_eq mask
  · exact Word.merge_and_part (BitVec.and_not_self _) ..
  · rw [Word.merge_and_kept (BitVec.and_not_self _), BitVec.and_assoc, BitVec.and_self]

/-- An encoded timing asks for no test mode. -/
theorem encode_and_outside {timing : BitTiming} {clock : Hertz} {word : Word}
    (encoded : timing.encode clock = .ok word) : word &&& ~~~mask = word := by
  obtain ⟨divisor, -, rfl⟩ := BitTiming.encode_eq_ok_iff.mp encoded
  apply Word.and_eq_self
  simp (disch := decide) only [BitTiming.pack, Field.set_and_kept]
  exact BitVec.zero_and

end TestModes

/-- The words hold each part of the configuration in the bits for it, and nothing else. -/
structure Setup.Realizes (setup : Setup) (config : Config) (clock : Hertz) : Prop where
  options : Options.ofWord setup.control = config.options
  /-- There is no request in the control word, nor anything else that is no option. -/
  unrequested : setup.control &&& ~~~MasterControl.configMask = 0#32
  interrupts : setup.interrupts = config.interrupts
  testModes : TestModes.ofWord setup.timing = config.testModes
  timing : config.timing.encode clock = .ok (setup.timing &&& ~~~TestModes.mask)

namespace Setup.Realizes

variable {setup : Setup} {config : Config} {clock : Hertz} (realizes : setup.Realizes config clock)
include realizes

theorem control_eq : setup.control = config.options.toWord := by
  rw [← realizes.options, Options.toWord_ofWord, Word.and_eq_self realizes.unrequested]

/-- The test modes do not keep the timing from being read. -/
theorem decoded : BitTiming.decode? setup.timing clock = some config.timing := by
  have kept : ~~~TestModes.mask &&& 0x037F03FF#32 = 0x037F03FF#32 := by decide
  rw [← BitTiming.decode?_of_encode realizes.timing]
  apply BitTiming.decode?_congr
  rw [BitVec.and_assoc, kept]

end Setup.Realizes

/-- A configuration is encoded in the words that realize it. -/
theorem Config.setup_eq_ok_iff_realizes {config : Config} {clock : Hertz} {setup : Setup} :
    config.setup clock = .ok setup ↔ setup.Realizes config clock := by
  rw [setup_eq_ok_iff]
  constructor
  · rintro ⟨timing, encoded, rfl⟩
    refine ⟨Options.ofWord_toWord _, Options.toWord_and_outside _, rfl,
      TestModes.ofWord_apply _ _, ?_⟩
    rw [TestModes.apply_and_outside, TestModes.encode_and_outside encoded, encoded]
  · intro realizes
    refine ⟨_, realizes.timing, ?_⟩
    rw [← realizes.control_eq, ← realizes.interrupts, ← realizes.testModes,
      TestModes.ofWord_apply_outside]

end CanController

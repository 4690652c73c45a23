import CanController.Proofs.Control.Dependence
import CanController.Proofs.Control.FreshStart
import CanController.Proofs.Session.Refusal

/-!
Starting afresh.  A start resets the cell before it looks at anything, and replaces every part of
the configuration but the interrupts and the bound on the pauses.  Two starts that have these in
common, on the same clock and the same hardware, cannot be told apart, whatever had been done to
the two cells before.
-/

namespace CanController.Session

section Start

variable {session : Session} {config : Config} (driver : session.config? = some config)
  (rate : BitRate) (options : Options) (modes : TestModes)
include driver

/-- A start, as a step. -/
theorem step_start :
    let started := config.start rate options modes
    let outcome := session.ready.board.start Hardware.environment started
    let step := session.step (.mode (.start rate options modes))
    step.2 = ⟨outcome.2, some started⟩ ∧ step.1.reply = .ofOutcome outcome.1 ∧
      step.1.journal = outcome.2.journal :=
  step_mode driver (.start rate options modes)

theorem start_ended :
    let reply := (session.step (.mode (.start rate options modes))).1.reply
    reply = .done ∨ (∃ target observed, reply = .failed (.timeout target observed)) ∨
      ∃ cause, reply = .failed (.unsupportedConfiguration cause) := by
  intro reply
  rw [show reply = _ from (step_start driver rate options modes).2.1]
  rcases session.ready.board.resetCell.reconfigure_ended Hardware.environment
    (config.start rate options modes) with succeeded | ⟨target, observed, late⟩ | ⟨cause, refused⟩
  · exact .inl (Reply.ofOutcome_eq_done_iff.mpr succeeded)
  · exact .inr (.inl ⟨target, observed, Reply.ofOutcome_eq_failed_iff.mpr late⟩)
  · exact .inr (.inr ⟨cause, Reply.ofOutcome_eq_failed_iff.mpr refused⟩)

/-- A start keeps to the words that the reset defines. -/
theorem get_of_start (unscripted : session.board.surroundings.settings.script = [])
    {address : Address} (apart : ¬ Register.IsReset address) :
    (session.step (.mode (.start rate options modes))).2.board.memory.get address =
      session.board.memory.get address := by
  rw [(step_start driver rate options modes).1]
  exact Board.get_start session.surroundings_ready unscripted _ apart

theorem words_of_started (unscripted : session.board.surroundings.settings.script = [])
    (done : (session.step (.mode (.start rate options modes))).1.reply = .done) :
    let started := config.start rate options modes
    let memory := (session.step (.mode (.start rate options modes))).2.board.memory
    memory.setup.Realizes
        { started with interrupts := config.interrupts &&& InterruptEnable.configMask }
        session.board.clock ∧
      memory.read .masterStatus = 0x00000C00#32 ∧
      memory.read .transmitStatus = 0x1C000000#32 := by
  intro started memory
  obtain ⟨after, replied, -⟩ := step_start driver rate options modes
  rw [replied, Reply.ofOutcome_eq_done_iff] at done
  rw [show memory = _ from congrArg (·.board.memory) after]
  exact Board.words_start session.surroundings_ready unscripted done

/-- A start that is refused gets as far as the reset. -/
theorem words_of_refused {cause : BitTimingError}
    (failed : (session.step (.mode (.start rate options modes))).1.reply =
      .failed (.unsupportedConfiguration cause)) :
    let outcome := session.step (.mode (.start rate options modes))
    rate.timing.encode session.board.clock = .error cause ∧
      (∀ entry ∈ Register.resetValues, outcome.2.board.memory.read entry.1 = entry.2) ∧
      outcome.1.journal.pauses = [] := by
  intro outcome
  obtain ⟨after, replied, journal⟩ := step_start driver rate options modes
  rw [replied, Reply.ofOutcome_eq_failed_iff] at failed
  have refused := (Board.reconfigure_eq_unsupported_iff _ session.ready.board.resetCell).mp failed
  have stopped : (session.ready.board.start Hardware.environment
      (config.start rate options modes)).2 = session.ready.board.resetCell :=
    Board.start_of_unsupported refused
  have encoded := Config.setup_eq_error_iff.mp refused
  rw [after, journal, stopped]
  exact ⟨encoded, fun entry listed => session.board.memory.read_reset listed, rfl⟩

end Start

/-- Two starts with the same arguments, of drivers with the same interrupts and the same bound on
the pauses, give the same reply and the same events, and leave the same five words and the same
configuration: the new options, test modes and timing, even if that is refused.  All other words of
the two memories are as they were. -/
theorem start_erases_history {one other : Session} {config otherConfig : Config}
    (driver : one.config? = some config) (otherDriver : other.config? = some otherConfig)
    (interrupts : config.interrupts = otherConfig.interrupts)
    (pollLimit : config.pollLimit = otherConfig.pollLimit)
    (clock : one.board.clock = other.board.clock)
    (settings : one.board.surroundings.settings = other.board.surroundings.settings)
    (unscripted : one.board.surroundings.settings.script = [])
    (rate : BitRate) (options : Options) (modes : TestModes) :
    let first := one.step (.mode (.start rate options modes))
    let second := other.step (.mode (.start rate options modes))
    let memory := first.2.board.memory
    let ordered : Options := { options with txFifoPriority := true }
    (first.1.reply = second.1.reply ∧ first.1.journal = second.1.journal ∧
      first.2.config? = some ⟨ordered, modes, config.interrupts, rate.timing, config.pollLimit⟩ ∧
      second.2.config? = first.2.config?) ∧
    (∀ address, Register.IsReset address →
      memory.get address = second.2.board.memory.get address) ∧
    (∀ address, ¬ Register.IsReset address →
      memory.get address = one.board.memory.get address ∧
      second.2.board.memory.get address = other.board.memory.get address) ∧
    (first.1.reply = .done ∨
      (∃ target observed, first.1.reply = .failed (.timeout target observed)) ∨
      ∃ cause, first.1.reply = .failed (.unsupportedConfiguration cause)) ∧
    (first.1.reply = .done →
      (memory.read .masterControl = ordered.toWord ∧
        Options.ofWord (memory.read .masterControl) = ordered) ∧
      memory.read .interruptEnable = config.interrupts &&& InterruptEnable.configMask ∧
      (TestModes.ofWord (memory.read .timingControl) = modes ∧
        rate.timing.encode one.board.clock =
          .ok (memory.read .timingControl &&& ~~~TestModes.mask) ∧
        BitTiming.decode? (memory.read .timingControl) one.board.clock = some rate.timing) ∧
      memory.read .masterStatus = 0x00000C00#32 ∧
      memory.read .transmitStatus = 0x1C000000#32) ∧
    (∀ cause, first.1.reply = .failed (.unsupportedConfiguration cause) →
      rate.timing.encode one.board.clock = .error cause ∧
      (memory.read .masterControl = 0x00010002#32 ∧
        memory.read .masterStatus = 0x00000C02#32 ∧
        memory.read .transmitStatus = 0x1C000000#32 ∧
        memory.read .timingControl = 0x01230000#32 ∧
        memory.read .interruptEnable = 0#32) ∧
      first.1.journal.pauses = []) := by
  intro first second memory ordered
  have same : otherConfig.start rate options modes = config.start rate options modes := by
    rw [Config.start, Config.start, interrupts, pollLimit]
  obtain ⟨after, replied, journal⟩ := step_start driver rate options modes
  obtain ⟨otherAfter, otherReplied, otherJournal⟩ := step_start otherDriver rate options modes
  rw [same] at otherAfter otherReplied otherJournal
  -- Before the reset the memories need not agree on anything.
  have outset : Board.Alike (fun _ => False) one.ready.board other.ready.board :=
    ⟨fun _ => False.elim, clock, congrArg Hardware.fresh settings, rfl, unscripted⟩
  obtain ⟨sameResult, alike⟩ := outset.startAnew (config.start rate options modes)
  refine ⟨⟨?_, ?_, congrArg Session.config? after, ?_⟩, ?_, ?_, start_ended driver _ _ _,
    fun done => ?_, fun cause failed => ?_⟩
  · exact (replied.trans (congrArg Reply.ofOutcome sameResult)).trans otherReplied.symm
  · exact (journal.trans alike.journal).trans otherJournal.symm
  · exact (congrArg Session.config? otherAfter).trans (congrArg Session.config? after).symm
  · intro address listed
    rw [show memory = _ from congrArg (·.board.memory) after, otherAfter]
    exact alike.memory address listed
  · intro address apart
    exact ⟨get_of_start driver _ _ _ unscripted apart,
      get_of_start otherDriver _ _ _ (settings ▸ unscripted) apart⟩
  · obtain ⟨realizes, status, transmit⟩ := words_of_started driver _ _ _ unscripted done
    exact ⟨⟨realizes.control_eq, realizes.options⟩, realizes.interrupts,
      ⟨realizes.testModes, realizes.timing, realizes.decoded⟩, status, transmit⟩
  · obtain ⟨encoded, words, unpaused⟩ := words_of_refused driver _ _ _ failed
    simp only [Register.resetValues, List.forall_mem_cons] at words
    obtain ⟨control, status, transmit, timing, enabled, -⟩ := words
    exact ⟨encoded, ⟨control, status, transmit, timing, enabled⟩, unpaused⟩

/-- A cell as after power-on, and one that holds nothing but ones and whose driver has been through
other options and another timing.  Both are on the bus after the start, with the same words. -/
theorem start_on_a_worn_cell :
    let options : Options := ⟨false, false, true, false, false, false, false⟩
    let config : Config := { Config.standard 500000 with interrupts := 0x3#32 }
    let worn : Config := ⟨⟨true, true, true, true, true, true, false⟩, ⟨true, true⟩, 0x3#32,
      ⟨0, 0, 0, 0⟩, .standard⟩
    let one := Session.new .powerOn 36000000 ⟨19, 20, 22⟩ ⟨true, 1, []⟩ config
    let other := Session.new (.filled 0xFFFFFFFF#32) 36000000 ⟨19, 19, 19⟩ ⟨true, 1, []⟩ worn
    let first := one.step (.mode (.start .kbps500 options ⟨false, true⟩))
    let second := other.step (.mode (.start .kbps500 options ⟨false, true⟩))
    first.1.reply = .done ∧ second.1.reply = .done ∧ first.1.journal = second.1.journal ∧
      second.2.config? = first.2.config? ∧
      first.2.board.memory.read .masterControl = 0x00000044#32 ∧
      TestModes.ofWord (first.2.board.memory.read .timingControl) = ⟨false, true⟩ ∧
      second.2.board.memory.read .errorState = 0xFFFFFFFF#32 := by
  intro options config worn one other first second
  have driver : one.config? = some config := rfl
  have otherDriver : other.config? = some worn := rfl
  obtain ⟨⟨reply, journal, -, configs⟩, -, kept, -, words, -⟩ :=
    start_erases_history driver otherDriver rfl rfl rfl rfl rfl .kbps500 options ⟨false, true⟩
  have done : first.1.reply = .done := by decide +kernel
  obtain ⟨⟨control, -⟩, -, ⟨loopback, -⟩, -⟩ := words done
  have apart : ¬ Register.IsReset Register.errorState.address := by decide
  refine ⟨done, reply.symm.trans done, journal, configs, control.trans (by decide), loopback, ?_⟩
  exact (kept _ apart).2.trans (Memory.get_filled ..)

end CanController.Session

import CanController.Proofs.Control.Realization
import CanController.Proofs.Session.Recovery

/-!
Refusing a configuration.  A configuration is refused for its timing only, namely when no prescaler
makes the timing out of the clock, and that is found out before anything has been touched.  Every
other reconfiguration is an excursion with the words of the configuration, and an excursion fails
by running out of time or not at all.
-/

namespace CanController

namespace BitTiming

/-- The clock is a whole multiple of the quanta per second, by a factor that the hardware has. -/
def Realizable (timing : BitTiming) (clock : Hertz) : Prop :=
  timing.InRange ∧ 0 < timing.bitrate.toNat ∧
    ∃ divisor, prescalerBounds.Contains divisor ∧
      divisor * (timing.bitrate.toNat * timing.quanta) = clock.toNat

theorem encode_eq_error_iff {timing : BitTiming} {clock : Hertz} :
    (∃ cause, timing.encode clock = .error cause) ↔ ¬ timing.Realizable clock := by
  cases found : timing.prescaler clock with
  | error cause =>
      have unrealizable : ¬ timing.Realizable clock := by
        rintro ⟨inRange, positive, divisor, bounded, product⟩
        rw [prescaler_eq_ok_iff.mpr ⟨inRange, bounded, positive, product⟩] at found
        contradiction
      simp [encode, found, Except.map, unrealizable]
  | ok divisor =>
      obtain ⟨inRange, bounded, positive, product⟩ := prescaler_eq_ok_iff.mp found
      have realizable : timing.Realizable clock :=
        ⟨inRange, positive, divisor, bounded, product⟩
      simp [encode, found, Except.map, realizable]

end BitTiming

theorem Config.setup_eq_error_iff {config : Config} {clock : Hertz} {cause : BitTimingError} :
    config.setup clock = .error cause ↔ config.timing.encode clock = .error cause := by
  unfold Config.setup
  cases config.timing.encode clock <;> simp [Except.map]

namespace Board

variable {Surroundings : Type} (environment : Environment Surroundings)
  (board : Board Surroundings)

theorem apply_ok_or_timeout (limit : PollLimit) (setup : Setup) :
    (board.apply environment limit setup).1 = .ok () ∨ ∃ target observed,
      (board.apply environment limit setup).1 = .error (.timeout target observed) := by
  have excursion := excursion_apply environment limit setup board
  generalize board.apply environment limit setup = outcome at excursion
  cases excursion with
  | shut misses => exact .inr ⟨_, _, rfl⟩
  | stuck within reaches misses => exact .inr ⟨_, _, rfl⟩
  | returned within reaches inTime returns ended => exact .inl rfl

/-- The three ways in which a reconfiguration ends. -/
theorem reconfigure_ended (config : Config) :
    (board.reconfigure environment config).1 = .ok () ∨
      (∃ target observed,
        (board.reconfigure environment config).1 = .error (.timeout target observed)) ∨
      ∃ cause,
        (board.reconfigure environment config).1 = .error (.unsupportedConfiguration cause) := by
  cases realized : config.setup board.clock with
  | error cause => exact .inr (.inr ⟨cause, by rw [reconfigure_of_unsupported realized]⟩)
  | ok setup =>
      rw [reconfigure_of_supported realized]
      rcases board.apply_ok_or_timeout environment config.pollLimit setup with succeeded | late
      · exact .inl succeeded
      · exact .inr (.inl late)

theorem reconfigure_eq_unsupported_iff {config : Config} {cause : BitTimingError} :
    (board.reconfigure environment config).1 = .error (.unsupportedConfiguration cause) ↔
      config.setup board.clock = .error cause := by
  cases realized : config.setup board.clock with
  | error other => simp [reconfigure_of_unsupported realized]
  | ok setup =>
      rw [reconfigure_of_supported realized]
      rcases board.apply_ok_or_timeout environment config.pollLimit setup with
        succeeded | ⟨target, observed, failed⟩
      · simp [succeeded]
      · simp [failed]

end Board

theorem Reply.ofOutcome_eq_failed_iff {outcome : Except Error Unit} {error : Error} :
    Reply.ofOutcome outcome = .failed error ↔ outcome = .error error := by
  cases outcome with
  | error other => simp [ofOutcome, ofExcept]
  | ok done => simp [ofOutcome, ofExcept]

namespace Session

variable {session : Session} {config : Config}

/-- Operations that run alike are alike as steps. -/
theorem step_mode_congr (driver : session.config? = some config) {one other : ModeOp}
    (same : one.run config session.ready.board = other.run config session.ready.board) :
    session.step (.mode one) = session.step (.mode other) := by
  have managed : session.ready.config? = some config := driver
  rw [step, run_mode_of_some managed, same, ← run_mode_of_some managed, ← step]

/-- A reconfiguration is refused exactly when the timing cannot be realized, and then leaves the
session as it found it and nothing in the journal.  Any other one is the excursion with the words
that hold the options, the interrupts, and the timing together with the test modes, and succeeds or
runs out of time. -/
theorem reconfigure_refused_or_applied {session : Session} {config : Config}
    (driver : session.config? = some config) :
    let clock := session.board.clock
    let outcome := session.step (.mode .reconfigure)
    (∀ cause, outcome.1.reply = .failed (.unsupportedConfiguration cause) ↔
      config.timing.encode clock = .error cause) ∧
    ((∃ cause, outcome.1.reply = .failed (.unsupportedConfiguration cause)) ↔
      ¬ config.timing.Realizable clock) ∧
    (∀ cause, config.timing.encode clock = .error cause →
      outcome.2 = session.ready ∧ outcome.1.journal = #[]) ∧
    ∀ timing, config.timing.encode clock = .ok timing →
      (∃ setup : Setup,
        (setup.control = config.options.toWord ∧
          Options.ofWord setup.control = config.options ∧
          setup.control &&& ~~~MasterControl.configMask = 0#32) ∧
        setup.interrupts = config.interrupts ∧
        (TestModes.ofWord setup.timing = config.testModes ∧
          setup.timing &&& ~~~TestModes.mask = timing ∧
          BitTiming.decode? setup.timing clock = some config.timing) ∧
        outcome = session.step (.mode (.apply setup))) ∧
      (outcome.1.reply = .done ∨ ∃ target observed,
        outcome.1.reply = .failed (.timeout target observed)) := by
  intro clock outcome
  obtain ⟨after, reply, journal⟩ := step_mode driver .reconfigure
  have replied : outcome.1.reply =
      .ofOutcome (session.ready.board.reconfigure Hardware.environment config).1 := reply
  have refused (cause : BitTimingError) :
      outcome.1.reply = .failed (.unsupportedConfiguration cause) ↔
        config.timing.encode clock = .error cause := by
    rw [replied, Reply.ofOutcome_eq_failed_iff, Board.reconfigure_eq_unsupported_iff]
    exact Config.setup_eq_error_iff
  refine ⟨refused, ?_, fun cause encoded => ?_, fun timing encoded => ?_⟩
  · rw [← BitTiming.encode_eq_error_iff]
    exact exists_congr refused
  · have unsupported : config.setup session.ready.board.clock = .error cause :=
      Config.setup_eq_error_iff.mpr encoded
    have unmoved : ModeOp.reconfigure.run config session.ready.board =
        (.failed (.unsupportedConfiguration cause), config, session.ready.board) := by
      rw [ModeOp.run, Board.reconfigure_of_unsupported unsupported]
      rfl
    refine ⟨after.trans ?_, journal.trans ?_⟩
    · rw [unmoved, ← driver]
      rfl
    · rw [unmoved]
      rfl
  · have supported : config.setup session.ready.board.clock = .ok _ :=
      Config.setup_eq_ok_iff.mpr ⟨timing, encoded, rfl⟩
    have applied : session.ready.board.reconfigure Hardware.environment config = _ :=
      Board.reconfigure_of_supported supported
    have realizes := Config.setup_eq_ok_iff_realizes.mp supported
    have told := encoded.symm.trans realizes.timing
    refine ⟨⟨_, ⟨realizes.control_eq, realizes.options, realizes.unrequested⟩,
      realizes.interrupts,
      ⟨realizes.testModes, (Except.ok.inj told).symm, realizes.decoded⟩,
      step_mode_congr driver ?_⟩, ?_⟩
    · rw [ModeOp.run, ModeOp.run, applied]
    · rw [replied, applied]
      rcases session.ready.board.apply_ok_or_timeout Hardware.environment config.pollLimit _ with
        succeeded | ⟨target, observed, failed⟩
      · exact .inl (Reply.ofOutcome_eq_done_iff.mpr succeeded)
      · exact .inr ⟨target, observed, Reply.ofOutcome_eq_failed_iff.mpr failed⟩

/-- A clock of 36 MHz is no whole multiple of six quanta at 700 kHz.  A handler that would run in
the first pause does not, since there is none.  At 500 kHz the clock is divided by twelve, and the
driver asks for silence along with the timing. -/
theorem refused_or_applied_at_power_on :
    let session (rate : Hertz) := Session.new .powerOn 36000000 ⟨19, 20, 22⟩
      ⟨true, 0, [⟨1, .dispatch .tx⟩]⟩ { Config.standard rate with testModes := ⟨true, false⟩ }
    let outcome (rate : Hertz) := (session rate).step (.mode .reconfigure)
    ((outcome 700000).1.reply =
        .failed (.unsupportedConfiguration (.noPrescaler 36000000 700000 6)) ∧
      ¬ (BitTiming.standard 700000).Realizable 36000000 ∧
      (outcome 700000).2 = (session 700000).ready ∧ (outcome 700000).1.journal = #[]) ∧
    ∃ setup : Setup, TestModes.ofWord setup.timing = ⟨true, false⟩ ∧
      setup.timing &&& ~~~TestModes.mask = (BitTiming.standard 500000).pack 12 ∧
      outcome 500000 = (session 500000).step (.mode (.apply setup)) := by
  intro session outcome
  have driver (rate : Hertz) : (session rate).config? =
      some { Config.standard rate with testModes := ⟨true, false⟩ } := rfl
  obtain ⟨refused, unrealizable, untouched, -⟩ := reconfigure_refused_or_applied (driver 700000)
  obtain ⟨-, -, -, applied⟩ := reconfigure_refused_or_applied (driver 500000)
  have failed : (BitTiming.standard 700000).encode 36000000 =
      .error (.noPrescaler 36000000 700000 6) := rfl
  have encoded : (BitTiming.standard 500000).encode 36000000 =
      .ok ((BitTiming.standard 500000).pack 12) := rfl
  have reply := (refused _).mpr failed
  obtain ⟨⟨setup, -, -, ⟨silence, timing, -⟩, same⟩, -⟩ := applied _ encoded
  exact ⟨⟨reply, unrealizable.mp ⟨_, reply⟩, untouched _ failed⟩, setup, silence, timing, same⟩

end Session

end CanController

import CanController.Proofs.Control.QuietExcursion

/-!
Reconfiguration, which is an excursion with the words that realize a configuration.  One that
succeeds leaves the cell on the bus with these words laid over the old ones.  On a quiet cell all
the rest of the memory is background, so two of them with the same configuration leave the same
memory behind wherever the cell had been before.
-/

namespace CanController.Board

variable {Surroundings : Type}

/-- A reconfiguration that succeeds has realized the configuration and laid it over the old
words. -/
theorem setup_reconfigure {environment : Environment Surroundings} {config : Config}
    {board : Board Surroundings}
    (avoids : environment.Avoids board.table Setup.addresses board.surroundings)
    (succeeded : (board.reconfigure environment config).1 = .ok ()) :
    ∃ setup, config.setup board.clock = .ok setup ∧
      (board.reconfigure environment config).2.memory.setup =
        setup.laidOver board.memory.setup := by
  cases realized : config.setup board.clock with
  | error cause =>
      rw [reconfigure_of_unsupported realized] at succeeded
      contradiction
  | ok setup =>
      rw [reconfigure_of_supported realized] at succeeded ⊢
      have excursion := excursion_apply environment config.pollLimit setup board
      exact ⟨setup, rfl, excursion.setup_of_ok avoids succeeded⟩

theorem mode_reconfigure {environment : Environment Surroundings} {config : Config}
    {board : Board Surroundings} (succeeded : (board.reconfigure environment config).1 = .ok ()) :
    (board.reconfigure environment config).2.mode = .normal := by
  cases realized : config.setup board.clock with
  | error cause =>
      rw [reconfigure_of_unsupported realized] at succeeded
      contradiction
  | ok setup =>
      rw [reconfigure_of_supported realized] at succeeded ⊢
      exact (excursion_apply environment config.pollLimit setup board).mode_of_ok succeeded

section Quiet

variable {board : Board Hardware} {settings : HardwareSettings}

theorem steered_reconfigure (start : board.surroundings = .fresh settings)
    (unscripted : settings.script = []) (config : Config) :
    board.Steered (board.reconfigure Hardware.environment config).2 := by
  cases realized : config.setup board.clock with
  | error cause =>
      rw [reconfigure_of_unsupported realized]
      exact .refl board
  | ok setup =>
      rw [reconfigure_of_supported realized]
      exact steered_apply start unscripted config.pollLimit setup

theorem reconfigure_eq_ok_iff (start : board.surroundings = .fresh settings)
    (unscripted : settings.script = []) {config : Config} :
    (board.reconfigure Hardware.environment config).1 = .ok () ↔
      (∃ setup, config.setup board.clock = .ok setup) ∧
        settings.isResponsive = true ∧ settings.latency < config.pollLimit.attempts.toNat := by
  cases realized : config.setup board.clock with
  | error cause => simp [reconfigure_of_unsupported realized]
  | ok setup =>
      rw [reconfigure_of_supported realized, apply_eq_ok_iff start unscripted]
      simp

end Quiet

/-- What a reconfiguration leaves behind depends on the background and the clock alone. -/
theorem memory_reconfigure_eq {one other : Board Hardware}
    {settings otherSettings : HardwareSettings} {config : Config}
    (start : one.surroundings = .fresh settings) (unscripted : settings.script = [])
    (otherStart : other.surroundings = .fresh otherSettings)
    (otherUnscripted : otherSettings.script = [])
    (background : one.memory.background = other.memory.background)
    (clock : one.clock = other.clock)
    (succeeded : (one.reconfigure Hardware.environment config).1 = .ok ())
    (otherSucceeded : (other.reconfigure Hardware.environment config).1 = .ok ()) :
    (one.reconfigure Hardware.environment config).2.memory =
      (other.reconfigure Hardware.environment config).2.memory := by
  obtain ⟨setup, realized, words⟩ :=
    setup_reconfigure (avoids_of_start start unscripted) succeeded
  obtain ⟨otherSetup, otherRealized, otherWords⟩ :=
    setup_reconfigure (avoids_of_start otherStart otherUnscripted) otherSucceeded
  have same : setup = otherSetup := by
    rw [clock, otherRealized] at realized
    exact (Except.ok.inj realized).symm
  apply Memory.eq_of_background
  · rw [(steered_reconfigure start unscripted config).background,
      (steered_reconfigure otherStart otherUnscripted config).background, background]
  · rw [words, otherWords, same, Memory.laidOver_eq_of_background background]
  · exact mode_reconfigure succeeded
  · exact mode_reconfigure otherSucceeded

end CanController.Board

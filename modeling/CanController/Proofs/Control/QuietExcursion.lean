import CanController.Proofs.Control.Excursion
import CanController.Proofs.Control.Steering

/-!
The excursion on a quiet cell.  Such a cell follows a request when it is responsive and has seen
the control word for more than `latency` pauses.  The two waits see different control words, so
each of them counts its pauses afresh, and whether the excursion succeeds is decided by the bound
on the pauses alone.
-/

namespace CanController.Board

namespace Poised

variable {board : Board Hardware} {settings : HardwareSettings} {interval : UInt32}
  {target : Mode}

theorem reaches_zero (shown : board.mode = target) :
    board.Reaches Hardware.environment interval target 0 :=
  ⟨shown, fun _ less => absurd less (Nat.not_lt_zero _)⟩

theorem reaches (poised : board.Poised settings) (hidden : board.mode ≠ target)
    (requested : Mode.ofControl (board.memory.read .masterControl) = target)
    (responsive : settings.isResponsive = true) :
    board.Reaches Hardware.environment interval target (settings.latency + 1) := by
  constructor
  · rw [poised.mode_paused, if_pos ⟨responsive, Nat.lt_succ_self _⟩]
    exact requested
  · intro earlier less
    rw [poised.mode_paused, if_neg]
    · exact hidden
    · rintro ⟨-, late⟩
      omega

/-- A wait for what is not there is in vain if the cell does not answer or answers otherwise. -/
theorem misses_of_unmet (poised : board.Poised settings) (hidden : board.mode ≠ target)
    {attempts : Nat}
    (unmet : ¬ ((settings.isResponsive = true ∧ settings.latency < attempts) ∧
      Mode.ofControl (board.memory.read .masterControl) = target)) :
    board.Misses Hardware.environment interval target attempts := by
  intro count within
  rw [poised.mode_paused]
  split
  next answered =>
    intro requested
    exact unmet ⟨⟨answered.1, Nat.lt_of_lt_of_le answered.2 within⟩, requested⟩
  next => exact hidden

theorem misses (poised : board.Poised settings) (hidden : board.mode ≠ target) {attempts : Nat}
    (unanswered : ¬ (settings.isResponsive = true ∧ settings.latency < attempts)) :
    board.Misses Hardware.environment interval target attempts :=
  poised.misses_of_unmet hidden fun met => unanswered met.1

end Poised

section Start

variable {board : Board Hardware} {settings : HardwareSettings} {interval : UInt32}
  {setup : Setup} (start : board.surroundings = .fresh settings)
  (unscripted : settings.script = [])
include start unscripted

theorem avoids_of_start :
    Hardware.environment.Avoids board.table Setup.addresses board.surroundings := by
  apply Hardware.Quiet.avoids
  rw [start]
  exact unscripted

theorem poised_requestInitialization : board.requestInitialization.Poised settings :=
  .of_start start unscripted

/-- The way back to the bus starts with a control word that the cell has not seen. -/
theorem poised_leaving (entered : Nat) :
    (board.leaving Hardware.environment interval setup entered).Poised settings := by
  have poised := poised_requestInitialization start unscripted
  have same : (board.leaving Hardware.environment interval setup entered).surroundings =
      (board.requestInitialization.paused Hardware.environment interval entered).surroundings :=
    rfl
  refine ⟨?_, unscripted, ?_⟩
  · rw [same]
    exact (poised.paused entered).1
  · rw [same, read_masterControl_leaving (avoids_of_start start unscripted)]
    apply poised.stable_paused_of_ne
    · rw [read_masterControl_requestInitialization]
      exact Setup.requesting_ne_laidOver _ _
    · rw [show board.requestInitialization.surroundings = .fresh settings from start,
        Hardware.stable_fresh]

theorem steered_leaving (entered : Nat) :
    board.Steered (board.leaving Hardware.environment interval setup entered) := by
  have poised := poised_requestInitialization start unscripted
  have waited : board.Steered
      (board.requestInitialization.paused Hardware.environment interval entered) :=
    (Steered.refl board).requestInitialization.paused poised entered
  exact ((waited.log _).configure setup).requestNormal

/-- No pause is needed where initialization is acknowledged already. -/
theorem reaches_initialization (responsive : settings.isResponsive = true) :
    board.requestInitialization.Reaches Hardware.environment interval .initialization
      (if board.mode = .initialization then 0 else settings.latency + 1) := by
  have poised := poised_requestInitialization start unscripted
  by_cases acknowledged : board.mode = .initialization
  · rw [if_pos acknowledged]
    exact Poised.reaches_zero ((mode_requestInitialization board).trans acknowledged)
  · rw [if_neg acknowledged]
    apply poised.reaches _ _ responsive
    · rw [mode_requestInitialization]
      exact acknowledged
    · rw [read_masterControl_requestInitialization]
      exact Setup.ofControl_requesting _

theorem reaches_normal (responsive : settings.isResponsive = true) {entered : Nat}
    (reaches : board.requestInitialization.Reaches Hardware.environment interval .initialization
      entered) :
    (board.leaving Hardware.environment interval setup entered).Reaches Hardware.environment
      interval .normal (settings.latency + 1) := by
  apply (poised_leaving start unscripted entered).reaches _ _ responsive
  · rw [mode_leaving reaches]
    decide
  · rw [read_masterControl_leaving (avoids_of_start start unscripted)]
    exact Setup.ofControl_laidOver _ _

end Start

section Outcome

variable {board : Board Hardware} {settings : HardwareSettings}
  (start : board.surroundings = .fresh settings) (unscripted : settings.script = [])
  (limit : PollLimit) (setup : Setup)
include start unscripted

theorem apply_of_answered
    (answered : settings.isResponsive = true ∧ settings.latency < limit.attempts.toNat) :
    ∃ final, final = (board.leaving Hardware.environment limit.interval setup
        (if board.mode = .initialization then 0 else settings.latency + 1)).paused
        Hardware.environment limit.interval (settings.latency + 1) ∧
      final.mode = .normal ∧
      board.apply Hardware.environment limit setup =
        (.ok (), (final.log (.entered .normal)).log (.reconfigured final.memory.setup)) := by
  have reaches : board.requestInitialization.Reaches Hardware.environment limit.interval
      .initialization (if board.mode = .initialization then 0 else settings.latency + 1) :=
    reaches_initialization start unscripted answered.1
  have returns : (board.leaving Hardware.environment limit.interval setup _).Reaches
      Hardware.environment limit.interval .normal (settings.latency + 1) :=
    reaches_normal start unscripted answered.1 reaches
  have within : (if board.mode = .initialization then 0 else settings.latency + 1) ≤
      limit.attempts.toNat := by
    split
    next => exact Nat.zero_le _
    next => exact answered.2
  exact ⟨_, rfl, returns.shown,
    (Excursion.returned within reaches answered.2 returns rfl).eq_apply⟩

theorem apply_of_acknowledged (acknowledged : board.mode = .initialization)
    (unanswered :
      ¬ (settings.isResponsive = true ∧ settings.latency < limit.attempts.toNat)) :
    ∃ final, final.memory =
        (board.leaving Hardware.environment limit.interval setup 0).memory ∧
      final.journal.pauses = board.journal.pauses ++
        List.replicate limit.attempts.toNat (setup.laidOver board.memory.setup, limit.interval) ∧
      board.apply Hardware.environment limit setup =
        (.error (.timeout .normal .initialization), final) := by
  have poised : (board.leaving Hardware.environment limit.interval setup 0).Poised settings :=
    poised_leaving start unscripted 0
  have reaches : board.requestInitialization.Reaches Hardware.environment limit.interval
      .initialization 0 :=
    Poised.reaches_zero ((mode_requestInitialization board).trans acknowledged)
  have inside : (board.leaving Hardware.environment limit.interval setup 0).mode =
      .initialization := mode_leaving reaches
  have misses : (board.leaving Hardware.environment limit.interval setup 0).Misses
      Hardware.environment limit.interval .normal limit.attempts.toNat :=
    poised.misses (by rw [inside]; decide) unanswered
  have memory : ((board.leaving Hardware.environment limit.interval setup 0).paused
      Hardware.environment limit.interval limit.attempts.toNat).memory =
        (board.leaving Hardware.environment limit.interval setup 0).memory :=
    poised.memory_paused_of_unanswered unanswered
  refine ⟨_, memory, ?_, ?_⟩
  · rw [pauses_paused_leaving (avoids_of_start start unscripted), List.replicate_zero,
      List.append_nil]
  · rw [(Excursion.stuck (Nat.zero_le _) reaches misses).eq_apply, mode, memory]
    exact congrArg (fun observed => (Except.error (Error.timeout .normal observed), _)) inside

theorem apply_of_unacknowledged (unacknowledged : board.mode ≠ .initialization)
    (unanswered :
      ¬ (settings.isResponsive = true ∧ settings.latency < limit.attempts.toNat)) :
    ∃ final, final.memory = board.requestInitialization.memory ∧
      final.journal.pauses = board.journal.pauses ++
        List.replicate limit.attempts.toNat (board.memory.setup.requesting, limit.interval) ∧
      board.apply Hardware.environment limit setup =
        (.error (.timeout .initialization board.mode), final) := by
  have poised := poised_requestInitialization start unscripted
  have misses : board.requestInitialization.Misses Hardware.environment limit.interval
      .initialization limit.attempts.toNat :=
    poised.misses (by rw [mode_requestInitialization]; exact unacknowledged) unanswered
  have memory : (board.requestInitialization.paused Hardware.environment limit.interval
      limit.attempts.toNat).memory = board.requestInitialization.memory :=
    poised.memory_paused_of_unanswered unanswered
  refine ⟨_, memory, pauses_waiting (avoids_of_start start unscripted) _, ?_⟩
  rw [(Excursion.shut misses).eq_apply, mode, memory]
  exact congrArg (fun observed => (Except.error (Error.timeout .initialization observed), _))
    (mode_requestInitialization board)

theorem apply_eq_ok_iff :
    (board.apply Hardware.environment limit setup).1 = .ok () ↔
      settings.isResponsive = true ∧ settings.latency < limit.attempts.toNat := by
  constructor
  · intro succeeded
    apply Decidable.byContradiction
    intro unanswered
    by_cases acknowledged : board.mode = .initialization
    · obtain ⟨final, -, -, applied⟩ :=
        apply_of_acknowledged start unscripted limit setup acknowledged unanswered
      rw [applied] at succeeded
      contradiction
    · obtain ⟨final, -, -, applied⟩ :=
        apply_of_unacknowledged start unscripted limit setup acknowledged unanswered
      rw [applied] at succeeded
      contradiction
  · intro answered
    obtain ⟨final, -, -, applied⟩ := apply_of_answered start unscripted limit setup answered
    rw [applied]

/-- Whatever its outcome, an excursion moves what mode control may move and nothing else. -/
theorem steered_apply : board.Steered (board.apply Hardware.environment limit setup).2 := by
  have waiting := poised_requestInitialization start unscripted
  have requested := (Steered.refl board).requestInitialization
  have excursion := excursion_apply Hardware.environment limit setup board
  generalize board.apply Hardware.environment limit setup = outcome at excursion
  cases excursion with
  | shut misses => exact requested.paused waiting _
  | stuck within reaches misses =>
      exact (steered_leaving start unscripted _).paused (poised_leaving start unscripted _) _
  | returned within reaches inTime returns ended =>
      subst ended
      exact (((steered_leaving start unscripted _).paused
        (poised_leaving start unscripted _) _).log _).log _

end Outcome

/-- The exact outcome of an excursion on a quiet cell. -/
theorem apply_on_quiet_cell {board : Board Hardware} {settings : HardwareSettings}
    (start : board.surroundings = .fresh settings) (unscripted : settings.script = [])
    (limit : PollLimit) (setup : Setup) :
    let old := board.memory.setup
    let status := board.memory.read .masterStatus
    let acknowledged := MasterStatus.initializationAcknowledge.test status
    let outcome := board.apply Hardware.environment limit setup
    (outcome.1 = .ok () ↔
      settings.isResponsive = true ∧ settings.latency < limit.attempts.toNat) ∧
    (outcome.1 = .ok () →
      outcome.2.journal.pauses = board.journal.pauses ++
        List.replicate (if acknowledged then 0 else settings.latency + 1)
          (old.requesting, limit.interval) ++
        List.replicate (settings.latency + 1) (setup.laidOver old, limit.interval) ∧
      outcome.2.memory.setup = setup.laidOver old ∧
      outcome.2.memory.read .masterStatus = status &&& ~~~3#32 ∧
      outcome.2.mode = .normal) ∧
    (outcome.1 ≠ .ok () →
      (if acknowledged then
        outcome.1 = .error (.timeout .normal .initialization) ∧
        outcome.2.journal.pauses = board.journal.pauses ++
          List.replicate limit.attempts.toNat (setup.laidOver old, limit.interval) ∧
        outcome.2.memory.setup = setup.laidOver old
      else
        outcome.1 = .error (.timeout .initialization board.mode) ∧
        outcome.2.journal.pauses = board.journal.pauses ++
          List.replicate limit.attempts.toNat (old.requesting, limit.interval) ∧
        outcome.2.memory.setup = old.requesting) ∧
      outcome.2.memory.read .masterStatus = status) ∧
    (∀ address, (∀ register ∈ [Register.masterControl, .masterStatus, .interruptEnable,
        .timingControl], address ≠ register.address) →
      outcome.2.memory.get address = board.memory.get address) := by
  intro old status acknowledged outcome
  have avoids := avoids_of_start start unscripted
  have acknowledged_iff : acknowledged = true ↔ board.mode = .initialization :=
    Mode.ofStatus_eq_initialization_iff.symm
  have steered := steered_apply start unscripted limit setup
  have returns := apply_eq_ok_iff start unscripted limit setup
  refine ⟨returns, ?_, ?_, fun address apart =>
    Memory.get_eq_of_background steered.background apart⟩
  · intro succeeded
    obtain ⟨final, path, normal, applied⟩ :=
      apply_of_answered start unscripted limit setup (returns.mp succeeded)
    have ended : outcome = _ := applied
    have words : final.memory.setup = setup.laidOver old := by
      rw [path, setup_paused_leaving avoids]
    rw [applied] at steered
    rw [ended]
    refine ⟨?_, words, Memory.read_masterStatus_of_normal steered.background normal, normal⟩
    rw [pauses_log, pauses_log, path, pauses_paused_leaving avoids]
    simp only [acknowledged_iff]
    rfl
  · intro failed
    have unanswered := mt returns.mpr failed
    by_cases shown : board.mode = .initialization
    · obtain ⟨final, memory, waits, applied⟩ :=
        apply_of_acknowledged start unscripted limit setup shown unanswered
      have ended : outcome = _ := applied
      rw [ended, if_pos (acknowledged_iff.mpr shown), memory]
      refine ⟨⟨rfl, waits, setup_leaving avoids⟩, ?_⟩
      exact read_masterStatus_leaving.trans (read_masterStatus_requestInitialization board)
    · obtain ⟨final, memory, waits, applied⟩ :=
        apply_of_unacknowledged start unscripted limit setup shown unanswered
      have ended : outcome = _ := applied
      rw [ended, if_neg (mt acknowledged_iff.mp shown), memory]
      refine ⟨⟨rfl, waits, setup_requestInitialization board⟩, ?_⟩
      exact read_masterStatus_requestInitialization board

/-- Out of sleep, with as many pauses on either side as the cell takes. -/
theorem apply_at_power_on :
    let board := atPowerOn ⟨true, 2, []⟩
    let outcome := board.apply Hardware.environment ⟨3, 10⟩ ⟨0x54#32, 0x3#32, 0x001C0005#32⟩
    board.surroundings = .fresh ⟨true, 2, []⟩ ∧
      outcome.1 = .ok () ∧
      outcome.2.journal.pauses =
        List.replicate 3 (⟨0x00010001#32, 0#32, 0x01230000#32⟩, 10) ++
          List.replicate 3 (⟨0x54#32, 0x3#32, 0x001C0005#32⟩, 10) ∧
      outcome.2.memory.setup = ⟨0x54#32, 0x3#32, 0x001C0005#32⟩ ∧
      outcome.2.mode = .normal := by
  intro board outcome
  have start : board.surroundings = .fresh ⟨true, 2, []⟩ := rfl
  have asleep : MasterStatus.initializationAcknowledge.test (board.memory.read .masterStatus) =
      false := by decide
  obtain ⟨returns, answered, -⟩ := apply_on_quiet_cell start rfl ⟨3, 10⟩
    ⟨0x54#32, 0x3#32, 0x001C0005#32⟩
  have succeeded : outcome.1 = .ok () := returns.mpr (by decide)
  obtain ⟨waits, words, -, normal⟩ := answered succeeded
  rw [setup_atPowerOn] at words waits
  rw [asleep] at waits
  exact ⟨start, succeeded, waits, words, normal⟩

end CanController.Board

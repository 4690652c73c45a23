import CanController.Board.Hardware
import CanController.Proofs.Board.QuietCell
import CanController.Proofs.Control.Excursion

/-!
Configuration is written in the window that an acknowledged initialization opens, and all at once.
This holds in any surroundings that leave the three configuration words alone, however late the
acknowledge comes and however often it goes away again.
-/

namespace CanController.Board

variable {Surroundings : Type}

/-- Without an acknowledge the configuration words only come to request initialization.  With one,
every wait up to it shows these words, and every later wait and the end the new configuration. -/
theorem apply_all_or_nothing {environment : Environment Surroundings}
    {board : Board Surroundings}
    (avoids : environment.Avoids board.table Setup.addresses board.surroundings)
    (limit : PollLimit) (setup : Setup) :
    let old := board.memory.setup
    let acknowledged (count : Nat) : Prop :=
      MasterStatus.initializationAcknowledge.test ((board.requestInitialization.paused environment
        limit.interval count).memory.read .masterStatus) = true
    let outcome := board.apply environment limit setup
    ((∀ count, count ≤ limit.attempts.toNat → ¬ acknowledged count) →
      (∃ observed, outcome.1 = .error (.timeout .initialization observed)) ∧
      outcome.2.memory.setup = old.requesting ∧
      outcome.2.journal.pauses = board.journal.pauses ++
        List.replicate limit.attempts.toNat (old.requesting, limit.interval)) ∧
    (∀ first, first ≤ limit.attempts.toNat → acknowledged first →
      (∀ earlier, earlier < first → ¬ acknowledged earlier) →
      (outcome.1 = .ok () ∨ ∃ observed, outcome.1 = .error (.timeout .normal observed)) ∧
      outcome.2.memory.setup = setup.laidOver old ∧
      ∃ later, later ≤ limit.attempts.toNat ∧
        outcome.2.journal.pauses = board.journal.pauses ++
          List.replicate first (old.requesting, limit.interval) ++
          List.replicate later (setup.laidOver old, limit.interval)) ∧
    (∀ shown ∈ outcome.2.memory.setup ::
        (outcome.2.journal.pauses.drop board.journal.pauses.length).map (·.1),
      shown = old.requesting ∨ shown = setup.laidOver old) := by
  intro old acknowledged outcome
  have acknowledged_iff (count : Nat) : acknowledged count ↔
      (board.requestInitialization.paused environment limit.interval count).mode =
        .initialization :=
    Mode.ofStatus_eq_initialization_iff.symm
  rcases (excursion_apply environment limit setup board).shut_or_opened avoids with
    ⟨misses, failed, final, waits⟩ | ⟨entered, within, reaches, ended, final, later, inTime, waits⟩
  · refine ⟨fun _ => ⟨failed, final, waits⟩, ?_, ?_⟩
    · intro first within shown
      exact absurd ((acknowledged_iff first).mp shown) (misses first within)
    · intro shown listed
      rw [waits, List.drop_left, List.map_replicate, final] at listed
      rcases List.mem_cons.mp listed with rfl | waited
      · exact .inl rfl
      · exact .inl (List.eq_of_mem_replicate waited)
  · refine ⟨?_, ?_, ?_⟩
    · intro unacknowledged
      exact absurd ((acknowledged_iff entered).mpr reaches.shown) (unacknowledged entered within)
    · intro first _ shown hidden
      have same : first = entered :=
        Reaches.unique ⟨(acknowledged_iff first).mp shown, fun earlier less seen =>
          hidden earlier less ((acknowledged_iff earlier).mpr seen)⟩ reaches
      rw [same]
      exact ⟨ended, final, later, inTime, waits⟩
    · intro shown listed
      rw [waits, List.append_assoc, List.drop_left, List.map_append, List.map_replicate,
        List.map_replicate, final] at listed
      rcases List.mem_cons.mp listed with rfl | waited
      · exact .inr rfl
      · rcases List.mem_append.mp waited with early | late
        · exact .inl (List.eq_of_mem_replicate early)
        · exact .inr (List.eq_of_mem_replicate late)

/-- Hardware that acknowledges initialization from its second pause on, and the way back never. -/
theorem apply_with_late_acknowledge :
    let board := atPowerOn ⟨false, 0, [⟨2, .write Register.masterStatus.address 1#32⟩]⟩
    let outcome := board.apply Hardware.environment ⟨4, 10⟩ ⟨0x54#32, 0x3#32, 0x001C0005#32⟩
    Hardware.environment.Avoids board.table Setup.addresses board.surroundings ∧
      (outcome.1 = .ok () ∨ ∃ observed, outcome.1 = .error (.timeout .normal observed)) ∧
      outcome.2.memory.setup = ⟨0x54#32, 0x3#32, 0x001C0005#32⟩ ∧
      ∃ later, later ≤ 4 ∧ outcome.2.journal.pauses =
        List.replicate 2 (⟨0x00010001#32, 0#32, 0x01230000#32⟩, 10) ++
          List.replicate later (⟨0x54#32, 0x3#32, 0x001C0005#32⟩, 10) := by
  intro board outcome
  have avoids : Hardware.environment.Avoids board.table Setup.addresses board.surroundings :=
    Hardware.avoids_of_script (by decide)
  obtain ⟨-, opened, -⟩ := apply_all_or_nothing avoids ⟨4, 10⟩
    ⟨0x54#32, 0x3#32, 0x001C0005#32⟩
  obtain ⟨ended, words, later, inTime, waits⟩ :=
    opened 2 (by decide) (by decide) (by decide)
  rw [setup_atPowerOn] at words waits
  exact ⟨avoids, ended, words, later, inTime, waits⟩

end CanController.Board

import CanController.Board.Hardware
import CanController.Proofs.Board.Pauses
import CanController.Proofs.Register.Background

/-!
Simulated hardware during a row of pauses.  Hardware whose script avoids the configuration words
leaves them alone.  Quiet hardware, which has no script at all, only settles: the memory stays as
it is until the control word has been seen for more than `latency` pauses, and is settled from
then on if the cell is responsive.
-/

namespace CanController

namespace Hardware

/-- How many pauses in a row, up to the last one, have seen this control word. -/
def stable (hardware : Hardware) (control : Word) : Nat :=
  if hardware.lastControl? = some control then hardware.streak else 0

@[simp]
theorem stable_fresh (settings : HardwareSettings) (control : Word) :
    (fresh settings).stable control = 0 := by
  simp [stable, fresh]

@[simp]
theorem settings_count (hardware : Hardware) (control : Word) :
    (hardware.count control).settings = hardware.settings := rfl

@[simp]
theorem streak_count (hardware : Hardware) (control : Word) :
    (hardware.count control).streak = hardware.stable control + 1 := by
  by_cases seen : hardware.lastControl? = some control <;> simp [count, stable, seen]

theorem stable_count_self (hardware : Hardware) (control : Word) :
    (hardware.count control).stable control = hardware.stable control + 1 := by
  rw [stable, if_pos (show (hardware.count control).lastControl? = some control from rfl),
    streak_count]

theorem stable_count_ne {control other : Word} (distinct : control ≠ other)
    (hardware : Hardware) : (hardware.count control).stable other = 0 := by
  simp [stable, count, distinct]

theorem settings_of_reachable {start hardware : Hardware}
    (reachable : environment.Reachable start hardware) :
    hardware.settings = start.settings := by
  induction reachable with
  | start => rfl
  | react microseconds memory _ inductionHypothesis => exact inductionHypothesis

/-- Settling writes the status word only, so it is for the script to avoid the others. -/
theorem avoids_of_script {hardware : Hardware} {table : HandlerTable}
    (avoids : ∀ entry ∈ hardware.settings.script, entry.effect.Avoids table Setup.addresses) :
    environment.Avoids table Setup.addresses hardware := by
  intro later reachable microseconds memory effect member
  have script := settings_of_reachable reachable
  rcases List.mem_append.mp member with settling | scripted
  · split at settling
    next =>
      rw [List.mem_singleton.mp settling]
      show Register.masterStatus.address ∉ Setup.addresses
      decide
    next => simp at settling
  · obtain ⟨entry, listed, rfl⟩ := List.mem_map.mp scripted
    have present := (List.mem_filter.mp listed).1
    rw [settings_count, script] at present
    exact avoids entry present

def Quiet (hardware : Hardware) : Prop :=
  hardware.settings.script = []

theorem Quiet.avoids {hardware : Hardware} (quiet : hardware.Quiet) (table : HandlerTable) :
    environment.Avoids table Setup.addresses hardware := by
  apply avoids_of_script
  rw [quiet]
  simp

end Hardware

namespace Board

/-- A board with a cell as after power-on, this hardware, and no handlers. -/
def atPowerOn (settings : HardwareSettings) : Board Hardware where
  memory := .powerOn
  clock := 36000000
  table := .empty
  controller := .idle ⟨19, 20, 22⟩
  journal := #[]
  surroundings := .fresh settings

theorem setup_atPowerOn (settings : HardwareSettings) :
    (atPowerOn settings).memory.setup =
      ⟨0x00010002#32, 0#32, 0x01230000#32⟩ := by
  show Memory.powerOn.setup = _
  decide

/-- A pause with quiet hardware, in full. -/
theorem pause_quiet {board : Board Hardware} (quiet : board.surroundings.Quiet)
    (microseconds : UInt32) :
    board.pause Hardware.environment microseconds =
      { board.record (.paused board.memory.setup microseconds) with
        memory :=
          if board.surroundings.settings.isResponsive = true ∧
              board.surroundings.settings.latency <
                board.surroundings.stable (board.memory.read .masterControl) + 1 then
            board.memory.settle
          else board.memory
        surroundings := board.surroundings.count (board.memory.read .masterControl) } := by
  have script : board.surroundings.settings.script = [] := quiet
  simp only [pause, Hardware.environment, Hardware.effects, Hardware.Follows,
    Hardware.settings_count, Hardware.streak_count, script, List.filter_nil, List.map_nil,
    List.append_nil]
  split
  next => rfl
  next => rfl

theorem setup_paused_quiet {board : Board Hardware} (quiet : board.surroundings.Quiet)
    {microseconds : UInt32} (count : Nat) :
    (board.paused Hardware.environment microseconds count).memory.setup = board.memory.setup :=
  setup_paused (quiet.avoids _) count

/-- Quiet hardware with these settings, to which no pause has shown the control word yet. -/
structure Poised (board : Board Hardware) (settings : HardwareSettings) : Prop where
  settings_eq : board.surroundings.settings = settings
  unscripted : settings.script = []
  unseen : board.surroundings.stable (board.memory.read .masterControl) = 0

namespace Poised

variable {board : Board Hardware} {settings : HardwareSettings} {microseconds : UInt32}

theorem of_start (start : board.surroundings = .fresh settings)
    (unscripted : settings.script = []) : board.Poised settings := by
  refine ⟨?_, unscripted, ?_⟩
  · rw [start]
    rfl
  · rw [start, Hardware.stable_fresh]

theorem quiet (poised : board.Poised settings) : board.surroundings.Quiet := by
  rw [Hardware.Quiet, poised.settings_eq]
  exact poised.unscripted

/-- A row of pauses: the cell counts them, and settles once they are more than its latency. -/
theorem paused (poised : board.Poised settings) (count : Nat) :
    (board.paused Hardware.environment microseconds count).surroundings.settings = settings ∧
      (board.paused Hardware.environment microseconds count).surroundings.stable
        (board.memory.read .masterControl) = count ∧
      (board.paused Hardware.environment microseconds count).memory =
        if settings.isResponsive = true ∧ settings.latency < count then board.memory.settle
        else board.memory := by
  induction count with
  | zero => exact ⟨poised.settings_eq, poised.unseen, (if_neg (by simp)).symm⟩
  | succ count inductionHypothesis =>
      obtain ⟨same, stable, memory⟩ := inductionHypothesis
      have control : (board.paused Hardware.environment microseconds count).memory.read
          .masterControl = board.memory.read .masterControl :=
        congrArg Setup.control (setup_paused_quiet poised.quiet count)
      have stillQuiet :
          (board.paused Hardware.environment microseconds count).surroundings.Quiet := by
        rw [Hardware.Quiet, same]
        exact poised.unscripted
      rw [paused_succ, pause_quiet stillQuiet, control, stable, same]
      refine ⟨same, ?_, ?_⟩
      · rw [Hardware.stable_count_self, stable]
      · simp only [memory]
        by_cases responsive : settings.isResponsive = true
        · by_cases early : settings.latency < count
          · simp [responsive, early, Nat.lt_succ_of_lt early]
          · simp [responsive, early]
        · simp [responsive]

theorem mode_paused (poised : board.Poised settings) (count : Nat) :
    (board.paused Hardware.environment microseconds count).mode =
      if settings.isResponsive = true ∧ settings.latency < count then
        Mode.ofControl (board.memory.read .masterControl)
      else board.mode := by
  rw [mode, (poised.paused count).2.2]
  split
  next => exact Memory.mode_settle _
  next => rfl

theorem background_paused (poised : board.Poised settings) (count : Nat) :
    (board.paused Hardware.environment microseconds count).memory.background =
      board.memory.background := by
  rw [(poised.paused count).2.2]
  split
  next => exact Memory.background_settle _
  next => rfl

/-- A request that is not followed leaves the memory as it is. -/
theorem memory_paused_of_unanswered (poised : board.Poised settings) {count : Nat}
    (unanswered : ¬ (settings.isResponsive = true ∧ settings.latency < count)) :
    (board.paused Hardware.environment microseconds count).memory = board.memory := by
  rw [(poised.paused count).2.2, if_neg unanswered]

/-- Another control word is still unseen after the pauses. -/
theorem stable_paused_of_ne (poised : board.Poised settings) {control : Word}
    (distinct : board.memory.read .masterControl ≠ control)
    (unseen : board.surroundings.stable control = 0) (count : Nat) :
    (board.paused Hardware.environment microseconds count).surroundings.stable control = 0 := by
  cases count with
  | zero => exact unseen
  | succ count =>
      have same : (board.paused Hardware.environment microseconds count).memory.read
          .masterControl = board.memory.read .masterControl :=
        congrArg Setup.control (setup_paused_quiet poised.quiet count)
      rw [paused_succ, surroundings_pause]
      apply Hardware.stable_count_ne
      rw [same]
      exact distinct

end Poised

end Board

end CanController

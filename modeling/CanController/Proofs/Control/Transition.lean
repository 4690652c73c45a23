import CanController.Proofs.Control.QuietExcursion
import CanController.Proofs.Register.Access
import CanController.Proofs.Register.Flags

/-!
A single change of mode on a quiet cell, in full.  The request stays in the control word, whatever
comes of it.  A responsive cell follows it after its latency, so a wait ends at once, or with the
first pause at which the cell follows, or at the bound.  Where sleep is still requested, a cell that
leaves initialization falls asleep, and the wait for the bus is in vain.
-/

namespace CanController

/-- Quiet hardware follows a request in a row of so many pauses. -/
def HardwareSettings.Answers (settings : HardwareSettings) (pauses : Nat) : Prop :=
  settings.isResponsive = true ∧ settings.latency < pauses

instance (settings : HardwareSettings) (pauses : Nat) : Decidable (settings.Answers pauses) :=
  inferInstanceAs (Decidable (_ ∧ _))

namespace Board

variable {settings : HardwareSettings}

/-- What comes of a wait on a quiet cell that began on the board `begun`. -/
structure QuietWait (begun : Board Hardware) (settings : HardwareSettings) (limit : PollLimit)
    (waits : Nat) (result : Except Error Unit) (outcome : Except Error Unit × Board Hardware) :
    Prop where
  result : outcome.1 = result
  pauses : outcome.2.journal.pauses =
    begun.journal.pauses ++ List.replicate waits (begun.memory.setup, limit.interval)
  memory : outcome.2.memory =
    if settings.Answers waits then begun.memory.settle else begun.memory

namespace Poised

variable {begun : Board Hardware}

theorem quietWait_of_reaches (poised : begun.Poised settings) {limit : PollLimit} {target : Mode}
    {count : Nat} (reaches : begun.Reaches Hardware.environment limit.interval target count)
    (within : count ≤ limit.attempts.toNat) :
    begun.QuietWait settings limit count (.ok ())
      (begun.await Hardware.environment limit target) := by
  rw [await, awaitMode_of_reaches reaches within]
  exact ⟨rfl, (pauses_log ..).trans (pauses_paused (setup_paused_quiet poised.quiet) count),
    (poised.paused count).2.2⟩

theorem quietWait_of_misses (poised : begun.Poised settings) {limit : PollLimit} {target : Mode}
    (misses : begun.Misses Hardware.environment limit.interval target limit.attempts.toNat) :
    begun.QuietWait settings limit limit.attempts.toNat
      (.error (.timeout target (if settings.Answers limit.attempts.toNat then
        Mode.ofControl (begun.memory.read .masterControl) else begun.mode)))
      (begun.await Hardware.environment limit target) := by
  rw [await, awaitMode_of_misses misses]
  refine ⟨?_, pauses_paused (setup_paused_quiet poised.quiet) _, (poised.paused _).2.2⟩
  rw [poised.mode_paused]
  rfl

/-- A wait on a quiet cell, by the mode that it begins in and the one that is requested. -/
theorem quietWait_await (poised : begun.Poised settings) (limit : PollLimit) (target : Mode) :
    let answered := settings.Answers limit.attempts.toNat
    let requested := Mode.ofControl (begun.memory.read .masterControl)
    begun.QuietWait settings limit
      (if begun.mode = target then 0
        else if answered ∧ requested = target then settings.latency + 1
        else limit.attempts.toNat)
      (if begun.mode = target ∨ (answered ∧ requested = target) then .ok ()
        else .error (.timeout target (if answered then requested else begun.mode)))
      (begun.await Hardware.environment limit target) := by
  intro answered requested
  by_cases shown : begun.mode = target
  · rw [if_pos shown, if_pos (.inl shown)]
    exact poised.quietWait_of_reaches (reaches_zero shown) (Nat.zero_le _)
  rw [if_neg shown]
  by_cases met : answered ∧ requested = target
  · rw [if_pos met, if_pos (.inr met)]
    exact poised.quietWait_of_reaches (poised.reaches shown met.2 met.1.1) met.1.2
  · rw [if_neg met, if_neg (not_or.mpr ⟨shown, met⟩)]
    exact poised.quietWait_of_misses (poised.misses_of_unmet shown met)

end Poised

theorem QuietWait.settled {begun : Board Hardware} {limit : PollLimit} {waits : Nat}
    {result : Except Error Unit} {outcome : Except Error Unit × Board Hardware}
    (wait : begun.QuietWait settings limit waits result outcome) :
    begun.memory.SameButMode outcome.2.memory ∧
      outcome.2.memory.setup = begun.memory.setup := by
  rw [wait.memory]
  split
  next => exact ⟨.settle begun.memory, begun.memory.setup_settle⟩
  next => exact ⟨.refl begun.memory, rfl⟩

theorem Poised.setup_await {begun : Board Hardware} (poised : begun.Poised settings)
    (limit : PollLimit) (target : Mode) :
    (begun.await Hardware.environment limit target).2.memory.setup = begun.memory.setup :=
  (poised.quietWait_await limit target).settled.2

/-- A change of mode that puts this word into the control register, makes so many pauses and ends
like this.  All the rest of the memory is as before, but for the acknowledges. -/
structure Transits (board : Board Hardware) (settings : HardwareSettings) (limit : PollLimit)
    (control : Word) (waits : Nat) (result : Except Error Unit)
    (outcome : Except Error Unit × Board Hardware) : Prop where
  result : outcome.1 = result
  pauses : outcome.2.journal.pauses = board.journal.pauses ++
    List.replicate waits ({ board.memory.setup with control }, limit.interval)
  memory : outcome.2.memory =
    if settings.Answers waits then (board.memory.write .masterControl control).settle
    else board.memory.write .masterControl control
  requests : outcome.2.memory.read .masterControl = control
  status : outcome.2.memory.read .masterStatus &&& ~~~3#32 =
    board.memory.read .masterStatus &&& ~~~3#32
  others : ∀ address, address ≠ Register.masterControl.address →
    address ≠ Register.masterStatus.address →
    outcome.2.memory.get address = board.memory.get address

theorem Transits.of_quietWait {board begun : Board Hardware} {limit : PollLimit} {control : Word}
    {waits : Nat} {result other : Except Error Unit}
    {outcome : Except Error Unit × Board Hardware}
    (memory : begun.memory = board.memory.write .masterControl control)
    (pauses : begun.journal.pauses = board.journal.pauses)
    (wait : begun.QuietWait settings limit waits result outcome) (same : result = other) :
    board.Transits settings limit control waits other outcome := by
  obtain ⟨rest, words⟩ := wait.settled
  have setup : begun.memory.setup = { board.memory.setup with control } := by
    rw [memory]
    exact Memory.setup_modify_masterControl board.memory fun _ => control
  have status : begun.memory.read .masterStatus = board.memory.read .masterStatus := by
    rw [memory]
    exact Memory.read_write_ne (by decide) ..
  refine ⟨wait.result.trans same, ?_, memory ▸ wait.memory, ?_, ?_,
    fun address control status => ?_⟩
  · rw [wait.pauses, pauses, setup]
  · exact congrArg Setup.control (words.trans setup)
  · rw [rest.status, status]
  · rw [rest.others address control status, memory]
    exact Memory.get_set_ne (Ne.symm control) ..

section Requests

variable (board : Board Hardware)

theorem memory_requestInitialization : board.requestInitialization.memory =
    board.memory.write .masterControl
      ((board.memory.read .masterControl &&& ~~~2#32) ||| 1#32) := by
  refine (Memory.modify_modify ..).trans ?_
  rw [Memory.modify, Function.comp_apply, MasterControl.withdraw_sleep,
    MasterControl.request_initialization]

theorem memory_requestNormal : board.requestNormal.memory =
    board.memory.write .masterControl (board.memory.read .masterControl &&& ~~~1#32) := by
  rw [← MasterControl.withdraw_initialization]
  rfl

theorem mode_requestNormal : board.requestNormal.mode = board.mode := by
  rw [mode, memory_requestNormal, Memory.mode, Memory.read_write_ne (by decide)]
  rfl

end Requests

/-- Entering initialization fails only where the cell does not answer.  Entering normal mode fails
also where it does answer, but with the sleep that was requested before. -/
theorem transitions_on_quiet_cell {board : Board Hardware} {settings : HardwareSettings}
    (start : board.surroundings = .fresh settings) (unscripted : settings.script = [])
    (limit : PollLimit) :
    let control := board.memory.read .masterControl
    let acknowledged :=
      MasterStatus.initializationAcknowledge.test (board.memory.read .masterStatus) = true
    let awake := MasterControl.sleepRequest.test control = false
    let answered := settings.Answers limit.attempts.toNat
    board.Transits settings limit ((control &&& ~~~2#32) ||| 1#32)
      (if acknowledged then 0 else if answered then settings.latency + 1
        else limit.attempts.toNat)
      (if acknowledged ∨ answered then .ok ()
        else .error (.timeout .initialization board.mode))
      (board.enterInitialization Hardware.environment limit) ∧
    board.Transits settings limit (control &&& ~~~1#32)
      (if board.mode = .normal then 0 else if answered ∧ awake then settings.latency + 1
        else limit.attempts.toNat)
      (if board.mode = .normal ∨ (answered ∧ awake) then .ok ()
        else .error (.timeout .normal (if answered then .sleep else board.mode)))
      (board.enterNormal Hardware.environment limit) := by
  intro control acknowledged awake answered
  constructor
  · have poised := poised_requestInitialization start unscripted
    have requested :
        Mode.ofControl (board.requestInitialization.memory.read .masterControl) =
          .initialization := by
      rw [read_masterControl_requestInitialization]
      exact Setup.ofControl_requesting _
    have shown : board.mode = .initialization ↔ acknowledged :=
      Mode.ofStatus_eq_initialization_iff
    have wait := poised.quietWait_await limit .initialization
    simp only [mode_requestInitialization, requested, shown, and_true] at wait
    refine .of_quietWait (memory_requestInitialization board)
      (pauses_requestInitialization board) wait (ite_congr rfl (fun _ => rfl) fun failed => ?_)
    rw [if_neg (not_or.mp failed).2]
  · have poised : board.requestNormal.Poised settings := .of_start start unscripted
    have requested : Mode.ofControl (board.requestNormal.memory.read .masterControl) =
        if MasterControl.sleepRequest.test control then .sleep else .normal :=
      congrArg Flags.requested (board.memory.flags_put_initialization false)
    have met : Mode.ofControl (board.requestNormal.memory.read .masterControl) = .normal ↔
        awake := by
      rw [requested]
      cases asleep : MasterControl.sleepRequest.test control <;> simp [awake, asleep]
    have wait := poised.quietWait_await limit .normal
    simp only [mode_requestNormal, met] at wait
    refine .of_quietWait (memory_requestNormal board) (pauses_requestNormal board) wait
      (ite_congr rfl (fun _ => rfl) fun failed => ?_)
    by_cases answers : answered
    · have asleep : MasterControl.sleepRequest.test control = true := by
        simpa [answers, awake] using (not_or.mp failed).2
      rw [requested, if_pos asleep]
    · rw [if_neg answers, if_neg answers]

/-- A cell that sleeps by request enters initialization, but does not come to the bus: it answers
that it sleeps, as it has been asked to. -/
theorem transitions_at_power_on :
    let board := atPowerOn ⟨true, 2, []⟩
    board.surroundings = .fresh ⟨true, 2, []⟩ ∧
      board.Transits ⟨true, 2, []⟩ ⟨3, 10⟩ 0x00010001#32 3 (.ok ())
        (board.enterInitialization Hardware.environment ⟨3, 10⟩) ∧
      board.Transits ⟨true, 2, []⟩ ⟨3, 10⟩ 0x00010002#32 3 (.error (.timeout .normal .sleep))
        (board.enterNormal Hardware.environment ⟨3, 10⟩) := by
  intro board
  have start : board.surroundings = .fresh ⟨true, 2, []⟩ := rfl
  have control : board.memory.read .masterControl = 0x00010002#32 :=
    congrArg Setup.control (setup_atPowerOn _)
  have asleep : board.mode = .sleep := by decide
  have unacknowledged :
      MasterStatus.initializationAcknowledge.test (board.memory.read .masterStatus) = false := by
    decide
  have transitions := transitions_on_quiet_cell start rfl ⟨3, 10⟩
  rw [control, asleep, unacknowledged] at transitions
  exact ⟨start, transitions⟩

end Board

end CanController

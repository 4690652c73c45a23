import CanController.Proofs.Board.QuietCell
import CanController.Proofs.Register.Agreement
import CanController.Session.Step

/-!
What mode control depends on.  On a quiet cell it looks at the clock, at the hardware and at the
words of four registers, and at nothing else.  Boards that are alike in these stay alike under
every operation on mode and configuration, with the same results and the same events.  Handlers,
the interrupt controller and the other words of the block have no say.
-/

namespace CanController

namespace Board

/-- Quiet boards that mode control cannot tell apart, if the places are those that it looks at. -/
structure Alike (places : Address → Prop) (one other : Board Hardware) : Prop where
  memory : Memory.AgreeOn places one.memory other.memory
  clock : one.clock = other.clock
  surroundings : one.surroundings = other.surroundings
  journal : one.journal = other.journal
  quiet : one.surroundings.Quiet

/-- Equal results on alike boards. -/
def AlikeOutcomes (places : Address → Prop)
    (one other : Except Error Unit × Board Hardware) : Prop :=
  one.1 = other.1 ∧ Alike places one.2 other.2

theorem AlikeOutcomes.failed_or_succeeded {places : Address → Prop}
    {one other : Except Error Unit × Board Hardware} (outcomes : AlikeOutcomes places one other) :
    (∃ error board otherBoard, one = (.error error, board) ∧ other = (.error error, otherBoard) ∧
        Alike places board otherBoard) ∨
      ∃ board otherBoard, one = (.ok (), board) ∧ other = (.ok (), otherBoard) ∧
        Alike places board otherBoard := by
  obtain ⟨result, board⟩ := one
  obtain ⟨otherResult, otherBoard⟩ := other
  obtain ⟨same, alike⟩ := outcomes
  obtain rfl : result = otherResult := same
  cases result with
  | error error => exact .inl ⟨error, board, otherBoard, rfl, rfl, alike⟩
  | ok done => exact .inr ⟨board, otherBoard, rfl, rfl, alike⟩

namespace Alike

variable {places : Address → Prop} {one other : Board Hardware}

theorem record (alike : Alike places one other) (event : Event) :
    Alike places (one.record event) (other.record event) :=
  ⟨alike.memory, alike.clock, alike.surroundings, congrArg (Array.push · event) alike.journal,
    alike.quiet⟩

theorem withMemory (alike : Alike places one other) {otherPlaces : Address → Prop}
    {memory otherMemory : Memory} (agree : Memory.AgreeOn otherPlaces memory otherMemory) :
    Alike otherPlaces { one with memory } { other with memory := otherMemory } :=
  ⟨agree, alike.clock, alike.surroundings, alike.journal, alike.quiet⟩

theorem otherQuiet (alike : Alike places one other) : other.surroundings.Quiet :=
  alike.surroundings ▸ alike.quiet

section Steering

variable (alike : Alike places one other)
  (sees : ∀ register ∈ Register.steering, places register.address)
include alike sees

theorem mode : one.mode = other.mode :=
  alike.memory.mode sees

theorem log (record : LogRecord) : Alike places (one.log record) (other.log record) := by
  rw [Board.log, Board.log, alike.memory.read (sees .masterControl (by decide))]
  exact alike.record _

theorem modify {register : Register} (steers : register ∈ Register.steering)
    (change : Word → Word) :
    Alike places (one.modify register change) (other.modify register change) := by
  rw [Board.modify, Board.modify, alike.memory.read (sees register steers)]
  exact (alike.withMemory (alike.memory.write register _)).record _

theorem configure (setup : Setup) :
    Alike places (one.configure setup) (other.configure setup) :=
  ((alike.modify sees (by decide) _).modify sees (by decide) _).modify sees (by decide) _

theorem pause (microseconds : UInt32) : Alike places
    (one.pause Hardware.environment microseconds)
    (other.pause Hardware.environment microseconds) := by
  rw [pause_quiet alike.quiet, pause_quiet alike.otherQuiet, ← alike.surroundings,
    ← alike.memory.read (sees .masterControl (by decide)), ← alike.memory.setup sees]
  refine ⟨?_, alike.clock, rfl, (alike.record _).journal, alike.quiet⟩
  split
  next => exact alike.memory.settle sees
  next => exact alike.memory

theorem awaitMode (target : Mode) (interval : UInt32) (attempts : Nat) : AlikeOutcomes places
    (awaitMode Hardware.environment target interval attempts one)
    (awaitMode Hardware.environment target interval attempts other) := by
  induction attempts generalizing one other with
  | zero =>
      rw [Board.awaitMode, Board.awaitMode, alike.mode sees]
      split
      · exact ⟨rfl, alike.log sees _⟩
      · exact ⟨rfl, alike⟩
  | succ attempts inductionHypothesis =>
      rw [Board.awaitMode, Board.awaitMode, alike.mode sees]
      split
      · exact ⟨rfl, alike.log sees _⟩
      · exact inductionHypothesis (alike.pause sees interval)

theorem wake : Alike places one.wake other.wake :=
  (alike.modify sees (by decide) _).log sees _

theorem requestSleep : Alike places one.requestSleep other.requestSleep :=
  (alike.modify sees (by decide) _).log sees _

theorem requestInitialization :
    Alike places one.requestInitialization other.requestInitialization :=
  ((alike.wake sees).modify sees (by decide) _).log sees _

theorem requestNormal : Alike places one.requestNormal other.requestNormal :=
  (alike.modify sees (by decide) _).log sees _

theorem enterInitialization (limit : PollLimit) : AlikeOutcomes places
    (one.enterInitialization Hardware.environment limit)
    (other.enterInitialization Hardware.environment limit) :=
  (alike.requestInitialization sees).awaitMode sees ..

theorem enterNormal (limit : PollLimit) : AlikeOutcomes places
    (one.enterNormal Hardware.environment limit)
    (other.enterNormal Hardware.environment limit) :=
  (alike.requestNormal sees).awaitMode sees ..

theorem apply (limit : PollLimit) (setup : Setup) : AlikeOutcomes places
    (one.apply Hardware.environment limit setup)
    (other.apply Hardware.environment limit setup) := by
  rw [Board.apply, Board.apply]
  rcases (alike.enterInitialization sees limit).failed_or_succeeded with
    ⟨error, shut, otherShut, entry, otherEntry, shutAlike⟩ |
    ⟨opened, otherOpened, entry, otherEntry, openedAlike⟩
  · rw [entry, otherEntry]
    exact ⟨rfl, shutAlike⟩
  · rw [entry, otherEntry]
    rcases ((openedAlike.configure sees setup).enterNormal sees limit).failed_or_succeeded with
      ⟨error, stuck, otherStuck, exit, otherExit, stuckAlike⟩ |
      ⟨returned, otherReturned, exit, otherExit, returnedAlike⟩
    · simp only [exit, otherExit]
      exact ⟨rfl, stuckAlike⟩
    · simp only [exit, otherExit, returnedAlike.memory.setup sees]
      exact ⟨rfl, returnedAlike.log sees _⟩

theorem reconfigure (config : Config) : AlikeOutcomes places
    (one.reconfigure Hardware.environment config)
    (other.reconfigure Hardware.environment config) := by
  rw [Board.reconfigure, Board.reconfigure, ← alike.clock]
  split
  · exact ⟨rfl, alike⟩
  · exact alike.apply sees ..

theorem resetCell : Alike places one.resetCell other.resetCell :=
  (((alike.record _).record _).withMemory alike.memory.reset).log sees _

theorem start (config : Config) : AlikeOutcomes places
    (one.start Hardware.environment config) (other.start Hardware.environment config) :=
  (alike.resetCell sees).reconfigure sees config

end Steering

/-- After a reset it does not matter how little the memories agreed on before. -/
theorem erased (alike : Alike places one other) :
    Alike Register.IsReset one.resetCell other.resetCell :=
  (((alike.record _).record _).withMemory (Memory.agreeOn_reset _ _)).log
    (fun _ => Register.isReset_of_steering) _

theorem startAnew (alike : Alike places one other) (config : Config) :
    AlikeOutcomes Register.IsReset (one.start Hardware.environment config)
      (other.start Hardware.environment config) :=
  alike.erased.reconfigure (fun _ => Register.isReset_of_steering) config

end Alike

end Board

/-- An operation on mode and configuration cannot tell alike boards apart. -/
theorem ModeOp.alike_run (op : ModeOp) (config : Config) {places : Address → Prop}
    {one other : Board Hardware} (alike : Board.Alike places one other)
    (sees : ∀ register ∈ Register.steering, places register.address) :
    (op.run config one).1 = (op.run config other).1 ∧
      (op.run config one).2.1 = (op.run config other).2.1 ∧
      Board.Alike places (op.run config one).2.2 (op.run config other).2.2 := by
  have waited (config : Config) {first second : Except Error Unit × Board Hardware}
      (outcomes : Board.AlikeOutcomes places first second) :
      Reply.ofOutcome first.1 = Reply.ofOutcome second.1 ∧ config = config ∧
        Board.Alike places first.2 second.2 :=
    ⟨congrArg Reply.ofOutcome outcomes.1, rfl, outcomes.2⟩
  cases op with
  | resetCell => exact ⟨rfl, rfl, alike.resetCell sees⟩
  | start rate options modes => exact waited _ (alike.start sees _)
  | wake => exact ⟨rfl, rfl, alike.wake sees⟩
  | requestInitialization => exact ⟨rfl, rfl, alike.requestInitialization sees⟩
  | requestNormal => exact ⟨rfl, rfl, alike.requestNormal sees⟩
  | requestSleep => exact ⟨rfl, rfl, alike.requestSleep sees⟩
  | enterInitialization => exact waited _ (alike.enterInitialization sees _)
  | enterNormal => exact waited _ (alike.enterNormal sees _)
  | reconfigure => exact waited _ (alike.reconfigure sees _)
  | apply setup => exact waited _ (alike.apply sees _ setup)
  | update change => exact ⟨rfl, rfl, alike⟩
  | mode => exact ⟨congrArg Reply.mode (alike.mode sees), rfl, alike⟩
  | poll target => exact ⟨by rw [run, run, alike.mode sees], rfl, alike⟩

end CanController

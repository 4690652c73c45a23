import CanController.Control.Reconfigure
import CanController.Proofs.Board.Pauses

/-!
What the driver writes.  A write is an event of its own, so it shows even where it leaves a word as
it was, and cannot be mistaken for one of a handler or of the cell.  Pauses add none, whatever goes
on in them.
-/

namespace CanController

/-- The register and the word, if the event is a write of the driver. -/
def Event.write? : Event → Option (Register × Word)
  | .written register word => some (register, word)
  | _ => none

namespace Journal

/-- The driver's writes, in their order. -/
def writes (journal : Journal) : List (Register × Word) :=
  journal.toList.filterMap Event.write?

theorem writes_push (journal : Journal) (event : Event) :
    writes (journal.push event) = journal.writes ++ event.write?.toList := by
  rw [writes, Array.toList_push, List.filterMap_append, writes]
  cases event <;> rfl

end Journal

namespace Board

variable {Surroundings : Type}

section Elementary

variable (board : Board Surroundings)

theorem writes_record {event : Event} (unwritten : event.write? = none) :
    (board.record event).journal.writes = board.journal.writes := by
  rw [record, Journal.writes_push, unwritten, Option.toList_none, List.append_nil]

theorem writes_log (record : LogRecord) :
    (board.log record).journal.writes = board.journal.writes :=
  board.writes_record rfl

theorem writes_modify (register : Register) (change : Word → Word) :
    (board.modify register change).journal.writes =
      board.journal.writes ++ [(register, change (board.memory.read register))] :=
  Journal.writes_push ..

/-- None of the three writes changes what the others go by. -/
theorem writes_configure (setup : Setup) :
    (board.configure setup).journal.writes = board.journal.writes ++
      [(.masterControl,
          Word.merge MasterControl.configMask setup.control (board.memory.read .masterControl)),
        (.interruptEnable, Word.merge InterruptEnable.configMask setup.interrupts
          (board.memory.read .interruptEnable)),
        (.timingControl,
          Word.merge TimingControl.configMask setup.timing (board.memory.read .timingControl))] := by
  have interrupts (change : Word → Word) :
      (board.modify .masterControl change).memory.read .interruptEnable =
        board.memory.read .interruptEnable :=
    Memory.read_modify_ne (by decide) ..
  have timing (change other : Word → Word) :
      ((board.modify .masterControl change).modify .interruptEnable other).memory.read
        .timingControl = board.memory.read .timingControl :=
    (Memory.read_modify_ne (by decide) ..).trans (Memory.read_modify_ne (by decide) ..)
  rw [configure, writes_modify, writes_modify, writes_modify, interrupts, timing,
    List.append_assoc, List.append_assoc]
  rfl

theorem steady_writes : Steady fun board : Board Surroundings => board.journal.writes :=
  ⟨fun board _ _ => board.writes_record rfl, fun _ _ _ => rfl⟩

theorem writes_pause (environment : Environment Surroundings) (microseconds : UInt32) :
    (board.pause environment microseconds).journal.writes = board.journal.writes :=
  (steady_writes.undergoAll ..).trans (board.writes_record rfl)

theorem writes_paused (environment : Environment Surroundings) (microseconds : UInt32)
    (count : Nat) :
    (board.paused environment microseconds count).journal.writes = board.journal.writes := by
  induction count with
  | zero => rfl
  | succ count inductionHypothesis => rw [paused_succ, writes_pause, inductionHypothesis]

end Elementary

end Board

end CanController

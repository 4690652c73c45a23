import CanController.Proofs.Control.Attachment
import CanController.Proofs.Control.Dependence
import CanController.Proofs.Session.Silence

/-!
What the interrupts depend on.  Who runs, and which lines are masked, is decided by the handler
table and the interrupt controller alone.  Boards that have these in common go on having them in
common, with the same calls and the same changes of lines, slots and gate, whatever the registers
hold.  And mode control on a quiet cell adds nothing to these.
-/

namespace CanController

/-- The event is about the lines, the handler table or a handler that runs. -/
def Event.isInterrupt : Event → Bool
  | .line .. | .slot .. | .gate _ | .dispatched .. | .invoked _ => true
  | .written .. | .clock _ | .logged .. | .paused .. => false

namespace Journal

def interrupts (journal : Journal) : List Event :=
  journal.toList.filter Event.isInterrupt

theorem interrupts_push (journal : Journal) (event : Event) :
    interrupts (journal.push event) = journal.interrupts ++ [event].filter Event.isInterrupt := by
  rw [interrupts, Array.toList_push, List.filter_append, interrupts]

end Journal

namespace Board

variable {Surroundings : Type}

/-- Boards that the interrupts cannot tell apart. -/
structure Attuned (one other : Board Surroundings) : Prop where
  table : one.table = other.table
  controller : one.controller = other.controller
  journal : one.journal.interrupts = other.journal.interrupts

namespace Attuned

variable {one other : Board Surroundings}

theorem record (attuned : Attuned one other) (event : Event) :
    Attuned (one.record event) (other.record event) := by
  refine ⟨attuned.table, attuned.controller, ?_⟩
  rw [Board.record, Board.record, Journal.interrupts_push, Journal.interrupts_push,
    attuned.journal]

/-- The control word shown in a log record does not matter. -/
theorem log (attuned : Attuned one other) (record : LogRecord) :
    Attuned (one.log record) (other.log record) := by
  refine ⟨attuned.table, attuned.controller, ?_⟩
  rw [Board.log, Board.log, Board.record, Board.record, Journal.interrupts_push,
    Journal.interrupts_push, attuned.journal]
  rfl

theorem withController (attuned : Attuned one other) (controller : Controller) :
    Attuned { one with controller } { other with controller } :=
  ⟨attuned.table, rfl, attuned.journal⟩

theorem withTable (attuned : Attuned one other) (table : HandlerTable) :
    Attuned { one with table } { other with table } :=
  ⟨rfl, attuned.controller, attuned.journal⟩

theorem perform (attuned : Attuned one other) (handler : Handler) :
    Attuned (one.perform handler) (other.perform handler) :=
  ⟨attuned.table, attuned.controller, attuned.journal⟩

theorem runAll (attuned : Attuned one other) (calls : List (Source × Handler)) :
    Attuned (one.runAll calls) (other.runAll calls) := by
  induction calls generalizing one other with
  | nil => exact attuned
  | cons call calls inductionHypothesis =>
      exact inductionHypothesis ((attuned.record _).perform call.2)

theorem store (attuned : Attuned one other) (source : Source) (content : Option Handler) :
    Attuned (one.store source content) (other.store source content) := by
  rw [Board.store, Board.store, attuned.table]
  exact (attuned.withTable _).record _

theorem setGate (attuned : Attuned one other) (isOpen : Bool) :
    Attuned (one.setGate isOpen) (other.setGate isOpen) := by
  rw [Board.setGate, Board.setGate, attuned.table]
  exact (attuned.withTable _).record _

theorem dispatch (attuned : Attuned one other) (source : Source) :
    Attuned (one.dispatch source) (other.dispatch source) := by
  rw [Board.dispatch, Board.dispatch, attuned.table]
  exact attuned.runAll _

theorem invoke (attuned : Attuned one other) (handler : Handler) :
    Attuned (one.invoke handler) (other.invoke handler) := by
  rw [Board.invoke, Board.invoke, foldl_dispatch, foldl_dispatch]
  have performed := (attuned.record (.invoked handler)).perform handler
  rw [performed.table]
  exact performed.runAll _

theorem raise (attuned : Attuned one other) (source : Source) :
    Attuned (one.raise source) (other.raise source) := by
  rw [Board.raise, Board.raise, attuned.controller]
  split
  · exact attuned.dispatch source
  · exact attuned.withController _

theorem callsOf (attuned : Attuned one other) (due : Source → Bool) (sources : List Source) :
    one.callsOf due sources = other.callsOf due sources := by
  rw [Board.callsOf, Board.callsOf, attuned.table]

theorem mask (attuned : Attuned one other) (line : Line) :
    Attuned (one.mask line) (other.mask line) := by
  rw [mask_eq, mask_eq, lastCalls, lastCalls, attuned.callsOf, attuned.controller]
  exact ((attuned.record _).runAll _).withController _

theorem unmask (attuned : Attuned one other) (line : Line) :
    Attuned (one.unmask line) (other.unmask line) := by
  rw [unmask_eq, unmask_eq, firstCalls, firstCalls, attuned.callsOf, attuned.controller]
  exact ((attuned.record _).runAll _).withController _

theorem attach (attuned : Attuned one other) (source : Source) (handler : Handler) :
    Attuned (one.attach source handler) (other.attach source handler) := by
  rw [Board.attach, Board.attach, attuned.controller]
  exact (((attuned.mask _).store source (some handler)).unmask _).log _

theorem detach (attuned : Attuned one other) (source : Source) :
    Attuned (one.detach source) (other.detach source) := by
  rw [Board.detach, Board.detach, attuned.controller]
  exact ((attuned.mask _).store source none).log _

end Attuned

end Board

theorem HandlerOp.attuned_run (op : HandlerOp) {one other : Board Hardware}
    (attuned : one.Attuned other) :
    (op.run one).1 = (op.run other).1 ∧ (op.run one).2.Attuned (op.run other).2 := by
  cases op with
  | attach source handler => exact ⟨rfl, attuned.attach source handler⟩
  | detach source => exact ⟨rfl, attuned.detach source⟩
  | setGate isOpen => exact ⟨rfl, attuned.setGate isOpen⟩
  | isAttached => exact ⟨by rw [run, run, attuned.table], attuned⟩
  | invoke source =>
      rw [run, run, attuned.table]
      split
      · exact ⟨rfl, attuned.invoke _⟩
      · exact ⟨rfl, attuned⟩

theorem WorldOp.attuned_run {op : WorldOp} (interrupts : (Op.world op).isInterruptOp = true)
    {one other : Board Hardware} (attuned : one.Attuned other) :
    (op.run one).1 = (op.run other).1 ∧ (op.run one).2.Attuned (op.run other).2 := by
  cases op with
  | dispatch source => exact ⟨rfl, attuned.dispatch source⟩
  | raise source => exact ⟨rfl, attuned.raise source⟩
  | arm source =>
      rw [run, run, Board.arm, Board.arm, attuned.controller]
      exact ⟨rfl, attuned.withController _⟩
  | isOpen => exact ⟨by rw [run, run, attuned.table], attuned⟩
  | _ => contradiction

/-- Mode control on a quiet cell runs no handler and touches no line, slot or gate.  With an empty
handler table that would be clear, and the table makes no difference to it. -/
theorem ModeOp.interrupts_run (op : ModeOp) (config : Config) {board : Board Hardware}
    (quiet : board.surroundings.Quiet) :
    (op.run config board).2.2.journal.interrupts = board.journal.interrupts := by
  have alike : Board.Alike (fun _ => True) board { board with table := .empty } :=
    ⟨Memory.agreeOn_refl _ _, rfl, rfl, rfl, quiet⟩
  have same := (op.alike_run config alike fun _ _ => trivial).2.2.journal
  obtain ⟨events, grown, incidental⟩ :=
    (op.undisturbed_run config { board with table := .empty }).journal
  have apart : events.filter Event.isInterrupt = [] := by
    refine List.filter_eq_nil_iff.mpr fun event listed => ?_
    have harmless := incidental event listed
    cases event with
    | dispatched source handler =>
        have active : HandlerTable.empty.active? source = some handler := harmless
        simp [HandlerTable.active?, HandlerTable.empty] at active
    | line | slot | gate | invoked => exact harmless.elim
    | written | clock | logged | paused => simp [Event.isInterrupt]
  rw [Journal.interrupts, same, grown, List.filter_append, apart, List.append_nil]
  rfl

end CanController

import CanController.Control.Reconfigure
import CanController.Proofs.Board.Account
import CanController.Board.Surroundings

/-!
Mode control, configuration and waits do not disturb the interrupts: the handler table and the
interrupt controller stay as they are, whatever the surroundings do during the pauses.  Handlers may
run meanwhile, but only those that the table lets run.
-/

namespace CanController

/-- An event that leaves the handler table alone and calls no handler but an active one. -/
def Event.Incidental (table : HandlerTable) : Event → Prop
  | .written _ _ | .clock _ | .logged _ _ | .paused _ _ => True
  | .dispatched source handler => table.active? source = some handler
  | _ => False

theorem Event.Incidental.harmless {table : HandlerTable} {event : Event}
    (incidental : event.Incidental table) :
    (table.heed event = table ∧ table.Lets event) ∧ event.slotChange? = none ∧
      event.gateChange? = none := by
  cases event with
  | line | slot | gate | invoked => exact incidental.elim
  | written | clock | dispatched | logged | paused => exact ⟨⟨rfl, incidental⟩, rfl, rfl⟩

namespace Board

variable {Surroundings : Type}

/-- How the interrupts have been left as they were since `origin`. -/
structure Undisturbed (origin board : Board Surroundings) : Prop where
  table : board.table = origin.table
  controller : board.controller = origin.controller
  journal : ∃ events, board.journal.toList = origin.journal.toList ++ events ∧
    ∀ event ∈ events, event.Incidental origin.table

namespace Undisturbed

theorem refl (board : Board Surroundings) : Undisturbed board board :=
  ⟨rfl, rfl, [], by simp, by simp⟩

variable {origin board : Board Surroundings}

/-- The account has no change of the table in it, and no handler run by hand. -/
theorem account (undisturbed : origin.Undisturbed board) :
    ∃ events, origin.Account board events ∧ events.filterMap Event.slotChange? = [] ∧
      events.filterMap Event.gateChange? = [] ∧ ∀ handler, .invoked handler ∉ events := by
  obtain ⟨table, -, events, grown, incidental⟩ := undisturbed
  obtain ⟨same, allowed⟩ := HandlerTable.replay_and_allows fun event listed =>
    (incidental event listed).harmless.1
  refine ⟨events, ⟨grown, table.trans same.symm, allowed⟩, ?_, ?_, ?_⟩
  · exact List.filterMap_eq_nil_iff.mpr fun event listed => (incidental event listed).harmless.2.1
  · exact List.filterMap_eq_nil_iff.mpr fun event listed => (incidental event listed).harmless.2.2
  · exact fun handler listed => incidental _ listed

theorem record (undisturbed : origin.Undisturbed board) {event : Event}
    (incidental : event.Incidental origin.table) : origin.Undisturbed (board.record event) := by
  obtain ⟨table, controller, events, grown, before⟩ := undisturbed
  refine ⟨table, controller, events ++ [event], ?_, ?_⟩
  · rw [Board.record, Array.toList_push, grown, List.append_assoc]
  · intro other listed
    rcases List.mem_append.mp listed with early | last
    · exact before other early
    · rw [List.mem_singleton.mp last]
      exact incidental

theorem log (undisturbed : origin.Undisturbed board) (record : LogRecord) :
    origin.Undisturbed (board.log record) :=
  undisturbed.record trivial

theorem withMemory (undisturbed : origin.Undisturbed board) (memory : Memory) :
    origin.Undisturbed { board with memory } :=
  ⟨undisturbed.table, undisturbed.controller, undisturbed.journal⟩

theorem withSurroundings (undisturbed : origin.Undisturbed board) (surroundings : Surroundings) :
    origin.Undisturbed { board with surroundings } :=
  ⟨undisturbed.table, undisturbed.controller, undisturbed.journal⟩

theorem runAll (undisturbed : origin.Undisturbed board) {calls : List (Source × Handler)}
    (active : ∀ call ∈ calls, origin.table.active? call.1 = some call.2) :
    origin.Undisturbed (board.runAll calls) := by
  induction calls generalizing board with
  | nil => exact undisturbed
  | cons call calls inductionHypothesis =>
      obtain ⟨head, tail⟩ := List.forall_mem_cons.mp active
      have recorded : origin.Undisturbed (board.record (.dispatched call.1 call.2)) :=
        undisturbed.record head
      exact inductionHypothesis (recorded.withMemory _) tail

theorem dispatch (undisturbed : origin.Undisturbed board) (source : Source) :
    origin.Undisturbed (board.dispatch source) := by
  refine undisturbed.runAll fun call called => ?_
  rw [undisturbed.table] at called
  exact HandlerTable.active?_of_mem_callsWithin called

theorem undergoAll (undisturbed : origin.Undisturbed board) (effects : List Effect) :
    origin.Undisturbed (effects.foldl undergo board) := by
  induction effects generalizing board with
  | nil => exact undisturbed
  | cons effect effects inductionHypothesis =>
      cases effect with
      | write address word => exact inductionHypothesis (undisturbed.withMemory _)
      | dispatch source => exact inductionHypothesis (undisturbed.dispatch source)

section Waits

variable (environment : Environment Surroundings)

theorem pause (undisturbed : origin.Undisturbed board) (microseconds : UInt32) :
    origin.Undisturbed (board.pause environment microseconds) := by
  have begun : origin.Undisturbed (board.record (.paused board.memory.setup microseconds)) :=
    undisturbed.record trivial
  exact (begun.withSurroundings _).undergoAll _

theorem awaitMode (undisturbed : origin.Undisturbed board) (target : Mode) (interval : UInt32)
    (attempts : Nat) :
    origin.Undisturbed (awaitMode environment target interval attempts board).2 := by
  induction attempts generalizing board with
  | zero =>
      rw [Board.awaitMode]
      split
      · exact undisturbed.log _
      · exact undisturbed
  | succ attempts inductionHypothesis =>
      rw [Board.awaitMode]
      split
      · exact undisturbed.log _
      · exact inductionHypothesis (undisturbed.pause environment interval)

theorem await (undisturbed : origin.Undisturbed board) (limit : PollLimit) (target : Mode) :
    origin.Undisturbed (board.await environment limit target).2 :=
  undisturbed.awaitMode environment target limit.interval _

end Waits

theorem modify (undisturbed : origin.Undisturbed board) (register : Register)
    (change : Word → Word) : origin.Undisturbed (board.modify register change) :=
  (undisturbed.withMemory _).record trivial

theorem configure (undisturbed : origin.Undisturbed board) (setup : Setup) :
    origin.Undisturbed (board.configure setup) :=
  ((undisturbed.modify _ _).modify _ _).modify _ _

theorem wake (undisturbed : origin.Undisturbed board) : origin.Undisturbed board.wake :=
  (undisturbed.modify _ _).log _

theorem requestSleep (undisturbed : origin.Undisturbed board) :
    origin.Undisturbed board.requestSleep :=
  (undisturbed.modify _ _).log _

theorem requestInitialization (undisturbed : origin.Undisturbed board) :
    origin.Undisturbed board.requestInitialization :=
  (undisturbed.wake.modify _ _).log _

theorem requestNormal (undisturbed : origin.Undisturbed board) :
    origin.Undisturbed board.requestNormal :=
  (undisturbed.modify _ _).log _

theorem resetCell (undisturbed : origin.Undisturbed board) :
    origin.Undisturbed board.resetCell := by
  have clocked := undisturbed.record (show (Event.clock .enable).Incidental _ from trivial)
  have pulsed := clocked.record (show (Event.clock .reset).Incidental _ from trivial)
  exact (pulsed.withMemory _).log _

section Configuration

variable (environment : Environment Surroundings)

theorem apply (undisturbed : origin.Undisturbed board) (limit : PollLimit) (setup : Setup) :
    origin.Undisturbed (board.apply environment limit setup).2 := by
  have entered : origin.Undisturbed (board.enterInitialization environment limit).2 :=
    undisturbed.requestInitialization.await environment limit _
  rw [Board.apply]
  split
  next error inside shut =>
    rw [shut] at entered
    exact entered
  next inside opened =>
    rw [opened] at entered
    have left : origin.Undisturbed ((inside.configure setup).enterNormal environment limit).2 :=
      (entered.configure setup).requestNormal.await environment limit _
    split
    next error outside stuck =>
      rw [stuck] at left
      exact left
    next outside returned =>
      rw [returned] at left
      exact left.log _

theorem reconfigure (undisturbed : origin.Undisturbed board) (config : Config) :
    origin.Undisturbed (board.reconfigure environment config).2 := by
  rw [Board.reconfigure]
  split
  · exact undisturbed
  · exact undisturbed.apply environment _ _

theorem start (undisturbed : origin.Undisturbed board) (config : Config) :
    origin.Undisturbed (board.start environment config).2 :=
  undisturbed.resetCell.reconfigure environment config

end Configuration

end Undisturbed

end Board

end CanController

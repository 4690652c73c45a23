import CanController.Board.Basic
import CanController.Proofs.Interrupt.Replay

/-!
An account of what has happened to a board: the events by which its journal has grown.  They replay
to its handler table, and each of them was allowed at its moment.  Accounts of successive operations
are put one after the other, so an operation is accounted for by its parts.
-/

namespace CanController.Board

variable {Surroundings : Type}

structure Account (start board : Board Surroundings) (events : List Event) : Prop where
  journal : board.journal.toList = start.journal.toList ++ events
  table : board.table = start.table.replay events
  allowed : start.table.Allows events

theorem Account.refl (board : Board Surroundings) : board.Account board [] :=
  ⟨(List.append_nil _).symm, rfl, HandlerTable.allows_nil⟩

theorem Account.trans {first second third : Board Surroundings} {early late : List Event}
    (before : first.Account second early) (after : second.Account third late) :
    first.Account third (early ++ late) where
  journal := by rw [after.journal, before.journal, List.append_assoc]
  table := by rw [after.table, before.table, HandlerTable.replay_append]
  allowed := before.allowed.append (before.table ▸ after.allowed)

/-- Nothing that the account is about has changed since. -/
theorem Account.congr {start board other : Board Surroundings} {events : List Event}
    (account : start.Account board events) (journal : other.journal = board.journal)
    (table : other.table = board.table) : start.Account other events :=
  ⟨journal ▸ account.journal, table ▸ account.table, account.allowed⟩

section Elementary

variable (board : Board Surroundings)

theorem account_record {event : Event} (still : board.table.heed event = board.table)
    (lets : board.table.Lets event) : board.Account (board.record event) [event] :=
  ⟨Array.toList_push, still.symm, HandlerTable.allows_singleton lets⟩

theorem account_log (record : LogRecord) :
    board.Account (board.log record) [.logged record (board.memory.read .masterControl)] :=
  board.account_record rfl trivial

theorem account_store (source : Source) (content : Option Handler) :
    board.Account (board.store source content) [.slot source content] :=
  ⟨Array.toList_push, rfl, HandlerTable.allows_singleton trivial⟩

theorem account_setGate (isOpen : Bool) : board.Account (board.setGate isOpen) [.gate isOpen] :=
  ⟨Array.toList_push, rfl, HandlerTable.allows_singleton trivial⟩

theorem account_runAll {calls : List (Source × Handler)}
    (active : ∀ call ∈ calls, board.table.active? call.1 = some call.2) :
    board.Account (board.runAll calls) (Event.ofCalls calls) := by
  obtain ⟨same, allowed⟩ : board.table.replay (Event.ofCalls calls) = board.table ∧
      board.table.Allows (Event.ofCalls calls) := by
    apply HandlerTable.replay_and_allows
    intro event listed
    obtain ⟨call, member, rfl⟩ := List.mem_map.mp listed
    exact ⟨rfl, active call member⟩
  exact ⟨journal_runAll board calls, (table_runAll board calls).trans same.symm, allowed⟩

theorem runAll_append (first second : List (Source × Handler)) :
    board.runAll (first ++ second) = (board.runAll first).runAll second :=
  List.foldl_append

theorem foldl_dispatch (sources : List Source) :
    sources.foldl dispatch board = board.runAll (sources.flatMap board.table.calls) := by
  induction sources generalizing board with
  | nil => rfl
  | cons source sources inductionHypothesis =>
      rw [List.foldl_cons, inductionHypothesis, List.flatMap_cons, runAll_append, dispatch,
        table_runAll]

/-- Running a handler by hand counts for itself, and for what it dispatches. -/
theorem account_invoke {source : Source} {handler : Handler}
    (held : board.table.slots.get source = some handler) :
    board.Account (board.invoke handler) (.invoked handler ::
      Event.ofCalls (handler.dispatches.flatMap board.table.calls)) := by
  have lets : board.table.Lets (.invoked handler) := ⟨source, held⟩
  have started : board.Account ((board.record (.invoked handler)).perform handler)
      [.invoked handler] :=
    (board.account_record rfl lets).congr rfl rfl
  rw [invoke, foldl_dispatch]
  refine started.trans (account_runAll _ fun call called => ?_)
  obtain ⟨dispatched, -, within⟩ := List.mem_flatMap.mp called
  exact HandlerTable.active?_of_mem_callsWithin within

end Elementary

end CanController.Board

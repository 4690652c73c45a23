import CanController.Proofs.Control.Untouched
import CanController.Proofs.Session.Trace

/-!
The two sides of a session: operations on mode and configuration, and those on handlers together
with the interrupts on their way to them.  As long as no handler writes a register, the second side
keeps off what the first one works on.
-/

namespace CanController

namespace Op

/-- An operation on mode and configuration. -/
def isModeOp : Op → Bool
  | .mode _ => true
  | _ => false

/-- An operation on the handlers, or an interrupt. -/
def isInterruptOp : Op → Bool
  | .handler _ => true
  | .world (.dispatch _) | .world (.raise _) | .world (.arm _) | .world .isOpen => true
  | _ => false

/-- The operation brings in no handler that writes registers. -/
def IsSilent : Op → Prop
  | .handler (.attach _ attached) => attached.IsSilent
  | _ => True

end Op

theorem HandlerOp.untouched_run {op : HandlerOp} (quietly : (Op.handler op).IsSilent)
    {board : Board Hardware} (silent : board.table.IsSilent) :
    board.Untouched (op.run board).2 ∧ (op.run board).2.table.IsSilent := by
  have idle := Board.Untouched.refl board
  cases op with
  | attach source handler =>
      refine ⟨idle.attach silent source quietly, ?_⟩
      rw [run, Board.table_attach]
      refine silent.store source fun other same => ?_
      cases same
      exact quietly
  | detach source => exact ⟨idle.detach silent source, Board.isSilent_detach silent source⟩
  | setGate isOpen => exact ⟨idle.setGate isOpen, silent⟩
  | isAttached => exact ⟨idle, silent⟩
  | invoke source =>
      rw [run]
      split
      next handler held =>
        refine ⟨idle.invoke silent (silent source handler held), ?_⟩
        rw [Board.invoke, Board.foldl_dispatch, Board.table_runAll]
        exact silent
      next => exact ⟨idle, silent⟩

theorem WorldOp.untouched_run {op : WorldOp} (interrupts : (Op.world op).isInterruptOp = true)
    {board : Board Hardware} (silent : board.table.IsSilent) :
    board.Untouched (op.run board).2 ∧ (op.run board).2.table = board.table := by
  have idle := Board.Untouched.refl board
  cases op with
  | dispatch source => exact ⟨idle.dispatch silent source, Board.table_runAll ..⟩
  | raise source =>
      refine ⟨idle.raise silent source, ?_⟩
      rw [run, Board.raise]
      split
      · exact Board.table_runAll ..
      · rfl
  | arm source => exact ⟨idle.withController _, rfl⟩
  | isOpen => exact ⟨idle, rfl⟩
  | _ => contradiction

namespace Session

/-- Quiet hardware, and no handler that writes registers. -/
structure Calm (session : Session) : Prop where
  unscripted : session.board.surroundings.settings.script = []
  silent : session.board.table.IsSilent

theorem settings_of_untouched {session next : Session}
    (untouched : session.ready.board.Untouched next.board) :
    next.board.surroundings.settings = session.board.surroundings.settings := by
  rw [untouched.surroundings]
  rfl

/-- An operation on handlers and interrupts, while no handler writes registers. -/
theorem untouched_step {session : Session} (silent : session.board.table.IsSilent) {op : Op}
    (interrupts : op.isInterruptOp = true) (quietly : op.IsSilent) :
    session.ready.board.Untouched (session.step op).2.board ∧
      (session.step op).2.board.table.IsSilent ∧
      (session.step op).2.config? = session.config? := by
  obtain ⟨board, config?⟩ := session
  have outset : (Session.ready ⟨board, config?⟩).board.table.IsSilent := silent
  cases op with
  | handler op =>
      cases config? with
      | none => exact ⟨.refl _, silent, rfl⟩
      | some config =>
          obtain ⟨untouched, stillSilent⟩ := op.untouched_run quietly outset
          exact ⟨untouched, stillSilent, rfl⟩
  | world op =>
      obtain ⟨untouched, sameTable⟩ := op.untouched_run interrupts outset
      exact ⟨untouched, sameTable ▸ silent, rfl⟩
  | _ => contradiction

end Session

end CanController

import CanController.Control.Handlers
import CanController.Proofs.Board.Service

/-!
What attaching and detaching a handler do to the handler table and to the interrupt controller.
Both mask the line of the source, which lets its armed sources in while the old table is still in
force.  Attaching then unmasks the line, so that the sources waiting on it are served from the new
table; detaching leaves them waiting.  Releasing the cell is detaching every source, and closing the
gate.
-/

namespace CanController

namespace Board

variable {Surroundings : Type} (board : Board Surroundings) (source : Source) (handler : Handler)

/-- The board inside `attach`, when the line has been masked and the handler stored. -/
def exchanged : Board Surroundings :=
  (board.mask (board.controller.line source)).store source (some handler)

@[simp]
theorem table_exchanged : (board.exchanged source handler).table =
    board.table.store source (some handler) :=
  congrArg (HandlerTable.store · source (some handler)) (board.table_mask _)

theorem controller_exchanged : (board.exchanged source handler).controller =
    (board.controller.raised (board.controller.sources (board.controller.line source))).mask
      (board.controller.line source) :=
  board.controller_mask _

theorem sources_exchanged (line : Line) :
    (board.exchanged source handler).controller.sources line = board.controller.sources line := by
  rw [controller_exchanged]
  rfl

theorem attach_eq : board.attach source handler =
    ((board.exchanged source handler).unmask (board.controller.line source)).log
      (.attached source) := rfl

theorem account_attach : board.Account (board.attach source handler)
    (.line (board.controller.line source) false ::
      Event.ofCalls (board.lastCalls (board.controller.line source)) ++
      [.slot source (some handler)] ++
      .line (board.controller.line source) true ::
      Event.ofCalls
        ((board.exchanged source handler).firstCalls (board.controller.line source)) ++
      [.logged (.attached source) ((board.attach source handler).memory.read .masterControl)]) := by
  have masked := board.account_mask (board.controller.line source)
  have stored := masked.trans (account_store _ source (some handler))
  have opened := stored.trans
    ((board.exchanged source handler).account_unmask (board.controller.line source))
  exact opened.trans (account_log _ (.attached source))

theorem account_detach : board.Account (board.detach source)
    (.line (board.controller.line source) false ::
      Event.ofCalls (board.lastCalls (board.controller.line source)) ++
      [.slot source none] ++
      [.logged (.detached source) ((board.detach source).memory.read .masterControl)]) := by
  have masked := board.account_mask (board.controller.line source)
  have stored := masked.trans (account_store _ source none)
  exact stored.trans (account_log _ (.detached source))

@[simp]
theorem table_attach : (board.attach source handler).table =
    board.table.store source (some handler) := by
  rw [attach_eq, log, record, table_unmask, table_exchanged]

@[simp]
theorem table_detach : (board.detach source).table = board.table.store source none :=
  congrArg (HandlerTable.store · source none) (board.table_mask _)

theorem controller_attach : (board.attach source handler).controller =
    ((((board.controller.raised (board.controller.sources (board.controller.line source))).mask
      (board.controller.line source)).unmask (board.controller.line source)).served
        (board.controller.sources (board.controller.line source))) := by
  rw [attach_eq, log, record, controller_unmask, sources_exchanged, controller_exchanged]

theorem controller_detach : (board.detach source).controller =
    (board.controller.raised (board.controller.sources (board.controller.line source))).mask
      (board.controller.line source) :=
  board.controller_mask _

@[simp]
theorem wiring_attach : (board.attach source handler).controller.wiring =
    board.controller.wiring := by
  rw [controller_attach]
  rfl

@[simp]
theorem wiring_detach : (board.detach source).controller.wiring = board.controller.wiring := by
  rw [controller_detach]
  rfl

@[simp]
theorem line_detach (other : Source) :
    (board.detach source).controller.line other = board.controller.line other :=
  congrArg (·.get other) (board.wiring_detach source)

variable {board source handler}

theorem isUnmasked_attach {line : Line} :
    (board.attach source handler).controller.IsUnmasked line ↔
      board.controller.IsUnmasked line ∨ line = board.controller.line source := by
  rw [controller_attach, Controller.isUnmasked_served, Controller.isUnmasked_unmask,
    Controller.isUnmasked_mask, Controller.isUnmasked_raised]
  by_cases same : line = board.controller.line source <;> simp [same]

theorem isUnmasked_detach {line : Line} :
    (board.detach source).controller.IsUnmasked line ↔
      board.controller.IsUnmasked line ∧ line ≠ board.controller.line source := by
  rw [controller_detach, Controller.isUnmasked_mask, Controller.isUnmasked_raised]

/-- No source of the line is armed any more. -/
theorem armed_attach {other : Source} :
    (board.attach source handler).controller.armed.get other = true ↔
      board.controller.armed.get other = true ∧
        board.controller.line other ≠ board.controller.line source := by
  simp [controller_attach, Controller.mem_sources_iff]

theorem armed_detach {other : Source} :
    (board.detach source).controller.armed.get other = true ↔
      board.controller.armed.get other = true ∧
        board.controller.line other ≠ board.controller.line source := by
  simp [controller_detach, Controller.mem_sources_iff]

/-- No source of the line is pending any more. -/
theorem pending_attach {other : Source} :
    (board.attach source handler).controller.pending.get other = true ↔
      board.controller.pending.get other = true ∧
        board.controller.line other ≠ board.controller.line source := by
  by_cases same : board.controller.line other = board.controller.line source <;>
    simp [controller_attach, Controller.mem_sources_iff, same]

/-- A source is pending as it was before, or because it was armed on the line and the line was
masked already. -/
theorem pending_detach {other : Source} :
    (board.detach source).controller.pending.get other = true ↔
      board.controller.pending.get other = true ∨
        board.controller.armed.get other = true ∧
          board.controller.line other = board.controller.line source ∧
          ¬ board.controller.IsUnmasked (board.controller.line other) := by
  simp [controller_detach, Controller.mem_sources_iff, and_assoc]

section Release

variable (board : Board Surroundings)

theorem controller_setGate (isOpen : Bool) :
    (board.setGate isOpen).controller = board.controller := rfl

theorem release_eq : board.release =
    (((board.detach .tx).detach .rx).detach .statusChange).setGate false := rfl

theorem table_setGate (isOpen : Bool) :
    (board.setGate isOpen).table = { board.table with isOpen } := rfl

theorem table_release : board.release.table = .empty := by
  simp only [release_eq, table_setGate, table_detach]
  rfl

/-- Releasing masks every line that has a source wired to it. -/
theorem isUnmasked_release {line : Line} : board.release.controller.IsUnmasked line ↔
    board.controller.IsUnmasked line ∧ ∀ source, board.controller.line source ≠ line := by
  simp only [release_eq, controller_setGate, isUnmasked_detach, line_detach]
  constructor
  · rintro ⟨⟨⟨isUnmasked, notTx⟩, notRx⟩, notStatus⟩
    exact ⟨isUnmasked, by rintro ⟨⟩ <;> exact Ne.symm ‹_›⟩
  · rintro ⟨isUnmasked, unwired⟩
    exact ⟨⟨⟨isUnmasked, (unwired _).symm⟩, (unwired _).symm⟩, (unwired _).symm⟩

/-- No source is armed any more. -/
theorem armed_release (source : Source) : board.release.controller.armed.get source = false := by
  rw [← Bool.not_eq_true]
  simp only [release_eq, controller_setGate, armed_detach, line_detach]
  rintro ⟨⟨⟨-, notTx⟩, notRx⟩, notStatus⟩
  cases source with
  | tx => exact notTx rfl
  | rx => exact notRx rfl
  | statusChange => exact notStatus rfl

end Release

end Board

end CanController

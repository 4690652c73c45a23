import CanController.Proofs.Interrupt.Nesting
import CanController.Proofs.Session.Refinement

/-!
Delivery across an exchange of handlers.  An interrupt that comes just before the line is masked is
served from the old table; one that has been waiting on the masked line is served from the new one.
On an unmasked line no source waits, and a masked line lets no armed source in, so whichever way the
line was, each source that is due is served once, by the right handler.
-/

namespace CanController

namespace Board

variable {Surroundings : Type} {board : Board Surroundings} {wiring : PerSource Line}
  {changes : List (Source × Option Handler)}

section Mask

variable {line : Line}

theorem lastCalls_of_unmasked (isUnmasked : board.controller.IsUnmasked line) :
    board.lastCalls line =
      board.callsOf board.controller.armed.get (board.controller.sources line) := by
  refine congrArg (List.flatMap board.table.calls) (List.filter_congr fun source wired => ?_)
  rw [Controller.mem_sources_iff] at wired
  simp [Controller.getsIn, wired, isUnmasked]

theorem lastCalls_of_masked (isMasked : ¬ board.controller.IsUnmasked line) :
    board.lastCalls line = [] := by
  have none : (board.controller.sources line).filter board.controller.getsIn = [] := by
    refine List.filter_eq_nil_iff.mpr fun source wired => ?_
    rw [Controller.mem_sources_iff] at wired
    simp [Controller.getsIn, wired, isMasked]
  rw [lastCalls, callsOf, none, List.flatMap_nil]

end Mask

section Exchange

variable (source : Source) (handler : Handler)

/-- While a line was unmasked nothing was left waiting on it. -/
theorem firstCalls_exchanged_of_unmasked
    (isUnmasked : board.controller.IsUnmasked (board.controller.line source))
    (reflects : board.controller.Reflects wiring changes) :
    (board.exchanged source handler).firstCalls (board.controller.line source) = [] := by
  have none : (board.controller.sources (board.controller.line source)).filter
      (board.exchanged source handler).controller.pending.get = [] := by
    refine List.filter_eq_nil_iff.mpr fun other wired => ?_
    have same := Controller.mem_sources_iff.mp wired
    have quiet : board.controller.pending.get other = false := by
      rw [← Bool.not_eq_true]
      exact fun waits => reflects.isMasked_of_pending waits (same ▸ isUnmasked)
    simp [controller_exchanged, quiet, same, isUnmasked]
  rw [firstCalls, sources_exchanged, callsOf, none, List.flatMap_nil]

theorem firstCalls_exchanged_of_masked
    (isMasked : ¬ board.controller.IsUnmasked (board.controller.line source)) :
    (board.exchanged source handler).firstCalls (board.controller.line source) =
      (board.exchanged source handler).callsOf
        (fun other => board.controller.armed.get other || board.controller.pending.get other)
        (board.controller.sources (board.controller.line source)) := by
  rw [firstCalls, sources_exchanged]
  refine congrArg (List.flatMap _) (List.filter_congr fun other wired => ?_)
  have same := Controller.mem_sources_iff.mp wired
  simp [controller_exchanged, wired, same, isMasked, Bool.or_comm]

theorem handlersRun_attach (fresh : board.journal = #[]) :
    (board.attach source handler).journal.handlersRun =
      (board.lastCalls (board.controller.line source)).map (·.2) ++
        ((board.exchanged source handler).firstCalls (board.controller.line source)).map (·.2) := by
  rw [Journal.handlersRun_eq, (board.account_attach source handler).journal, fresh]
  simp [List.filterMap_cons, Event.handler?]

/-- Through an open gate, an unmasked line lets its armed sources in to the old handlers. -/
theorem handlersRun_attach_of_unmasked (fresh : board.journal = #[])
    (isOpen : board.table.isOpen = true) (flat : board.table.Flat)
    (isUnmasked : board.controller.IsUnmasked (board.controller.line source))
    (reflects : board.controller.Reflects wiring changes) :
    (board.attach source handler).journal.handlersRun =
      ((board.controller.sources (board.controller.line source)).filter
        board.controller.armed.get).filterMap board.table.slots.get := by
  rw [handlersRun_attach source handler fresh, lastCalls_of_unmasked isUnmasked,
    firstCalls_exchanged_of_unmasked source handler isUnmasked reflects, List.map_nil,
    List.append_nil]
  exact flat.handlers_calls_of_open isOpen _

/-- Through an open gate, the sources kept waiting by a masked line get to the new handlers. -/
theorem handlersRun_attach_of_masked (fresh : board.journal = #[])
    (isOpen : board.table.isOpen = true) (flat : board.table.Flat)
    (leaf : handler.dispatches = [])
    (isMasked : ¬ board.controller.IsUnmasked (board.controller.line source)) :
    (board.attach source handler).journal.handlersRun =
      ((board.controller.sources (board.controller.line source)).filter fun other =>
        board.controller.armed.get other || board.controller.pending.get other).filterMap
          (board.table.slots.set source (some handler)).get := by
  rw [handlersRun_attach source handler fresh, lastCalls_of_masked isMasked,
    firstCalls_exchanged_of_masked source handler isMasked, List.map_nil, List.nil_append,
    callsOf, table_exchanged]
  exact (flat.store source leaf).handlers_calls_of_open isOpen _

theorem handlersRun_detach (fresh : board.journal = #[]) :
    (board.detach source).journal.handlersRun =
      (board.lastCalls (board.controller.line source)).map (·.2) := by
  rw [Journal.handlersRun_eq, (board.account_detach source).journal, fresh]
  simp [List.filterMap_cons, Event.handler?]

theorem handlersRun_detach_of_unmasked (fresh : board.journal = #[])
    (isOpen : board.table.isOpen = true) (flat : board.table.Flat)
    (isUnmasked : board.controller.IsUnmasked (board.controller.line source)) :
    (board.detach source).journal.handlersRun =
      ((board.controller.sources (board.controller.line source)).filter
        board.controller.armed.get).filterMap board.table.slots.get := by
  rw [handlersRun_detach source fresh, lastCalls_of_unmasked isUnmasked]
  exact flat.handlers_calls_of_open isOpen _

theorem handlersRun_detach_of_masked (fresh : board.journal = #[])
    (isMasked : ¬ board.controller.IsUnmasked (board.controller.line source)) :
    (board.detach source).journal.handlersRun = [] := by
  rw [handlersRun_detach source fresh, lastCalls_of_masked isMasked, List.map_nil]

end Exchange

end Board

namespace Session

variable {wiring : PerSource Line} {session : Session}

/-- Attaching a handler serves each source of its line once if it is due, in order: by its old
handler if it gets in before the line is masked, and by its new one if it has to wait.  Nothing is
left armed or pending on the line, and the other lines are left alone. -/
theorem attach_delivers (reachable : session.Reachable wiring)
    (driven : session.config?.isSome = true) (isOpen : session.board.table.isOpen = true)
    (flat : session.board.table.Flat) (source : Source) {handler : Handler}
    (leaf : handler.dispatches = []) :
    let old := session.board
    let line := old.controller.line source
    let wired := old.controller.sources line
    let new := (session.step (.handler (.attach source handler))).2.board
    let called := (session.step (.handler (.attach source handler))).1.journal.handlersRun
    (old.controller.IsUnmasked line →
      called = (wired.filter old.controller.armed.get).filterMap old.table.slots.get) ∧
    (¬ old.controller.IsUnmasked line →
      called = (wired.filter fun other =>
        old.controller.armed.get other || old.controller.pending.get other).filterMap
          (old.table.slots.set source (some handler)).get) ∧
    new.table = old.table.store source (some handler) ∧
    (∀ other, new.controller.IsUnmasked other ↔ old.controller.IsUnmasked other ∨ other = line) ∧
    (∀ other, new.controller.armed.get other = true ↔
      old.controller.armed.get other = true ∧ old.controller.line other ≠ line) ∧
    ∀ other, new.controller.pending.get other = true ↔
      old.controller.pending.get other = true ∧ old.controller.line other ≠ line := by
  intro old line wired new called
  obtain ⟨changes, reflects⟩ := reachable.reflects
  obtain ⟨board, journal⟩ := session.step_handler driven (.attach source handler)
  let start := session.ready.board
  have attached : new = start.attach source handler := board
  have ran : called = (start.attach source handler).journal.handlersRun :=
    congrArg Journal.handlersRun journal
  have fresh : start.journal = #[] := rfl
  refine ⟨fun isUnmasked => ?_, fun isMasked => ?_, ?_, ?_, ?_, ?_⟩
  · exact ran.trans
      (Board.handlersRun_attach_of_unmasked source handler fresh isOpen flat isUnmasked reflects)
  · exact ran.trans
      (Board.handlersRun_attach_of_masked source handler fresh isOpen flat leaf isMasked)
  · rw [attached]
    exact start.table_attach source handler
  · rw [attached]
    exact fun _ => Board.isUnmasked_attach
  · rw [attached]
    exact fun _ => Board.armed_attach
  · rw [attached]
    exact fun _ => Board.pending_attach

/-- Two sources on one line exchange handlers.  The first time the line is unmasked and both sources
are armed: the old handlers run.  The second time it is masked, one source pending and the other
armed: the one runs the handler it has kept and the other the new one. -/
theorem attach_delivers_on_shared_line :
    let kept : Handler := ⟨1, [], []⟩
    let old : Handler := ⟨2, [], []⟩
    let new : Handler := ⟨3, [], []⟩
    let begin := Session.new .powerOn 36000000 ⟨19, 19, 22⟩ ⟨true, 0, []⟩ (.standard 500000)
    let common : List Op := [.handler (.attach .tx kept), .handler (.attach .rx old),
      .handler (.setGate true)]
    let unmasked := (begin.steps (common ++ [.world (.arm .tx), .world (.arm .rx)])).2
    let masked := (begin.steps (common ++ [.handler (.detach .rx), .world (.raise .tx),
      .world (.arm .rx)])).2
    (unmasked.step (.handler (.attach .rx new))).1.journal.handlersRun = [kept, old] ∧
      (masked.step (.handler (.attach .rx new))).1.journal.handlersRun = [kept, new] := by
  intro kept old new begin common unmasked masked
  have tableUnmasked : unmasked.board.table = ⟨true, ⟨some kept, some old, none⟩⟩ := by
    decide +kernel
  have tableMasked : masked.board.table = ⟨true, ⟨some kept, none, none⟩⟩ := by
    decide +kernel
  have flatUnmasked : unmasked.board.table.Flat := by
    rw [tableUnmasked]
    rintro ⟨⟩ handler ⟨⟩ <;> rfl
  have flatMasked : masked.board.table.Flat := by
    rw [tableMasked]
    rintro ⟨⟩ handler ⟨⟩
    rfl
  have reachableUnmasked : unmasked.Reachable ⟨19, 19, 22⟩ := ⟨_, _, _, _, _, rfl⟩
  have reachableMasked : masked.Reachable ⟨19, 19, 22⟩ := ⟨_, _, _, _, _, rfl⟩
  have isUnmasked :
      unmasked.board.controller.IsUnmasked (unmasked.board.controller.line .rx) := by
    decide +kernel
  have isMasked : ¬ masked.board.controller.IsUnmasked (masked.board.controller.line .rx) := by
    decide +kernel
  have early := (attach_delivers reachableUnmasked (by decide +kernel)
    (congrArg HandlerTable.isOpen tableUnmasked) flatUnmasked .rx (rfl : new.dispatches = [])).1
      isUnmasked
  have late := (attach_delivers reachableMasked (by decide +kernel)
    (congrArg HandlerTable.isOpen tableMasked) flatMasked .rx (rfl : new.dispatches = [])).2.1
      isMasked
  rw [tableUnmasked] at early
  rw [tableMasked] at late
  exact ⟨early.trans (by decide +kernel), late.trans (by decide +kernel)⟩

/-- Detaching a handler still lets in what is armed on the line if that is unmasked; otherwise it
is kept waiting. -/
theorem detach_delivers (driven : session.config?.isSome = true)
    (isOpen : session.board.table.isOpen = true) (flat : session.board.table.Flat)
    (source : Source) :
    let old := session.board
    let line := old.controller.line source
    let wired := old.controller.sources line
    let new := (session.step (.handler (.detach source))).2.board
    let called := (session.step (.handler (.detach source))).1.journal.handlersRun
    (old.controller.IsUnmasked line →
      called = (wired.filter old.controller.armed.get).filterMap old.table.slots.get) ∧
    (¬ old.controller.IsUnmasked line → called = []) ∧
    new.table = old.table.store source none ∧
    (∀ other, new.controller.IsUnmasked other ↔ old.controller.IsUnmasked other ∧ other ≠ line) ∧
    (∀ other, new.controller.armed.get other = true ↔
      old.controller.armed.get other = true ∧ old.controller.line other ≠ line) ∧
    ∀ other, new.controller.pending.get other = true ↔
      old.controller.pending.get other = true ∨ old.controller.armed.get other = true ∧
        old.controller.line other = line ∧
        ¬ old.controller.IsUnmasked (old.controller.line other) := by
  intro old line wired new called
  obtain ⟨board, journal⟩ := session.step_handler driven (.detach source)
  let start := session.ready.board
  have detached : new = start.detach source := board
  have ran : called = (start.detach source).journal.handlersRun :=
    congrArg Journal.handlersRun journal
  have fresh : start.journal = #[] := rfl
  refine ⟨fun isUnmasked => ?_, fun isMasked => ?_, ?_, ?_, ?_, ?_⟩
  · exact ran.trans (Board.handlersRun_detach_of_unmasked source fresh isOpen flat isUnmasked)
  · exact ran.trans (Board.handlersRun_detach_of_masked source fresh isMasked)
  · rw [detached]
    exact start.table_detach source
  · rw [detached]
    exact fun _ => Board.isUnmasked_detach
  · rw [detached]
    exact fun _ => Board.armed_detach
  · rw [detached]
    exact fun _ => Board.pending_detach

end Session

end CanController

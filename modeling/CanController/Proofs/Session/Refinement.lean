import CanController.Proofs.Session.Trace

/-!
The handler table, the gate and the interrupt lines over whole runs, as a function of the operations
taken.  What they come to is a list of changes, a release counting as three: a slot holds what the
last change of its source put there, and a line is unmasked if the last change of any source wired
to it attached a handler.  The list stands for the interrupt controller through `Reflects`, which
each operation keeps by adding its own changes at the end.
-/

namespace CanController

theorem getLast?_filter_append_singleton {Value : Type} (passes : Value → Bool)
    (values : List Value) (value : Value) :
    ((values ++ [value]).filter passes).getLast? =
      if passes value then some value else (values.filter passes).getLast? := by
  cases kept : passes value <;> simp [List.filter_append, kept]

/-- The controller is wired like this and has gone through these changes.  In between sources may
have been raised and armed, so all that is known about pending sources is that they cannot get
through. -/
structure Controller.Reflects (wiring : PerSource Line)
    (changes : List (Source × Option Handler)) (controller : Controller) : Prop where
  wiring_eq : controller.wiring = wiring
  lines : ∀ line, controller.IsUnmasked line ↔ ∃ source handler,
    (changes.filter (wiring.get ·.1 = line)).getLast? = some (source, some handler)
  pending : ∀ source, controller.pending.get source = true →
    ¬ controller.IsUnmasked (wiring.get source)

variable {wiring : PerSource Line} {changes : List (Source × Option Handler)}

namespace Controller

theorem reflects_idle (wiring : PerSource Line) : (idle wiring).Reflects wiring [] where
  wiring_eq := rfl
  lines := by simp [idle, IsUnmasked]
  pending := by simp [idle]

theorem Reflects.line_eq {controller : Controller} (reflects : controller.Reflects wiring changes)
    (source : Source) : controller.line source = wiring.get source :=
  congrArg (·.get source) reflects.wiring_eq

theorem Reflects.isMasked_of_pending {controller : Controller}
    (reflects : controller.Reflects wiring changes) {source : Source}
    (waits : controller.pending.get source = true) :
    ¬ controller.IsUnmasked (controller.line source) := by
  rw [reflects.line_eq]
  exact reflects.pending source waits

theorem Reflects.append_nil {controller : Controller}
    (reflects : controller.Reflects wiring changes) :
    controller.Reflects wiring (changes ++ []) := by
  rwa [List.append_nil]

/-- Only lines are unmasked to which a source is wired. -/
theorem Reflects.wired {controller : Controller} (reflects : controller.Reflects wiring changes)
    {line : Line} (isUnmasked : controller.IsUnmasked line) :
    ∃ source, wiring.get source = line := by
  obtain ⟨source, handler, last⟩ := (reflects.lines line).mp isUnmasked
  exact ⟨source, by simpa using (List.mem_filter.mp (List.mem_of_getLast? last)).2⟩

end Controller

namespace Board

variable {Surroundings : Type} {board : Board Surroundings}

theorem reflects_attach (reflects : board.controller.Reflects wiring changes) (source : Source)
    (handler : Handler) : (board.attach source handler).controller.Reflects wiring
      (changes ++ [(source, some handler)]) where
  wiring_eq := by rw [wiring_attach, reflects.wiring_eq]
  lines line := by
    rw [isUnmasked_attach, reflects.line_eq, getLast?_filter_append_singleton, reflects.lines]
    by_cases same : wiring.get source = line
    · simp [same]
    · simp [same, Ne.symm same]
  pending other := by
    rw [pending_attach, isUnmasked_attach, reflects.line_eq, reflects.line_eq]
    rintro ⟨waits, distinct⟩ (isUnmasked | same)
    · exact reflects.pending other waits isUnmasked
    · exact distinct same

theorem reflects_detach (reflects : board.controller.Reflects wiring changes) (source : Source) :
    (board.detach source).controller.Reflects wiring (changes ++ [(source, none)]) where
  wiring_eq := by rw [wiring_detach, reflects.wiring_eq]
  lines line := by
    rw [isUnmasked_detach, reflects.line_eq, getLast?_filter_append_singleton, reflects.lines]
    by_cases same : wiring.get source = line
    · simp [same]
    · simp [same, Ne.symm same]
  pending other := by
    rw [pending_detach, isUnmasked_detach, reflects.line_eq, reflects.line_eq]
    rintro (waits | ⟨-, same, -⟩) ⟨isUnmasked, distinct⟩
    · exact reflects.pending other waits isUnmasked
    · exact distinct same

theorem reflects_release (reflects : board.controller.Reflects wiring changes) :
    board.release.controller.Reflects wiring (changes ++ Source.all.map (·, none)) := by
  have third := reflects_detach (reflects_detach (reflects_detach reflects .tx) .rx) .statusChange
  rw [List.append_assoc, List.append_assoc] at third
  rw [release_eq, controller_setGate]
  exact third

theorem reflects_raise (reflects : board.controller.Reflects wiring changes) (source : Source) :
    (board.raise source).controller.Reflects wiring changes := by
  by_cases isUnmasked : board.controller.IsUnmasked (board.controller.line source)
  · rw [raise_of_unmasked isUnmasked, dispatch, controller_runAll]
    exact reflects
  · rw [raise_of_masked isUnmasked]
    refine ⟨reflects.wiring_eq, reflects.lines, fun other waits => ?_⟩
    by_cases same : source = other
    · rw [← same, ← reflects.line_eq]
      exact isUnmasked
    · refine reflects.pending other ?_
      simpa [Controller.setPending, same] using waits

theorem Undisturbed.reflects {origin : Board Surroundings} (undisturbed : origin.Undisturbed board)
    (reflects : origin.controller.Reflects wiring changes) :
    board.controller.Reflects wiring changes := by
  rwa [undisturbed.controller]

end Board

section Operations

variable {board : Board Hardware}

theorem WorldOp.reflects_run (reflects : board.controller.Reflects wiring changes)
    (op : WorldOp) : (op.run board).2.controller.Reflects wiring changes := by
  cases op with
  | raise source => exact Board.reflects_raise reflects source
  | arm source => exact ⟨reflects.wiring_eq, reflects.lines, reflects.pending⟩
  | dispatch source =>
      rw [run, Board.dispatch, Board.controller_runAll]
      exact reflects
  | write | poke | peek | dump | settle | setHardware | isOpen => exact reflects

theorem HandlerOp.reflects_run (reflects : board.controller.Reflects wiring changes)
    (op : HandlerOp) : (op.run board).2.controller.Reflects wiring
      (changes ++ (Op.handler op).slotChanges) := by
  cases op with
  | attach source handler => exact Board.reflects_attach reflects source handler
  | detach source => exact Board.reflects_detach reflects source
  | setGate | isAttached => exact reflects.append_nil
  | invoke source =>
      refine Controller.Reflects.append_nil ?_
      rw [run]
      split
      · rw [Board.invoke, Board.foldl_dispatch, Board.controller_runAll]
        exact reflects
      · exact reflects

end Operations

namespace Session

theorem reflects_run {session : Session}
    (reflects : session.board.controller.Reflects wiring changes) {op : Op}
    (answered : (session.run op).1 ≠ .unavailable) :
    (session.run op).2.board.controller.Reflects wiring (changes ++ op.slotChanges) := by
  obtain ⟨board, config?⟩ := session
  cases op with
  | world op => exact (op.reflects_run reflects).append_nil
  | mode op =>
      cases config? with
      | none => exact absurd rfl answered
      | some config =>
          exact ((op.undisturbed_run config board).reflects reflects).append_nil
  | handler op =>
      cases config? with
      | none => exact absurd rfl answered
      | some config => exact op.reflects_run reflects
  | query op =>
      cases config? with
      | none => exact absurd rfl answered
      | some config => exact reflects.append_nil
  | register op =>
      cases config? with
      | none => exact absurd rfl answered
      | some config =>
          exact ((op.undisturbed_run board).reflects reflects).append_nil
  | release =>
      cases config? with
      | none => exact absurd rfl answered
      | some config => exact Board.reflects_release reflects
  | adopt config clock =>
      cases config? with
      | none => exact reflects.append_nil
      | some config => exact absurd rfl answered

theorem reflects_step {session : Session}
    (reflects : session.board.controller.Reflects wiring changes) (op : Op) :
    (session.step op).2.board.controller.Reflects wiring
      (changes ++ (session.taken [op]).flatMap Op.slotChanges) := by
  have start : session.ready.board.controller.Reflects wiring changes := reflects
  have reply : (session.step op).1.reply = (session.ready.run op).1 := rfl
  rw [taken_singleton, reply]
  by_cases answered : (session.ready.run op).1 = .unavailable
  · rcases session.ready.refused_or_accounts op with refused | ⟨other, -⟩
    · rw [if_pos answered, step, refused]
      exact start.append_nil
    · exact absurd answered other
  · rw [if_neg answered, List.flatMap_singleton]
    exact reflects_run start answered

theorem reflects_steps {session : Session}
    (reflects : session.board.controller.Reflects wiring changes) (ops : List Op) :
    (session.steps ops).2.board.controller.Reflects wiring
      (changes ++ (session.taken ops).flatMap Op.slotChanges) := by
  induction ops generalizing session changes with
  | nil => exact reflects.append_nil
  | cons op ops inductionHypothesis =>
      rw [taken_cons, List.flatMap_append, ← List.append_assoc]
      exact inductionHypothesis (reflects_step reflects op)

theorem Reachable.reflects {session : Session} (reachable : session.Reachable wiring) :
    ∃ changes, session.board.controller.Reflects wiring changes := by
  obtain ⟨memory, clock, settings, config, ops, rfl⟩ := reachable
  have idle : (Session.new memory clock wiring settings config).board.controller.Reflects
      wiring [] := Controller.reflects_idle wiring
  exact ⟨_, reflects_steps idle ops⟩

/-- What is attached, unmasked and open after a run is decided by the last change of each slot, of
each line and of the gate.  A pending source is always behind a masked line. -/
theorem last_change_decides (memory : Memory) (clock : Hertz) (wiring : PerSource Line)
    (settings : HardwareSettings) (config : Config) (ops : List Op) :
    let session := Session.new memory clock wiring settings config
    let board := (session.steps ops).2.board
    let taken := session.taken ops
    let changes := taken.flatMap Op.slotChanges
    (∀ source handler, board.table.slots.get source = some handler ↔
      (changes.filter (·.1 = source)).getLast? = some (source, some handler)) ∧
    (∀ line, board.controller.IsUnmasked line ↔ ∃ source handler,
      (changes.filter (wiring.get ·.1 = line)).getLast? = some (source, some handler)) ∧
    (∀ source, board.controller.pending.get source = true →
      ¬ board.controller.IsUnmasked (wiring.get source)) ∧
    (board.table.isOpen = true ↔ (taken.flatMap Op.gateChanges).getLast? = some true) ∧
    (Function.Injective wiring.get → ∀ source,
      board.controller.IsUnmasked (wiring.get source) ↔
        (board.table.slots.get source).isSome = true) := by
  intro session board taken changes
  obtain ⟨replayed, -, written, moved⟩ := session.chronicle_steps ops
  have table : board.table = session.board.table.replay (session.trace ops) := replayed
  have recorded : (session.trace ops).filterMap Event.slotChange? = changes := written
  have idle : session.board.controller.Reflects wiring [] := Controller.reflects_idle wiring
  have reflects : board.controller.Reflects wiring changes := reflects_steps idle ops
  have slots : ∀ source handler, board.table.slots.get source = some handler ↔
      (changes.filter (·.1 = source)).getLast? = some (source, some handler) := by
    intro source handler
    rw [table, ← recorded]
    exact HandlerTable.slots_replay_eq_some_iff (PerSource.get_const none source)
  refine ⟨slots, reflects.lines, reflects.pending, ?_, ?_⟩
  · have opened : (session.trace ops).filterMap Event.gateChange? =
        taken.flatMap Op.gateChanges := moved
    rw [table, ← opened]
    exact HandlerTable.isOpen_replay_iff rfl
  · -- Where lines are distinct, the changes on the line of a source are its own.
    intro distinct source
    have own : changes.filter (wiring.get ·.1 = wiring.get source) =
        changes.filter (·.1 = source) := by
      refine List.filter_congr fun change _ => decide_eq_decide.mpr ⟨@distinct _ _, ?_⟩
      rintro rfl
      rfl
    rw [reflects.lines, own, Option.isSome_iff_exists]
    constructor
    · rintro ⟨other, handler, last⟩
      have same : other = source := by
        simpa using (List.mem_filter.mp (List.mem_of_getLast? last)).2
      exact ⟨handler, (slots source handler).mpr (same ▸ last)⟩
    · rintro ⟨handler, held⟩
      exact ⟨source, handler, (slots source handler).mp held⟩

/-- Detaching one of two sources on a line masks it, although the other one still has its handler:
what is raised there waits.  Where each source has a line to itself this cannot happen. -/
theorem last_change_decides_on_shared_line :
    let handler : Handler := ⟨1, [], []⟩
    let settings : HardwareSettings := ⟨true, 0, []⟩
    let ops : List Op := [.handler (.attach .tx handler), .handler (.attach .rx handler),
      .handler (.detach .rx), .world (.raise .tx), .handler (.setGate true)]
    let shared := ((Session.new .powerOn 36000000 ⟨19, 19, 22⟩ settings
      (.standard 500000)).steps ops).2.board
    let apart := ((Session.new .powerOn 36000000 ⟨19, 20, 22⟩ settings
      (.standard 500000)).steps ops).2.board
    (shared.table.slots.get .tx = some handler ∧ ¬ shared.controller.IsUnmasked 19 ∧
      shared.controller.pending.get .tx = true ∧ shared.table.isOpen = true) ∧
    Function.Injective (PerSource.get (⟨19, 20, 22⟩ : PerSource Line)) ∧
    apart.controller.IsUnmasked 19 := by
  intro handler settings ops shared apart
  obtain ⟨held, -, waits, isOpen, -⟩ := last_change_decides .powerOn 36000000 ⟨19, 19, 22⟩
    settings (.standard 500000) ops
  obtain ⟨heldApart, -, -, -, onlyHandler⟩ := last_change_decides .powerOn 36000000 ⟨19, 20, 22⟩
    settings (.standard 500000) ops
  have pending : shared.controller.pending.get .tx = true := by decide +kernel
  have distinct : Function.Injective (PerSource.get (⟨19, 20, 22⟩ : PerSource Line)) := by
    intro one other
    cases one <;> cases other <;> decide
  refine ⟨⟨(held .tx handler).mpr ?_, waits .tx pending, pending, isOpen.mpr ?_⟩, distinct, ?_⟩
  · decide +kernel
  · decide +kernel
  · refine (onlyHandler distinct .tx).mpr (Option.isSome_iff_exists.mpr ⟨handler, ?_⟩)
    exact (heldApart .tx handler).mpr (by decide +kernel)

end Session

end CanController

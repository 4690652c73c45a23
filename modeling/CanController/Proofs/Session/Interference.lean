import CanController.Proofs.Control.Attuned
import CanController.Proofs.Session.Recovery

/-!
Mode control and interrupts do not interfere.  However operations of the two sides are mixed in one
run, each side goes as it would have gone alone: the one works on the registers and the
configuration, the other on the handler table and the interrupt controller, and neither sees what
the other does.
-/

namespace CanController

/-- What a step shows of the interrupts: its reply, who ran, and how lines, slots and gate
changed. -/
def Report.interrupts (report : Report) : Reply × List Event :=
  (report.reply, report.journal.interrupts)

/-- An operation of one of the two sides that brings in no handler that writes registers. -/
def Op.IsSided (op : Op) : Prop :=
  (op.isModeOp = true ∨ op.isInterruptOp = true) ∧ op.IsSilent

theorem Op.eq_mode_of_isModeOp {op : Op} (own : op.isModeOp = true) :
    ∃ modeOp, op = .mode modeOp := by
  cases op with
  | mode op => exact ⟨op, rfl⟩
  | _ => contradiction

namespace Session

/-- The reports of the steps that belong to one side. -/
def reportsOf (side : Op → Bool) (session : Session) : List Op → List Report
  | [] => []
  | op :: ops =>
      let (report, next) := session.step op
      if side op then report :: next.reportsOf side ops else next.reportsOf side ops

theorem reportsOf_of_own {side : Op → Bool} {op : Op} (own : side op = true) (session : Session)
    (ops : List Op) : session.reportsOf side (op :: ops) =
      (session.step op).1 :: (session.step op).2.reportsOf side ops :=
  if_pos own

theorem reportsOf_of_foreign {side : Op → Bool} {op : Op} (foreign : side op = false)
    (session : Session) (ops : List Op) : session.reportsOf side (op :: ops) =
      (session.step op).2.reportsOf side ops :=
  if_neg (by simp [foreign])

/-- A side that has to do with sessions only as far as they are alike: its own operations go the
same way in alike sessions, as far as can be viewed, and foreign ones leave a session alike. -/
structure Independent {View : Type} (side : Op → Bool) (view : Report → View)
    (allowed : Op → Prop) (alike : Session → Session → Prop) : Prop where
  own : ∀ {one other op}, alike one other → allowed op → side op = true →
    view (one.step op).1 = view (other.step op).1 ∧ alike (one.step op).2 (other.step op).2
  foreign : ∀ {one other op}, alike one other → allowed op → side op = false →
    alike (one.step op).2 other

/-- In a run together with foreign operations, an independent side goes as it does alone. -/
theorem Independent.steps {View : Type} {side : Op → Bool} {view : Report → View}
    {allowed : Op → Prop} {alike : Session → Session → Prop}
    (independent : Independent side view allowed alike) {mixed alone : Session}
    (same : alike mixed alone) {ops : List Op} (all : ∀ op ∈ ops, allowed op) :
    alike (mixed.steps ops).2 (alone.steps (ops.filter side)).2 ∧
      (mixed.reportsOf side ops).map view = (alone.steps (ops.filter side)).1.map view := by
  induction ops generalizing mixed alone with
  | nil => exact ⟨same, rfl⟩
  | cons op ops inductionHypothesis =>
      obtain ⟨head, tail⟩ := List.forall_mem_cons.mp all
      cases whose : side op with
      | true =>
          obtain ⟨report, next⟩ := independent.own same head whose
          obtain ⟨final, reports⟩ := inductionHypothesis next tail
          rw [List.filter_cons_of_pos whose, reportsOf_of_own whose, List.map_cons, report, reports]
          exact ⟨final, rfl⟩
      | false =>
          rw [List.filter_cons_of_neg (by simp [whose]), reportsOf_of_foreign whose]
          exact inductionHypothesis (independent.foreign same head whose) tail

/-- Sessions with the same cell and the same configuration. -/
structure SameCell (one other : Session) : Prop where
  memory : one.board.memory = other.board.memory
  clock : one.board.clock = other.board.clock
  settings : one.board.surroundings.settings = other.board.surroundings.settings
  config? : one.config? = other.config?

/-- Sessions with the same handlers and the same state of the interrupts. -/
structure SameInterrupts (one other : Session) : Prop where
  table : one.board.table = other.board.table
  controller : one.board.controller = other.board.controller
  driven : one.config?.isSome = other.config?.isSome

variable {one other : Session}

theorem report_congr {op : Op} (reply : (one.ready.run op).1 = (other.ready.run op).1)
    (memory : (one.ready.run op).2.board.memory = (other.ready.run op).2.board.memory)
    (config? : (one.ready.run op).2.config? = (other.ready.run op).2.config?)
    (journal : (one.ready.run op).2.board.journal = (other.ready.run op).2.board.journal) :
    (one.step op).1 = (other.step op).1 := by
  have report (session : Session) : (session.step op).1 = {
      reply := (session.ready.run op).1
      registers := Register.front.map (session.ready.run op).2.board.memory.read
      mode? := (session.ready.run op).2.config?.map fun _ =>
        (session.ready.run op).2.board.memory.mode
      journal := (session.ready.run op).2.board.journal } := rfl
  rw [report, report, reply, memory, config?, journal]

section Cell

/-- An operation on mode and configuration goes the same way on the same cell, if that is quiet,
and leaves it quiet. -/
theorem SameCell.step (same : one.SameCell other)
    (unscripted : one.board.surroundings.settings.script = []) (op : ModeOp) :
    (one.step (.mode op)).1 = (other.step (.mode op)).1 ∧
      (one.step (.mode op)).2.SameCell (other.step (.mode op)).2 ∧
      (one.step (.mode op)).2.board.surroundings.settings.script = [] := by
  obtain ⟨memory, clock, settings, config⟩ := same
  have alike : Board.Alike (fun _ => True) one.ready.board other.ready.board :=
    ⟨fun _ _ => congrArg (Memory.get · _) memory, clock, congrArg Hardware.fresh settings, rfl,
      unscripted⟩
  have ran : (one.ready.run (.mode op)).1 = (other.ready.run (.mode op)).1 ∧
      (one.ready.run (.mode op)).2.config? = (other.ready.run (.mode op)).2.config? ∧
      Board.Alike (fun _ => True) (one.ready.run (.mode op)).2.board
        (other.ready.run (.mode op)).2.board := by
    cases driver : one.ready.config? with
    | none =>
        have otherDriver : other.ready.config? = none := config.symm.trans driver
        rw [run_mode_of_none driver, run_mode_of_none otherDriver]
        exact ⟨rfl, config, alike⟩
    | some held =>
        have otherDriver : other.ready.config? = some held := config.symm.trans driver
        obtain ⟨reply, update, still⟩ := op.alike_run held alike fun _ _ => trivial
        rw [run_mode_of_some driver, run_mode_of_some otherDriver]
        exact ⟨reply, congrArg some update, still⟩
  obtain ⟨reply, update, still⟩ := ran
  have words := Memory.eq_of_agreeOn still.memory
  exact ⟨report_congr reply words update still.journal,
    ⟨words, still.clock, congrArg Hardware.settings still.surroundings, update⟩, still.quiet⟩

theorem SameCell.trans {third : Session} (first : one.SameCell other)
    (second : other.SameCell third) : one.SameCell third :=
  ⟨first.memory.trans second.memory, first.clock.trans second.clock,
    first.settings.trans second.settings, first.config?.trans second.config?⟩

theorem sameCell_of_interrupt {session : Session} (silent : session.board.table.IsSilent)
    {op : Op} (interrupts : op.isInterruptOp = true) (quietly : op.IsSilent) :
    (session.step op).2.SameCell session := by
  obtain ⟨untouched, -, config⟩ := untouched_step silent interrupts quietly
  exact ⟨untouched.memory, untouched.clock, settings_of_untouched untouched, config⟩

end Cell

section Interrupts

/-- An operation on handlers and interrupts goes the same way in the same state of these. -/
theorem SameInterrupts.step (same : one.SameInterrupts other) {op : Op}
    (interrupts : op.isInterruptOp = true) :
    (one.step op).1.interrupts = (other.step op).1.interrupts ∧
      (one.step op).2.SameInterrupts (other.step op).2 := by
  obtain ⟨table, controller, driven⟩ := same
  have attuned : one.ready.board.Attuned other.ready.board := ⟨table, controller, rfl⟩
  obtain ⟨board, config?⟩ := one
  obtain ⟨otherBoard, otherConfig?⟩ := other
  cases op with
  | handler op =>
      cases config? with
      | none =>
          obtain rfl : otherConfig? = none := by simpa using driven.symm
          exact ⟨rfl, table, controller, rfl⟩
      | some config =>
          obtain ⟨otherConfig, rfl⟩ := Option.isSome_iff_exists.mp driven.symm
          obtain ⟨reply, still⟩ := op.attuned_run attuned
          exact ⟨Prod.ext reply still.journal, still.table, still.controller, rfl⟩
  | world op =>
      obtain ⟨reply, still⟩ := op.attuned_run interrupts attuned
      exact ⟨Prod.ext reply still.journal, still.table, still.controller, driven⟩
  | _ => contradiction

theorem SameInterrupts.trans {third : Session} (first : one.SameInterrupts other)
    (second : other.SameInterrupts third) : one.SameInterrupts third :=
  ⟨first.table.trans second.table, first.controller.trans second.controller,
    first.driven.trans second.driven⟩

theorem sameInterrupts_of_mode (session : Session) (op : ModeOp) :
    (session.step (.mode op)).2.SameInterrupts session := by
  obtain ⟨board, config?⟩ := session
  cases config? with
  | none => exact ⟨rfl, rfl, rfl⟩
  | some config =>
      have undisturbed := op.undisturbed_run config (Session.ready ⟨board, some config⟩).board
      exact ⟨undisturbed.table, undisturbed.controller, rfl⟩

theorem interrupts_eq_nil_of_mode {session : Session}
    (unscripted : session.board.surroundings.settings.script = []) (op : ModeOp) :
    (session.step (.mode op)).1.journal.interrupts = [] := by
  obtain ⟨board, config?⟩ := session
  cases config? with
  | none => rfl
  | some config =>
      have quiet : (Session.ready ⟨board, some config⟩).board.surroundings.Quiet := unscripted
      exact op.interrupts_run config quiet

end Interrupts

theorem Calm.step {session : Session} (calm : session.Calm) {op : Op} (sided : op.IsSided) :
    (session.step op).2.Calm := by
  obtain ⟨mode | interrupts, quietly⟩ := sided
  · obtain ⟨op, rfl⟩ := Op.eq_mode_of_isModeOp mode
    have unscripted := (SameCell.step ⟨rfl, rfl, rfl, rfl⟩ calm.unscripted op).2.2
    exact ⟨unscripted, (session.sameInterrupts_of_mode op).table ▸ calm.silent⟩
  · obtain ⟨untouched, silent, -⟩ := untouched_step calm.silent interrupts quietly
    exact ⟨(congrArg HardwareSettings.script (settings_of_untouched untouched)).trans
      calm.unscripted, silent⟩

theorem independent_modes : Independent Op.isModeOp (fun report => report) Op.IsSided
    fun mixed alone => mixed.Calm ∧ mixed.SameCell alone where
  own := by
    rintro one other op ⟨calm, same⟩ sided own
    have stillCalm := calm.step sided
    obtain ⟨op, rfl⟩ := Op.eq_mode_of_isModeOp own
    obtain ⟨report, next, -⟩ := same.step calm.unscripted op
    exact ⟨report, stillCalm, next⟩
  foreign := by
    rintro one other op ⟨calm, same⟩ sided foreign
    have interrupts : op.isInterruptOp = true := sided.1.resolve_left (by simp [foreign])
    exact ⟨calm.step sided, (sameCell_of_interrupt calm.silent interrupts sided.2).trans same⟩

theorem independent_interrupts :
    Independent Op.isInterruptOp Report.interrupts Op.IsSided SameInterrupts where
  own same _ own := same.step own
  foreign := by
    intro one other op same sided foreign
    obtain ⟨op, rfl⟩ := Op.eq_mode_of_isModeOp (sided.1.resolve_right (by simp [foreign]))
    exact (one.sameInterrupts_of_mode op).trans same

/-- No operation on mode and configuration calls a handler or touches a line. -/
theorem interrupts_eq_nil_of_mem_modes {session : Session} (calm : session.Calm) {ops : List Op}
    (sided : ∀ op ∈ ops, op.IsSided) {report : Report}
    (listed : report ∈ session.reportsOf Op.isModeOp ops) : report.journal.interrupts = [] := by
  induction ops generalizing session with
  | nil => cases listed
  | cons op ops inductionHypothesis =>
      obtain ⟨head, tail⟩ := List.forall_mem_cons.mp sided
      cases whose : op.isModeOp with
      | false =>
          rw [reportsOf_of_foreign whose] at listed
          exact inductionHypothesis (calm.step head) tail listed
      | true =>
          rw [reportsOf_of_own whose] at listed
          obtain ⟨op, rfl⟩ := Op.eq_mode_of_isModeOp whose
          rcases List.mem_cons.mp listed with rfl | later
          · exact interrupts_eq_nil_of_mode calm.unscripted op
          · exact inductionHypothesis (calm.step head) tail later

/-- In whatever order the operations of the two sides are mixed, the registers, the clock and the
configuration end up as they do by the operations on mode and configuration alone, each of which is
reported as it is alone.  The handler table and the interrupt controller end up as they do by the
others alone, each of which calls the same handlers and changes the same lines, slots and gate.
The operations on mode and configuration call no handler and change none of these. -/
theorem sides_do_not_interfere {session : Session}
    (unscripted : session.board.surroundings.settings.script = [])
    (silent : session.board.table.IsSilent) {ops : List Op} (sided : ∀ op ∈ ops, op.IsSided) :
    let mixed := session.steps ops
    let modes := session.steps (ops.filter Op.isModeOp)
    let interrupts := session.steps (ops.filter Op.isInterruptOp)
    (mixed.2.board.memory = modes.2.board.memory ∧ mixed.2.board.clock = modes.2.board.clock ∧
      mixed.2.config? = modes.2.config? ∧ session.reportsOf Op.isModeOp ops = modes.1) ∧
    (mixed.2.board.table = interrupts.2.board.table ∧
      mixed.2.board.controller = interrupts.2.board.controller ∧
      (session.reportsOf Op.isInterruptOp ops).map Report.interrupts =
        interrupts.1.map Report.interrupts) ∧
    ∀ report ∈ session.reportsOf Op.isModeOp ops, report.journal.interrupts = [] := by
  intro mixed modes interrupts
  have calm : session.Calm := ⟨unscripted, silent⟩
  have sameCell : session.SameCell session := ⟨rfl, rfl, rfl, rfl⟩
  have sameInterrupts : session.SameInterrupts session := ⟨rfl, rfl, rfl⟩
  obtain ⟨⟨-, cell⟩, reports⟩ := independent_modes.steps ⟨calm, sameCell⟩ sided
  obtain ⟨same, views⟩ := independent_interrupts.steps sameInterrupts sided
  rw [List.map_id', List.map_id'] at reports
  exact ⟨⟨cell.memory, cell.clock, cell.config?, reports⟩, ⟨same.table, same.controller, views⟩,
    fun _ listed => interrupts_eq_nil_of_mem_modes calm sided listed⟩

/-- A start and a reconfiguration in the middle of an exchange of handlers.  A handler gets in when
its line is masked, dispatches another one, and the last source raised waits. -/
theorem start_amid_interrupts :
    let outer : Handler := ⟨1, [], [.rx]⟩
    let inner : Handler := ⟨2, [], []⟩
    let session := Session.new .powerOn 36000000 ⟨19, 19, 22⟩ ⟨true, 1, []⟩ (.standard 250000)
    let ops : List Op := [.handler (.attach .tx outer), .mode (.start .kbps500 .allOff .allOff),
      .handler (.attach .rx inner), .handler (.setGate true), .world (.arm .tx),
      .mode .requestSleep, .handler (.attach .tx inner), .mode .reconfigure,
      .handler (.detach .rx), .world (.raise .tx)]
    let mixed := session.steps ops
    let modes := session.steps (ops.filter Op.isModeOp)
    let interrupts := session.steps (ops.filter Op.isInterruptOp)
    (∀ op ∈ ops, op.IsSided) ∧
      mixed.2.board.memory = modes.2.board.memory ∧
      session.reportsOf Op.isModeOp ops = modes.1 ∧
      modes.1.map (·.reply) = [.done, .done, .done] ∧
      mixed.2.board.controller = interrupts.2.board.controller ∧
      interrupts.2.board.controller.pending.get .tx = true ∧
      interrupts.1.flatMap (·.journal.handlersRun) = [outer, inner] := by
  intro outer inner session ops mixed modes interrupts
  have unscripted : session.board.surroundings.settings.script = [] := rfl
  have silent : session.board.table.IsSilent := HandlerTable.isSilent_empty
  have sided : ∀ op ∈ ops, op.IsSided := by
    simp only [ops, List.forall_mem_cons]
    exact ⟨⟨.inr rfl, rfl⟩, ⟨.inl rfl, trivial⟩, ⟨.inr rfl, rfl⟩, ⟨.inr rfl, trivial⟩,
      ⟨.inr rfl, trivial⟩, ⟨.inl rfl, trivial⟩, ⟨.inr rfl, rfl⟩, ⟨.inl rfl, trivial⟩,
      ⟨.inr rfl, trivial⟩, ⟨.inr rfl, trivial⟩, List.forall_mem_nil _⟩
  obtain ⟨⟨memory, -, -, reports⟩, ⟨-, controller, -⟩, -⟩ :=
    sides_do_not_interfere unscripted silent sided
  exact ⟨sided, memory, reports, by decide +kernel, controller, by decide +kernel,
    by decide +kernel⟩

end Session

end CanController

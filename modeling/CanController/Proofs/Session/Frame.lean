import CanController.Proofs.Control.Moves
import CanController.Proofs.Register.Agreement
import CanController.Proofs.Session.Recovery
import CanController.Proofs.Session.Silence

/-!
The frame of a whole run.  Whatever a driver does to a quiet cell short of resetting it or of
accessing registers by hand, however it ends, and whatever interrupts come in between, the memory
moves by requests, configuration and the cell's own acknowledges only.  What the driver writes goes
to the three registers for requests and configuration.
-/

namespace CanController

/-- All that a driver can do without a reset and without access to registers by hand, on hardware
that may settle and be exchanged, but has no script, and under interrupts whose handlers write no
registers. -/
inductive Op.Tame : Op → Prop
  | mode {op : ModeOp} (noReset : op.resets = false) : Tame (.mode op)
  | interrupt {op : Op} (interrupts : op.isInterruptOp = true) (quietly : op.IsSilent) : Tame op
  | query (op : QueryOp) : Tame (.query op)
  | release : Tame .release
  | adopt (config : Config) (clock : Option Hertz) : Tame (.adopt config clock)
  | settle : Tame (.world .settle)
  | setHardware {settings : HardwareSettings} (unscripted : settings.script = []) :
      Tame (.world (.setHardware settings))
  | peek (address : Address) : Tame (.world (.peek address))
  | dump (blank : Word) : Tame (.world (.dump blank))

/-- The cell settles in the operation, or can do so from now on. -/
def Op.LetsSettle : Op → Prop
  | .world .settle => True
  | .world (.setHardware settings) => settings.isResponsive = true
  | _ => False

theorem ModeOp.becomes_run {board : Board Hardware} {settings : HardwareSettings}
    (start : board.surroundings = .fresh settings) (unscripted : settings.script = [])
    (config : Config) {op : ModeOp} (noReset : op.resets = false) :
    Board.Becomes (settings.isResponsive = true) board (op.run config board).2.2 := by
  have unmoved := Board.Becomes.refl (settings.isResponsive = true) board
  cases op with
  | resetCell => contradiction
  | start rate options modes => contradiction
  | wake => exact board.becomes_wake _
  | requestInitialization => exact board.becomes_requestInitialization _
  | requestNormal => exact board.becomes_requestNormal _
  | requestSleep => exact board.becomes_requestSleep _
  | enterInitialization => exact Board.becomes_enterInitialization start unscripted _
  | enterNormal => exact Board.becomes_enterNormal start unscripted _
  | reconfigure => exact Board.becomes_reconfigure start unscripted config
  | apply setup => exact Board.becomes_apply start unscripted _ setup
  | update change => exact unmoved
  | mode => exact unmoved
  | poll target => exact unmoved

namespace Session

/-- The cell may settle in the course of these operations. -/
def MaySettle (session : Session) (ops : List Op) : Prop :=
  session.board.surroundings.settings.isResponsive = true ∨ ∃ op ∈ ops, op.LetsSettle

/-- What a calm session comes to by one of these operations. -/
structure Advances (session : Session) (op : Op) (next : Session) : Prop where
  calm : next.Calm
  responsive : next.board.surroundings.settings.isResponsive = true → session.MaySettle [op]
  becomes : Board.Becomes (session.MaySettle [op]) session.ready.board next.board

theorem Advances.of_untouched {session next : Session} (calm : session.Calm) (op : Op)
    (untouched : session.ready.board.Untouched next.board)
    (silent : next.board.table.IsSilent) : session.Advances op next := by
  have settings := settings_of_untouched untouched
  exact ⟨⟨settings ▸ calm.unscripted, silent⟩, fun responsive => .inl (settings ▸ responsive),
    .of_eq _ untouched.memory untouched.writes⟩

/-- A step that does nothing. -/
theorem Advances.idle {session : Session} (calm : session.Calm) (op : Op) :
    session.Advances op session.ready :=
  .of_untouched calm op (.refl _) calm.silent

theorem advances_mode {session : Session} (calm : session.Calm) {op : ModeOp}
    (noReset : op.resets = false) :
    session.Advances (.mode op) (session.step (.mode op)).2 := by
  show session.Advances _ (session.ready.run (.mode op)).2
  cases driver : session.ready.config? with
  | none =>
      rw [run_mode_of_none driver]
      exact .idle calm _
  | some config =>
      have start := session.surroundings_ready
      have settings := (ModeOp.steered_run start calm.unscripted config noReset).settings
      have table := (op.undisturbed_run config session.ready.board).table
      have becomes := ModeOp.becomes_run start calm.unscripted config noReset
      rw [run_mode_of_some driver]
      exact ⟨⟨(congrArg HardwareSettings.script settings).trans calm.unscripted,
        table ▸ calm.silent⟩, fun responsive => .inl (settings ▸ responsive),
        becomes.mono .inl⟩

theorem advances_release {session : Session} (calm : session.Calm) :
    session.Advances .release (session.step .release).2 := by
  cases driver : session.config? with
  | none =>
      have refused : (session.step .release).2 = session.ready := by
        obtain ⟨board, config?⟩ := session
        cases driver
        rfl
      rw [refused]
      exact .idle calm _
  | some config =>
      have driven : session.config?.isSome = true := by rw [driver, Option.isSome_some]
      have table : session.ready.board.release.table.IsSilent := by
        rw [Board.table_release]
        exact HandlerTable.isSilent_empty
      rw [(step_release driven).2]
      exact .of_untouched calm _ ((Board.Untouched.refl _).release calm.silent) table

theorem advances_step {session : Session} (calm : session.Calm) {op : Op} (tame : op.Tame) :
    session.Advances op (session.step op).2 := by
  cases tame with
  | mode noReset => exact advances_mode calm noReset
  | interrupt interrupts quietly =>
      obtain ⟨untouched, silent, -⟩ := untouched_step calm.silent interrupts quietly
      exact .of_untouched calm op untouched silent
  | query op =>
      have same : (session.step (.query op)).2 = session.ready := by
        obtain ⟨board, _ | config⟩ := session <;> rfl
      rw [same]
      exact .idle calm _
  | release => exact advances_release calm
  | adopt config clock =>
      obtain ⟨board, _ | driver⟩ := session
      · exact ⟨⟨calm.unscripted, calm.silent⟩, .inl, .of_eq _ rfl rfl⟩
      · exact .idle calm _
  | settle =>
      refine ⟨⟨calm.unscripted, calm.silent⟩, .inl, [], rfl, .settle ?_ _⟩
      exact .inr ⟨_, List.mem_singleton_self _, trivial⟩
  | setHardware unscripted =>
      refine ⟨⟨unscripted, calm.silent⟩, fun responsive => ?_, .of_eq _ rfl rfl⟩
      exact .inr ⟨_, List.mem_singleton_self _, responsive⟩
  | peek address => exact .idle calm _
  | dump blank => exact .idle calm _

/-- The changes of a whole run, by the writes in its journals. -/
theorem advances_steps {session : Session} (calm : session.Calm) {ops : List Op}
    (tame : ∀ op ∈ ops, op.Tame) :
    Memory.Becomes (session.MaySettle ops) ((session.steps ops).1.flatMap (·.journal.writes))
      session.board.memory (session.steps ops).2.board.memory := by
  induction ops generalizing session with
  | nil => exact .refl _ _
  | cons op ops inductionHypothesis =>
      obtain ⟨head, tail⟩ := List.forall_mem_cons.mp tame
      obtain ⟨stillCalm, responsive, writes, journal, becomes⟩ := advances_step calm head
      have later := inductionHypothesis stillCalm tail
      have first : session.MaySettle [op] → session.MaySettle (op :: ops) := by
        rintro (already | ⟨other, listed, lets⟩)
        · exact .inl already
        · exact .inr ⟨other, by simp_all, lets⟩
      have rest : (session.step op).2.MaySettle ops → session.MaySettle (op :: ops) := by
        rintro (now | ⟨other, listed, lets⟩)
        · exact first (responsive now)
        · exact .inr ⟨other, List.mem_cons_of_mem op listed, lets⟩
      -- a step begins with an empty journal, so it reports its own writes only
      have reported : (session.step op).1.journal.writes = writes := journal
      rw [← reported] at becomes
      exact (becomes.mono first).trans (later.mono rest)

/-- A run moves requests and configuration in the control word, configuration in the words for
interrupts and timing, and acknowledges in the status word, and no other bit.  The driver's own
changes do not reach the status word; only the cell writes it, when it settles.  The writes in the
journals are the ones that make these changes, so the driver writes no register but these three, not
even to leave it as it is. -/
theorem run_keeps_background {session : Session}
    (unscripted : session.board.surroundings.settings.script = [])
    (silent : session.board.table.IsSilent) {ops : List Op} (tame : ∀ op ∈ ops, op.Tame) :
    let before := session.board.memory
    let after := (session.steps ops).2.board.memory
    (∀ address bit, (Memory.modeBits address).getLsbD bit = false →
      (after.get address).getLsbD bit = (before.get address).getLsbD bit) ∧
    (∃ changes, after = before.changeAll changes ∧
      (session.steps ops).1.flatMap (·.journal.writes) = before.writtenAll changes ∧
      (.settle ∈ changes → session.MaySettle ops) ∧
      (.settle ∉ changes → after.read .masterStatus = before.read .masterStatus)) ∧
    MasterControl.softwareReset.test (after.read .masterControl) =
      MasterControl.softwareReset.test (before.read .masterControl) ∧
    (∀ address, (∀ register ∈ Register.steering, address ≠ register.address) →
      after.get address = before.get address) ∧
    ∀ report ∈ (session.steps ops).1, ∀ write ∈ report.journal.writes,
      write.1 ∈ [.masterControl, .interruptEnable, .timingControl] := by
  intro before after
  obtain ⟨changes, reached, written, settles⟩ := advances_steps ⟨unscripted, silent⟩ tame
  have background : after.background = before.background := by
    rw [show after = before.changeAll changes from reached]
    exact before.background_changeAll changes
  refine ⟨fun address bit kept => Memory.getLsbD_eq_of_background background kept,
    ⟨changes, reached, written, settles, fun driver => ?_⟩, ?_,
    fun address apart => Memory.get_eq_of_background background apart,
    fun report reported write listed => ?_⟩
  · rw [show after = before.changeAll changes from reached]
    exact Memory.read_masterStatus_changeAll driver before
  · exact Memory.getLsbD_eq_of_background background (by decide)
  · have among : write ∈ (session.steps ops).1.flatMap (·.journal.writes) :=
      List.mem_flatMap.mpr ⟨report, reported, listed⟩
    rw [written] at among
    exact Memory.mem_registers_of_writtenAll among

/-- Odd bits all over the block.  A reconfiguration breaks off half way since the cell does not
answer, then the cell follows at last, while interrupts come in and the driver changes. -/
theorem frame_of_an_eventful_run :
    let handler : Handler := ⟨1, [], [.rx]⟩
    let session := Session.new (.filled 0xA5A5A5A5#32) 36000000 ⟨19, 19, 22⟩ ⟨false, 0, []⟩
      { Config.standard 500000 with pollLimit := ⟨2, 10⟩ }
    let ops : List Op := [.handler (.attach .tx handler), .handler (.setGate true),
      .mode .reconfigure, .world (.raise .tx), .world .settle, .world (.setHardware ⟨true, 0, []⟩),
      .release, .adopt (.standard 500000) none, .mode (.apply ⟨0#32, 0#32, 0#32⟩)]
    let before := session.board.memory
    let after := (session.steps ops).2.board.memory
    (∀ op ∈ ops, op.Tame) ∧
      after.read .masterControl ≠ before.read .masterControl ∧
      after.read .masterStatus ≠ before.read .masterStatus ∧
      MasterControl.softwareReset.test (after.read .masterControl) = true ∧
      after.read .transmitStatus = 0xA5A5A5A5#32 ∧
      (∃ changes, after = before.changeAll changes) ∧
      ∀ report ∈ (session.steps ops).1, ∀ write ∈ report.journal.writes,
        write.1 ≠ .masterStatus := by
  intro handler session ops before after
  have unscripted : session.board.surroundings.settings.script = [] := rfl
  have silent : session.board.table.IsSilent := HandlerTable.isSilent_empty
  have tame : ∀ op ∈ ops, op.Tame := by
    simp only [ops, List.forall_mem_cons]
    exact ⟨.interrupt rfl rfl, .interrupt rfl trivial, .mode rfl, .interrupt rfl trivial, .settle,
      .setHardware rfl, .release, .adopt _ _, .mode rfl, List.forall_mem_nil _⟩
  obtain ⟨-, ⟨changes, reached, -⟩, softwareReset, apart, writes⟩ :=
    run_keeps_background unscripted silent tame
  refine ⟨tame, by decide +kernel, by decide +kernel, softwareReset.trans (by decide), ?_,
    ⟨changes, reached⟩, fun report listed write written status => ?_⟩
  · exact (apart Register.transmitStatus.address (by decide)).trans (Memory.get_filled ..)
  · have allowed := writes report listed write written
    rw [status] at allowed
    exact absurd allowed (by decide)

end Session

end CanController

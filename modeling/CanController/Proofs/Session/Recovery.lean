import CanController.Proofs.Control.Reconfigure
import CanController.Session.Step

/-!
Recovery.  However mode control and configuration were used on a quiet cell, and wherever they were
broken off, they have moved nothing but requests, acknowledges and configuration bits.  The next
reconfiguration that succeeds replaces all of these, so the cell ends up as if there had been no
other.
-/

namespace CanController

/-- Whether the operation takes the cell through a reset. -/
def ModeOp.resets : ModeOp → Bool
  | resetCell | start .. => true
  | _ => false

/-- Mode control and configuration without a reset, on hardware that may settle and be exchanged,
but has no script. -/
inductive Op.Steers : Op → Prop
  | mode {op : ModeOp} (noReset : op.resets = false) : Steers (.mode op)
  | settle : Steers (.world .settle)
  | setHardware {settings : HardwareSettings} (unscripted : settings.script = []) :
      Steers (.world (.setHardware settings))

theorem ModeOp.steered_run {board : Board Hardware} {settings : HardwareSettings}
    (start : board.surroundings = .fresh settings) (unscripted : settings.script = [])
    (config : Config) {op : ModeOp} (noReset : op.resets = false) :
    board.Steered (op.run config board).2.2 := by
  have unmoved := Board.Steered.refl board
  cases op with
  | resetCell => contradiction
  | start rate options modes => contradiction
  | wake => exact unmoved.wake
  | requestInitialization => exact unmoved.requestInitialization
  | requestNormal => exact unmoved.requestNormal
  | requestSleep => exact unmoved.requestSleep
  | enterInitialization =>
      exact unmoved.requestInitialization.await (.of_start start unscripted) _ _
  | enterNormal => exact unmoved.requestNormal.await (.of_start start unscripted) _ _
  | reconfigure => exact Board.steered_reconfigure start unscripted config
  | apply setup => exact Board.steered_apply start unscripted _ setup
  | update change => exact unmoved
  | mode => exact unmoved
  | poll target => exact unmoved

theorem Reply.ofOutcome_eq_done_iff {outcome : Except Error Unit} :
    Reply.ofOutcome outcome = .done ↔ outcome = .ok () := by
  cases outcome with
  | error error => simp [ofOutcome, ofExcept]
  | ok done => simp [ofOutcome, ofExcept]

namespace Session

theorem run_mode_of_none {session : Session} (driver : session.config? = none) (op : ModeOp) :
    session.run (.mode op) = (.unavailable, session) := by
  simp [run, driver]

theorem run_mode_of_some {session : Session} {config : Config}
    (driver : session.config? = some config) (op : ModeOp) :
    session.run (.mode op) = ((op.run config session.board).1,
      ⟨(op.run config session.board).2.2, some (op.run config session.board).2.1⟩) := by
  simp [run, driver]

/-- Every step starts with the hardware's counters at zero. -/
theorem surroundings_ready (session : Session) : session.ready.board.surroundings =
    .fresh session.board.surroundings.settings := rfl

section Driven

variable {session : Session} {config : Config} (driver : session.config? = some config)
include driver

theorem step_mode (op : ModeOp) :
    (session.step (.mode op)).2 = ⟨(op.run config session.ready.board).2.2,
        some (op.run config session.ready.board).2.1⟩ ∧
      (session.step (.mode op)).1.reply = (op.run config session.ready.board).1 ∧
      (session.step (.mode op)).1.journal =
        (op.run config session.ready.board).2.2.journal := by
  obtain ⟨board, config?⟩ := session
  cases driver
  exact ⟨rfl, rfl, rfl⟩

theorem reply_reconfigure : (session.step (.mode .reconfigure)).1.reply =
    .ofOutcome (session.ready.board.reconfigure Hardware.environment config).1 :=
  (step_mode driver .reconfigure).2.1

theorem board_reconfigure : (session.step (.mode .reconfigure)).2.board =
    (session.ready.board.reconfigure Hardware.environment config).2 :=
  congrArg Session.board (step_mode driver .reconfigure).1

end Driven

/-- What steering has left as it was since `start`. -/
structure Steered (start session : Session) : Prop where
  background : session.board.memory.background = start.board.memory.background
  clock : session.board.clock = start.board.clock
  unscripted : session.board.surroundings.settings.script = []

theorem Steered.step {start session : Session} (steered : start.Steered session) {op : Op}
    (steers : op.Steers) : start.Steered (session.step op).2 := by
  obtain ⟨background, clock, unscripted⟩ := steered
  cases steers with
  | @mode op noReset =>
      show start.Steered (session.ready.run (.mode op)).2
      cases driver : session.ready.config? with
      | none =>
          rw [run_mode_of_none driver]
          exact ⟨background, clock, unscripted⟩
      | some config =>
          have moved : session.ready.board.Steered (op.run config session.ready.board).2.2 :=
            ModeOp.steered_run rfl unscripted config noReset
          rw [run_mode_of_some driver]
          exact ⟨moved.background.trans background, moved.clock.trans clock,
            (congrArg HardwareSettings.script moved.settings).trans unscripted⟩
  | settle => exact ⟨(Memory.background_settle _).trans background, clock, unscripted⟩
  | setHardware unscripted => exact ⟨background, clock, unscripted⟩

theorem Steered.steps {start session : Session} (steered : start.Steered session)
    {ops : List Op} (steers : ∀ op ∈ ops, op.Steers) : start.Steered (session.steps ops).2 := by
  induction ops generalizing session with
  | nil => exact steered
  | cons op ops inductionHypothesis =>
      obtain ⟨head, tail⟩ := List.forall_mem_cons.mp steers
      exact inductionHypothesis (steered.step head) tail

/-- A quiet session about to configure the cell as it was at the start of another one. -/
structure Outset (start : Session) (config : Config) (session : Session) : Prop where
  memory : session.board.memory = start.board.memory
  clock : session.board.clock = start.board.clock
  unscripted : session.board.surroundings.settings.script = []
  driver : session.config? = some config

/-- The reconfiguration that succeeds last decides about the whole memory.  It leaves what it would
have left as the first one, which would have succeeded on the same hardware, too. -/
theorem last_configuration_wins {session : Session}
    (unscripted : session.board.surroundings.settings.script = []) {ops : List Op}
    (steers : ∀ op ∈ ops, op.Steers) {config : Config}
    (driver : (session.steps ops).2.config? = some config)
    (succeeded : ((session.steps ops).2.step (.mode .reconfigure)).1.reply = .done) :
    let final := ((session.steps ops).2.step (.mode .reconfigure)).2.board.memory
    (∃ direct, session.Outset config direct ∧
      (direct.step (.mode .reconfigure)).1.reply = .done) ∧
    ∀ direct, session.Outset config direct →
      (direct.step (.mode .reconfigure)).1.reply = .done →
      (direct.step (.mode .reconfigure)).2.board.memory = final := by
  intro final
  have steered : session.Steered (session.steps ops).2 :=
    Steered.steps ⟨rfl, rfl, unscripted⟩ steers
  have ended := board_reconfigure driver
  rw [reply_reconfigure driver, Reply.ofOutcome_eq_done_iff] at succeeded
  refine ⟨?_, ?_⟩
  · obtain ⟨⟨setup, realized⟩, answered⟩ :=
      (Board.reconfigure_eq_ok_iff rfl steered.unscripted).mp succeeded
    refine ⟨⟨{ session.board with surroundings := (session.steps ops).2.board.surroundings },
      some config⟩, ⟨rfl, rfl, steered.unscripted, rfl⟩, ?_⟩
    rw [reply_reconfigure rfl, Reply.ofOutcome_eq_done_iff,
      Board.reconfigure_eq_ok_iff rfl steered.unscripted]
    refine ⟨⟨setup, ?_⟩, answered⟩
    rw [← realized]
    exact congrArg config.setup steered.clock.symm
  · intro direct outset reached
    rw [reply_reconfigure outset.driver, Reply.ofOutcome_eq_done_iff] at reached
    have background : direct.ready.board.memory.background =
        (session.steps ops).2.ready.board.memory.background :=
      (congrArg Memory.background outset.memory).trans steered.background.symm
    have clock : direct.ready.board.clock = (session.steps ops).2.ready.board.clock :=
      outset.clock.trans steered.clock.symm
    show _ = ((session.steps ops).2.step (.mode .reconfigure)).2.board.memory
    rw [board_reconfigure outset.driver, ended]
    exact Board.memory_reconfigure_eq rfl outset.unscripted rfl steered.unscripted background
      clock reached succeeded

/-- A foreign configuration that the cell does not follow, and sleep, have come in between. -/
theorem recovers_from_interruption :
    let session := Session.new .powerOn 36000000 ⟨19, 20, 22⟩ .prompt (.standard 500000)
    let ops : List Op :=
      [.mode (.update ⟨none, none, none, none, none, some ⟨2, 10⟩⟩), .mode .enterInitialization,
        .world (.setHardware ⟨false, 0, []⟩),
        .mode (.apply ⟨0x000100FC#32, 0x3#32, 0xC0000001#32⟩), .mode .requestSleep,
        .world .settle, .world (.setHardware ⟨true, 1, []⟩)]
    let last := (session.steps ops).2.step (.mode .reconfigure)
    (∀ op ∈ ops, op.Steers) ∧ last.1.reply = .done ∧
      ∀ direct, session.Outset { Config.standard 500000 with pollLimit := ⟨2, 10⟩ } direct →
        (direct.step (.mode .reconfigure)).1.reply = .done →
        (direct.step (.mode .reconfigure)).2.board.memory = last.2.board.memory := by
  intro session ops last
  have unscripted : session.board.surroundings.settings.script = [] := rfl
  have steers : ∀ op ∈ ops, op.Steers := by
    simp only [ops, List.forall_mem_cons]
    exact ⟨.mode rfl, .mode rfl, .setHardware rfl, .mode rfl, .mode rfl, .settle,
      .setHardware rfl, List.forall_mem_nil _⟩
  have driver : (session.steps ops).2.config? =
      some { Config.standard 500000 with pollLimit := ⟨2, 10⟩ } := by decide +kernel
  have succeeded : ((session.steps ops).2.step (.mode .reconfigure)).1.reply = .done := by
    decide +kernel
  have wins := last_configuration_wins unscripted steers driver succeeded
  rw [show last = (session.steps ops).2.step (.mode .reconfigure) from rfl]
  exact ⟨steers, succeeded, wins.2⟩

end Session

end CanController

import CanController.Proofs.Control.FreshStart
import CanController.Proofs.Control.Transition
import CanController.Proofs.Session.Recovery
import CanController.Proofs.Session.Requests

/-!
Putting the cell to sleep.  A request for sleep leaves a request for initialization as it is, and a
cell that settles heeds the latter first.  So whether a driver can put the cell to sleep depends on
how it has left initialization: it has to have withdrawn that request, or reset the cell, after the
last time it has made it or has broken off while making it.
-/

namespace CanController

/-- What an excursion into initialization makes of the request for it, if it sets out at all. -/
def Reply.initialization? : Reply → Option Bool
  | .failed (.unsupportedConfiguration _) => none
  | .failed (.timeout .initialization _) => some true
  | _ => some false

/-- What an operation that gets this reply makes of the request for initialization, if anything. -/
def ModeOp.initialization? (op : ModeOp) (reply : Reply) : Option Bool :=
  match op with
  | requestInitialization | enterInitialization => some true
  | requestNormal | enterNormal | resetCell => some false
  | reconfigure | apply _ => reply.initialization?
  -- The reset has come first, whatever becomes of the rest.
  | start .. => some (reply.initialization?.getD false)
  | wake | requestSleep | update _ | mode | poll _ => none

def Op.initialization? (op : Op) (reply : Reply) : Option Bool :=
  match op with
  | .mode op => op.initialization? reply
  | _ => none

/-- Mode control and configuration, resets included, on hardware that may settle and be exchanged,
but has no script. -/
inductive Op.Drives : Op → Prop
  | mode (op : ModeOp) : Drives (.mode op)
  | settle : Drives (.world .settle)
  | setHardware {settings : HardwareSettings} (unscripted : settings.script = []) :
      Drives (.world (.setHardware settings))

namespace Board

variable {board : Board Hardware} {settings : HardwareSettings}

theorem initialization_resetCell (board : Board Hardware) :
    board.resetCell.memory.flags.initialization = false :=
  Memory.flags_initialization_of_setup board.memory.setup_reset

theorem Poised.initialization_await (poised : board.Poised settings) (limit : PollLimit)
    (target : Mode) :
    (board.await Hardware.environment limit target).2.memory.flags.initialization =
      board.memory.flags.initialization :=
  Memory.flags_initialization_of_setup (poised.setup_await limit target)

section Start

variable (start : board.surroundings = .fresh settings) (unscripted : settings.script = [])
include start unscripted

/-- An excursion ends with the request it set out with, or with none if it has come inside. -/
theorem initialization_apply (limit : PollLimit) (setup : Setup) :
    (Reply.ofOutcome (board.apply Hardware.environment limit setup).1).initialization? =
      some (board.apply Hardware.environment limit setup).2.memory.flags.initialization := by
  rcases (excursion_apply Hardware.environment limit setup board).shut_or_opened
    (avoids_of_start start unscripted) with
    ⟨-, ⟨observed, failed⟩, words, -⟩ | ⟨_, -, -, ended, words, -⟩
  · rw [Memory.flags_initialization_of_setup words, Setup.test_requesting, failed]
    rfl
  · rw [Memory.flags_initialization_of_setup words,
      Setup.test_control_laidOver_of_request _ _ (by decide) (by decide)]
    rcases ended with succeeded | ⟨observed, failed⟩
    · rw [succeeded]
      rfl
    · rw [failed]
      rfl

theorem initialization_reconfigure (config : Config) :
    (board.reconfigure Hardware.environment config).2.memory.flags.initialization =
      (Reply.ofOutcome
        (board.reconfigure Hardware.environment config).1).initialization?.getD
          board.memory.flags.initialization := by
  cases realized : config.setup board.clock with
  | error cause =>
      rw [reconfigure_of_unsupported realized]
      rfl
  | ok setup =>
      rw [reconfigure_of_supported realized, initialization_apply start unscripted]
      rfl

end Start

end Board

namespace ModeOp

variable {board : Board Hardware} {settings : HardwareSettings}
  (start : board.surroundings = .fresh settings) (unscripted : settings.script = [])
  (config : Config)
include start unscripted

/-- Each operation does with the request for initialization what it is said to. -/
theorem initialization_run (op : ModeOp) :
    (op.run config board).2.2.memory.flags.initialization =
      (op.initialization? (op.run config board).1).getD board.memory.flags.initialization := by
  cases op with
  | wake => exact board.memory.initialization_obey .wake
  | requestInitialization => exact board.memory.initialization_obey .initialization
  | requestNormal => exact board.memory.initialization_obey .normal
  | requestSleep => exact board.memory.initialization_obey .sleep
  | enterInitialization =>
      have poised : board.requestInitialization.Poised settings := .of_start start unscripted
      exact (poised.initialization_await config.pollLimit .initialization).trans
        (board.memory.initialization_obey .initialization)
  | enterNormal =>
      have poised : board.requestNormal.Poised settings := .of_start start unscripted
      exact (poised.initialization_await config.pollLimit .normal).trans
        (board.memory.initialization_obey .normal)
  | resetCell => exact board.initialization_resetCell
  | start rate options modes =>
      have fresh : board.resetCell.surroundings = .fresh settings := start
      refine (Board.initialization_reconfigure fresh unscripted _).trans ?_
      rw [board.initialization_resetCell]
      rfl
  | reconfigure => exact Board.initialization_reconfigure start unscripted config
  | apply setup =>
      show _ = (Reply.ofOutcome (board.apply Hardware.environment config.pollLimit
        setup).1).initialization?.getD _
      rw [Board.initialization_apply start unscripted]
      rfl
  | update change => rfl
  | mode => rfl
  | poll target => rfl

theorem settings_run (op : ModeOp) :
    (op.run config board).2.2.surroundings.settings = settings := by
  have before : board.surroundings.settings = settings := congrArg Hardware.settings start
  cases op with
  | resetCell => exact before
  | start rate options modes => exact (Board.steered_start start unscripted _).settings.trans before
  | _ => exact (steered_run start unscripted config rfl).settings.trans before

end ModeOp

namespace Session

/-- Whether the cell is asked for initialization. -/
def initializationRequested (session : Session) : Bool :=
  MasterControl.initializationRequest.test (session.board.memory.read .masterControl)

/-- A driver at the cell, and hardware without a script. -/
structure Driven (session : Session) : Prop where
  driver : ∃ config, session.config? = some config
  unscripted : session.board.surroundings.settings.script = []

theorem Driven.step {session : Session} (driven : session.Driven) {op : Op}
    (drives : op.Drives) :
    (session.step op).2.Driven ∧ (session.step op).2.initializationRequested =
      (op.initialization? (session.step op).1.reply).getD session.initializationRequested := by
  obtain ⟨⟨config, driver⟩, unscripted⟩ := driven
  cases drives with
  | mode op =>
      obtain ⟨stepped, replied, -⟩ := step_mode driver op
      have settings := ModeOp.settings_run session.surroundings_ready unscripted config op
      rw [stepped, replied]
      exact ⟨⟨⟨_, rfl⟩, (congrArg HardwareSettings.script settings).trans unscripted⟩,
        ModeOp.initialization_run session.surroundings_ready unscripted config op⟩
  | settle =>
      exact ⟨⟨⟨config, driver⟩, unscripted⟩,
        session.board.memory.initialization_obey .settle⟩
  | setHardware unscripted => exact ⟨⟨⟨config, driver⟩, unscripted⟩, rfl⟩

/-- What the operations make of the request for initialization, one after the other. -/
def decisions (session : Session) (ops : List Op) : List Bool :=
  (ops.zip (session.steps ops).1).filterMap fun step => step.1.initialization? step.2.reply

theorem getD_getLast?_decisions_cons (session : Session) (op : Op) (ops : List Op) (before : Bool) :
    (session.decisions (op :: ops)).getLast?.getD before =
      ((session.step op).2.decisions ops).getLast?.getD
        ((op.initialization? (session.step op).1.reply).getD before) :=
  getD_getLast?_filterMap_cons (fun step : Op × Report => step.1.initialization? step.2.reply)
    (op, (session.step op).1) (ops.zip ((session.step op).2.steps ops).1) before

theorem Driven.steps {session : Session} (driven : session.Driven) {ops : List Op}
    (drives : ∀ op ∈ ops, op.Drives) :
    (session.steps ops).2.Driven ∧ (session.steps ops).2.initializationRequested =
      (session.decisions ops).getLast?.getD session.initializationRequested := by
  induction ops generalizing session with
  | nil => exact ⟨driven, rfl⟩
  | cons op ops inductionHypothesis =>
      obtain ⟨head, tail⟩ := List.forall_mem_cons.mp drives
      obtain ⟨still, requested⟩ := driven.step head
      obtain ⟨reached, last⟩ := inductionHypothesis still tail
      refine ⟨reached, last.trans ?_⟩
      rw [requested, getD_getLast?_decisions_cons]

/-- The mode that a row of requests and settlings ends with, by the flags alone. -/
theorem Driven.mode_steps {session : Session} (driven : session.Driven) (signals : List Signal) :
    (session.steps (signals.map Signal.toOp)).2.board.mode =
      (signals.foldl Flags.heed session.board.memory.flags).mode := by
  obtain ⟨config, driver⟩ := driven.driver
  rw [← Memory.flags_foldl_obey, ← (steps_toOp driver signals).2]
  rfl

/-- After any use of a quiet cell, sleep comes with the next request for it and settling, unless
initialization is still requested.  That is so where what was done last about that request has left
it behind: by making it, or by breaking off an excursion on the way in.  Sleep comes in any case
once the request is withdrawn. -/
theorem sleeps_unless_initialization_requested {session : Session} (driven : session.Driven)
    {ops : List Op} (drives : ∀ op ∈ ops, op.Drives) :
    let reached := (session.steps ops).2
    let requested := (session.decisions ops).getLast?.getD session.initializationRequested
    reached.initializationRequested = requested ∧
    (reached.steps [.mode .requestSleep, .world .settle]).2.board.mode =
      (if requested then .initialization else .sleep) ∧
    (reached.steps [.mode .requestNormal, .mode .requestSleep, .world .settle]).2.board.mode =
      .sleep := by
  intro reached requested
  obtain ⟨still, last⟩ := driven.steps drives
  refine ⟨last, ?_, still.mode_steps [.normal, .sleep, .settle]⟩
  rw [show requested = reached.initializationRequested from last.symm]
  exact still.mode_steps [.sleep, .settle]

/-- The cell did not answer to a reconfiguration, and the request was left behind. -/
theorem awake_after_interruption :
    let session := Session.new .powerOn 36000000 ⟨19, 20, 22⟩ ⟨false, 0, []⟩
      { Config.standard 500000 with pollLimit := ⟨2, 10⟩ }
    let reached := (session.steps [.mode .reconfigure]).2
    session.Driven ∧ Op.Drives (.mode .reconfigure) ∧
      (reached.steps [.mode .requestSleep, .world .settle]).2.board.mode = .initialization ∧
      (reached.steps [.mode .requestNormal, .mode .requestSleep, .world .settle]).2.board.mode =
        .sleep := by
  intro session reached
  have driven : session.Driven := ⟨⟨_, rfl⟩, rfl⟩
  have drives : ∀ op ∈ [Op.mode .reconfigure], op.Drives := by
    simp [Op.Drives.mode]
  have requested : (session.decisions [.mode .reconfigure]).getLast?.getD
      session.initializationRequested = true := by decide +kernel
  obtain ⟨-, mode, withdrawn⟩ := sleeps_unless_initialization_requested driven drives
  rw [requested] at mode
  exact ⟨driven, .mode .reconfigure, mode, withdrawn⟩

/-- It is not so that a request for sleep always puts the cell to sleep: out of initialization it
does not. -/
theorem stays_in_initialization :
    let session := Session.new .powerOn 36000000 ⟨19, 20, 22⟩ .prompt (.standard 500000)
    ¬ ∀ ops : List Op, (∀ op ∈ ops, op.Drives) →
      ((session.steps ops).2.steps [.mode .requestSleep, .world .settle]).2.board.mode =
        .sleep := by
  intro session sleeps
  have asleep := sleeps [.mode .enterInitialization] (by simp [Op.Drives.mode])
  revert asleep
  decide +kernel

end Session

end CanController

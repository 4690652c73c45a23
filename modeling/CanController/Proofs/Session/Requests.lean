import CanController.Proofs.Register.Flags
import CanController.Session.Step

/-!
Requests without waits.  A driver that only requests modes, and a cell that settles when it likes,
go through a session as the two flags do.  What is requested last holds, the two requests do not
touch each other but for the one for initialization, which wakes the cell first, and the mode does
not change until the cell settles.
-/

namespace CanController

/-- The operation that gives the signal. -/
def Signal.toOp : Signal → Op
  | wake => .mode .wake
  | initialization => .mode .requestInitialization
  | normal => .mode .requestNormal
  | sleep => .mode .requestSleep
  | settle => .world .settle

namespace Session

variable {session : Session} {config : Config}

theorem step_toOp (driver : session.config? = some config) (signal : Signal) :
    (session.step signal.toOp).2.config? = some config ∧
      (session.step signal.toOp).2.board.memory = session.board.memory.obey signal := by
  obtain ⟨board, config?⟩ := session
  cases driver
  cases signal <;> exact ⟨rfl, rfl⟩

theorem steps_toOp (driver : session.config? = some config) (signals : List Signal) :
    (session.steps (signals.map Signal.toOp)).2.config? = some config ∧
      (session.steps (signals.map Signal.toOp)).2.board.memory =
        signals.foldl Memory.obey session.board.memory := by
  induction signals generalizing session with
  | nil => exact ⟨driver, rfl⟩
  | cons signal signals inductionHypothesis =>
      obtain ⟨still, obeyed⟩ := step_toOp driver signal
      obtain ⟨driven, memory⟩ := inductionHypothesis still
      exact ⟨driven, memory.trans (by rw [obeyed]; rfl)⟩

/-- Any row of requests and settlings, from any memory.  The flags are where the last request that
has to do with them has put them; nothing else in the control word moves, a request writes no other
word, and the mode is what the flags request as soon as the cell has settled, and not before. -/
theorem requests_refine_flags (driver : session.config? = some config)
    (signals : List Signal) :
    let before := session.board.memory
    let final := (session.steps (signals.map Signal.toOp)).2
    let after := final.board.memory
    after.flags = signals.foldl Flags.heed before.flags ∧
    MasterControl.sleepRequest.test (after.read .masterControl) =
      (signals.filterMap Signal.sleep?).getLast?.getD
        (MasterControl.sleepRequest.test (before.read .masterControl)) ∧
    MasterControl.initializationRequest.test (after.read .masterControl) =
      (signals.filterMap Signal.initialization?).getLast?.getD
        (MasterControl.initializationRequest.test (before.read .masterControl)) ∧
    before.SameButMode after ∧
    (∀ signal : Signal, signal ≠ .settle → ∀ address, address ≠ Register.masterControl.address →
      (final.step signal.toOp).2.board.memory.get address = after.get address) ∧
    (signals.getLast? = some .settle → after.mode = after.flags.requested) ∧
    ∀ requests : List Signal, .settle ∉ requests →
      (final.steps (requests.map Signal.toOp)).2.board.mode = after.mode := by
  intro before final after
  obtain ⟨driven, reached⟩ := steps_toOp driver signals
  have obeyed : after = signals.foldl Memory.obey before := reached
  have flags : after.flags = signals.foldl Flags.heed before.flags := by
    rw [obeyed, Memory.flags_foldl_obey]
  refine ⟨flags, ?_, ?_, ?_, ?_, ?_, ?_⟩
  · exact (congrArg Flags.sleep flags).trans (Flags.sleep_foldl_heed ..)
  · exact (congrArg Flags.initialization flags).trans (Flags.initialization_foldl_heed ..)
  · rw [obeyed]
    exact .foldl_obey signals before
  · intro signal request address apart
    rw [(step_toOp driven signal).2]
    exact Memory.get_obey request apart _
  · intro settled
    have mode := Flags.mode_foldl_heed_of_settled before.flags settled
    rw [← flags] at mode
    exact mode
  · intro requests unsettled
    rw [Board.mode, (steps_toOp driven requests).2]
    have mode := Flags.mode_foldl_heed_of_unsettled after.flags unsettled
    rw [← Memory.flags_foldl_obey] at mode
    exact mode

/-- Out of initialization, a request for the bus does not end the sleep that was requested. -/
theorem requests_end_in_sleep :
    let session := Session.new (.filled 0xFFFFFFFF#32) 36000000 ⟨19, 20, 22⟩ .prompt
      (.standard 500000)
    let signals : List Signal := [.initialization, .settle, .sleep, .normal, .settle]
    let after := (session.steps (signals.map Signal.toOp)).2.board.memory
    session.config? = some (.standard 500000) ∧
      MasterControl.sleepRequest.test (after.read .masterControl) = true ∧
      MasterControl.initializationRequest.test (after.read .masterControl) = false ∧
      after.read .transmitStatus = 0xFFFFFFFF#32 ∧ after.mode = .sleep := by
  intro session signals after
  have driver : session.config? = some (.standard 500000) := rfl
  obtain ⟨-, sleep, initialization, rest, -, settled, -⟩ := requests_refine_flags driver signals
  have mode := settled rfl
  rw [Memory.flags, Flags.requested, initialization, sleep] at mode
  exact ⟨driver, sleep, initialization,
    (rest.others _ (by decide) (by decide)).trans (Memory.get_filled ..), mode⟩

end Session

end CanController

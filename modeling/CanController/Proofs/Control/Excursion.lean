import CanController.Control.Reconfigure
import CanController.Proofs.Control.Waiting
import CanController.Proofs.Register.Background

/-!
The excursion into initialization, by its three ways to end: initialization never shows, or it
shows and the cell then stays away from the bus, or the cell returns.  In surroundings that leave
the configuration words alone, these go from the old ones to the requesting ones and, once
initialization has shown, to the new ones laid over the old; no wait sees anything in between.
-/

namespace CanController.Board

variable {Surroundings : Type}

/-- The board on its way back to the bus, when initialization has shown after `entered` pauses. -/
def leaving (environment : Environment Surroundings) (interval : UInt32) (setup : Setup)
    (entered : Nat) (board : Board Surroundings) : Board Surroundings :=
  (((board.requestInitialization.paused environment interval entered).log
    (.entered .initialization)).configure setup).requestNormal

/-- How an excursion can end. -/
inductive Excursion (environment : Environment Surroundings) (limit : PollLimit) (setup : Setup)
    (board : Board Surroundings) : Except Error Unit × Board Surroundings → Prop
  | shut (misses : board.requestInitialization.Misses environment limit.interval .initialization
        limit.attempts.toNat) :
      Excursion environment limit setup board
        (.error (.timeout .initialization (board.requestInitialization.paused environment
            limit.interval limit.attempts.toNat).mode),
          board.requestInitialization.paused environment limit.interval limit.attempts.toNat)
  | stuck {entered : Nat} (within : entered ≤ limit.attempts.toNat)
      (reaches : board.requestInitialization.Reaches environment limit.interval .initialization
        entered)
      (misses : (board.leaving environment limit.interval setup entered).Misses environment
        limit.interval .normal limit.attempts.toNat) :
      Excursion environment limit setup board
        (.error (.timeout .normal ((board.leaving environment limit.interval setup
            entered).paused environment limit.interval limit.attempts.toNat).mode),
          (board.leaving environment limit.interval setup entered).paused environment
            limit.interval limit.attempts.toNat)
  | returned {entered left : Nat} {final : Board Surroundings}
      (within : entered ≤ limit.attempts.toNat)
      (reaches : board.requestInitialization.Reaches environment limit.interval .initialization
        entered)
      (inTime : left ≤ limit.attempts.toNat)
      (returns : (board.leaving environment limit.interval setup entered).Reaches environment
        limit.interval .normal left)
      (ended : final = (board.leaving environment limit.interval setup entered).paused environment
        limit.interval left) :
      Excursion environment limit setup board
        (.ok (), (final.log (.entered .normal)).log (.reconfigured final.memory.setup))

theorem Excursion.eq_apply {environment : Environment Surroundings} {limit : PollLimit}
    {setup : Setup} {board : Board Surroundings} {outcome : Except Error Unit × Board Surroundings}
    (excursion : Excursion environment limit setup board outcome) :
    board.apply environment limit setup = outcome := by
  cases excursion with
  | shut misses => rw [apply, enterInitialization, await, awaitMode_of_misses misses]
  | stuck within reaches misses =>
      have outside := awaitMode_of_misses misses
      rw [leaving] at outside
      rw [apply, enterInitialization, await, awaitMode_of_reaches reaches within]
      simp only [enterNormal, await, outside]
      rfl
  | returned within reaches inTime returns ended =>
      have outside := awaitMode_of_reaches returns inTime
      rw [leaving] at outside
      rw [apply, enterInitialization, await, awaitMode_of_reaches reaches within]
      simp only [enterNormal, await, outside, ended]
      rfl

theorem excursion_apply (environment : Environment Surroundings) (limit : PollLimit)
    (setup : Setup) (board : Board Surroundings) :
    Excursion environment limit setup board (board.apply environment limit setup) := by
  rcases reaches_or_misses environment limit.interval .initialization board.requestInitialization
    limit.attempts.toNat with
    ⟨entered, within, reaches⟩ | misses
  · rcases reaches_or_misses environment limit.interval .normal
      (board.leaving environment limit.interval setup entered) limit.attempts.toNat with
      ⟨left, inTime, returns⟩ | misses
    · have excursion := Excursion.returned within reaches inTime returns rfl
      rw [excursion.eq_apply]
      exact excursion
    · have excursion := Excursion.stuck within reaches misses
      rw [excursion.eq_apply]
      exact excursion
  · have excursion : Excursion environment limit setup board _ := .shut misses
    rw [excursion.eq_apply]
    exact excursion

theorem Excursion.mode_of_ok {environment : Environment Surroundings} {limit : PollLimit}
    {setup : Setup} {board : Board Surroundings} {outcome : Except Error Unit × Board Surroundings}
    (excursion : Excursion environment limit setup board outcome)
    (succeeded : outcome.1 = .ok ()) : outcome.2.mode = .normal := by
  cases excursion with
  | shut misses => contradiction
  | stuck within reaches misses => contradiction
  | returned within reaches inTime returns ended =>
      subst ended
      exact returns.shown

section Words

variable (board : Board Surroundings)

@[simp]
theorem pauses_log (record : LogRecord) :
    (board.log record).journal.pauses = board.journal.pauses :=
  Journal.pauses_push_logged ..

@[simp]
theorem pauses_modify (register : Register) (change : Word → Word) :
    (board.modify register change).journal.pauses = board.journal.pauses :=
  Journal.pauses_push_written ..

@[simp]
theorem pauses_requestInitialization :
    board.requestInitialization.journal.pauses = board.journal.pauses := by
  rw [requestInitialization, pauses_log, pauses_modify, wake, pauses_log, pauses_modify]

@[simp]
theorem pauses_requestNormal : board.requestNormal.journal.pauses = board.journal.pauses := by
  rw [requestNormal, pauses_log, pauses_modify]

@[simp]
theorem pauses_configure (setup : Setup) :
    (board.configure setup).journal.pauses = board.journal.pauses := by
  rw [configure, pauses_modify, pauses_modify, pauses_modify]

@[simp]
theorem setup_requestInitialization :
    board.requestInitialization.memory.setup = board.memory.setup.requesting := by
  have modified : board.requestInitialization.memory =
      (board.memory.modify .masterControl (MasterControl.sleepRequest.put false)).modify
        .masterControl (MasterControl.initializationRequest.put true) := rfl
  rw [modified]
  simp only [Memory.setup_modify_masterControl, MasterControl.withdraw_sleep,
    MasterControl.request_initialization, Setup.requesting]

theorem read_masterStatus_requestInitialization :
    board.requestInitialization.memory.read .masterStatus = board.memory.read .masterStatus := by
  have apart : Register.masterControl ≠ .masterStatus := by decide
  exact (Memory.read_modify_ne apart ..).trans (Memory.read_modify_ne apart ..)

theorem read_masterControl_requestInitialization :
    board.requestInitialization.memory.read .masterControl =
      board.memory.setup.requesting.control :=
  congrArg Setup.control (setup_requestInitialization board)

theorem mode_requestInitialization : board.requestInitialization.mode = board.mode := by
  rw [mode, Memory.mode, read_masterStatus_requestInitialization]
  rfl

end Words

section Leaving

variable {environment : Environment Surroundings} {interval : UInt32} {setup : Setup}
  {entered : Nat} {board : Board Surroundings}

theorem pauses_leaving :
    (board.leaving environment interval setup entered).journal.pauses =
      (board.requestInitialization.paused environment interval entered).journal.pauses := by
  rw [leaving, pauses_requestNormal, pauses_configure, pauses_log]

theorem read_masterStatus_leaving :
    (board.leaving environment interval setup entered).memory.read .masterStatus =
      (board.requestInitialization.paused environment interval entered).memory.read
        .masterStatus := by
  refine (Memory.read_modify_ne (by decide) ..).trans ?_
  refine (Memory.read_modify_ne (by decide) ..).trans ?_
  refine (Memory.read_modify_ne (by decide) ..).trans ?_
  exact Memory.read_modify_ne (by decide) ..

theorem mode_leaving
    (reaches : board.requestInitialization.Reaches environment interval .initialization entered) :
    (board.leaving environment interval setup entered).mode = .initialization := by
  rw [mode, Memory.mode, read_masterStatus_leaving]
  exact reaches.shown

theorem avoids_requestInitialization
    (avoids : environment.Avoids board.table Setup.addresses board.surroundings) :
    environment.Avoids board.requestInitialization.table Setup.addresses
      board.requestInitialization.surroundings :=
  avoids

theorem setup_waiting
    (avoids : environment.Avoids board.table Setup.addresses board.surroundings) (count : Nat) :
    (board.requestInitialization.paused environment interval count).memory.setup =
      board.memory.setup.requesting :=
  (setup_paused (avoids_requestInitialization avoids) count).trans
    (setup_requestInitialization board)

theorem setup_leaving
    (avoids : environment.Avoids board.table Setup.addresses board.surroundings) :
    (board.leaving environment interval setup entered).memory.setup =
      setup.laidOver board.memory.setup := by
  have waiting : (board.requestInitialization.paused environment interval entered).memory.setup =
      board.memory.setup.requesting := setup_waiting avoids entered
  have modified : (board.leaving environment interval setup entered).memory =
      ((board.requestInitialization.paused environment interval entered).memory.configure
        setup).modify .masterControl (MasterControl.initializationRequest.put false) := rfl
  rw [modified, Memory.setup_modify_masterControl, Memory.setup_configure, waiting,
    Setup.withdraw_merge_requesting]
  rfl

theorem read_masterControl_leaving
    (avoids : environment.Avoids board.table Setup.addresses board.surroundings) :
    (board.leaving environment interval setup entered).memory.read .masterControl =
      (setup.laidOver board.memory.setup).control :=
  congrArg Setup.control (setup_leaving avoids)

theorem setup_paused_leaving
    (avoids : environment.Avoids board.table Setup.addresses board.surroundings) (count : Nat) :
    ((board.leaving environment interval setup entered).paused environment interval
      count).memory.setup = setup.laidOver board.memory.setup := by
  have still : environment.Avoids (board.leaving environment interval setup entered).table
      Setup.addresses (board.leaving environment interval setup entered).surroundings := by
    have same : (board.leaving environment interval setup entered).table = board.table :=
      table_paused entered board.requestInitialization
    rw [same]
    exact avoids_paused (avoids_requestInitialization avoids) entered
  exact (setup_paused still count).trans (setup_leaving avoids)

theorem pauses_waiting
    (avoids : environment.Avoids board.table Setup.addresses board.surroundings) (count : Nat) :
    (board.requestInitialization.paused environment interval count).journal.pauses =
      board.journal.pauses ++ List.replicate count (board.memory.setup.requesting, interval) := by
  rw [pauses_paused (setup_waiting avoids), pauses_requestInitialization]

theorem pauses_paused_leaving
    (avoids : environment.Avoids board.table Setup.addresses board.surroundings) (count : Nat) :
    ((board.leaving environment interval setup entered).paused environment interval
      count).journal.pauses =
      board.journal.pauses ++ List.replicate entered (board.memory.setup.requesting, interval) ++
        List.replicate count (setup.laidOver board.memory.setup, interval) := by
  rw [pauses_paused (setup_paused_leaving avoids), pauses_leaving, pauses_waiting avoids]

end Leaving

/-- Where initialization never shows, the old configuration stays; where it shows, the new one is
in force from then on, whether or not the cell returns to the bus. -/
theorem Excursion.shut_or_opened {environment : Environment Surroundings} {limit : PollLimit}
    {setup : Setup} {board : Board Surroundings} {outcome : Except Error Unit × Board Surroundings}
    (avoids : environment.Avoids board.table Setup.addresses board.surroundings)
    (excursion : Excursion environment limit setup board outcome) :
    (board.requestInitialization.Misses environment limit.interval .initialization
          limit.attempts.toNat ∧
        (∃ observed, outcome.1 = .error (.timeout .initialization observed)) ∧
        outcome.2.memory.setup = board.memory.setup.requesting ∧
        outcome.2.journal.pauses = board.journal.pauses ++
          List.replicate limit.attempts.toNat (board.memory.setup.requesting, limit.interval)) ∨
      ∃ entered, entered ≤ limit.attempts.toNat ∧
        board.requestInitialization.Reaches environment limit.interval .initialization entered ∧
        (outcome.1 = .ok () ∨ ∃ observed, outcome.1 = .error (.timeout .normal observed)) ∧
        outcome.2.memory.setup = setup.laidOver board.memory.setup ∧
        ∃ later, later ≤ limit.attempts.toNat ∧
          outcome.2.journal.pauses = board.journal.pauses ++
            List.replicate entered (board.memory.setup.requesting, limit.interval) ++
            List.replicate later (setup.laidOver board.memory.setup, limit.interval) := by
  cases excursion with
  | shut misses =>
      exact .inl ⟨misses, ⟨_, rfl⟩, setup_waiting avoids _, pauses_waiting avoids _⟩
  | stuck within reaches misses =>
      exact .inr ⟨_, within, reaches, .inr ⟨_, rfl⟩, setup_paused_leaving avoids _,
        _, Nat.le_refl _, pauses_paused_leaving avoids _⟩
  | returned within reaches inTime returns ended =>
      subst ended
      refine .inr ⟨_, within, reaches, .inl rfl, setup_paused_leaving avoids _, _, inTime, ?_⟩
      rw [pauses_log, pauses_log, pauses_paused_leaving avoids]

theorem Excursion.setup_of_ok {environment : Environment Surroundings} {limit : PollLimit}
    {setup : Setup} {board : Board Surroundings} {outcome : Except Error Unit × Board Surroundings}
    (avoids : environment.Avoids board.table Setup.addresses board.surroundings)
    (excursion : Excursion environment limit setup board outcome)
    (succeeded : outcome.1 = .ok ()) :
    outcome.2.memory.setup = setup.laidOver board.memory.setup := by
  rcases excursion.shut_or_opened avoids with ⟨-, ⟨observed, failed⟩, -⟩ | ⟨_, -, -, -, words, -⟩
  · rw [failed] at succeeded
    contradiction
  · exact words

end CanController.Board

import CanController.Proofs.Board.Writes
import CanController.Proofs.Control.Reconfigure
import CanController.Proofs.Register.Changes

/-!
How mode control moves the memory of a quiet cell.  Every operation, whether or not it gets to its
end, makes a number of the driver's changes, and the cell may settle in between if it is responsive.
The writes in the journal are the ones that make these changes, and there are no others.
-/

namespace CanController.Board

variable {Surroundings : Type}

/-- What has been done to the cell between these boards are changes by the writes in the journal,
and the cell has settled only if it may. -/
def Becomes (maySettle : Prop) (before after : Board Surroundings) : Prop :=
  ∃ writes, after.journal.writes = before.journal.writes ++ writes ∧
    before.memory.Becomes maySettle writes after.memory

namespace Becomes

variable {maySettle : Prop} {first second third : Board Surroundings}

/-- Nothing has been done to the cell. -/
theorem of_eq (maySettle : Prop) (memory : second.memory = first.memory)
    (writes : second.journal.writes = first.journal.writes) : Becomes maySettle first second :=
  ⟨[], writes.trans (List.append_nil _).symm, memory ▸ .refl maySettle _⟩

theorem refl (maySettle : Prop) (board : Board Surroundings) : Becomes maySettle board board :=
  of_eq maySettle rfl rfl

theorem trans (early : Becomes maySettle first second) (late : Becomes maySettle second third) :
    Becomes maySettle first third := by
  obtain ⟨writes, grown, moved⟩ := early
  obtain ⟨more, grownMore, movedMore⟩ := late
  refine ⟨writes ++ more, ?_, moved.trans movedMore⟩
  rw [grownMore, grown, List.append_assoc]

theorem mono {weaker : Prop} (becomes : Becomes maySettle first second)
    (weakened : maySettle → weaker) : Becomes weaker first second := by
  obtain ⟨writes, grown, moved⟩ := becomes
  exact ⟨writes, grown, moved.mono weakened⟩

theorem log (becomes : Becomes maySettle first second) (record : LogRecord) :
    Becomes maySettle first (second.log record) :=
  becomes.trans (of_eq maySettle rfl (second.writes_log record))

theorem change (becomes : Becomes maySettle first second) {change : Memory.Change}
    (driver : change ≠ .settle) (memory : third.memory = second.memory.change change)
    (writes : third.journal.writes = second.journal.writes ++ second.memory.written change) :
    Becomes maySettle first third :=
  becomes.trans ⟨_, writes, memory ▸ .change driver _⟩

theorem sleep (becomes : Becomes maySettle first second) (isRequested : Bool) :
    Becomes maySettle first
      (second.modify .masterControl (MasterControl.sleepRequest.put isRequested)) :=
  becomes.change (show Memory.Change.sleep isRequested ≠ .settle by simp) rfl
    (second.writes_modify ..)

theorem initialization (becomes : Becomes maySettle first second) (isRequested : Bool) :
    Becomes maySettle first
      (second.modify .masterControl (MasterControl.initializationRequest.put isRequested)) :=
  becomes.change (show Memory.Change.initialization isRequested ≠ .settle by simp) rfl
    (second.writes_modify ..)

theorem configure (becomes : Becomes maySettle first second) (setup : Setup) :
    Becomes maySettle first (second.configure setup) :=
  becomes.change (show Memory.Change.configure setup ≠ .settle by simp) rfl
    (second.writes_configure setup)

end Becomes

section Requests

variable (maySettle : Prop) (board : Board Surroundings)

theorem becomes_wake : Becomes maySettle board board.wake :=
  ((Becomes.refl maySettle board).sleep false).log _

theorem becomes_requestSleep : Becomes maySettle board board.requestSleep :=
  ((Becomes.refl maySettle board).sleep true).log _

theorem becomes_requestInitialization : Becomes maySettle board board.requestInitialization :=
  ((board.becomes_wake maySettle).initialization true).log _

theorem becomes_requestNormal : Becomes maySettle board board.requestNormal :=
  ((Becomes.refl maySettle board).initialization false).log _

end Requests

variable {board : Board Hardware} {settings : HardwareSettings}

theorem becomes_paused (poised : board.Poised settings) (microseconds : UInt32) (count : Nat) :
    Becomes (settings.isResponsive = true) board
      (board.paused Hardware.environment microseconds count) := by
  refine ⟨[], ?_, ?_⟩
  · rw [writes_paused, List.append_nil]
  · rw [(poised.paused count).2.2]
    split
    next answered => exact .settle answered.1 board.memory
    next => exact .refl _ board.memory

theorem becomes_await (poised : board.Poised settings) (limit : PollLimit) (target : Mode) :
    Becomes (settings.isResponsive = true) board
      (board.await Hardware.environment limit target).2 := by
  rw [Board.await]
  rcases reaches_or_misses Hardware.environment limit.interval target board
    limit.attempts.toNat with ⟨count, within, reaches⟩ | misses
  · rw [awaitMode_of_reaches reaches within]
    exact (becomes_paused poised limit.interval count).log _
  · rw [awaitMode_of_misses misses]
    exact becomes_paused poised limit.interval _

section Quiet

variable (start : board.surroundings = .fresh settings) (unscripted : settings.script = [])
include start unscripted

theorem becomes_enterInitialization (limit : PollLimit) :
    Becomes (settings.isResponsive = true) board
      (board.enterInitialization Hardware.environment limit).2 :=
  (board.becomes_requestInitialization _).trans
    (becomes_await (poised_requestInitialization start unscripted) limit _)

theorem becomes_enterNormal (limit : PollLimit) :
    Becomes (settings.isResponsive = true) board
      (board.enterNormal Hardware.environment limit).2 := by
  have poised : board.requestNormal.Poised settings := .of_start start unscripted
  exact (board.becomes_requestNormal _).trans (becomes_await poised limit _)

theorem becomes_leaving (interval : UInt32) (setup : Setup) (entered : Nat) :
    Becomes (settings.isResponsive = true) board
      (board.leaving Hardware.environment interval setup entered) := by
  have waited := (board.becomes_requestInitialization (settings.isResponsive = true)).trans
    (becomes_paused (poised_requestInitialization start unscripted) interval entered)
  exact (((waited.log _).configure setup).initialization false).log _

theorem becomes_apply (limit : PollLimit) (setup : Setup) :
    Becomes (settings.isResponsive = true) board
      (board.apply Hardware.environment limit setup).2 := by
  have returning (entered count : Nat) : Becomes (settings.isResponsive = true) board
      ((board.leaving Hardware.environment limit.interval setup entered).paused
        Hardware.environment limit.interval count) :=
    (becomes_leaving start unscripted limit.interval setup entered).trans
      (becomes_paused (poised_leaving start unscripted entered) limit.interval count)
  have excursion := excursion_apply Hardware.environment limit setup board
  generalize board.apply Hardware.environment limit setup = outcome at excursion
  cases excursion with
  | shut misses =>
      exact (board.becomes_requestInitialization _).trans
        (becomes_paused (poised_requestInitialization start unscripted) limit.interval _)
  | stuck within reaches misses => exact returning _ _
  | returned within reaches inTime returns ended =>
      subst ended
      exact ((returning _ _).log _).log _

theorem becomes_reconfigure (config : Config) :
    Becomes (settings.isResponsive = true) board
      (board.reconfigure Hardware.environment config).2 := by
  cases realized : config.setup board.clock with
  | error cause =>
      rw [reconfigure_of_unsupported realized]
      exact .refl _ board
  | ok setup =>
      rw [reconfigure_of_supported realized]
      exact becomes_apply start unscripted config.pollLimit setup

end Quiet

end CanController.Board

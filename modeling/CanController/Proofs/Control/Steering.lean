import CanController.Control.Reconfigure
import CanController.Proofs.Board.QuietCell
import CanController.Proofs.Control.Waiting

/-!
What a step of mode control leaves as it was on a quiet cell: the background of the registers, the
clock and the hardware's settings.  Requests, configuration and the waits are each such a step, and
so is what is put together from them.
-/

namespace CanController.Board

/-- What mode control has left as it was since `start`. -/
structure Steered (start board : Board Hardware) : Prop where
  background : board.memory.background = start.memory.background
  clock : board.clock = start.clock
  settings : board.surroundings.settings = start.surroundings.settings

namespace Steered

theorem refl (board : Board Hardware) : Steered board board :=
  ⟨rfl, rfl, rfl⟩

variable {start board : Board Hardware}

theorem log (steered : start.Steered board) (record : LogRecord) :
    start.Steered (board.log record) :=
  ⟨steered.background, steered.clock, steered.settings⟩

theorem put (steered : start.Steered board) {register : Register} {field : Field}
    (moved : field.mask &&& ~~~Memory.modeBits register.address = 0) (value : Bool) :
    start.Steered (board.modify register (field.put value)) :=
  ⟨(Memory.background_put moved ..).trans steered.background, steered.clock, steered.settings⟩

theorem configure (steered : start.Steered board) (setup : Setup) :
    start.Steered (board.configure setup) :=
  ⟨(Memory.background_configure ..).trans steered.background, steered.clock, steered.settings⟩

theorem wake (steered : start.Steered board) : start.Steered board.wake :=
  (steered.put (by decide) _).log _

theorem requestSleep (steered : start.Steered board) : start.Steered board.requestSleep :=
  (steered.put (by decide) _).log _

theorem requestInitialization (steered : start.Steered board) :
    start.Steered board.requestInitialization :=
  (steered.wake.put (by decide) _).log _

theorem requestNormal (steered : start.Steered board) : start.Steered board.requestNormal :=
  (steered.put (by decide) _).log _

theorem paused (steered : start.Steered board) {settings : HardwareSettings}
    (poised : board.Poised settings) {microseconds : UInt32} (count : Nat) :
    start.Steered (board.paused Hardware.environment microseconds count) where
  background := (poised.background_paused count).trans steered.background
  clock := (clock_paused count board).trans steered.clock
  settings := (poised.paused count).1.trans (poised.settings_eq.symm.trans steered.settings)

theorem await (steered : start.Steered board) {settings : HardwareSettings}
    (poised : board.Poised settings) (limit : PollLimit) (target : Mode) :
    start.Steered (board.await Hardware.environment limit target).2 := by
  rw [Board.await]
  rcases reaches_or_misses Hardware.environment limit.interval target board
    limit.attempts.toNat with ⟨count, within, reaches⟩ | misses
  · rw [awaitMode_of_reaches reaches within]
    exact (steered.paused poised count).log _
  · rw [awaitMode_of_misses misses]
    exact steered.paused poised _

end Steered

end CanController.Board

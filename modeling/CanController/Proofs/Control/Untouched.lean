import CanController.Proofs.Board.Writes
import CanController.Proofs.Control.Attachment

/-!
Handlers that write no register.  Whatever is done to the interrupts then, and whoever runs in the
course of it, leaves the registers, the clock and the surroundings as they were, and the driver
writes no register for it.
-/

namespace CanController

/-- The handler writes nothing.  It may still dispatch other sources. -/
def Handler.IsSilent (handler : Handler) : Prop :=
  handler.writes = []

instance (handler : Handler) : Decidable handler.IsSilent :=
  inferInstanceAs (Decidable (_ = _))

namespace HandlerTable

def IsSilent (table : HandlerTable) : Prop :=
  ∀ source handler, table.slots.get source = some handler → handler.IsSilent

theorem isSilent_empty : empty.IsSilent := by
  intro source handler held
  rw [empty, PerSource.get_const] at held
  contradiction

theorem IsSilent.store {table : HandlerTable} (silent : table.IsSilent) (source : Source)
    {content : Option Handler} (quiet : ∀ handler, content = some handler → handler.IsSilent) :
    (table.store source content).IsSilent := by
  intro other handler held
  rw [HandlerTable.store, PerSource.get_set] at held
  split at held
  · exact quiet handler held
  · exact silent other handler held

theorem IsSilent.of_active? {table : HandlerTable} (silent : table.IsSilent) {source : Source}
    {handler : Handler} (active : table.active? source = some handler) : handler.IsSilent := by
  unfold active? at active
  split at active
  · exact silent source handler active
  · contradiction

end HandlerTable

namespace Board

variable {Surroundings : Type}

/-- What the interrupts have left as it was since `origin`. -/
structure Untouched (origin board : Board Surroundings) : Prop where
  memory : board.memory = origin.memory
  clock : board.clock = origin.clock
  surroundings : board.surroundings = origin.surroundings
  writes : board.journal.writes = origin.journal.writes

namespace Untouched

theorem refl (board : Board Surroundings) : Untouched board board :=
  ⟨rfl, rfl, rfl, rfl⟩

variable {origin board : Board Surroundings}

theorem record (untouched : origin.Untouched board) {event : Event}
    (unwritten : event.write? = none) : origin.Untouched (board.record event) :=
  ⟨untouched.memory, untouched.clock, untouched.surroundings,
    (board.writes_record unwritten).trans untouched.writes⟩

theorem log (untouched : origin.Untouched board) (record : LogRecord) :
    origin.Untouched (board.log record) :=
  untouched.record rfl

theorem withController (untouched : origin.Untouched board) (controller : Controller) :
    origin.Untouched { board with controller } :=
  ⟨untouched.memory, untouched.clock, untouched.surroundings, untouched.writes⟩

theorem withTable (untouched : origin.Untouched board) (table : HandlerTable) :
    origin.Untouched { board with table } :=
  ⟨untouched.memory, untouched.clock, untouched.surroundings, untouched.writes⟩

theorem store (untouched : origin.Untouched board) (source : Source)
    (content : Option Handler) : origin.Untouched (board.store source content) :=
  (untouched.withTable _).record rfl

theorem setGate (untouched : origin.Untouched board) (isOpen : Bool) :
    origin.Untouched (board.setGate isOpen) :=
  (untouched.withTable _).record rfl

theorem perform (untouched : origin.Untouched board) {handler : Handler}
    (silent : handler.IsSilent) : origin.Untouched (board.perform handler) := by
  rw [Board.perform, silent]
  exact ⟨untouched.memory, untouched.clock, untouched.surroundings, untouched.writes⟩

theorem runAll (untouched : origin.Untouched board) {calls : List (Source × Handler)}
    (silent : ∀ call ∈ calls, call.2.IsSilent) : origin.Untouched (board.runAll calls) := by
  induction calls generalizing board with
  | nil => exact untouched
  | cons call calls inductionHypothesis =>
      obtain ⟨head, tail⟩ := List.forall_mem_cons.mp silent
      exact inductionHypothesis ((untouched.record rfl).perform head) tail

section Silent

variable (untouched : origin.Untouched board) (silent : board.table.IsSilent)
include untouched silent

theorem dispatch (source : Source) : origin.Untouched (board.dispatch source) :=
  untouched.runAll fun _ called =>
    silent.of_active? (HandlerTable.active?_of_mem_callsWithin called)

theorem invoke {handler : Handler} (leaf : handler.IsSilent) :
    origin.Untouched (board.invoke handler) := by
  rw [Board.invoke, foldl_dispatch]
  refine ((untouched.record rfl).perform leaf).runAll fun call called => ?_
  obtain ⟨source, -, within⟩ := List.mem_flatMap.mp called
  exact silent.of_active? (HandlerTable.active?_of_mem_callsWithin within)

theorem raise (source : Source) : origin.Untouched (board.raise source) := by
  rw [Board.raise]
  split
  · exact untouched.dispatch silent source
  · exact untouched.withController _

theorem mask (line : Line) : origin.Untouched (board.mask line) := by
  rw [mask_eq]
  exact ((untouched.record rfl).runAll fun _ called =>
    silent.of_active? (active?_of_mem_callsOf called)).withController _

theorem unmask (line : Line) : origin.Untouched (board.unmask line) := by
  rw [unmask_eq]
  exact ((untouched.record rfl).runAll fun _ called =>
    silent.of_active? (active?_of_mem_callsOf called)).withController _

theorem attach (source : Source) {handler : Handler} (quiet : handler.IsSilent) :
    origin.Untouched (board.attach source handler) := by
  have exchanged : origin.Untouched (board.exchanged source handler) :=
    (untouched.mask silent _).store source (some handler)
  have stillSilent : (board.exchanged source handler).table.IsSilent := by
    rw [table_exchanged]
    refine silent.store source fun other same => ?_
    cases same
    exact quiet
  exact (exchanged.unmask stillSilent _).log _

theorem detach (source : Source) : origin.Untouched (board.detach source) :=
  ((untouched.mask silent _).store source none).log _

end Silent

end Untouched

theorem isSilent_detach {board : Board Surroundings} (silent : board.table.IsSilent)
    (source : Source) : (board.detach source).table.IsSilent := by
  rw [table_detach]
  exact silent.store source (by simp)

theorem Untouched.release {origin board : Board Surroundings}
    (untouched : origin.Untouched board) (silent : board.table.IsSilent) :
    origin.Untouched board.release := by
  have first := untouched.detach silent .tx
  have second := first.detach (isSilent_detach silent .tx) .rx
  have third := second.detach (isSilent_detach (isSilent_detach silent .tx) .rx) .statusChange
  exact third.setGate false

end Board

end CanController

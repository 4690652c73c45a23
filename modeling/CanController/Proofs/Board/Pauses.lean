import CanController.Board.Surroundings

/-!
What a pause can do.  Whatever the surroundings are, a pause adds itself to the pauses in the
journal and leaves the handler table and the clock as they are.  It moves memory by writes and
dispatched handlers only, so a word that all of these avoid stays what it was.
-/

namespace CanController

def Setup.addresses : List Address :=
  [Register.masterControl.address, Register.interruptEnable.address,
    Register.timingControl.address]

def Handler.Avoids (handler : Handler) (addresses : List Address) : Prop :=
  ∀ write ∈ handler.writes, write.1 ∉ addresses

instance (handler : Handler) (addresses : List Address) : Decidable (handler.Avoids addresses) :=
  inferInstanceAs (Decidable (∀ write ∈ handler.writes, write.1 ∉ addresses))

/-- Neither the effect nor a handler that it lets run writes one of the addresses. -/
def Effect.Avoids (table : HandlerTable) (addresses : List Address) : Effect → Prop
  | .write address _ => address ∉ addresses
  | .dispatch source => ∀ call ∈ table.calls source, call.2.Avoids addresses

instance (table : HandlerTable) (addresses : List Address) (effect : Effect) :
    Decidable (effect.Avoids table addresses) :=
  match effect with
  | .write address _ => inferInstanceAs (Decidable (address ∉ addresses))
  | .dispatch source =>
      inferInstanceAs (Decidable (∀ call ∈ table.calls source, call.2.Avoids addresses))

namespace Environment

variable {Surroundings : Type}

/-- What the surroundings may come to remember, whatever they see. -/
inductive Reachable (environment : Environment Surroundings) (start : Surroundings) :
    Surroundings → Prop
  | start : Reachable environment start start
  | react {surroundings : Surroundings} (microseconds : UInt32) (memory : Memory) :
      Reachable environment start surroundings →
      Reachable environment start (environment.react microseconds memory surroundings).2

/-- From these surroundings on, no pause writes one of the addresses. -/
def Avoids (environment : Environment Surroundings) (table : HandlerTable)
    (addresses : List Address) (start : Surroundings) : Prop :=
  ∀ surroundings, environment.Reachable start surroundings → ∀ microseconds memory,
    ∀ effect ∈ (environment.react microseconds memory surroundings).1,
      effect.Avoids table addresses

theorem Reachable.trans {environment : Environment Surroundings}
    {first second third : Surroundings} (early : environment.Reachable first second)
    (late : environment.Reachable second third) : environment.Reachable first third := by
  induction late with
  | start => exact early
  | react microseconds memory _ inductionHypothesis =>
      exact .react microseconds memory inductionHypothesis

theorem Avoids.react {environment : Environment Surroundings} {table : HandlerTable}
    {addresses : List Address} {start : Surroundings}
    (avoids : environment.Avoids table addresses start) (microseconds : UInt32)
    (memory : Memory) :
    environment.Avoids table addresses (environment.react microseconds memory start).2 := by
  intro surroundings reachable
  exact avoids surroundings ((Reachable.start.react microseconds memory).trans reachable)

end Environment

namespace Journal

variable (journal : Journal)

@[simp]
theorem pauses_push_paused (setup : Setup) (microseconds : UInt32) :
    pauses (journal.push (.paused setup microseconds)) =
      journal.pauses ++ [(setup, microseconds)] := by
  simp [pauses]

@[simp]
theorem pauses_push_written (register : Register) (word : Word) :
    pauses (journal.push (.written register word)) = journal.pauses := by
  simp [pauses]

@[simp]
theorem pauses_push_logged (record : LogRecord) (control : Word) :
    pauses (journal.push (.logged record control)) = journal.pauses := by
  simp [pauses]

@[simp]
theorem pauses_push_dispatched (source : Source) (handler : Handler) :
    pauses (journal.push (.dispatched source handler)) = journal.pauses := by
  simp [pauses]

end Journal

namespace Board

variable {Surroundings : Type} {View : Type}

/-- Neither handlers that run nor words written by the surroundings change the view. -/
structure Steady (view : Board Surroundings → View) : Prop where
  handler : ∀ board source handler,
    view ((board.record (.dispatched source handler)).perform handler) = view board
  write : ∀ board address word,
    view { board with memory := board.memory.set address word } = view board

namespace Steady

variable {view : Board Surroundings → View}

theorem runAll (steady : Steady view) (board : Board Surroundings)
    (calls : List (Source × Handler)) : view (board.runAll calls) = view board := by
  induction calls generalizing board with
  | nil => rfl
  | cons call calls inductionHypothesis =>
      rw [Board.runAll, List.foldl_cons]
      exact (inductionHypothesis _).trans (steady.handler board call.1 call.2)

theorem undergo (steady : Steady view) (board : Board Surroundings) (effect : Effect) :
    view (board.undergo effect) = view board := by
  cases effect with
  | write address word => exact steady.write board address word
  | dispatch source => exact steady.runAll board _

theorem undergoAll (steady : Steady view) (board : Board Surroundings)
    (effects : List Effect) : view (effects.foldl Board.undergo board) = view board := by
  induction effects generalizing board with
  | nil => rfl
  | cons effect effects inductionHypothesis =>
      rw [List.foldl_cons, inductionHypothesis, steady.undergo]

end Steady

theorem steady_table : Steady (fun board : Board Surroundings => board.table) :=
  ⟨fun _ _ _ => rfl, fun _ _ _ => rfl⟩

theorem steady_clock : Steady (fun board : Board Surroundings => board.clock) :=
  ⟨fun _ _ _ => rfl, fun _ _ _ => rfl⟩

theorem steady_surroundings : Steady (fun board : Board Surroundings => board.surroundings) :=
  ⟨fun _ _ _ => rfl, fun _ _ _ => rfl⟩

theorem steady_pauses : Steady (fun board : Board Surroundings => board.journal.pauses) :=
  ⟨fun board source handler => Journal.pauses_push_dispatched board.journal source handler,
    fun _ _ _ => rfl⟩

section Pause

variable (environment : Environment Surroundings) (microseconds : UInt32)
  (board : Board Surroundings)

@[simp]
theorem table_pause : (board.pause environment microseconds).table = board.table :=
  steady_table.undergoAll ..

@[simp]
theorem clock_pause : (board.pause environment microseconds).clock = board.clock :=
  steady_clock.undergoAll ..

theorem surroundings_pause : (board.pause environment microseconds).surroundings =
    (environment.react microseconds board.memory board.surroundings).2 :=
  steady_surroundings.undergoAll ..

theorem pauses_pause : (board.pause environment microseconds).journal.pauses =
    board.journal.pauses ++ [(board.memory.setup, microseconds)] :=
  (steady_pauses.undergoAll ..).trans (Journal.pauses_push_paused ..)

end Pause

theorem get_perform {handler : Handler} {addresses : List Address}
    (avoids : handler.Avoids addresses) {address : Address} (listed : address ∈ addresses)
    (board : Board Surroundings) :
    (board.perform handler).memory.get address = board.memory.get address := by
  have words (writes : List (Address × Word)) (memory : Memory)
      (apart : ∀ write ∈ writes, write.1 ∉ addresses) :
      (writes.foldl (fun memory write => memory.set write.1 write.2) memory).get address =
        memory.get address := by
    induction writes generalizing memory with
    | nil => rfl
    | cons write writes inductionHypothesis =>
        obtain ⟨head, tail⟩ := List.forall_mem_cons.mp apart
        rw [List.foldl_cons, inductionHypothesis _ tail]
        apply Memory.get_set_ne
        rintro rfl
        exact head listed
  exact words handler.writes board.memory avoids

theorem get_runAll {calls : List (Source × Handler)} {addresses : List Address}
    (avoids : ∀ call ∈ calls, call.2.Avoids addresses) {address : Address}
    (listed : address ∈ addresses) (board : Board Surroundings) :
    (board.runAll calls).memory.get address = board.memory.get address := by
  induction calls generalizing board with
  | nil => rfl
  | cons call calls inductionHypothesis =>
      obtain ⟨head, tail⟩ := List.forall_mem_cons.mp avoids
      rw [runAll, List.foldl_cons]
      exact (inductionHypothesis tail _).trans (get_perform head listed _)

theorem get_undergo {effect : Effect} {addresses : List Address} {board : Board Surroundings}
    (avoids : effect.Avoids board.table addresses) {address : Address}
    (listed : address ∈ addresses) :
    (board.undergo effect).memory.get address = board.memory.get address := by
  cases effect with
  | write place word =>
      apply Memory.get_set_ne
      rintro rfl
      exact avoids listed
  | dispatch source => exact get_runAll avoids listed board

theorem get_undergoAll {effects : List Effect} {addresses : List Address}
    (board : Board Surroundings)
    (avoids : ∀ effect ∈ effects, effect.Avoids board.table addresses) {address : Address}
    (listed : address ∈ addresses) :
    (effects.foldl undergo board).memory.get address = board.memory.get address := by
  induction effects generalizing board with
  | nil => rfl
  | cons effect effects inductionHypothesis =>
      obtain ⟨head, tail⟩ := List.forall_mem_cons.mp avoids
      rw [List.foldl_cons, inductionHypothesis, get_undergo head listed]
      rw [steady_table.undergo]
      exact tail

theorem get_pause {environment : Environment Surroundings} {addresses : List Address}
    {board : Board Surroundings}
    (avoids : environment.Avoids board.table addresses board.surroundings) {address : Address}
    (listed : address ∈ addresses) (microseconds : UInt32) :
    (board.pause environment microseconds).memory.get address = board.memory.get address :=
  get_undergoAll
    { board.record (.paused board.memory.setup microseconds) with
      surroundings := (environment.react microseconds board.memory board.surroundings).2 }
    (avoids board.surroundings .start microseconds board.memory) listed

/-- The board after so many pauses in a row. -/
def paused (environment : Environment Surroundings) (microseconds : UInt32) :
    Nat → Board Surroundings → Board Surroundings
  | 0, board => board
  | count + 1, board => paused environment microseconds count (board.pause environment microseconds)

section Paused

variable {environment : Environment Surroundings} {microseconds : UInt32}

theorem paused_succ (count : Nat) (board : Board Surroundings) :
    board.paused environment microseconds (count + 1) =
      (board.paused environment microseconds count).pause environment microseconds := by
  induction count generalizing board with
  | zero => rfl
  | succ count inductionHypothesis => exact inductionHypothesis _

@[simp]
theorem table_paused (count : Nat) (board : Board Surroundings) :
    (board.paused environment microseconds count).table = board.table := by
  induction count with
  | zero => rfl
  | succ count inductionHypothesis => rw [paused_succ, table_pause, inductionHypothesis]

@[simp]
theorem clock_paused (count : Nat) (board : Board Surroundings) :
    (board.paused environment microseconds count).clock = board.clock := by
  induction count with
  | zero => rfl
  | succ count inductionHypothesis => rw [paused_succ, clock_pause, inductionHypothesis]

section Avoids

variable {board : Board Surroundings} {addresses : List Address}

/-- Surroundings that avoid some words go on doing so, … -/
theorem avoids_paused (avoids : environment.Avoids board.table addresses board.surroundings)
    (count : Nat) :
    environment.Avoids board.table addresses
      (board.paused environment microseconds count).surroundings := by
  induction count with
  | zero => exact avoids
  | succ count inductionHypothesis =>
      rw [paused_succ, surroundings_pause]
      exact inductionHypothesis.react _ _

/-- … and leave them as they are. -/
theorem get_paused (avoids : environment.Avoids board.table addresses board.surroundings)
    {address : Address} (listed : address ∈ addresses) (count : Nat) :
    (board.paused environment microseconds count).memory.get address =
      board.memory.get address := by
  induction count with
  | zero => rfl
  | succ count inductionHypothesis =>
      have still : environment.Avoids (board.paused environment microseconds count).table
          addresses (board.paused environment microseconds count).surroundings := by
        rw [table_paused]
        exact avoids_paused avoids count
      rw [paused_succ, get_pause still listed, inductionHypothesis]

theorem setup_paused
    (avoids : environment.Avoids board.table Setup.addresses board.surroundings) (count : Nat) :
    (board.paused environment microseconds count).memory.setup = board.memory.setup := by
  have same {register : Register} (listed : register.address ∈ Setup.addresses) :
      (board.paused environment microseconds count).memory.read register =
        board.memory.read register :=
    get_paused avoids listed count
  rw [Memory.setup, same (by decide), same (by decide), same (by decide), Memory.setup]

end Avoids

/-- Pauses that leave the configuration words alone are all alike in the journal. -/
theorem pauses_paused {board : Board Surroundings} {setup : Setup}
    (fixed : ∀ count, (board.paused environment microseconds count).memory.setup = setup)
    (count : Nat) :
    (board.paused environment microseconds count).journal.pauses =
      board.journal.pauses ++ List.replicate count (setup, microseconds) := by
  induction count with
  | zero => simp [paused]
  | succ count inductionHypothesis =>
      rw [paused_succ, pauses_pause, inductionHypothesis, fixed, List.replicate_succ',
        List.append_assoc]

end Paused

end Board

end CanController

import CanController.Control.Mode
import CanController.Proofs.Board.Pauses

/-!
The bounded wait.  Either the mode shows after some number of pauses within the bound, and the wait
ends at the least such number, or it shows after none of them, and the wait ends at the bound.  The
two cases exclude each other and there is no third, so everything about a wait follows from the
boards after `0`, `1`, `2`, … pauses.
-/

namespace CanController.Board

variable {Surroundings : Type}

/-- The mode shows after `count` pauses and not before. -/
structure Reaches (environment : Environment Surroundings) (interval : UInt32) (target : Mode)
    (board : Board Surroundings) (count : Nat) : Prop where
  shown : (board.paused environment interval count).mode = target
  hidden : ∀ earlier, earlier < count →
    (board.paused environment interval earlier).mode ≠ target

/-- The mode does not show after any number of pauses up to `attempts`. -/
def Misses (environment : Environment Surroundings) (interval : UInt32) (target : Mode)
    (board : Board Surroundings) (attempts : Nat) : Prop :=
  ∀ count, count ≤ attempts → (board.paused environment interval count).mode ≠ target

variable {environment : Environment Surroundings} {interval : UInt32} {target : Mode}

theorem Reaches.unique {board : Board Surroundings} {one other : Nat}
    (first : board.Reaches environment interval target one)
    (second : board.Reaches environment interval target other) : one = other := by
  rcases Nat.lt_trichotomy one other with less | same | more
  · exact absurd first.shown (second.hidden one less)
  · exact same
  · exact absurd second.shown (first.hidden other more)

theorem Reaches.pause {board : Board Surroundings} {count : Nat}
    (reaches : board.Reaches environment interval target (count + 1)) :
    (board.pause environment interval).Reaches environment interval target count :=
  ⟨reaches.shown, fun earlier less => reaches.hidden (earlier + 1) (Nat.succ_lt_succ less)⟩

theorem Misses.pause {board : Board Surroundings} {attempts : Nat}
    (misses : board.Misses environment interval target (attempts + 1)) :
    (board.pause environment interval).Misses environment interval target attempts :=
  fun count within => misses (count + 1) (Nat.succ_le_succ within)

theorem reaches_or_misses (environment : Environment Surroundings) (interval : UInt32)
    (target : Mode) (board : Board Surroundings) (attempts : Nat) :
    (∃ count, count ≤ attempts ∧ board.Reaches environment interval target count) ∨
      board.Misses environment interval target attempts := by
  induction attempts generalizing board with
  | zero =>
      by_cases shown : board.mode = target
      · exact .inl ⟨0, Nat.le_refl 0, shown, by simp⟩
      · right
        intro count within
        rw [Nat.le_zero.mp within]
        exact shown
  | succ attempts inductionHypothesis =>
      by_cases shown : board.mode = target
      · exact .inl ⟨0, Nat.zero_le _, shown, by simp⟩
      rcases inductionHypothesis (board.pause environment interval) with
        ⟨count, within, reaches⟩ | misses
      · refine .inl ⟨count + 1, Nat.succ_le_succ within, reaches.shown, ?_⟩
        intro earlier less
        cases earlier with
        | zero => exact shown
        | succ earlier => exact reaches.hidden earlier (Nat.lt_of_succ_lt_succ less)
      · right
        intro count within
        cases count with
        | zero => exact shown
        | succ count => exact misses count (Nat.le_of_succ_le_succ within)

theorem awaitMode_of_reaches {board : Board Surroundings} {count attempts : Nat}
    (reaches : board.Reaches environment interval target count) (within : count ≤ attempts) :
    awaitMode environment target interval attempts board =
      (.ok (), (board.paused environment interval count).log (.entered target)) := by
  induction count generalizing board attempts with
  | zero =>
      have shown : board.mode = target := reaches.shown
      cases attempts <;> rw [awaitMode, if_pos shown, paused]
  | succ count inductionHypothesis =>
      have hidden : board.mode ≠ target := reaches.hidden 0 (Nat.succ_pos count)
      cases attempts with
      | zero => exact absurd within (Nat.not_succ_le_zero count)
      | succ attempts =>
          rw [awaitMode, if_neg hidden, paused]
          exact inductionHypothesis reaches.pause (Nat.le_of_succ_le_succ within)

theorem awaitMode_of_misses {board : Board Surroundings} {attempts : Nat}
    (misses : board.Misses environment interval target attempts) :
    awaitMode environment target interval attempts board =
      (.error (.timeout target (board.paused environment interval attempts).mode),
        board.paused environment interval attempts) := by
  induction attempts generalizing board with
  | zero =>
      have hidden : board.mode ≠ target := misses 0 (Nat.le_refl 0)
      rw [awaitMode, if_neg hidden, paused]
  | succ attempts inductionHypothesis =>
      have hidden : board.mode ≠ target := misses 0 (Nat.zero_le _)
      rw [awaitMode, if_neg hidden, paused]
      exact inductionHypothesis misses.pause

end CanController.Board

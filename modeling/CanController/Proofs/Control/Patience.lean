import CanController.Proofs.Board.QuietCell
import CanController.Proofs.Board.Writes
import CanController.Proofs.Control.Excursion

/-!
How long the driver waits.  It counts its pauses in a machine word, and stops as soon as the mode
shows or the word has reached the bound, so the word never wraps.  What the surroundings do during
the pauses is up to them: the outcome is read off the modes that show after `0`, `1`, `2`, …
pauses, and a word that they leave alone is what it was when the wait began.
-/

namespace CanController

/-- How long each of the pauses was to last. -/
def Journal.intervals (journal : Journal) : List UInt32 :=
  journal.pauses.map Prod.snd

/-- A counter below a bound of its own size does not wrap. -/
theorem toNat_add_one_of_lt {made bound : UInt32} (early : made < bound) :
    (made + 1).toNat = made.toNat + 1 := by
  have small : made.toNat + 1 < UInt32.size :=
    Nat.lt_of_le_of_lt (UInt32.lt_iff_toNat_lt.mp early) bound.toNat_lt
  rw [UInt32.toNat_add]
  exact Nat.mod_eq_of_lt small

namespace Board

variable {Surroundings : Type}

/-- The wait with its counter in view, which starts at `made` and ends up beside the outcome. -/
def awaitFrom (environment : Environment Surroundings) (limit : PollLimit) (target : Mode)
    (made : UInt32) (board : Board Surroundings) :
    Except Error Unit × UInt32 × Board Surroundings :=
  if board.mode = target then (.ok (), made, board.log (.entered target))
  else if made < limit.attempts then
    awaitFrom environment limit target (made + 1) (board.pause environment limit.interval)
  else (.error (.timeout target board.mode), made, board)
termination_by limit.attempts.toNat - made.toNat
decreasing_by
  next early =>
    have counted := toNat_add_one_of_lt early
    have below := UInt32.lt_iff_toNat_lt.mp early
    omega

section Counter

variable {environment : Environment Surroundings} {limit : PollLimit} {target : Mode}
  {board : Board Surroundings}

/-- While the mode is hidden and the bound not reached, one more pause is made and counted. -/
theorem awaitFrom_of_hidden {made : Nat} (hidden : board.mode ≠ target)
    (early : made < limit.attempts.toNat) :
    awaitFrom environment limit target (.ofNat made) board =
      awaitFrom environment limit target (.ofNat (made + 1))
        (board.pause environment limit.interval) := by
  have small : made < UInt32.size := Nat.lt_trans early limit.attempts.toNat_lt
  have below : UInt32.ofNat made < limit.attempts := by
    rw [UInt32.lt_iff_toNat_lt, UInt32.toNat_ofNat_of_lt' small]
    exact early
  rw [awaitFrom, if_neg hidden, if_pos below, UInt32.ofNat_add]
  rfl

/-- After pauses that have not shown the mode, the counter is at their number. -/
theorem awaitFrom_paused {count : Nat}
    (hidden : ∀ earlier, earlier < count →
      (board.paused environment limit.interval earlier).mode ≠ target)
    (within : count ≤ limit.attempts.toNat) :
    awaitFrom environment limit target (.ofNat count)
        (board.paused environment limit.interval count) =
      awaitFrom environment limit target 0 board := by
  induction count with
  | zero => rfl
  | succ count inductionHypothesis =>
      rw [paused_succ, ← awaitFrom_of_hidden (hidden count (Nat.lt_succ_self count)) within]
      exact inductionHypothesis (fun earlier less => hidden earlier (Nat.lt_succ_of_lt less))
        (Nat.le_of_succ_le within)

theorem awaitFrom_of_reaches {count : Nat}
    (reaches : board.Reaches environment limit.interval target count)
    (within : count ≤ limit.attempts.toNat) :
    awaitFrom environment limit target 0 board =
      (.ok (), .ofNat count, (board.paused environment limit.interval count).log
        (.entered target)) := by
  rw [← awaitFrom_paused reaches.hidden within, awaitFrom, if_pos reaches.shown]

theorem awaitFrom_of_misses
    (misses : board.Misses environment limit.interval target limit.attempts.toNat) :
    awaitFrom environment limit target 0 board =
      (.error (.timeout target
          (board.paused environment limit.interval limit.attempts.toNat).mode),
        limit.attempts, board.paused environment limit.interval limit.attempts.toNat) := by
  have hidden := misses limit.attempts.toNat (Nat.le_refl _)
  have spent : ¬ UInt32.ofNat limit.attempts.toNat < limit.attempts := by
    rw [UInt32.ofNat_toNat]
    exact UInt32.lt_irrefl _
  rw [← awaitFrom_paused (fun earlier less => misses earlier (Nat.le_of_lt less)) (Nat.le_refl _),
    awaitFrom, if_neg hidden, if_neg spent, UInt32.ofNat_toNat]

end Counter

section Pauses

variable {environment : Environment Surroundings} {microseconds : UInt32}

theorem intervals_paused (count : Nat) (board : Board Surroundings) :
    (board.paused environment microseconds count).journal.intervals =
      board.journal.intervals ++ List.replicate count microseconds := by
  induction count with
  | zero => simp [paused]
  | succ count inductionHypothesis =>
      rw [paused_succ, Journal.intervals, pauses_pause, List.map_append, ← Journal.intervals,
        inductionHypothesis, List.replicate_succ', List.append_assoc]
      rfl

theorem intervals_log (board : Board Surroundings) (record : LogRecord) :
    (board.log record).journal.intervals = board.journal.intervals :=
  congrArg (List.map Prod.snd) (pauses_log board record)

end Pauses

/-- A wait that began on the board `begun` has made exactly so many pauses and has this outcome. -/
structure Waited (environment : Environment Surroundings) (limit : PollLimit) (target : Mode)
    (begun : Board Surroundings) (made : Nat) (outcome : Except Error Unit × Board Surroundings) :
    Prop where
  within : made ≤ limit.attempts.toNat
  /-- It succeeds if and only if the mode shows in time. -/
  ok_iff : outcome.1 = .ok () ↔ ∃ count, count ≤ limit.attempts.toNat ∧
    (begun.paused environment limit.interval count).mode = target
  /-- It stops at once when the mode shows. -/
  least : outcome.1 = .ok () → begun.Reaches environment limit.interval target made
  /-- It fails at the bound, with what it has seen last. -/
  late : outcome.1 ≠ .ok () → made = limit.attempts.toNat ∧
    outcome.1 = .error (.timeout target (begun.paused environment limit.interval made).mode) ∧
    (begun.paused environment limit.interval made).mode ≠ target
  mode : outcome.2.mode = (begun.paused environment limit.interval made).mode
  intervals : outcome.2.journal.intervals =
    begun.journal.intervals ++ List.replicate made limit.interval
  writes : outcome.2.journal.writes = begun.journal.writes
  memory : outcome.2.memory = (begun.paused environment limit.interval made).memory
  /-- Only the surroundings write words. -/
  kept : ∀ addresses, environment.Avoids begun.table addresses begun.surroundings →
    ∀ address ∈ addresses, outcome.2.memory.get address = begun.memory.get address
  /-- The counter is at the number of the pauses each time the driver looks, … -/
  counting : ∀ count, count ≤ made →
    awaitFrom environment limit target (.ofNat count)
        (begun.paused environment limit.interval count) =
      awaitFrom environment limit target 0 begun
  /-- … and at the end. -/
  counted : awaitFrom environment limit target 0 begun = (outcome.1, .ofNat made, outcome.2)

theorem waited_await (environment : Environment Surroundings) (limit : PollLimit) (target : Mode)
    (begun : Board Surroundings) :
    ∃ made, Waited environment limit target begun made
      (begun.await environment limit target) := by
  rcases reaches_or_misses environment limit.interval target begun limit.attempts.toNat with
    ⟨count, within, reaches⟩ | misses
  · rw [await, awaitMode_of_reaches reaches within]
    refine ⟨count, {
      within
      ok_iff := ⟨fun _ => ⟨count, within, reaches.shown⟩, fun _ => rfl⟩
      least := fun _ => reaches
      late := fun failed => absurd rfl failed
      mode := rfl
      intervals := (intervals_log ..).trans (intervals_paused ..)
      writes := (writes_log ..).trans (writes_paused ..)
      memory := rfl
      kept := fun _ avoids _ listed => get_paused avoids listed count
      counting := fun earlier less => awaitFrom_paused
        (fun before sooner => reaches.hidden before (Nat.lt_of_lt_of_le sooner less))
        (Nat.le_trans less within)
      counted := awaitFrom_of_reaches reaches within }⟩
  · rw [await, awaitMode_of_misses misses]
    have never : ¬ ∃ count, count ≤ limit.attempts.toNat ∧
        (begun.paused environment limit.interval count).mode = target := by
      rintro ⟨count, within, shown⟩
      exact misses count within shown
    refine ⟨limit.attempts.toNat, {
      within := Nat.le_refl _
      ok_iff := ⟨fun succeeded => by contradiction, fun shows => absurd shows never⟩
      least := fun succeeded => by contradiction
      late := fun _ => ⟨rfl, rfl, misses _ (Nat.le_refl _)⟩
      mode := rfl
      intervals := intervals_paused ..
      writes := writes_paused ..
      memory := rfl
      kept := fun _ avoids _ listed => get_paused avoids listed _
      counting := fun earlier less => awaitFrom_paused
        (fun before sooner => misses before (Nat.le_trans (Nat.le_of_lt sooner) less)) less
      counted := by rw [UInt32.ofNat_toNat]; exact awaitFrom_of_misses misses }⟩

/-- An excursion makes at most twice as many pauses as one wait may, succeeds on the bus only, and
fails with the mode that the cell is in. -/
structure Bounded (limit : PollLimit) (board : Board Surroundings)
    (outcome : Except Error Unit × Board Surroundings) : Prop where
  intervals : ∃ made, made ≤ 2 * limit.attempts.toNat ∧ outcome.2.journal.intervals =
    board.journal.intervals ++ List.replicate made limit.interval
  normal : outcome.1 = .ok () → outcome.2.mode = .normal
  observed : ∀ target observed, outcome.1 = .error (.timeout target observed) →
    outcome.2.mode = observed ∧ observed ≠ target

theorem intervals_requestInitialization (board : Board Surroundings) :
    board.requestInitialization.journal.intervals = board.journal.intervals :=
  congrArg (List.map Prod.snd) (pauses_requestInitialization board)

theorem intervals_leaving {environment : Environment Surroundings} {interval : UInt32}
    {setup : Setup} {entered : Nat} {board : Board Surroundings} :
    (board.leaving environment interval setup entered).journal.intervals =
      board.journal.intervals ++ List.replicate entered interval := by
  rw [Journal.intervals, pauses_leaving, ← Journal.intervals, intervals_paused,
    intervals_requestInitialization]

theorem intervals_paused_leaving {environment : Environment Surroundings} {interval : UInt32}
    {setup : Setup} {entered count : Nat} {board : Board Surroundings} :
    ((board.leaving environment interval setup entered).paused environment interval
        count).journal.intervals =
      board.journal.intervals ++ List.replicate (entered + count) interval := by
  rw [intervals_paused, intervals_leaving, List.append_assoc, List.replicate_append_replicate]

section Excursions

variable (environment : Environment Surroundings) (board : Board Surroundings)

theorem bounded_apply (limit : PollLimit) (setup : Setup) :
    board.Bounded limit (board.apply environment limit setup) := by
  have excursion := excursion_apply environment limit setup board
  refine ⟨?_, excursion.mode_of_ok, ?_⟩
  all_goals generalize board.apply environment limit setup = outcome at excursion
  · cases excursion with
    | shut misses =>
        refine ⟨_, Nat.le_mul_of_pos_left _ Nat.two_pos, ?_⟩
        rw [intervals_paused, intervals_requestInitialization]
    | stuck within reaches misses =>
        refine ⟨_, ?_, intervals_paused_leaving⟩
        omega
    | @returned entered left final within reaches inTime returns ended =>
        subst ended
        refine ⟨entered + left, by omega, ?_⟩
        rw [intervals_log, intervals_log, intervals_paused_leaving]
  · intro target observed failed
    cases excursion with
    | shut misses =>
        cases failed
        exact ⟨rfl, misses _ (Nat.le_refl _)⟩
    | stuck within reaches misses =>
        cases failed
        exact ⟨rfl, misses _ (Nat.le_refl _)⟩
    | returned within reaches inTime returns ended => contradiction

theorem bounded_reconfigure (config : Config) :
    board.Bounded config.pollLimit (board.reconfigure environment config) := by
  cases realized : config.setup board.clock with
  | error cause =>
      rw [reconfigure_of_unsupported realized]
      exact ⟨⟨0, Nat.zero_le _, (List.append_nil _).symm⟩, nofun, nofun⟩
  | ok setup =>
      rw [reconfigure_of_supported realized]
      exact board.bounded_apply environment config.pollLimit setup

end Excursions

section Requests

variable (board : Board Surroundings)

theorem writes_requestInitialization :
    board.requestInitialization.journal.writes = board.journal.writes ++
      [(.masterControl, board.memory.read .masterControl &&& ~~~2#32),
        (.masterControl, (board.memory.read .masterControl &&& ~~~2#32) ||| 1#32)] := by
  have awake : board.wake.memory.read .masterControl =
      board.memory.read .masterControl &&& ~~~2#32 :=
    (Memory.read_modify_self ..).trans (MasterControl.withdraw_sleep _)
  have woken : board.wake.journal.writes = board.journal.writes ++
      [(.masterControl, board.memory.read .masterControl &&& ~~~2#32)] := by
    rw [wake, writes_log, writes_modify, MasterControl.withdraw_sleep]
  rw [requestInitialization, writes_log, writes_modify, woken, awake,
    MasterControl.request_initialization, List.append_assoc]
  rfl

theorem writes_requestNormal :
    board.requestNormal.journal.writes = board.journal.writes ++
      [(.masterControl, board.memory.read .masterControl &&& ~~~1#32)] := by
  rw [requestNormal, writes_log, writes_modify, MasterControl.withdraw_initialization]

end Requests

theorem intervals_resetCell (board : Board Surroundings) :
    board.resetCell.journal.intervals = board.journal.intervals := by
  simp [resetCell, log, record, Journal.intervals, Journal.pauses]

/-- In any surroundings a wait ends at the first pause that shows the mode, or at the bound with
what it has seen last.  The request before it writes the control word, the wait itself writes
nothing.  All that is made of waits is bounded by them. -/
theorem waits_are_exact (environment : Environment Surroundings) (board : Board Surroundings) :
    (∀ limit, ∃ made, Waited environment limit .initialization board.requestInitialization made
      (board.enterInitialization environment limit)) ∧
    (∀ limit, ∃ made, Waited environment limit .normal board.requestNormal made
      (board.enterNormal environment limit)) ∧
    (board.requestInitialization.journal.writes = board.journal.writes ++
      [(.masterControl, board.memory.read .masterControl &&& ~~~2#32),
        (.masterControl, (board.memory.read .masterControl &&& ~~~2#32) ||| 1#32)]) ∧
    (board.requestNormal.journal.writes = board.journal.writes ++
      [(.masterControl, board.memory.read .masterControl &&& ~~~1#32)]) ∧
    (∀ limit setup, board.Bounded limit (board.apply environment limit setup)) ∧
    (∀ config : Config,
      board.Bounded config.pollLimit (board.reconfigure environment config)) ∧
    ∀ (config : Config) rate options modes, board.Bounded config.pollLimit
      (board.start environment (config.start rate options modes)) := by
  refine ⟨fun limit => waited_await .., fun limit => waited_await ..,
    board.writes_requestInitialization, board.writes_requestNormal,
    board.bounded_apply environment, board.bounded_reconfigure environment,
    fun config rate options modes => ?_⟩
  obtain ⟨⟨made, within, intervals⟩, normal, observed⟩ :=
    board.resetCell.bounded_reconfigure environment (config.start rate options modes)
  rw [intervals_resetCell] at intervals
  exact ⟨⟨made, within, intervals⟩, normal, observed⟩

/-- An acknowledge at the very last pause still counts. -/
example :
    let board := atPowerOn ⟨false, 0, [⟨2, .write Register.masterStatus.address 1#32⟩]⟩
    (board.enterInitialization Hardware.environment ⟨2, 10⟩).1 = .ok () ∧
      (board.enterInitialization Hardware.environment ⟨1, 10⟩).1 =
        .error (.timeout .initialization .sleep) :=
  ⟨rfl, rfl⟩

end Board

end CanController

import CanController.Proofs.Control.QuietExcursion
import CanController.Proofs.Register.Hexadecimal

/-!
The log of an excursion.  Only the driver logs, and a wait logs nothing but its success, so what
the surroundings do during the pauses does not show.  Where they leave the configuration words
alone, the result decides the log: each way for the excursion to end is a longer part of the same
six records.  The control words in them are the old one without its request for sleep, the
requesting one and the new one.
-/

namespace CanController

namespace LogRecord

/-- A record as it is written: its level, its text, and the control word of its moment. -/
def written (entry : LogRecord × Word) : String × String × Word :=
  (entry.1.level.name, entry.1.message, entry.2)

end LogRecord

namespace Setup

def openingLog (old : Setup) : List (LogRecord × Word) :=
  [(.sleepCleared, old.control &&& ~~~2#32), (.initializationRequested, old.requesting.control)]

def windowLog (new old : Setup) : List (LogRecord × Word) :=
  [(.entered .initialization, old.requesting.control),
    (.normalRequested, (new.laidOver old).control)]

def closingLog (new old : Setup) : List (LogRecord × Word) :=
  [(.entered .normal, (new.laidOver old).control),
    (.reconfigured (new.laidOver old), (new.laidOver old).control)]

/-- What an excursion from `old` to `new` adds to the log when it ends with this result. -/
def excursionLog (new old : Setup) : Except Error Unit → List (LogRecord × Word)
  | .ok () => old.openingLog ++ new.windowLog old ++ new.closingLog old
  | .error (.timeout .normal _) => old.openingLog ++ new.windowLog old
  | .error _ => old.openingLog

section Listed

variable {new old : Setup} {result : Except Error Unit} {moment : Word}

theorem ne_of_entered_initialization
    (listed : (.entered .initialization, moment) ∈ new.excursionLog old result)
    (observed : Mode) : result ≠ .error (.timeout .initialization observed) := by
  rintro rfl
  simp [excursionLog, openingLog] at listed

theorem not_entered_sleep : (.entered .sleep, moment) ∉ new.excursionLog old result := by
  unfold excursionLog
  split <;> simp [openingLog, windowLog, closingLog]

/-- Only success adds more than the first four records. -/
theorem ok_of_mem_excursionLog {entry : LogRecord × Word}
    (listed : entry ∈ new.excursionLog old result)
    (late : entry ∉ old.openingLog ++ new.windowLog old) : result = .ok () := by
  unfold excursionLog at listed
  split at listed
  next => rfl
  next => exact absurd listed late
  next => exact absurd (List.mem_append_left _ listed) late

theorem ok_of_entered_normal
    (listed : (.entered .normal, moment) ∈ new.excursionLog old result) : result = .ok () :=
  ok_of_mem_excursionLog listed (by simp [openingLog, windowLog])

theorem ok_of_reconfigured {words : Setup}
    (listed : (.reconfigured words, moment) ∈ new.excursionLog old result) : result = .ok () :=
  ok_of_mem_excursionLog listed (by simp [openingLog, windowLog])

end Listed

end Setup

namespace Journal

variable (journal : Journal)

@[simp]
theorem log_push_logged (record : LogRecord) (control : Word) :
    log (journal.push (.logged record control)) = journal.log ++ [(record, control)] := by
  simp [log]

@[simp]
theorem log_push_written (register : Register) (word : Word) :
    log (journal.push (.written register word)) = journal.log := by
  simp [log]

@[simp]
theorem log_push_paused (setup : Setup) (microseconds : UInt32) :
    log (journal.push (.paused setup microseconds)) = journal.log := by
  simp [log]

@[simp]
theorem log_push_dispatched (source : Source) (handler : Handler) :
    log (journal.push (.dispatched source handler)) = journal.log := by
  simp [log]

end Journal

namespace Board

variable {Surroundings : Type}

theorem log_log (board : Board Surroundings) (record : LogRecord) :
    (board.log record).journal.log =
      board.journal.log ++ [(record, board.memory.read .masterControl)] :=
  Journal.log_push_logged ..

theorem log_modify (board : Board Surroundings) (register : Register) (change : Word → Word) :
    (board.modify register change).journal.log = board.journal.log :=
  Journal.log_push_written ..

theorem steady_log : Steady (fun board : Board Surroundings => board.journal.log) :=
  ⟨fun board source handler => Journal.log_push_dispatched board.journal source handler,
    fun _ _ _ => rfl⟩

theorem log_pause (environment : Environment Surroundings) (microseconds : UInt32)
    (board : Board Surroundings) :
    (board.pause environment microseconds).journal.log = board.journal.log :=
  (steady_log.undergoAll ..).trans (Journal.log_push_paused ..)

theorem log_paused {environment : Environment Surroundings} {microseconds : UInt32}
    (count : Nat) (board : Board Surroundings) :
    (board.paused environment microseconds count).journal.log = board.journal.log := by
  induction count with
  | zero => rfl
  | succ count inductionHypothesis => rw [paused_succ, log_pause, inductionHypothesis]

theorem log_requestInitialization (board : Board Surroundings) :
    board.requestInitialization.journal.log =
      board.journal.log ++ board.memory.setup.openingLog := by
  have woken : board.wake.memory.read .masterControl =
      board.memory.setup.control &&& ~~~2#32 := by
    refine (Memory.read_modify_self ..).trans ?_
    exact MasterControl.withdraw_sleep _
  have cleared : board.wake.journal.log =
      board.journal.log ++ [(.sleepCleared, board.memory.setup.control &&& ~~~2#32)] := by
    rw [← woken, wake, log_log, log_modify]
    rfl
  have requested : board.requestInitialization.journal.log = board.wake.journal.log ++
      [(.initializationRequested, board.memory.setup.requesting.control)] := by
    rw [← read_masterControl_requestInitialization, requestInitialization, log_log, log_modify]
    rfl
  rw [requested, cleared, List.append_assoc]
  rfl

section Leaving

variable {environment : Environment Surroundings} {interval : UInt32} {setup : Setup}
  {board : Board Surroundings}
  (avoids : environment.Avoids board.table Setup.addresses board.surroundings)
include avoids

theorem log_leaving (entered : Nat) :
    (board.leaving environment interval setup entered).journal.log = board.journal.log ++
      board.memory.setup.openingLog ++ setup.windowLog board.memory.setup := by
  have waiting : (board.requestInitialization.paused environment interval entered).memory.read
      .masterControl = board.memory.setup.requesting.control :=
    congrArg Setup.control (setup_waiting avoids entered)
  have shown : ((board.requestInitialization.paused environment interval entered).log
      (.entered .initialization)).journal.log = board.journal.log ++
        board.memory.setup.openingLog ++
        [(.entered .initialization, board.memory.setup.requesting.control)] := by
    rw [log_log, waiting, log_paused, log_requestInitialization]
  have left : (board.leaving environment interval setup entered).journal.log =
      ((board.requestInitialization.paused environment interval entered).log
        (.entered .initialization)).journal.log ++
        [(.normalRequested, (setup.laidOver board.memory.setup).control)] := by
    rw [← read_masterControl_leaving avoids, leaving, requestNormal, log_log, log_modify, configure]
    simp only [log_modify]
    rfl
  rw [left, shown, List.append_assoc]
  rfl

theorem log_returned (entered left : Nat) {final : Board Surroundings}
    (ended : final =
      (board.leaving environment interval setup entered).paused environment interval left) :
    ((final.log (.entered .normal)).log (.reconfigured final.memory.setup)).journal.log =
      board.journal.log ++ board.memory.setup.openingLog ++
        setup.windowLog board.memory.setup ++ setup.closingLog board.memory.setup := by
  have words : final.memory.setup = setup.laidOver board.memory.setup := by
    rw [ended, setup_paused_leaving avoids]
  have control : final.memory.read .masterControl = (setup.laidOver board.memory.setup).control :=
    congrArg Setup.control words
  have still : (final.log (.entered .normal)).memory.read .masterControl =
      final.memory.read .masterControl := rfl
  rw [log_log, still, log_log, control, words, ended, log_paused, log_leaving avoids,
    List.append_assoc]
  rfl

end Leaving

theorem log_apply {environment : Environment Surroundings} {board : Board Surroundings}
    (avoids : environment.Avoids board.table Setup.addresses board.surroundings)
    (limit : PollLimit) (setup : Setup) :
    (board.apply environment limit setup).2.journal.log = board.journal.log ++
      setup.excursionLog board.memory.setup (board.apply environment limit setup).1 := by
  have excursion := excursion_apply environment limit setup board
  generalize board.apply environment limit setup = outcome at excursion
  cases excursion with
  | shut misses => exact (log_paused ..).trans (log_requestInitialization board)
  | stuck within reaches misses =>
      refine (log_paused ..).trans ?_
      rw [log_leaving avoids, List.append_assoc]
      rfl
  | returned within reaches inTime returns ended =>
      rw [log_returned avoids _ _ ended, List.append_assoc, List.append_assoc]
      rfl

/-- The log of an excursion on a quiet cell: six records, of which a failure has the first two or
the first four.  The texts of words in the last record spell the words that are left behind. -/
theorem log_tells_progress {board : Board Hardware} (quiet : board.surroundings.Quiet)
    (limit : PollLimit) (setup : Setup) :
    let control := board.memory.read .masterControl
    let woken := control &&& ~~~2#32
    let requesting := woken ||| 1#32
    let final := (control &&& ~~~(MasterControl.configMask ||| 3#32)) |||
      (setup.control &&& MasterControl.configMask)
    let outcome := board.apply Hardware.environment limit setup
    let words := outcome.2.memory.setup
    let opening : List (String × String × Word) :=
      [("trace", "sleep request cleared", woken),
        ("trace", "initialization requested", requesting)]
    let window : List (String × String × Word) :=
      [("trace", "entered Initialization mode", requesting),
        ("trace", "normal mode requested", final)]
    let closing : List (String × String × Word) :=
      [("trace", "entered Normal mode", final),
        ("debug", "reconfigured: mcr " ++ Word.hex words.control ++ " ier " ++
          Word.hex words.interrupts ++ " btr " ++ Word.hex words.timing, final)]
    (outcome.1 = .ok () ∨ (∃ observed, outcome.1 = .error (.timeout .initialization observed)) ∨
      ∃ observed, outcome.1 = .error (.timeout .normal observed)) ∧
    ∃ added, outcome.2.journal.log = board.journal.log ++ added ∧
      (outcome.1 = .ok () →
        added.map LogRecord.written = opening ++ window ++ closing ∧
        words.control = final ∧
        Word.Spells (Word.hex words.control) words.control ∧
        Word.Spells (Word.hex words.interrupts) words.interrupts ∧
        Word.Spells (Word.hex words.timing) words.timing) ∧
      (∀ observed, outcome.1 = .error (.timeout .initialization observed) →
        added.map LogRecord.written = opening) ∧
      (∀ observed, outcome.1 = .error (.timeout .normal observed) →
        added.map LogRecord.written = opening ++ window) ∧
      (∀ mode moment, (.entered mode, moment) ∈ added →
        (mode = .initialization ∧ ∃ count, count ≤ limit.attempts.toNat ∧
          (board.requestInitialization.paused Hardware.environment limit.interval count).mode =
            mode) ∨
        (mode = .normal ∧ outcome.1 = .ok () ∧ outcome.2.mode = mode)) ∧
      (∀ shown moment, (.reconfigured shown, moment) ∈ added → outcome.1 = .ok ()) := by
  intro control woken requesting final outcome words opening window closing
  have avoids : Hardware.environment.Avoids board.table Setup.addresses board.surroundings :=
    quiet.avoids board.table
  have excursion : Excursion Hardware.environment limit setup board outcome :=
    excursion_apply Hardware.environment limit setup board
  have ended := excursion.shut_or_opened avoids
  have told : outcome.2.journal.log =
      board.journal.log ++ setup.excursionLog board.memory.setup outcome.1 :=
    log_apply avoids limit setup
  refine ⟨?_, setup.excursionLog board.memory.setup outcome.1, told, ?_, ?_, ?_, ?_, ?_⟩
  · rcases ended with ⟨-, failed, -⟩ | ⟨_, -, -, succeeded | failed, -⟩
    · exact .inr (.inl failed)
    · exact .inl succeeded
    · exact .inr (.inr failed)
  · intro succeeded
    have left : words = setup.laidOver board.memory.setup :=
      excursion.setup_of_ok avoids succeeded
    refine ⟨?_, congrArg Setup.control left, Word.spells_hex _, Word.spells_hex _,
      Word.spells_hex _⟩
    show _ = opening ++ window ++ [("trace", "entered Normal mode", final),
      ("debug", (LogRecord.reconfigured words).message, final)]
    rw [succeeded, left]
    rfl
  · intro observed failed
    rw [failed]
    rfl
  · intro observed failed
    rw [failed]
    rfl
  · intro mode moment listed
    cases mode with
    | sleep => exact absurd listed Setup.not_entered_sleep
    | initialization =>
        rcases ended with ⟨-, ⟨observed, failed⟩, -⟩ | ⟨count, within, reaches, -⟩
        · exact absurd failed (Setup.ne_of_entered_initialization listed observed)
        · exact .inl ⟨rfl, count, within, reaches.shown⟩
    | normal =>
        have succeeded : outcome.1 = .ok () := Setup.ok_of_entered_normal listed
        exact .inr ⟨rfl, succeeded, excursion.mode_of_ok succeeded⟩
  · intro shown moment listed
    exact Setup.ok_of_reconfigured listed

/-- Out of sleep: the first control word has the sleep request gone, the second asks to
initialize, and the last is the new one. -/
theorem log_at_power_on :
    let board := atPowerOn ⟨true, 2, []⟩
    let outcome := board.apply Hardware.environment ⟨3, 10⟩ ⟨0x54#32, 0x3#32, 0x001C0005#32⟩
    board.surroundings.Quiet ∧ outcome.1 = .ok () ∧
      outcome.2.journal.log.map LogRecord.written =
        [("trace", "sleep request cleared", 0x00010000#32),
          ("trace", "initialization requested", 0x00010001#32),
          ("trace", "entered Initialization mode", 0x00010001#32),
          ("trace", "normal mode requested", 0x54#32),
          ("trace", "entered Normal mode", 0x54#32),
          ("debug", "reconfigured: mcr 0x00000054 ier 0x00000003 btr 0x001c0005", 0x54#32)] := by
  intro board outcome
  have quiet : board.surroundings.Quiet := rfl
  have avoids : Hardware.environment.Avoids board.table Setup.addresses board.surroundings :=
    quiet.avoids board.table
  have succeeded : outcome.1 = .ok () :=
    (apply_eq_ok_iff (show board.surroundings = .fresh ⟨true, 2, []⟩ from rfl) rfl ⟨3, 10⟩
      ⟨0x54#32, 0x3#32, 0x001C0005#32⟩).mpr (by decide)
  have words : outcome.2.memory.setup = ⟨0x54#32, 0x3#32, 0x001C0005#32⟩ := by
    have excursion := excursion_apply Hardware.environment ⟨3, 10⟩
      ⟨0x54#32, 0x3#32, 0x001C0005#32⟩ board
    refine (excursion.setup_of_ok avoids succeeded).trans ?_
    rw [setup_atPowerOn]
    decide
  obtain ⟨-, added, told, answered, -⟩ :=
    log_tells_progress quiet ⟨3, 10⟩ ⟨0x54#32, 0x3#32, 0x001C0005#32⟩
  obtain ⟨written, -⟩ := answered succeeded
  refine ⟨quiet, succeeded, ?_⟩
  rw [told, List.map_append, written, words]
  decide

end Board

end CanController

import CanController.Proofs.Control.Attachment
import CanController.Proofs.Control.Undisturbed
import CanController.Session.Step

/-!
The trace of a session: the events of all its steps.  Slots and gate change exactly as the
operations say that were taken, and every handler that runs does so as the table of its moment
says.  A step is accounted for operation by operation, a run by putting its steps together.
-/

namespace CanController

/-- What the operation puts into slots, in order. -/
def Op.slotChanges : Op → List (Source × Option Handler)
  | .handler (.attach source attached) => [(source, some attached)]
  | .handler (.detach source) => [(source, none)]
  | .release => Source.all.map (·, none)
  | _ => []

def Op.gateChanges : Op → List Bool
  | .handler (.setGate isOpen) => [isOpen]
  | .release => [false]
  | _ => []

theorem Op.eq_attach_of_mem_slotChanges {op : Op} {source : Source} {handler : Handler}
    (attaches : (source, some handler) ∈ op.slotChanges) :
    op = .handler (.attach source handler) := by
  cases op with
  | handler op =>
      cases op with
      | attach other attached =>
          cases List.mem_singleton.mp attaches
          rfl
      | _ => simp [slotChanges] at attaches
  | _ => simp [slotChanges] at attaches

theorem Op.eq_setGate_of_mem_gateChanges {op : Op} (opens : true ∈ op.gateChanges) :
    op = .handler (.setGate true) := by
  cases op with
  | handler op =>
      cases op with
      | setGate isOpen =>
          rw [List.mem_singleton.mp opens]
      | _ => simp [gateChanges] at opens
  | _ => simp [gateChanges] at opens

/-- A handler is run by hand in no other operation. -/
def Op.IsInvocation : Op → Prop
  | .handler (.invoke _) => True
  | _ => False

namespace Session

def trace (session : Session) (ops : List Op) : List Event :=
  (session.steps ops).1.flatMap (·.journal.toList)

/-- The operations that were not refused for want of a driver, or because there was one already. -/
def taken (session : Session) : List Op → List Op
  | [] => []
  | op :: ops =>
      let (report, next) := session.step op
      if report.reply = .unavailable then next.taken ops else op :: next.taken ops

/-- The session of a cell with this wiring, some while after its first driver took it over. -/
def Reachable (wiring : PerSource Line) (session : Session) : Prop :=
  ∃ memory clock settings config ops,
    session = ((Session.new memory clock wiring settings config).steps ops).2

/-- The events tell how one table became the other, and that the operations made it so. -/
structure Chronicle (before after : HandlerTable) (ops : List Op) (events : List Event) : Prop where
  table : after = before.replay events
  allowed : before.Allows events
  slots : events.filterMap Event.slotChange? = ops.flatMap Op.slotChanges
  gates : events.filterMap Event.gateChange? = ops.flatMap Op.gateChanges

namespace Chronicle

theorem nil (table : HandlerTable) : Chronicle table table [] [] :=
  ⟨rfl, HandlerTable.allows_nil, rfl, rfl⟩

theorem append {first second third : HandlerTable} {early late : List Op}
    {earlyEvents lateEvents : List Event} (before : Chronicle first second early earlyEvents)
    (after : Chronicle second third late lateEvents) :
    Chronicle first third (early ++ late) (earlyEvents ++ lateEvents) where
  table := by rw [after.table, before.table, HandlerTable.replay_append]
  allowed := before.allowed.append (before.table ▸ after.allowed)
  slots := by rw [List.filterMap_append, before.slots, after.slots, List.flatMap_append]
  gates := by rw [List.filterMap_append, before.gates, after.gates, List.flatMap_append]

end Chronicle

/-- An operation is accounted for by events that make the changes it stands for. -/
structure Accounts (start board : Board Hardware) (op : Op) (events : List Event) : Prop where
  account : start.Account board events
  slots : events.filterMap Event.slotChange? = op.slotChanges
  gates : events.filterMap Event.gateChange? = op.gateChanges
  invoked : ∀ handler, .invoked handler ∈ events → op.IsInvocation

theorem accounts_of_undisturbed {start board : Board Hardware} {op : Op}
    (undisturbed : start.Undisturbed board) (slots : op.slotChanges = [])
    (gates : op.gateChanges = []) : ∃ events, Accounts start board op events := by
  obtain ⟨events, account, noSlot, noGate, noHand⟩ := undisturbed.account
  exact ⟨events, account, noSlot.trans slots.symm, noGate.trans gates.symm,
    fun handler listed => absurd listed (noHand handler)⟩

end Session

theorem ModeOp.undisturbed_run (op : ModeOp) (config : Config) (board : Board Hardware) :
    board.Undisturbed (op.run config board).2.2 := by
  have idle := Board.Undisturbed.refl board
  cases op with
  | resetCell => exact idle.resetCell
  | start rate options modes => exact idle.start Hardware.environment _
  | wake => exact idle.wake
  | requestInitialization => exact idle.requestInitialization
  | requestNormal => exact idle.requestNormal
  | requestSleep => exact idle.requestSleep
  | enterInitialization => exact idle.requestInitialization.await Hardware.environment _ _
  | enterNormal => exact idle.requestNormal.await Hardware.environment _ _
  | reconfigure => exact idle.reconfigure Hardware.environment _
  | apply setup => exact idle.apply Hardware.environment _ _
  | update change => exact idle
  | mode => exact idle
  | poll target => exact idle

theorem RegisterOp.undisturbed_run (op : RegisterOp) (board : Board Hardware) :
    board.Undisturbed (op.run board).2 := by
  have idle := Board.Undisturbed.refl board
  cases op with
  | read register => exact idle
  | bits register => exact idle
  | set register field value => exact idle.modify _ _
  | merge register mask word => exact idle.modify _ _

theorem WorldOp.accounts_run (op : WorldOp) (board : Board Hardware) :
    ∃ events, Session.Accounts board (op.run board).2 (.world op) events := by
  have idle := Board.Undisturbed.refl board
  cases op with
  | write register word => exact Session.accounts_of_undisturbed (idle.withMemory _) rfl rfl
  | poke address word => exact Session.accounts_of_undisturbed (idle.withMemory _) rfl rfl
  | peek address => exact Session.accounts_of_undisturbed idle rfl rfl
  | dump blank => exact Session.accounts_of_undisturbed idle rfl rfl
  | settle => exact Session.accounts_of_undisturbed (idle.withMemory _) rfl rfl
  | setHardware settings =>
      exact Session.accounts_of_undisturbed (idle.withSurroundings _) rfl rfl
  | dispatch source => exact Session.accounts_of_undisturbed (idle.dispatch source) rfl rfl
  | raise source =>
      by_cases isUnmasked : board.controller.IsUnmasked (board.controller.line source)
      · have served : board.Undisturbed (board.raise source) := by
          rw [Board.raise_of_unmasked isUnmasked]
          exact idle.dispatch source
        exact Session.accounts_of_undisturbed served rfl rfl
      · have waits : board.Account (board.raise source) [] := by
          rw [Board.raise_of_masked isUnmasked]
          exact (Board.Account.refl board).congr rfl rfl
        exact ⟨[], waits, rfl, rfl, by simp⟩
  | arm source => exact ⟨[], (Board.Account.refl board).congr rfl rfl, rfl, rfl, by simp⟩
  | isOpen => exact Session.accounts_of_undisturbed idle rfl rfl

theorem HandlerOp.accounts_run (op : HandlerOp) (board : Board Hardware) :
    ∃ events, Session.Accounts board (op.run board).2 (.handler op) events := by
  have idle := Board.Undisturbed.refl board
  cases op with
  | attach source handler =>
      refine ⟨_, board.account_attach source handler, ?_, ?_, ?_⟩
      · simp [List.filterMap_cons, Event.slotChange?, Op.slotChanges]
      · simp [List.filterMap_cons, Event.gateChange?, Op.gateChanges]
      · simp
  | detach source =>
      refine ⟨_, board.account_detach source, ?_, ?_, ?_⟩
      · simp [List.filterMap_cons, Event.slotChange?, Op.slotChanges]
      · simp [List.filterMap_cons, Event.gateChange?, Op.gateChanges]
      · simp
  | setGate isOpen => exact ⟨_, board.account_setGate isOpen, rfl, rfl, by simp⟩
  | isAttached => exact Session.accounts_of_undisturbed idle rfl rfl
  | invoke source =>
      cases held : board.table.slots.get source with
      | none =>
          have same : (HandlerOp.invoke source).run board = (.flag false, board) := by
            rw [run, held]
          rw [same]
          exact Session.accounts_of_undisturbed idle rfl rfl
      | some handler =>
          have ran : (HandlerOp.invoke source).run board = (.flag true, board.invoke handler) := by
            rw [run, held]
          rw [ran]
          refine ⟨_, board.account_invoke held, ?_, ?_, fun _ _ => trivial⟩
          · simp [List.filterMap_cons, Event.slotChange?, Op.slotChanges]
          · simp [List.filterMap_cons, Event.gateChange?, Op.gateChanges]

theorem Board.accounts_release (board : Board Hardware) :
    ∃ events, Session.Accounts board board.release .release events := by
  have first := board.account_detach .tx
  have second := first.trans ((board.detach .tx).account_detach .rx)
  have third := second.trans (((board.detach .tx).detach .rx).account_detach .statusChange)
  refine ⟨_, third.trans (account_setGate _ false), ?_, ?_, ?_⟩
  · simp [List.filterMap_cons, Event.slotChange?, Op.slotChanges, Source.all]
  · simp [List.filterMap_cons, Event.gateChange?, Op.gateChanges]
  · simp

section Replies

theorem Reply.ofExcept_ne_unavailable {Value : Type} {reply : Value → Reply}
    (answers : ∀ value, reply value ≠ .unavailable) (result : Except Error Value) :
    ofExcept result reply ≠ .unavailable := by
  cases result with
  | error error => simp [ofExcept]
  | ok value => exact answers value

theorem ModeOp.reply_ne_unavailable (op : ModeOp) (config : Config) (board : Board Hardware) :
    (op.run config board).1 ≠ .unavailable := by
  have done : ∀ outcome, Reply.ofOutcome outcome ≠ .unavailable :=
    Reply.ofExcept_ne_unavailable fun _ => by simp
  cases op with
  | start | enterInitialization | enterNormal | reconfigure | apply => exact done _
  | poll target =>
      rw [run]
      split <;> simp
  | _ => simp [run]

theorem QueryOp.answer_ne_unavailable (op : QueryOp) (board : Board Hardware) :
    op.answer board ≠ .unavailable := by
  cases op with
  | isFree | txMailbox => exact Reply.ofExcept_ne_unavailable (fun _ => by simp) _
  | _ => simp [answer]

theorem RegisterOp.reply_ne_unavailable (op : RegisterOp) (board : Board Hardware) :
    (op.run board).1 ≠ .unavailable := by
  cases op <;> simp [run]

theorem WorldOp.reply_ne_unavailable (op : WorldOp) (board : Board Hardware) :
    (op.run board).1 ≠ .unavailable := by
  cases op <;> simp [run]

theorem HandlerOp.reply_ne_unavailable (op : HandlerOp) (board : Board Hardware) :
    (op.run board).1 ≠ .unavailable := by
  cases op with
  | invoke source =>
      rw [run]
      split <;> simp
  | _ => simp [run]

end Replies

namespace Session

theorem step_handler {session : Session} (driven : session.config?.isSome = true)
    (op : HandlerOp) :
    (session.step (.handler op)).2.board = (op.run session.ready.board).2 ∧
      (session.step (.handler op)).1.journal = (op.run session.ready.board).2.journal := by
  obtain ⟨board, config?⟩ := session
  obtain ⟨config, rfl⟩ := Option.isSome_iff_exists.mp driven
  exact ⟨rfl, rfl⟩

theorem step_release {session : Session} (driven : session.config?.isSome = true) :
    (session.step .release).1.reply = .done ∧
      (session.step .release).2 = ⟨session.ready.board.release, none⟩ := by
  obtain ⟨board, config?⟩ := session
  obtain ⟨config, rfl⟩ := Option.isSome_iff_exists.mp driven
  exact ⟨rfl, rfl⟩

/-- An operation is refused and does nothing, or it is accounted for. -/
theorem refused_or_accounts (session : Session) (op : Op) :
    session.run op = (.unavailable, session) ∨ (session.run op).1 ≠ .unavailable ∧
      ∃ events, Accounts session.board (session.run op).2.board op events := by
  obtain ⟨board, config?⟩ := session
  cases op with
  | world op => exact .inr ⟨op.reply_ne_unavailable board, op.accounts_run board⟩
  | mode op =>
      cases config? with
      | none => exact .inl rfl
      | some config =>
          exact .inr ⟨op.reply_ne_unavailable config board,
            accounts_of_undisturbed (op.undisturbed_run config board) rfl rfl⟩
  | handler op =>
      cases config? with
      | none => exact .inl rfl
      | some config => exact .inr ⟨op.reply_ne_unavailable board, op.accounts_run board⟩
  | query op =>
      cases config? with
      | none => exact .inl rfl
      | some config =>
          exact .inr ⟨op.answer_ne_unavailable board, accounts_of_undisturbed (.refl board) rfl rfl⟩
  | register op =>
      cases config? with
      | none => exact .inl rfl
      | some config =>
          exact .inr ⟨op.reply_ne_unavailable board,
            accounts_of_undisturbed (op.undisturbed_run board) rfl rfl⟩
  | release =>
      cases config? with
      | none => exact .inl rfl
      | some config => exact .inr ⟨by simp [run], board.accounts_release⟩
  | adopt config clock =>
      cases config? with
      | none =>
          exact .inr ⟨by simp [run], [], (Board.Account.refl board).congr rfl rfl, rfl, rfl,
            by simp⟩
      | some config => exact .inl rfl

theorem taken_singleton (session : Session) (op : Op) :
    session.taken [op] = if (session.step op).1.reply = .unavailable then [] else [op] := rfl

theorem eq_of_mem_taken_singleton {session : Session} {op other : Op}
    (member : other ∈ session.taken [op]) : other = op := by
  rw [taken_singleton] at member
  split at member
  · simp at member
  · exact List.mem_singleton.mp member

theorem taken_cons (session : Session) (op : Op) (ops : List Op) :
    session.taken (op :: ops) = session.taken [op] ++ (session.step op).2.taken ops := by
  simp only [taken]
  split <;> simp

theorem trace_cons (session : Session) (op : Op) (ops : List Op) :
    session.trace (op :: ops) =
      (session.step op).1.journal.toList ++ (session.step op).2.trace ops := by
  simp [trace, steps]

/-- One step: what its journal tells, and that no handler is run by hand unless asked for. -/
theorem chronicle_step (session : Session) (op : Op) :
    Chronicle session.board.table (session.step op).2.board.table (session.taken [op])
        (session.step op).1.journal.toList ∧
      ∀ handler, .invoked handler ∈ (session.step op).1.journal.toList → op.IsInvocation := by
  have reply : (session.step op).1.reply = (session.ready.run op).1 := rfl
  have journal : (session.step op).1.journal = (session.ready.run op).2.board.journal := rfl
  have table : (session.step op).2.board.table = (session.ready.run op).2.board.table := rfl
  have start : session.board.table = session.ready.board.table := rfl
  rw [journal, table, start, taken_singleton, reply]
  rcases session.ready.refused_or_accounts op with refused | ⟨answered, events, accounts⟩
  · rw [refused]
    exact ⟨.nil _, by simp [ready]⟩
  · -- The journal was empty, so it consists of the events of the account.
    obtain ⟨⟨grown, replayed, allowed⟩, slots, gates, invoked⟩ := accounts
    have fresh : (session.ready.run op).2.board.journal.toList = events := grown
    rw [fresh, if_neg answered]
    exact ⟨⟨replayed, allowed, by simpa using slots, by simpa using gates⟩, invoked⟩

/-- A run, by the chronicles of its steps. -/
theorem chronicle_steps (session : Session) (ops : List Op) :
    Chronicle session.board.table (session.steps ops).2.board.table (session.taken ops)
      (session.trace ops) := by
  induction ops generalizing session with
  | nil => exact .nil _
  | cons op ops inductionHypothesis =>
      rw [taken_cons, trace_cons]
      exact (session.chronicle_step op).1.append (inductionHypothesis (session.step op).2)

end Session

end CanController

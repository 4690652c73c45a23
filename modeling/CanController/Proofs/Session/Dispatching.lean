import CanController.Proofs.Session.Trace

/-!
Who gets called.  Wherever in a run a handler runs because its source was dispatched, in the middle
of an operation, during a pause or from within another handler, it is the one put last into the slot
of that source, and the gate was opened after it was last closed.  So nothing but a handler run by
hand runs at all before the gate is opened, or once it is closed again.
-/

namespace CanController.Session

theorem handlersRun_setGate (session : Session) (isOpen : Bool) :
    (session.step (.handler (.setGate isOpen))).1.journal.handlersRun = [] := by
  obtain ⟨board, config?⟩ := session
  cases config? <;> rfl

/-- A step that starts with the gate closed calls no handler but by hand. -/
theorem handlersRun_of_closed {session : Session} (closed : session.board.table.isOpen = false)
    {op : Op} (noInvocation : ¬ op.IsInvocation) :
    (session.step op).1.journal.handlersRun = [] := by
  obtain ⟨chronicle, invoked⟩ := session.chronicle_step op
  by_cases opens : op = .handler (.setGate true)
  · rw [opens]
    exact session.handlersRun_setGate true
  · rw [Journal.handlersRun_eq]
    refine List.filterMap_eq_nil_iff.mpr fun event listed => ?_
    cases event with
    | dispatched source handler =>
        -- The gate must have been opened within the step, which no other operation does.
        obtain ⟨before, after, split⟩ := List.mem_iff_append.mp listed
        have lets := chronicle.allowed before _ after split
        have isOpen := (HandlerTable.active?_eq_some_iff.mp lets).1
        have last := List.mem_of_getLast? ((HandlerTable.isOpen_replay_iff closed).mp isOpen)
        have change : true ∈ (session.step op).1.journal.toList.filterMap Event.gateChange? := by
          rw [split, List.filterMap_append]
          exact List.mem_append_left _ last
        rw [chronicle.gates] at change
        obtain ⟨one, member, opening⟩ := List.mem_flatMap.mp change
        rw [eq_of_mem_taken_singleton member] at opening
        exact absurd (Op.eq_setGate_of_mem_gateChanges opening) opens
    | invoked handler => exact absurd (invoked handler listed) noInvocation
    | _ => rfl

/-- A dispatch calls the handler last put into the slot of its source, and only while the gate is
open; slots and gate change by the operations taken and by nothing else.  While the last of these
on the gate has not opened it, a step calls no handler unless it runs one by hand. -/
theorem dispatches_reach_current_handlers (memory : Memory) (clock : Hertz)
    (wiring : PerSource Line) (settings : HardwareSettings) (config : Config) (ops : List Op) :
    let session := Session.new memory clock wiring settings config
    let trace := session.trace ops
    let taken := session.taken ops
    (∀ before source handler after, trace = before ++ .dispatched source handler :: after →
      (before.filterMap Event.gateChange?).getLast? = some true ∧
      ((before.filterMap Event.slotChange?).filter (·.1 = source)).getLast? =
        some (source, some handler)) ∧
    trace.filterMap Event.slotChange? = taken.flatMap Op.slotChanges ∧
    trace.filterMap Event.gateChange? = taken.flatMap Op.gateChanges ∧
    ∀ op : Op, ¬ op.IsInvocation → (taken.flatMap Op.gateChanges).getLast? ≠ some true →
      ((session.steps ops).2.step op).1.journal.handlersRun = [] := by
  intro session trace taken
  have chronicle := session.chronicle_steps ops
  refine ⟨?_, chronicle.slots, chronicle.gates, ?_⟩
  · intro before source handler after split
    have lets := chronicle.allowed before _ after split
    obtain ⟨isOpen, held⟩ := HandlerTable.active?_eq_some_iff.mp lets
    exact ⟨(HandlerTable.isOpen_replay_iff rfl).mp isOpen,
      (HandlerTable.slots_replay_eq_some_iff (PerSource.get_const none source)).mp held⟩
  · intro op noInvocation unopened
    refine handlersRun_of_closed ?_ noInvocation
    rw [← Bool.not_eq_true, chronicle.table, HandlerTable.isOpen_replay_iff rfl, chronicle.gates]
    exact unopened

/-- An armed source gets in while the handler of another one on its line is exchanged, and its
handler dispatches that one: the old handler runs.  In a pause it is the new one.  Then the gate is
closed, and a source that is raised calls nobody. -/
theorem dispatches_around_an_exchange :
    let outer : Handler := ⟨1, [], [.rx]⟩
    let old : Handler := ⟨2, [], []⟩
    let new : Handler := ⟨3, [], []⟩
    let session := Session.new .powerOn 36000000 ⟨19, 19, 22⟩ ⟨true, 0, [⟨1, .dispatch .tx⟩]⟩
      (.standard 500000)
    let ops : List Op := [.handler (.attach .tx outer), .handler (.attach .rx old),
      .handler (.setGate true), .world (.arm .tx), .handler (.attach .rx new),
      .mode .enterInitialization, .handler (.setGate false)]
    let trace := session.trace ops
    let stored (count : Nat) := (((trace.take count).filterMap Event.slotChange?).filter
      (·.1 = Source.rx)).getLast?
    (trace = trace.take 11 ++ .dispatched .rx old :: trace.drop 12 ∧
      stored 11 = some (.rx, some old)) ∧
    (trace = trace.take 21 ++ .dispatched .rx new :: trace.drop 22 ∧
      stored 21 = some (.rx, some new)) ∧
    (((session.taken ops).flatMap Op.gateChanges).getLast? ≠ some true ∧
      ((session.steps ops).2.step (.world (.raise .rx))).1.journal.handlersRun = []) := by
  intro outer old new session ops trace stored
  obtain ⟨current, -, -, silent⟩ := dispatches_reach_current_handlers .powerOn 36000000
    ⟨19, 19, 22⟩ ⟨true, 0, [⟨1, .dispatch .tx⟩]⟩ (.standard 500000) ops
  have during : trace = trace.take 11 ++ .dispatched .rx old :: trace.drop 12 := by
    decide +kernel
  have later : trace = trace.take 21 ++ .dispatched .rx new :: trace.drop 22 := by
    decide +kernel
  have closed : ((session.taken ops).flatMap Op.gateChanges).getLast? ≠ some true := by
    decide +kernel
  exact ⟨⟨during, (current _ _ _ _ during).2⟩, ⟨later, (current _ _ _ _ later).2⟩, closed,
    silent (.world (.raise .rx)) (fun invocation => invocation) closed⟩

end CanController.Session

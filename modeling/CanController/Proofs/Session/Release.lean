import CanController.Proofs.Session.Refinement

/-!
Giving up the cell.  Sources are detached one after the other while the gate is still open, so
handlers may run in the middle of it, but only those of sources not yet detached.  Afterwards every
slot is empty, and no handler gets into one but by being attached, so whoever runs later on has been
attached since.
-/

namespace CanController

namespace Session

/-- Whoever runs has been attached before, if no handler was to begin with. -/
theorem attached_of_called {session : Session}
    (vacant : ∀ source, session.board.table.slots.get source = none) {ops : List Op}
    {before after : List Event} {event : Event} {handler : Handler}
    (split : session.trace ops = before ++ event :: after)
    (called : event.handler? = some handler) :
    ∃ source, .slot source (some handler) ∈ before ∧
      .handler (.attach source handler) ∈ session.taken ops := by
  have chronicle := session.chronicle_steps ops
  obtain ⟨source, held⟩ := (chronicle.allowed before event after split).attached called
  have last := List.mem_of_getLast? ((HandlerTable.slots_replay_eq_some_iff (vacant source)).mp held)
  have stored := (List.mem_filter.mp last).1
  have change : (source, some handler) ∈ (session.taken ops).flatMap Op.slotChanges := by
    rw [← chronicle.slots, split, List.filterMap_append]
    exact List.mem_append_left _ stored
  obtain ⟨op, member, attaches⟩ := List.mem_flatMap.mp change
  obtain ⟨event, listed, changes⟩ := List.mem_filterMap.mp stored
  refine ⟨source, ?_, Op.eq_attach_of_mem_slotChanges attaches ▸ member⟩
  rwa [← Event.eq_slot_of_slotChange? changes]

/-- Whoever runs during a release, runs from the slot it has been in since before. -/
theorem dispatched_in_release {session : Session} (driven : session.config?.isSome = true)
    {before after : List Event} {source : Source} {handler : Handler}
    (split : (session.step .release).1.journal.toList =
      before ++ .dispatched source handler :: after) :
    session.board.table.isOpen = true ∧ session.board.table.slots.get source = some handler ∧
      .slot source none ∉ before := by
  obtain ⟨-, allowed, slots, gates⟩ := (session.chronicle_step .release).1
  obtain ⟨isOpen, held⟩ := HandlerTable.active?_eq_some_iff.mp (allowed before _ after split)
  have taken : session.taken [.release] = [.release] := by
    rw [taken_singleton, (session.step_release driven).1, if_neg (by simp)]
  -- Before the dispatch there can only be changes that the whole release makes: removals, and the
  -- closing of the gate.
  rw [taken, split, List.filterMap_append, List.flatMap_singleton] at slots gates
  refine ⟨HandlerTable.isOpen_of_closings (fun change early => ?_) isOpen,
    HandlerTable.held_of_removals (fun change early => ?_) held⟩
  · have listed : change ∈ Op.release.gateChanges := gates ▸ List.mem_append_left _ early
    exact List.mem_singleton.mp listed
  · have listed : change ∈ Op.release.slotChanges := slots ▸ List.mem_append_left _ early
    obtain ⟨other, -, rfl⟩ := List.mem_map.mp listed
    rfl

/-- After a release every line is masked, every slot empty, the gate closed and no source armed.
Whoever runs during the release is still attached, and whoever runs after it has been attached
since, whatever has been left pending and whoever has taken over the cell. -/
theorem release_leaves_nothing {wiring : PerSource Line} {session : Session}
    (reachable : session.Reachable wiring) (driven : session.config?.isSome = true) :
    let during := (session.step .release).1.journal.toList
    let released := (session.step .release).2
    (∀ line, ¬ released.board.controller.IsUnmasked line) ∧
    (∀ source, released.board.table.slots.get source = none) ∧
    released.board.table.isOpen = false ∧
    (∀ source, released.board.controller.armed.get source = false) ∧
    (∀ before event after handler, during = before ++ event :: after →
      event.handler? = some handler → ∃ source, event = .dispatched source handler ∧
        session.board.table.isOpen = true ∧
        session.board.table.slots.get source = some handler ∧ .slot source none ∉ before) ∧
    ∀ ops before event after handler, released.trace ops = before ++ event :: after →
      event.handler? = some handler → ∃ source, .slot source (some handler) ∈ before ∧
        .handler (.attach source handler) ∈ released.taken ops := by
  intro during released
  obtain ⟨changes, reflects⟩ := reachable.reflects
  have after : released = ⟨session.ready.board.release, none⟩ := (session.step_release driven).2
  have table : released.board.table = .empty := by rw [after, Board.table_release]
  have vacant : ∀ source, released.board.table.slots.get source = none := by
    rw [table]
    exact PerSource.get_const none
  refine ⟨fun line isUnmasked => ?_, vacant, congrArg HandlerTable.isOpen table,
    fun source => ?_, ?_, ?_⟩
  · rw [after, Board.isUnmasked_release] at isUnmasked
    obtain ⟨source, wired⟩ := reflects.wired isUnmasked.1
    exact isUnmasked.2 source ((reflects.line_eq source).trans wired)
  · rw [after, Board.armed_release]
  · intro before event after handler split called
    cases event with
    | dispatched source other =>
        cases called
        exact ⟨source, rfl, dispatched_in_release driven split⟩
    | invoked other =>
        have listed : .invoked other ∈ during := split ▸ by simp
        exact ((session.chronicle_step .release).2 other listed).elim
    | _ => simp [Event.handler?] at called
  · intro ops before event after handler split called
    exact attached_of_called vacant split called

/-- A handler that gets in while its source is detached dispatches one that has been detached before
it, in vain.  That one was armed behind a masked line and stays pending; when the next driver has
attached a handler to it, the new handler runs. -/
theorem release_with_interrupts_underway :
    let old : Handler := ⟨1, [], []⟩
    let outer : Handler := ⟨2, [], [.tx]⟩
    let new : Handler := ⟨3, [], []⟩
    let session := ((Session.new .powerOn 36000000 ⟨19, 19, 22⟩ ⟨true, 0, []⟩
      (.standard 500000)).steps [.handler (.attach .tx old), .handler (.attach .statusChange outer),
        .handler (.setGate true), .handler (.detach .rx), .world (.arm .tx),
        .world (.arm .statusChange)]).2
    let during := (session.step .release).1.journal
    let released := (session.step .release).2
    let ops : List Op := [.adopt (.standard 500000) none, .handler (.setGate true),
      .handler (.attach .tx new)]
    let later := released.trace ops
    (during.handlersRun = [outer] ∧ .slot .statusChange none ∉ during.toList.take 7) ∧
    (¬ released.board.controller.IsUnmasked 22 ∧
      released.board.controller.armed.get .tx = false ∧
      released.board.controller.pending.get .tx = true) ∧
    later = later.take 4 ++ .dispatched .tx new :: later.drop 5 ∧
    ∃ source, .slot source (some new) ∈ later.take 4 ∧
      .handler (.attach source new) ∈ released.taken ops := by
  intro old outer new session during released ops later
  have reachable : session.Reachable ⟨19, 19, 22⟩ := ⟨_, _, _, _, _, rfl⟩
  obtain ⟨masked, -, -, unarmed, served, attached⟩ :=
    release_leaves_nothing reachable (by decide +kernel)
  have splitDuring : during.toList = during.toList.take 7 ++
      .dispatched .statusChange outer :: during.toList.drop 8 := by decide +kernel
  have splitLater : later = later.take 4 ++ .dispatched .tx new :: later.drop 5 := by
    decide +kernel
  obtain ⟨source, same, -, -, notDetached⟩ := served _ _ _ outer splitDuring rfl
  cases same
  exact ⟨⟨by decide +kernel, notDetached⟩, ⟨masked 22, unarmed .tx, by decide +kernel⟩, splitLater,
    attached ops _ _ _ new splitLater rfl⟩

end Session

end CanController

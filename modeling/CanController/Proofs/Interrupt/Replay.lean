import CanController.Board.Journal

/-!
Reading the handler table off a journal.  Slots and gate change by events only, so a table replayed
through the events up to some moment is the table of that moment: each slot holds what its last
event put into it, and the gate stands as the last event about it says.  A journal is allowed if
every handler in it ran as the table of its moment says.
-/

namespace CanController

namespace Event

def slotChange? : Event → Option (Source × Option Handler)
  | slot source content => some (source, content)
  | _ => none

def gateChange? : Event → Option Bool
  | gate isOpen => some isOpen
  | _ => none

/-- The handler that runs, by a dispatch or by hand. -/
def handler? : Event → Option Handler
  | dispatched _ handler => some handler
  | invoked handler => some handler
  | _ => none

/-- The events of dispatches that run these handlers for these sources, one after the other. -/
def ofCalls (calls : List (Source × Handler)) : List Event :=
  calls.map fun call => dispatched call.1 call.2

section Calls

variable (calls : List (Source × Handler))

@[simp]
theorem slotChanges_ofCalls : (ofCalls calls).filterMap slotChange? = [] := by
  simp [ofCalls, slotChange?]

@[simp]
theorem gateChanges_ofCalls : (ofCalls calls).filterMap gateChange? = [] := by
  simp [ofCalls, gateChange?]

@[simp]
theorem handlers_ofCalls : (ofCalls calls).filterMap handler? = calls.map (·.2) := by
  simp [ofCalls, handler?, Function.comp_def, List.filterMap_eq_map']

@[simp]
theorem invoked_notMem_ofCalls (handler : Handler) : invoked handler ∉ ofCalls calls := by
  simp [ofCalls]

end Calls

theorem eq_slot_of_slotChange? {event : Event} {change : Source × Option Handler}
    (changes : event.slotChange? = some change) : event = slot change.1 change.2 := by
  cases event with
  | slot source content =>
      cases changes
      rfl
  | _ => simp [slotChange?] at changes

end Event

theorem Journal.handlersRun_eq (journal : Journal) :
    journal.handlersRun = journal.toList.filterMap Event.handler? := by
  refine congrArg (List.filterMap · journal.toList) (funext fun event => ?_)
  cases event <;> rfl

namespace HandlerTable

def heed (table : HandlerTable) : Event → HandlerTable
  | .slot source content => table.store source content
  | .gate isOpen => { table with isOpen }
  | _ => table

def replay (table : HandlerTable) (events : List Event) : HandlerTable :=
  events.foldl heed table

/-- Whether the event can happen while the table is like this: a dispatch runs only what is in the
slot and only through the open gate, and only an attached handler is run by hand. -/
def Lets (table : HandlerTable) : Event → Prop
  | .dispatched source handler => table.active? source = some handler
  | .invoked handler => ∃ source, table.slots.get source = some handler
  | _ => True

def Allows (table : HandlerTable) (events : List Event) : Prop :=
  ∀ before event after, events = before ++ event :: after → (table.replay before).Lets event

variable {table : HandlerTable}

theorem replay_append (first second : List Event) :
    table.replay (first ++ second) = (table.replay first).replay second :=
  List.foldl_append

theorem allows_nil : table.Allows [] := by
  intro before event after split
  simp at split

theorem Allows.append {first second : List Event} (early : table.Allows first)
    (late : (table.replay first).Allows second) : table.Allows (first ++ second) := by
  intro before event after split
  rcases List.append_eq_append_iff.mp split with ⟨more, rfl, rest⟩ | ⟨more, rfl, rest⟩
  · rw [replay_append]
    exact late more event after rest
  · cases more with
    | nil =>
        rw [List.append_nil] at late
        exact late [] event after rest.symm
    | cons head more =>
        obtain ⟨rfl, rfl⟩ := List.cons.inj rest
        exact early before event more rfl

theorem allows_singleton {event : Event} (lets : table.Lets event) : table.Allows [event] := by
  intro before other after split
  cases before with
  | nil =>
      obtain ⟨rfl, -⟩ := List.cons.inj split
      exact lets
  | cons head before => simp at split

/-- Events that each leave the table as it is are replayed and allowed one by one. -/
theorem replay_and_allows {events : List Event}
    (still : ∀ event ∈ events, table.heed event = table ∧ table.Lets event) :
    table.replay events = table ∧ table.Allows events := by
  induction events with
  | nil => exact ⟨rfl, allows_nil⟩
  | cons event events inductionHypothesis =>
      obtain ⟨⟨same, lets⟩, tail⟩ := List.forall_mem_cons.mp still
      obtain ⟨replayed, allowed⟩ := inductionHypothesis tail
      have head : table.replay [event] = table := same
      refine ⟨?_, ?_⟩
      · rw [← List.singleton_append, replay_append, head, replayed]
      · rw [← List.singleton_append]
        exact (allows_singleton lets).append (head.symm ▸ allowed)

/-- A slot holds what the last change of it says, and what it held before if there is none. -/
theorem slots_replay (events : List Event) (source : Source) :
    (table.replay events).slots.get source =
      (((events.filterMap Event.slotChange?).filter (·.1 = source)).getLast?).elim
        (table.slots.get source) (·.2) := by
  induction events generalizing table with
  | nil => rfl
  | cons event events inductionHypothesis =>
      refine (@inductionHypothesis (table.heed event)).trans ?_
      cases event with
      | slot changed content =>
          by_cases same : changed = source
          · cases last : ((events.filterMap Event.slotChange?).filter (·.1 = source)).getLast? <;>
              simp [Event.slotChange?, heed, store, same, List.getLast?_cons, last]
          · simp [Event.slotChange?, heed, store, same]
      | _ => rfl

/-- The gate stands as the last change of it says. -/
theorem isOpen_replay (events : List Event) :
    (table.replay events).isOpen =
      (events.filterMap Event.gateChange?).getLast?.getD table.isOpen := by
  induction events generalizing table with
  | nil => rfl
  | cons event events inductionHypothesis =>
      refine (@inductionHypothesis (table.heed event)).trans ?_
      cases event with
      | gate isOpen => simp [Event.gateChange?, heed, List.getLast?_cons]
      | _ => rfl

/-- A handler is in a slot that was empty exactly if it is what was last put there. -/
theorem slots_replay_eq_some_iff {source : Source} (vacant : table.slots.get source = none)
    {events : List Event} {handler : Handler} :
    (table.replay events).slots.get source = some handler ↔
      ((events.filterMap Event.slotChange?).filter (·.1 = source)).getLast? =
        some (source, some handler) := by
  rw [slots_replay, vacant]
  cases last : ((events.filterMap Event.slotChange?).filter (·.1 = source)).getLast? with
  | none => simp
  | some change =>
      have about : change.1 = source := by
        have listed := List.mem_of_getLast? last
        simpa using (List.mem_filter.mp listed).2
      obtain ⟨changed, content⟩ := change
      simp_all

theorem isOpen_replay_iff (closed : table.isOpen = false) {events : List Event} :
    (table.replay events).isOpen = true ↔
      (events.filterMap Event.gateChange?).getLast? = some true := by
  rw [isOpen_replay, closed]
  cases (events.filterMap Event.gateChange?).getLast? <;> simp

theorem active?_eq_some_iff {source : Source} {handler : Handler} :
    table.active? source = some handler ↔
      table.isOpen = true ∧ table.slots.get source = some handler := by
  unfold active?
  split <;> simp_all

theorem Lets.attached {event : Event} {handler : Handler} (lets : table.Lets event)
    (called : event.handler? = some handler) :
    ∃ source, table.slots.get source = some handler := by
  cases event with
  | dispatched source other =>
      cases called
      exact ⟨source, (active?_eq_some_iff.mp lets).2⟩
  | invoked other =>
      cases called
      exact lets
  | _ => simp [Event.handler?] at called

/-- What is in a slot when handlers have only been removed has been there from the start. -/
theorem held_of_removals {events : List Event}
    (removals : ∀ change ∈ events.filterMap Event.slotChange?, change.2 = none)
    {source : Source} {handler : Handler}
    (held : (table.replay events).slots.get source = some handler) :
    table.slots.get source = some handler ∧ .slot source none ∉ events := by
  rw [slots_replay] at held
  cases last : ((events.filterMap Event.slotChange?).filter (·.1 = source)).getLast? with
  | none =>
      rw [last] at held
      refine ⟨held, fun listed => ?_⟩
      have change : (source, none) ∈ events.filterMap Event.slotChange? :=
        List.mem_filterMap.mpr ⟨_, listed, rfl⟩
      have absent := List.filter_eq_nil_iff.mp (List.getLast?_eq_none_iff.mp last) _ change
      simp at absent
  | some change =>
      have removal := removals change (List.mem_filter.mp (List.mem_of_getLast? last)).1
      rw [last] at held
      exact absurd (removal.symm.trans held) (by simp)

theorem isOpen_of_closings {events : List Event}
    (closings : ∀ change ∈ events.filterMap Event.gateChange?, change = false)
    (isOpen : (table.replay events).isOpen = true) : table.isOpen = true := by
  rw [isOpen_replay] at isOpen
  cases last : (events.filterMap Event.gateChange?).getLast? with
  | none => rwa [last] at isOpen
  | some change =>
      rw [last, Option.getD_some, closings change (List.mem_of_getLast? last)] at isOpen
      cases isOpen

end HandlerTable

end CanController

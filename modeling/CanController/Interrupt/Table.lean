import CanController.Interrupt.Source
import CanController.Register.Map

/-!
The table of interrupt handlers: a slot for each source, behind one gate.  While the gate is open,
dispatching a source runs the handler in its slot, which may dispatch further sources in turn.  The
table does not change meanwhile, so a chain that comes back to a source it has been through would
never end; one that does end goes through each source at most once.  `calls` lists what runs.
-/

namespace CanController

/-- What an attached handler does when it runs: it writes words, then dispatches sources. -/
structure Handler where
  id : Nat
  writes : List (Address × Word)
  dispatches : List Source
deriving DecidableEq

structure HandlerTable where
  isOpen : Bool
  slots : PerSource (Option Handler)
deriving DecidableEq

namespace HandlerTable

def empty : HandlerTable :=
  ⟨false, .const none⟩

def store (table : HandlerTable) (source : Source) (content : Option Handler) : HandlerTable :=
  { table with slots := table.slots.set source content }

def active? (table : HandlerTable) (source : Source) : Option Handler :=
  if table.isOpen then table.slots.get source else none

/-- The handlers run by dispatching `source` through chains of at most `depth`, in order. -/
def callsWithin (table : HandlerTable) : Nat → Source → List (Source × Handler)
  | 0, _ => []
  | depth + 1, source =>
      match table.active? source with
      | none => []
      | some handler => (source, handler) :: handler.dispatches.flatMap (table.callsWithin depth)

/-- The handlers run by dispatching `source`, in order, each with the source it runs for. -/
def calls (table : HandlerTable) (source : Source) : List (Source × Handler) :=
  table.callsWithin Source.all.length source

theorem active?_of_mem_callsWithin {table : HandlerTable} {depth : Nat} {source : Source}
    {call : Source × Handler} (called : call ∈ table.callsWithin depth source) :
    table.active? call.1 = some call.2 := by
  induction depth generalizing source with
  | zero => simp [callsWithin] at called
  | succ depth inductionHypothesis =>
      unfold callsWithin at called
      split at called
      next => simp at called
      next handler found =>
        rcases List.mem_cons.mp called with rfl | nested
        · exact found
        · obtain ⟨_, _, deeper⟩ := List.mem_flatMap.mp nested
          exact inductionHypothesis deeper

end HandlerTable

end CanController

import CanController.Interrupt.Table

/-!
How far dispatching nests.  Where it comes to an end, no chain of handlers comes back to a source
it has been through, so no chain is longer than the number of sources, and `calls` lists everything
that runs: the handler of the source, followed by all that runs for its own dispatches.
-/

namespace CanController.HandlerTable

/-- Every chain of handlers that starts with the source's comes to an end. -/
inductive Ends (table : HandlerTable) : Source → Prop
  | intro {source : Source} (nested : ∀ handler, table.active? source = some handler →
      ∀ next ∈ handler.dispatches, Ends table next) : Ends table source

/-- A chain of handlers leads from one source to the other. -/
inductive Leads (table : HandlerTable) : Source → Source → Prop
  | refl (source : Source) : Leads table source source
  | step {source next last : Source} {handler : Handler}
      (found : table.active? source = some handler) (nested : next ∈ handler.dispatches)
      (rest : Leads table next last) : Leads table source last

variable {table : HandlerTable}

theorem Leads.append {first middle last next : Source} {handler : Handler}
    (early : table.Leads first middle) (found : table.active? middle = some handler)
    (nested : next ∈ handler.dispatches) (late : table.Leads next last) :
    table.Leads first last := by
  induction early with
  | refl source => exact .step found nested late
  | step first within _ inductionHypothesis =>
      exact .step first within (inductionHypothesis found)

theorem Ends.not_leads_back {source next : Source} {handler : Handler} (ends : table.Ends source)
    (found : table.active? source = some handler) (nested : next ∈ handler.dispatches) :
    ¬ table.Leads next source := by
  induction ends generalizing next handler with
  | intro deeper inductionHypothesis =>
      intro back
      cases back with
      | refl =>
          exact inductionHypothesis handler found _ nested found nested (.refl _)
      | step further within rest =>
          exact inductionHypothesis handler found _ nested further within
            (rest.append found nested (.refl _))

/-- The sources that chains can lead to get fewer with every handler of a chain. -/
theorem callsWithin_succ {source : Source} (ends : table.Ends source) {sources : List Source}
    (covers : ∀ last, table.Leads source last → last ∈ sources) {depth : Nat}
    (deep : sources.length ≤ depth) :
    table.callsWithin (depth + 1) source = table.callsWithin depth source := by
  induction depth generalizing source sources with
  | zero =>
      have none : sources = [] := List.length_eq_zero_iff.mp (Nat.le_zero.mp deep)
      have own : source ∈ sources := covers source (.refl source)
      simp [none] at own
  | succ depth inductionHypothesis =>
      rw [callsWithin, callsWithin]
      cases found : table.active? source with
      | none => rfl
      | some handler =>
          have same : ∀ next ∈ handler.dispatches,
              table.callsWithin (depth + 1) next = table.callsWithin depth next := by
            intro next nested
            have fewer : (sources.erase source).length ≤ depth := by
              rw [List.length_erase_of_mem (covers source (.refl source))]
              omega
            obtain ⟨deeper⟩ := ends
            refine inductionHypothesis (deeper handler found next nested) ?_ fewer
            -- No chain from here on leads back to `source`, so it need not be among those covered.
            intro last leads
            refine (List.mem_erase_of_ne ?_).mpr (covers last (.step found nested leads))
            rintro rfl
            exact Ends.not_leads_back (.intro deeper) found nested leads
          simp only [List.flatMap_def, List.map_congr_left same]

/-- What a dispatch that comes to an end runs, by its own recursion. -/
theorem calls_of_ends {source : Source} (ends : table.Ends source) :
    table.calls source = match table.active? source with
      | none => []
      | some handler => (source, handler) :: handler.dispatches.flatMap table.calls := by
  rw [calls, ← callsWithin_succ ends (fun last _ => last.mem_all) (Nat.le_refl _), callsWithin]
  cases table.active? source <;> rfl

/-- The handlers in the table dispatch nothing themselves. -/
def Flat (table : HandlerTable) : Prop :=
  ∀ source handler, table.slots.get source = some handler → handler.dispatches = []

theorem Flat.store (flat : table.Flat) (source : Source) {handler : Handler}
    (leaf : handler.dispatches = []) : (table.store source (some handler)).Flat := by
  intro other found held
  rw [HandlerTable.store, PerSource.get_set] at held
  split at held
  · cases held
    exact leaf
  · exact flat other found held

theorem Flat.calls_of_open (flat : table.Flat) (isOpen : table.isOpen = true) (source : Source) :
    table.calls source = ((table.slots.get source).map (source, ·)).toList := by
  have active : table.active? source = table.slots.get source := by rw [active?, if_pos isOpen]
  have ends : table.Ends source := by
    constructor
    intro handler found next nested
    rw [flat source handler (active ▸ found)] at nested
    simp at nested
  rw [calls_of_ends ends, active]
  cases held : table.slots.get source with
  | none => rfl
  | some handler => simp [flat source handler held]

/-- Dispatching sources in turn just runs the handlers in their slots. -/
theorem Flat.handlers_calls_of_open (flat : table.Flat) (isOpen : table.isOpen = true)
    (sources : List Source) :
    (sources.flatMap table.calls).map (·.2) = sources.filterMap table.slots.get := by
  induction sources with
  | nil => rfl
  | cons source sources inductionHypothesis =>
      rw [List.flatMap_cons, List.map_append, inductionHypothesis, flat.calls_of_open isOpen,
        List.filterMap_cons]
      cases table.slots.get source <;> rfl

end CanController.HandlerTable

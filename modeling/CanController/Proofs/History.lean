/-!
What is decided last.  Where every step of a run either decides a value or leaves it alone, the
value after the run is the one that was decided last, or the one from before if none was.
-/

namespace CanController

/-- The last thing decided holds, or what was there before if nothing is decided. -/
theorem getD_getLast?_filterMap_cons {Item Value : Type} (decides? : Item → Option Value)
    (item : Item) (items : List Item) (before : Value) :
    ((item :: items).filterMap decides?).getLast?.getD before =
      (items.filterMap decides?).getLast?.getD ((decides? item).getD before) := by
  cases decided : decides? item <;> simp [decided, List.getLast?_cons]

/-- A run is known from its steps, if each of them decides the value or leaves it alone. -/
theorem foldl_last_decision {State Item Value : Type} {step : State → Item → State}
    (value : State → Value) {decides? : Item → Option Value}
    (each : ∀ state item, value (step state item) = (decides? item).getD (value state))
    (items : List Item) (state : State) :
    value (items.foldl step state) =
      (items.filterMap decides?).getLast?.getD (value state) := by
  induction items generalizing state with
  | nil => rfl
  | cons item items inductionHypothesis =>
      rw [List.foldl_cons, inductionHypothesis, each, getD_getLast?_filterMap_cons]

end CanController

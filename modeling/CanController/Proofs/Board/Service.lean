import CanController.Board.Line
import CanController.Proofs.Board.Account

/-!
What masking and unmasking a line serve, in closed form.  Handlers that run change neither the table
nor the interrupt controller, so the sources of a line can be served in any number of steps: the
calls are those of the sources that are due, one after the other, and the flags of each source
depend on its own flags before and on its line only.
-/

namespace CanController

namespace PerSource

def ofFn {Value : Type} (value : Source → Value) : PerSource Value :=
  ⟨value .tx, value .rx, value .statusChange⟩

@[simp]
theorem get_ofFn {Value : Type} (value : Source → Value) (source : Source) :
    (ofFn value).get source = value source := by
  cases source <;> rfl

end PerSource

namespace Controller

/-- Each of the sources has been raised if it was armed; on a masked line it is pending now. -/
def raised (controller : Controller) (sources : List Source) : Controller :=
  { controller with
    armed := .ofFn fun source => controller.armed.get source && decide (source ∉ sources)
    pending := .ofFn fun source => controller.pending.get source ||
      controller.armed.get source && decide (source ∈ sources) &&
        !decide (controller.IsUnmasked (controller.line source)) }

/-- Each of the sources has been dispatched if it was pending. -/
def served (controller : Controller) (sources : List Source) : Controller :=
  { controller with
    pending := .ofFn fun source => controller.pending.get source && decide (source ∉ sources) }

/-- Whether the source is armed and its line lets it through. -/
def getsIn (controller : Controller) (source : Source) : Bool :=
  controller.armed.get source && decide (controller.IsUnmasked (controller.line source))

theorem nodup_sources (controller : Controller) (line : Line) :
    (controller.sources line).Nodup :=
  List.Pairwise.filter _ (show Source.all.Nodup by decide)

theorem eq_of_flags {one other : Controller} (wiring : one.wiring = other.wiring)
    (unmasked : one.unmasked = other.unmasked)
    (pending : ∀ source, one.pending.get source = other.pending.get source)
    (armed : ∀ source, one.armed.get source = other.armed.get source) : one = other := by
  cases one
  cases other
  simp only [mk.injEq]
  exact ⟨wiring, unmasked, PerSource.ext pending, PerSource.ext armed⟩

section Flags

variable (controller : Controller) (source : Source) (sources : List Source) (line : Line)

@[simp]
theorem armed_raised : (controller.raised sources).armed.get source =
    (controller.armed.get source && decide (source ∉ sources)) :=
  PerSource.get_ofFn ..

@[simp]
theorem pending_raised : (controller.raised sources).pending.get source =
    (controller.pending.get source || controller.armed.get source && decide (source ∈ sources) &&
      !decide (controller.IsUnmasked (controller.line source))) :=
  PerSource.get_ofFn ..

@[simp]
theorem line_raised : (controller.raised sources).line source = controller.line source := rfl

@[simp]
theorem isUnmasked_raised :
    (controller.raised sources).IsUnmasked line ↔ controller.IsUnmasked line := Iff.rfl

@[simp]
theorem pending_served : (controller.served sources).pending.get source =
    (controller.pending.get source && decide (source ∉ sources)) :=
  PerSource.get_ofFn ..

@[simp]
theorem isUnmasked_served :
    (controller.served sources).IsUnmasked line ↔ controller.IsUnmasked line := Iff.rfl

@[simp]
theorem armed_served : (controller.served sources).armed = controller.armed := rfl

@[simp]
theorem armed_mask : (controller.mask line).armed = controller.armed := rfl

@[simp]
theorem pending_mask : (controller.mask line).pending = controller.pending := rfl

@[simp]
theorem armed_unmask : (controller.unmask line).armed = controller.armed := rfl

@[simp]
theorem pending_unmask : (controller.unmask line).pending = controller.pending := rfl

theorem raised_nil : controller.raised [] = controller :=
  eq_of_flags rfl rfl (by simp) (by simp)

theorem served_nil : controller.served [] = controller :=
  eq_of_flags rfl rfl (by simp) fun _ => rfl

theorem raised_singleton : controller.raised [source] =
    if controller.armed.get source then
      if controller.IsUnmasked (controller.line source) then controller.setArmed source false
      else (controller.setArmed source false).setPending source true
    else controller := by
  split
  next armed =>
    split
    next isUnmasked =>
      refine eq_of_flags rfl rfl (fun other => ?_) (fun other => ?_)
      · by_cases same : source = other
        · simp [setArmed, ← same, isUnmasked]
        · simp [setArmed, Ne.symm same]
      · by_cases same : source = other
        · simp [setArmed, ← same]
        · simp [setArmed, same, Ne.symm same]
    next isMasked =>
      refine eq_of_flags rfl rfl (fun other => ?_) (fun other => ?_)
      · by_cases same : source = other
        · simp [setArmed, setPending, ← same, isMasked, armed]
        · simp [setArmed, setPending, same, Ne.symm same]
      · by_cases same : source = other
        · simp [setArmed, setPending, ← same]
        · simp [setArmed, setPending, same, Ne.symm same]
  next idle =>
    refine eq_of_flags rfl rfl (fun other => ?_) (fun other => ?_)
    · by_cases same : other = source <;> simp [same, idle]
    · by_cases same : other = source <;> simp [same, idle]

theorem served_singleton : controller.served [source] =
    if controller.pending.get source then controller.setPending source false else controller := by
  split
  next pending =>
    refine eq_of_flags rfl rfl (fun other => ?_) fun _ => rfl
    by_cases same : source = other
    · simp [setPending, ← same]
    · simp [setPending, same, Ne.symm same]
  next idle =>
    refine eq_of_flags rfl rfl (fun other => ?_) fun _ => rfl
    by_cases same : other = source <;> simp [same, idle]

theorem raised_cons : controller.raised (source :: sources) =
    (controller.raised [source]).raised sources := by
  refine eq_of_flags rfl rfl (fun other => ?_) (fun other => ?_)
  · by_cases same : other = source <;>
      by_cases isUnmasked : controller.IsUnmasked (controller.line other) <;>
        cases armed : controller.armed.get other <;> simp_all
  · by_cases same : other = source <;> simp [same]

theorem served_cons : controller.served (source :: sources) =
    (controller.served [source]).served sources := by
  refine eq_of_flags rfl rfl (fun other => ?_) fun _ => rfl
  by_cases same : other = source <;> simp [same]

end Flags

end Controller

namespace Board

variable {Surroundings : Type}

theorem runAll_with_controller (board : Board Surroundings) (controller : Controller)
    (calls : List (Source × Handler)) :
    { board with controller }.runAll calls = { board.runAll calls with controller } := by
  induction calls generalizing board with
  | nil => rfl
  | cons call calls inductionHypothesis =>
      exact inductionHypothesis ((board.record (.dispatched call.1 call.2)).perform call.2)

/-- The handlers that run when those of the sources are dispatched, in turn, that are due. -/
def callsOf (board : Board Surroundings) (due : Source → Bool) (sources : List Source) :
    List (Source × Handler) :=
  (sources.filter due).flatMap board.table.calls

theorem active?_of_mem_callsOf {board : Board Surroundings} {due : Source → Bool}
    {sources : List Source} {call : Source × Handler} (called : call ∈ board.callsOf due sources) :
    board.table.active? call.1 = some call.2 := by
  obtain ⟨source, -, within⟩ := List.mem_flatMap.mp called
  exact HandlerTable.active?_of_mem_callsWithin within

theorem callsOf_singleton (board : Board Surroundings) (due : Source → Bool) (source : Source) :
    board.callsOf due [source] = if due source then board.table.calls source else [] := by
  cases dispatched : due source <;> simp [callsOf, dispatched]

/-- Serving distinct sources one after the other.  `after` says what becomes of the interrupt
controller; serving a source has no influence on whether another one is due. -/
theorem foldl_serve (serve : Board Surroundings → Source → Board Surroundings)
    (due : Controller → Source → Bool) (after : Controller → List Source → Controller)
    (single : ∀ board source, serve board source =
      { board.runAll (board.callsOf (due board.controller) [source]) with
        controller := after board.controller [source] })
    (none : ∀ controller, after controller [] = controller)
    (cons : ∀ controller source sources,
      after controller (source :: sources) = after (after controller [source]) sources)
    (apart : ∀ controller source other, other ≠ source →
      due (after controller [source]) other = due controller other)
    {sources : List Source} (distinct : sources.Nodup) (board : Board Surroundings) :
    sources.foldl serve board =
      { board.runAll (board.callsOf (due board.controller) sources) with
        controller := after board.controller sources } := by
  induction sources generalizing board with
  | nil =>
      rw [none]
      rfl
  | cons source sources inductionHypothesis =>
      obtain ⟨fresh, rest⟩ := List.nodup_cons.mp distinct
      -- The others are due as before, since they are other sources and the table has not changed.
      have later : (serve board source).callsOf (due (after board.controller [source])) sources =
          board.callsOf (due board.controller) sources := by
        rw [single, callsOf, callsOf, table_runAll]
        congr 1
        refine List.filter_congr fun other listed => apart _ _ _ ?_
        exact fun same => fresh (same ▸ listed)
      have both : board.callsOf (due board.controller) (source :: sources) =
          board.callsOf (due board.controller) [source] ++
            board.callsOf (due board.controller) sources := by
        rw [← List.singleton_append, callsOf, List.filter_append, List.flatMap_append]
        rfl
      have controller : (serve board source).controller = after board.controller [source] := by
        rw [single]
      rw [List.foldl_cons, inductionHypothesis rest, controller, later, single,
        runAll_with_controller, ← runAll_append, ← both, cons _ source sources]

theorem raise_of_unmasked {board : Board Surroundings} {source : Source}
    (isUnmasked : board.controller.IsUnmasked (board.controller.line source)) :
    board.raise source = board.dispatch source :=
  if_pos isUnmasked

theorem raise_of_masked {board : Board Surroundings} {source : Source}
    (isMasked : ¬ board.controller.IsUnmasked (board.controller.line source)) :
    board.raise source =
      { board with controller := board.controller.setPending source true } :=
  if_neg isMasked

theorem raiseArmed_eq (board : Board Surroundings) (source : Source) :
    board.raiseArmed source =
      { board.runAll (board.callsOf board.controller.getsIn [source]) with
        controller := board.controller.raised [source] } := by
  rw [Controller.raised_singleton, callsOf_singleton, raiseArmed]
  by_cases armed : board.controller.armed.get source = true
  · rw [if_pos armed, if_pos armed]
    by_cases isUnmasked : board.controller.IsUnmasked (board.controller.line source)
    · have due : board.controller.getsIn source = true := by
        simp [Controller.getsIn, armed, isUnmasked]
      rw [if_pos due, if_pos isUnmasked]
      refine (raise_of_unmasked ?_).trans (runAll_with_controller ..)
      exact isUnmasked
    · have idle : ¬ board.controller.getsIn source = true := by
        simp [Controller.getsIn, isUnmasked]
      rw [if_neg idle, if_neg isUnmasked]
      exact raise_of_masked isUnmasked
  · have idle : ¬ board.controller.getsIn source = true := by simp [Controller.getsIn, armed]
    rw [if_neg armed, if_neg armed, if_neg idle]
    rfl

theorem servePending_eq (board : Board Surroundings) (source : Source) :
    board.servePending source =
      { board.runAll (board.callsOf board.controller.pending.get [source]) with
        controller := board.controller.served [source] } := by
  rw [Controller.served_singleton, callsOf_singleton, servePending]
  split
  next pending => exact runAll_with_controller ..
  next idle => rfl

variable (board : Board Surroundings) (line : Line)

/-- The handlers that run just before the line is masked: those of its armed sources, provided that
it is open. -/
def lastCalls : List (Source × Handler) :=
  board.callsOf board.controller.getsIn (board.controller.sources line)

/-- The handlers that run as soon as the line is unmasked: those of its pending sources. -/
def firstCalls : List (Source × Handler) :=
  board.callsOf board.controller.pending.get (board.controller.sources line)

theorem mask_eq : board.mask line =
    { (board.record (.line line false)).runAll (board.lastCalls line) with
      controller := (board.controller.raised (board.controller.sources line)).mask line } := by
  have raised := foldl_serve raiseArmed Controller.getsIn Controller.raised
    raiseArmed_eq Controller.raised_nil Controller.raised_cons
    (fun _ _ _ distinct => by simp [Controller.getsIn, distinct])
    (board.controller.nodup_sources line) (board.record (.line line false))
  simp only [mask, record] at raised ⊢
  rw [raised]
  rfl

theorem unmask_eq : board.unmask line =
    { (board.record (.line line true)).runAll (board.firstCalls line) with
      controller := (board.controller.unmask line).served (board.controller.sources line) } := by
  have served := foldl_serve servePending (·.pending.get) Controller.served
    servePending_eq Controller.served_nil Controller.served_cons
    (fun _ _ _ distinct => by simp [distinct]) (board.controller.nodup_sources line)
    { board.record (.line line true) with controller := board.controller.unmask line }
  rw [runAll_with_controller] at served
  exact served

@[simp]
theorem table_mask : (board.mask line).table = board.table := by
  rw [mask_eq]
  exact table_runAll ..

@[simp]
theorem controller_mask : (board.mask line).controller =
    (board.controller.raised (board.controller.sources line)).mask line := by
  rw [mask_eq]

@[simp]
theorem table_unmask : (board.unmask line).table = board.table := by
  rw [unmask_eq]
  exact table_runAll ..

@[simp]
theorem controller_unmask : (board.unmask line).controller =
    (board.controller.unmask line).served (board.controller.sources line) := by
  rw [unmask_eq]

theorem account_mask : board.Account (board.mask line)
    (.line line false :: Event.ofCalls (board.lastCalls line)) := by
  have announced : board.Account (board.record (.line line false)) [.line line false] :=
    board.account_record rfl trivial
  rw [mask_eq]
  exact (announced.trans (account_runAll _ fun _ => active?_of_mem_callsOf)).congr rfl rfl

theorem account_unmask : board.Account (board.unmask line)
    (.line line true :: Event.ofCalls (board.firstCalls line)) := by
  have announced : board.Account (board.record (.line line true)) [.line line true] :=
    board.account_record rfl trivial
  rw [unmask_eq]
  exact (announced.trans (account_runAll _ fun _ => active?_of_mem_callsOf)).congr rfl rfl

end Board

end CanController

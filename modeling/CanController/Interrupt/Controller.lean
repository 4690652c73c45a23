import CanController.Interrupt.Source

/-!
The interrupt controller between the cell and the processor.  Each source is wired to a line, and
lines may be shared.  A source raised on a masked line stays pending until the line is unmasked; an
armed one is about to be raised and gets in just before its line is masked.
-/

namespace CanController

abbrev Line := UInt32

structure Controller where
  wiring : PerSource Line
  unmasked : List Line
  pending : PerSource Bool
  armed : PerSource Bool
deriving DecidableEq

namespace Controller

def idle (wiring : PerSource Line) : Controller :=
  ⟨wiring, [], .const false, .const false⟩

def IsUnmasked (controller : Controller) (line : Line) : Prop :=
  line ∈ controller.unmasked

instance (controller : Controller) (line : Line) : Decidable (controller.IsUnmasked line) :=
  inferInstanceAs (Decidable (line ∈ controller.unmasked))

def line (controller : Controller) (source : Source) : Line :=
  controller.wiring.get source

/-- The sources wired to `line`, in the order in which they are served. -/
def sources (controller : Controller) (line : Line) : List Source :=
  Source.all.filter (controller.line · = line)

theorem mem_sources_iff {controller : Controller} {line : Line} {source : Source} :
    source ∈ controller.sources line ↔ controller.line source = line := by
  simp [sources, Source.mem_all]

def mask (controller : Controller) (line : Line) : Controller :=
  { controller with unmasked := controller.unmasked.filter (· ≠ line) }

def unmask (controller : Controller) (line : Line) : Controller :=
  { controller with unmasked := line :: controller.unmasked.filter (· ≠ line) }

theorem isUnmasked_mask {controller : Controller} {line other : Line} :
    (controller.mask line).IsUnmasked other ↔ controller.IsUnmasked other ∧ other ≠ line := by
  simp [IsUnmasked, mask]

theorem isUnmasked_unmask {controller : Controller} {line other : Line} :
    (controller.unmask line).IsUnmasked other ↔ controller.IsUnmasked other ∨ other = line := by
  by_cases same : other = line <;> simp [IsUnmasked, unmask, same]

def setPending (controller : Controller) (source : Source) (value : Bool) : Controller :=
  { controller with pending := controller.pending.set source value }

def setArmed (controller : Controller) (source : Source) (value : Bool) : Controller :=
  { controller with armed := controller.armed.set source value }

end Controller

end CanController

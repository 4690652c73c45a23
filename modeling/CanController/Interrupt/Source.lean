/-!
The three interrupt sources of the controller, and one value for each of them.
-/

namespace CanController

inductive Source
  /-- A transmit mailbox became empty. -/
  | tx
  /-- A frame is pending. -/
  | rx
  /-- An error, a wake-up or a sleep acknowledge. -/
  | statusChange
deriving DecidableEq

namespace Source

/-- Every source, in the order in which the sources of one line are served. -/
def all : List Source :=
  [tx, rx, statusChange]

theorem mem_all (source : Source) : source ∈ all := by
  cases source <;> simp [all]

def name : Source → String
  | tx => "Tx"
  | rx => "Rx"
  | statusChange => "StatusChange"

end Source

structure PerSource (Value : Type) where
  tx : Value
  rx : Value
  statusChange : Value
deriving DecidableEq

namespace PerSource

variable {Value : Type}

def const (value : Value) : PerSource Value :=
  ⟨value, value, value⟩

def get (values : PerSource Value) : Source → Value
  | .tx => values.tx
  | .rx => values.rx
  | .statusChange => values.statusChange

def set (values : PerSource Value) (source : Source) (value : Value) : PerSource Value :=
  match source with
  | .tx => { values with tx := value }
  | .rx => { values with rx := value }
  | .statusChange => { values with statusChange := value }

@[simp]
theorem get_const (value : Value) (source : Source) : (const value).get source = value := by
  cases source <;> rfl

@[simp]
theorem get_set (values : PerSource Value) (source other : Source) (value : Value) :
    (values.set source value).get other = if source = other then value else values.get other := by
  cases source <;> cases other <;> rfl

@[ext]
theorem ext {one other : PerSource Value} (same : ∀ source, one.get source = other.get source) :
    one = other := by
  cases one; cases other
  have := same .tx; have := same .rx; have := same .statusChange
  simp_all [get]

end PerSource

end CanController

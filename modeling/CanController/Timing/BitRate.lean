import CanController.Error

/-!
The standard bus bit rates.
-/

namespace CanController

inductive BitRate
  | mbps1
  | kbps500
  | kbps250
  | kbps125
deriving DecidableEq

namespace BitRate

def all : List BitRate :=
  [mbps1, kbps500, kbps250, kbps125]

def hertz : BitRate → Hertz
  | mbps1 => 1000000
  | kbps500 => 500000
  | kbps250 => 250000
  | kbps125 => 125000

def timing (rate : BitRate) : BitTiming :=
  .standard rate.hertz

/-- The standard rate of this frequency. -/
def ofHertz (hertz : Hertz) : Except Error BitRate :=
  match all.find? (·.hertz = hertz) with
  | some rate => .ok rate
  | none => .error .invalidArgument

theorem ofHertz_hertz (rate : BitRate) : ofHertz rate.hertz = .ok rate := by
  cases rate <;> rfl

theorem hertz_of_ofHertz {hertz : Hertz} {rate : BitRate} (found : ofHertz hertz = .ok rate) :
    rate.hertz = hertz := by
  unfold ofHertz at found
  split at found
  next candidate passed =>
    cases found
    simpa using List.find?_some passed
  next => simp at found

def name : BitRate → String
  | mbps1 => "Mbps1"
  | kbps500 => "Kbps500"
  | kbps250 => "Kbps250"
  | kbps125 => "Kbps125"

end BitRate

end CanController

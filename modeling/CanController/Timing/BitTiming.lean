import CanController.Register.Catalog

/-!
Bit timing.  A bit lasts one synchronization quantum and two segments of quanta; a quantum lasts a
whole number of clock cycles, the prescaler.  A timing fits a clock exactly when the clock is a
whole multiple of the quanta per second and the quotient is a prescaler the hardware has.  The
register word holds each quantity less one.
-/

namespace CanController

/-- A frequency, in cycles per second. -/
abbrev Hertz := UInt32

structure Bounds where
  least : Nat
  greatest : Nat
deriving DecidableEq

namespace Bounds

def Contains (bounds : Bounds) (value : Nat) : Prop :=
  bounds.least ≤ value ∧ value ≤ bounds.greatest

instance (bounds : Bounds) (value : Nat) : Decidable (bounds.Contains value) :=
  inferInstanceAs (Decidable (_ ∧ _))

def text (bounds : Bounds) : String :=
  toString bounds.least ++ "..=" ++ toString bounds.greatest

end Bounds

structure BitTiming where
  /-- The most quanta by which a bit may be shortened or lengthened to follow the bus. -/
  jumpWidth : UInt8
  /-- The quanta between the synchronization quantum and the sample point. -/
  segment1 : UInt8
  /-- The quanta after the sample point. -/
  segment2 : UInt8
  bitrate : Hertz
deriving DecidableEq

inductive BitTimingError
  | jumpWidthOutOfRange
  | segment1OutOfRange
  | segment2OutOfRange
  | prescalerOutOfRange
  | noPrescaler (clock bitrate : Hertz) (quanta : Nat)
deriving DecidableEq

namespace BitTiming

def jumpWidthBounds : Bounds := ⟨1, 4⟩
def segment1Bounds : Bounds := ⟨1, 16⟩
def segment2Bounds : Bounds := ⟨1, 8⟩
def prescalerBounds : Bounds := ⟨1, 1024⟩

def standard (bitrate : Hertz) : BitTiming :=
  ⟨2, 3, 2, bitrate⟩

def quanta (timing : BitTiming) : Nat :=
  1 + timing.segment1.toNat + timing.segment2.toNat

/-- The first of the three lengths that the hardware does not have is the one reported. -/
def check (timing : BitTiming) : Except BitTimingError Unit :=
  if ¬ jumpWidthBounds.Contains timing.jumpWidth.toNat then .error .jumpWidthOutOfRange
  else if ¬ segment1Bounds.Contains timing.segment1.toNat then .error .segment1OutOfRange
  else if ¬ segment2Bounds.Contains timing.segment2.toNat then .error .segment2OutOfRange
  else .ok ()

/-- The quanta per second, if a clock could have that frequency at all. -/
def quantumRate? (timing : BitTiming) : Option Nat :=
  let rate := timing.bitrate.toNat * timing.quanta
  if 0 < rate ∧ rate < UInt32.size then some rate else none

def prescaler (timing : BitTiming) (clock : Hertz) : Except BitTimingError Nat :=
  match timing.check with
  | .error error => .error error
  | .ok () =>
      match timing.quantumRate? with
      | none => .error (.noPrescaler clock timing.bitrate timing.quanta)
      | some rate =>
          if clock.toNat % rate ≠ 0 then
            .error (.noPrescaler clock timing.bitrate timing.quanta)
          else if prescalerBounds.Contains (clock.toNat / rate) then
            .ok (clock.toNat / rate)
          else
            .error .prescalerOutOfRange

/-- The register word for the timing under a prescaler, with both test modes off. -/
def pack (timing : BitTiming) (prescaler : Nat) : Word :=
  (0 : Word)
    |> TimingControl.jumpWidth.set (timing.jumpWidth.toNat - 1)
    |> TimingControl.segment1.set (timing.segment1.toNat - 1)
    |> TimingControl.segment2.set (timing.segment2.toNat - 1)
    |> TimingControl.prescaler.set (prescaler - 1)

/-- The register word that realizes the timing from a clock. -/
def encode (timing : BitTiming) (clock : Hertz) : Except BitTimingError Word :=
  (timing.prescaler clock).map timing.pack

/-- The clock cycles in one bit, as a register word has them. -/
def cyclesPerBit (word : Word) : Nat :=
  (TimingControl.prescaler.get word + 1) *
    (1 + (TimingControl.segment1.get word + 1) + (TimingControl.segment2.get word + 1))

theorem cyclesPerBit_pos (word : Word) : 0 < cyclesPerBit word :=
  Nat.mul_pos (Nat.succ_pos _) (by omega)

/-- The timing that a register word means at a clock, if the clock is a whole multiple of it. -/
def decode? (word : Word) (clock : Hertz) : Option BitTiming :=
  if clock.toNat % cyclesPerBit word = 0 then
    some {
      jumpWidth := UInt8.ofNat (TimingControl.jumpWidth.get word + 1)
      segment1 := UInt8.ofNat (TimingControl.segment1.get word + 1)
      segment2 := UInt8.ofNat (TimingControl.segment2.get word + 1)
      bitrate := UInt32.ofNat (clock.toNat / cyclesPerBit word) }
  else
    none

end BitTiming

namespace BitTimingError

def kind : BitTimingError → String
  | jumpWidthOutOfRange => "SynchronizationJumpWidthOutOfRange"
  | segment1OutOfRange => "PhaseSeg1OutOfRange"
  | segment2OutOfRange => "PhaseSeg2OutOfRange"
  | prescalerOutOfRange => "PrescalerOutOfRange"
  | noPrescaler .. => "NoValidPrescaler"

/-- A range error shows the range, a missing prescaler the quantities that do not divide. -/
def message (error : BitTimingError) : String :=
  let within (bounds : Bounds) := error.kind ++ "(" ++ bounds.text ++ ")"
  let rate (hertz : Hertz) := "Rate \x7b raw: " ++ toString hertz.toNat ++ " \x7d"
  match error with
  | jumpWidthOutOfRange => within BitTiming.jumpWidthBounds
  | segment1OutOfRange => within BitTiming.segment1Bounds
  | segment2OutOfRange => within BitTiming.segment2Bounds
  | prescalerOutOfRange => within BitTiming.prescalerBounds
  | noPrescaler clock bitrate quanta =>
      error.kind ++ " \x7b can_clock: " ++ rate clock ++ ", bitrate: " ++ rate bitrate
        ++ ", bit_time_quanta: " ++ toString quanta ++ " \x7d"

end BitTimingError

end CanController

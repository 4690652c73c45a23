import CanController.Proofs.Timing.RoundTrip

/-!
Dividing the clock.  A prescaler is the quotient of the clock by the quanta per second, and each
way of having none has an error of its own: a length that the hardware does not have, a clock that
is no whole multiple, a quotient that is too large.  A machine works this out in numbers of fixed
width, in which sums, differences and products wrap.  The one product that can be too large is
checked beforehand and nothing else comes near its width, so the machine finds what unbounded
numbers give.
-/

namespace CanController

/-- The product, if thirty-two bits hold it. -/
def checkedMul (one other : UInt32) : Option UInt32 :=
  if one.toNat * other.toNat < UInt32.size then some (one * other) else none

/-- The remainder, if there is something to divide by. -/
def checkedRem (dividend divisor : UInt32) : Option UInt32 :=
  if divisor = 0 then none else some (dividend % divisor)

theorem toNat_mul_of_lt {one other : UInt32} (fits : one.toNat * other.toNat < UInt32.size) :
    (one * other).toNat = one.toNat * other.toNat := by
  rw [UInt32.toNat_mul]
  exact Nat.mod_eq_of_lt fits

theorem eq_zero_iff_toNat {number : UInt32} : number = 0 ↔ number.toNat = 0 :=
  UInt32.toNat_inj.symm

theorem checkedRem_eq_some_zero_iff {dividend divisor : UInt32} :
    checkedRem dividend divisor = some 0 ↔
      0 < divisor.toNat ∧ divisor.toNat ∣ dividend.toNat := by
  unfold checkedRem
  split
  next none => simp [none]
  next some =>
    have positive : 0 < divisor.toNat := Nat.pos_of_ne_zero (mt eq_zero_iff_toNat.mpr some)
    rw [Option.some.injEq, eq_zero_iff_toNat, UInt32.toNat_mod, ← Nat.dvd_iff_mod_eq_zero,
      and_iff_right positive]

namespace BitTiming

theorem quanta_pos (timing : BitTiming) : 0 < timing.quanta := by
  unfold quanta
  omega

/-- The standard lengths are ones that the hardware has. -/
theorem inRange_standard (bitrate : Hertz) : (standard bitrate).InRange := by
  show jumpWidthBounds.Contains 2 ∧ segment1Bounds.Contains 3 ∧ segment2Bounds.Contains 2
  decide

/-- The clock is a whole multiple of the quanta per second, which are so many that a clock could
have that frequency. -/
def Divides (timing : BitTiming) (clock : Hertz) : Prop :=
  (0 < timing.bitrate.toNat * timing.quanta ∧
    timing.bitrate.toNat * timing.quanta < UInt32.size) ∧
    timing.bitrate.toNat * timing.quanta ∣ clock.toNat

instance (timing : BitTiming) (clock : Hertz) : Decidable (timing.Divides clock) :=
  inferInstanceAs (Decidable (_ ∧ _))

section Outcome

variable {timing : BitTiming} {clock : Hertz}

theorem prescaler_of_inRange (inRange : timing.InRange) :
    timing.prescaler clock =
      if ¬ timing.Divides clock then
        .error (.noPrescaler clock timing.bitrate timing.quanta)
      else if prescalerBounds.Contains
          (clock.toNat / (timing.bitrate.toNat * timing.quanta)) then
        .ok (clock.toNat / (timing.bitrate.toNat * timing.quanta))
      else .error .prescalerOutOfRange := by
  simp only [prescaler, check_eq_ok_iff.mpr inRange, quantumRate?]
  by_cases fits : 0 < timing.bitrate.toNat * timing.quanta ∧
      timing.bitrate.toNat * timing.quanta < UInt32.size
  · have divides_iff : timing.Divides clock ↔
        clock.toNat % (timing.bitrate.toNat * timing.quanta) = 0 := by
      rw [Divides, and_iff_right fits, Nat.dvd_iff_mod_eq_zero]
    rw [if_pos fits]
    simp only [ne_eq, divides_iff]
  · rw [if_neg fits, if_pos fun divides => fits divides.1]

theorem check_eq_error_iff {error : BitTimingError} :
    timing.check = .error error ↔
      (error = .jumpWidthOutOfRange ∧ ¬ jumpWidthBounds.Contains timing.jumpWidth.toNat) ∨
      (error = .segment1OutOfRange ∧ jumpWidthBounds.Contains timing.jumpWidth.toNat ∧
        ¬ segment1Bounds.Contains timing.segment1.toNat) ∨
      (error = .segment2OutOfRange ∧ jumpWidthBounds.Contains timing.jumpWidth.toNat ∧
        segment1Bounds.Contains timing.segment1.toNat ∧
        ¬ segment2Bounds.Contains timing.segment2.toNat) := by
  unfold check
  by_cases jumpWidth : jumpWidthBounds.Contains timing.jumpWidth.toNat
  · by_cases segment1 : segment1Bounds.Contains timing.segment1.toNat
    · by_cases segment2 : segment2Bounds.Contains timing.segment2.toNat
      · simp [jumpWidth, segment1, segment2]
      · simp [jumpWidth, segment1, segment2, eq_comm]
    · simp [jumpWidth, segment1, eq_comm]
  · simp [jumpWidth, eq_comm]

/-- The lengths are looked at first, then whether the clock can be divided, then the quotient. -/
theorem prescaler_eq_error_iff {error : BitTimingError} :
    timing.prescaler clock = .error error ↔
      timing.check = .error error ∨ timing.InRange ∧
        ((error = .noPrescaler clock timing.bitrate timing.quanta ∧ ¬ timing.Divides clock) ∨
          (error = .prescalerOutOfRange ∧ timing.Divides clock ∧ ¬ prescalerBounds.Contains
            (clock.toNat / (timing.bitrate.toNat * timing.quanta)))) := by
  cases checked : timing.check with
  | error cause =>
      have unfit : ¬ timing.InRange := by
        rw [← check_eq_ok_iff, checked]
        intro same
        contradiction
      simp [prescaler, checked, unfit]
  | ok done =>
      have inRange : timing.InRange := check_eq_ok_iff.mp checked
      rw [prescaler_of_inRange inRange]
      by_cases divides : timing.Divides clock
      · by_cases bounded : prescalerBounds.Contains
          (clock.toNat / (timing.bitrate.toNat * timing.quanta))
        · simp [divides, bounded]
        · simp [divides, bounded, inRange, eq_comm]
      · simp [divides, inRange, eq_comm]

/-- The first length that does not fit is told, whatever the clock is. -/
theorem prescaler_eq_length_error_iff (timing : BitTiming) (clock : Hertz) :
    (timing.prescaler clock = .error .jumpWidthOutOfRange ↔
      ¬ jumpWidthBounds.Contains timing.jumpWidth.toNat) ∧
    (timing.prescaler clock = .error .segment1OutOfRange ↔
      jumpWidthBounds.Contains timing.jumpWidth.toNat ∧
        ¬ segment1Bounds.Contains timing.segment1.toNat) ∧
    (timing.prescaler clock = .error .segment2OutOfRange ↔
      jumpWidthBounds.Contains timing.jumpWidth.toNat ∧
        segment1Bounds.Contains timing.segment1.toNat ∧
        ¬ segment2Bounds.Contains timing.segment2.toNat) := by
  simp only [prescaler_eq_error_iff, check_eq_error_iff, reduceCtorEq, false_and, true_and,
    false_or, or_false, and_false, and_self]

/-- Where the lengths fit, nothing is said about them. -/
theorem prescaler_eq_error_iff_of_inRange (inRange : timing.InRange) {error : BitTimingError} :
    timing.prescaler clock = .error error ↔
      (error = .noPrescaler clock timing.bitrate timing.quanta ∧ ¬ timing.Divides clock) ∨
        (error = .prescalerOutOfRange ∧ timing.Divides clock ∧ ¬ prescalerBounds.Contains
          (clock.toNat / (timing.bitrate.toNat * timing.quanta))) := by
  rw [prescaler_eq_error_iff, check_eq_ok_iff.mpr inRange]
  simp [inRange]

end Outcome

def narrowQuanta (timing : BitTiming) : UInt32 :=
  1 + timing.segment1.toUInt32 + timing.segment2.toUInt32

theorem toNat_narrowQuanta (timing : BitTiming) : timing.narrowQuanta.toNat = timing.quanta := by
  have first := timing.segment1.toNat_lt
  have second := timing.segment2.toNat_lt
  simp only [narrowQuanta, quanta, UInt32.toNat_add, UInt8.toNat_toUInt32, UInt32.toNat_one]
  omega

/-- `prescaler` in numbers of fixed width. -/
def narrowPrescaler (timing : BitTiming) (clock : Hertz) : Except BitTimingError UInt16 :=
  match timing.check with
  | .error error => .error error
  | .ok () =>
      match checkedMul timing.bitrate timing.narrowQuanta with
      | none => .error (.noPrescaler clock timing.bitrate timing.narrowQuanta.toNat)
      | some rate =>
          if checkedRem clock rate ≠ some 0 then
            .error (.noPrescaler clock timing.bitrate timing.narrowQuanta.toNat)
          else if prescalerBounds.Contains (clock / rate).toNat then .ok (clock / rate).toUInt16
          else .error .prescalerOutOfRange

/-- `encode` in numbers of fixed width. -/
def narrowEncode (timing : BitTiming) (clock : Hertz) : Except BitTimingError Word :=
  (timing.narrowPrescaler clock).map fun prescaler =>
    (0 : Word)
      |> TimingControl.jumpWidth.set (timing.jumpWidth - 1).toNat
      |> TimingControl.segment1.set (timing.segment1 - 1).toNat
      |> TimingControl.segment2.set (timing.segment2 - 1).toNat
      |> TimingControl.prescaler.set (prescaler - 1).toNat

section Narrow

variable (timing : BitTiming) (clock : Hertz)

/-- Neither the product nor the narrowed quotient loses anything. -/
theorem map_toNat_narrowPrescaler :
    (timing.narrowPrescaler clock).map UInt16.toNat = timing.prescaler clock := by
  cases checked : timing.check with
  | error error => simp [narrowPrescaler, prescaler, checked, Except.map]
  | ok done =>
      rw [prescaler_of_inRange (check_eq_ok_iff.mp checked)]
      simp only [narrowPrescaler, checked, toNat_narrowQuanta, checkedMul]
      by_cases fits : timing.bitrate.toNat * timing.quanta < UInt32.size
      · have rate : (timing.bitrate * timing.narrowQuanta).toNat =
            timing.bitrate.toNat * timing.quanta := by
          rw [← toNat_narrowQuanta] at fits ⊢
          exact toNat_mul_of_lt fits
        have divides_iff : checkedRem clock (timing.bitrate * timing.narrowQuanta) = some 0 ↔
            timing.Divides clock := by
          rw [checkedRem_eq_some_zero_iff, rate, Divides, and_iff_left fits]
        rw [if_pos fits]
        by_cases divides : timing.Divides clock
        · by_cases bounded : prescalerBounds.Contains
            (clock.toNat / (timing.bitrate.toNat * timing.quanta))
          · have small : clock.toNat / (timing.bitrate.toNat * timing.quanta) < UInt16.size :=
              Nat.lt_of_le_of_lt bounded.2 (by decide)
            simp [divides_iff, divides, rate, bounded, Except.map, Nat.mod_eq_of_lt small]
          · simp [divides_iff, divides, rate, bounded, Except.map]
        · simp [divides_iff, divides, Except.map]
      · have indivisible : ¬ timing.Divides clock := fun divides => fits divides.1.2
        simp [fits, indivisible, Except.map]

/-- A timing that has a prescaler has no length of zero, so there is always one to take away. -/
theorem narrowEncode_eq : timing.narrowEncode clock = timing.encode clock := by
  have same := timing.map_toNat_narrowPrescaler clock
  unfold narrowEncode encode
  rw [← same]
  cases found : timing.narrowPrescaler clock with
  | error error => rfl
  | ok divisor =>
      have attained : timing.prescaler clock = .ok divisor.toNat := by
        rw [← same, found]
        rfl
      obtain ⟨⟨jumpWidth, segment1, segment2⟩, bounded, -⟩ :=
        prescaler_eq_ok_iff.mp attained
      have lengthLess {length : UInt8} (positive : 1 ≤ length.toNat) :
          (length - 1).toNat = length.toNat - 1 :=
        UInt8.toNat_sub_of_le length 1 (UInt8.le_iff_toNat_le.mpr positive)
      have divisorLess : (divisor - 1).toNat = divisor.toNat - 1 :=
        UInt16.toNat_sub_of_le divisor 1 (UInt16.le_iff_toNat_le.mpr bounded.1)
      simp only [Except.map, pack, lengthLess jumpWidth.1, lengthLess segment1.1,
        lengthLess segment2.1, divisorLess]

end Narrow

section Encoding

variable {timing : BitTiming} {clock : Hertz}

theorem encode_eq_error_iff_prescaler {error : BitTimingError} :
    timing.encode clock = .error error ↔ timing.prescaler clock = .error error := by
  unfold encode
  cases timing.prescaler clock <;> simp [Except.map]

/-- A packed timing has no bits but those of the four timing fields. -/
theorem pack_and_outside (timing : BitTiming) (divisor : Nat) :
    timing.pack divisor &&& ~~~0x037F03FF#32 = 0 := by
  rw [pack, Field.set_and_kept (by decide), Field.set_and_kept (by decide),
    Field.set_and_kept (by decide), Field.set_and_kept (by decide)]
  exact BitVec.zero_and

end Encoding

section Refusals

variable {timing : BitTiming} {clock : Hertz}

/-- A clock that runs is divided or not, however wide the numbers are. -/
theorem divides_iff_of_running (running : 0 < clock.toNat) :
    timing.Divides clock ↔
      0 < timing.bitrate.toNat ∧ timing.quanta * timing.bitrate.toNat ∣ clock.toNat := by
  rw [Divides, Nat.mul_comm]
  constructor
  · rintro ⟨⟨positive, -⟩, divides⟩
    exact ⟨Nat.pos_of_mul_pos_left positive, divides⟩
  · rintro ⟨positive, divides⟩
    exact ⟨⟨Nat.mul_pos timing.quanta_pos positive,
      Nat.lt_of_le_of_lt (Nat.le_of_dvd running divides) clock.toNat_lt⟩, divides⟩

variable (inRange : timing.InRange)
include inRange

theorem prescaler_eq_noPrescaler_iff (running : 0 < clock.toNat) :
    timing.prescaler clock = .error (.noPrescaler clock timing.bitrate timing.quanta) ↔
      timing.bitrate.toNat = 0 ∨
        ¬ timing.quanta * timing.bitrate.toNat ∣ clock.toNat := by
  rw [prescaler_eq_error_iff_of_inRange inRange, divides_iff_of_running running,
    Classical.not_and_iff_not_or_not, Nat.pos_iff_ne_zero, Classical.not_not]
  simp only [true_and, reduceCtorEq, false_and, or_false]

theorem prescaler_eq_outOfRange_iff (running : 0 < clock.toNat) :
    timing.prescaler clock = .error .prescalerOutOfRange ↔
      timing.quanta * timing.bitrate.toNat ∣ clock.toNat ∧
        1024 < clock.toNat / (timing.quanta * timing.bitrate.toNat) := by
  rw [prescaler_eq_error_iff_of_inRange inRange, divides_iff_of_running running,
    Nat.mul_comm timing.bitrate.toNat]
  simp only [true_and, reduceCtorEq, false_and, false_or]
  constructor
  · rintro ⟨⟨positive, divides⟩, outside⟩
    have least : 1 ≤ clock.toNat / (timing.quanta * timing.bitrate.toNat) :=
      Nat.div_pos (Nat.le_of_dvd running divides) (Nat.pos_of_dvd_of_pos divides running)
    exact ⟨divides, Nat.lt_of_not_le fun most => outside ⟨least, most⟩⟩
  · rintro ⟨divides, large⟩
    have positive : 0 < timing.quanta * timing.bitrate.toNat :=
      Nat.pos_of_dvd_of_pos divides running
    refine ⟨⟨Nat.pos_of_mul_pos_left positive, divides⟩, ?_⟩
    exact fun inside => Nat.not_lt.mpr inside.2 large

/-- A clock that stands still is a multiple of anything, but never by a prescaler. -/
theorem prescaler_of_stopped (stopped : clock.toNat = 0) :
    timing.prescaler clock = .error
      (if timing.bitrate.toNat = 0 ∨ UInt32.size ≤ timing.quanta * timing.bitrate.toNat then
        .noPrescaler clock timing.bitrate timing.quanta
      else .prescalerOutOfRange) := by
  have outside : ¬ prescalerBounds.Contains
      (clock.toNat / (timing.bitrate.toNat * timing.quanta)) := by
    rw [stopped, Nat.zero_div]
    decide
  have indivisible : timing.bitrate.toNat = 0 ∨
      UInt32.size ≤ timing.quanta * timing.bitrate.toNat ↔ ¬ timing.Divides clock := by
    rw [Divides, stopped, and_iff_left (Nat.dvd_zero _), Classical.not_and_iff_not_or_not,
      Nat.not_lt, Nat.not_lt, Nat.le_zero, Nat.mul_comm, Nat.mul_eq_zero,
      or_iff_left (Nat.ne_of_gt timing.quanta_pos)]
  rw [prescaler_eq_error_iff_of_inRange inRange]
  by_cases divides : timing.Divides clock
  · rw [if_neg (mt indivisible.mp (not_not_intro divides))]
    exact .inr ⟨rfl, divides, outside⟩
  · rw [if_pos (indivisible.mpr divides)]
    exact .inl ⟨rfl, divides⟩

end Refusals

/-- A prescaler is found exactly where there is one, and every way of having none is told. -/
theorem prescaler_classified (timing : BitTiming) (clock : Hertz) :
    let quanta := 1 + timing.segment1.toNat + timing.segment2.toNat
    let bitrate := timing.bitrate.toNat
    let jumpWidthFits := 1 ≤ timing.jumpWidth.toNat ∧ timing.jumpWidth.toNat ≤ 4
    let segment1Fits := 1 ≤ timing.segment1.toNat ∧ timing.segment1.toNat ≤ 16
    let segment2Fits := 1 ≤ timing.segment2.toNat ∧ timing.segment2.toNat ≤ 8
    let lengthsFit := jumpWidthFits ∧ segment1Fits ∧ segment2Fits
    let found := timing.prescaler clock
    let indivisible := BitTimingError.noPrescaler clock timing.bitrate quanta
    (∀ divisor, found = .ok divisor ↔
      lengthsFit ∧ 0 < bitrate ∧ (1 ≤ divisor ∧ divisor ≤ 1024) ∧
        divisor * quanta * bitrate = clock.toNat) ∧
    (found = .error .jumpWidthOutOfRange ↔ ¬ jumpWidthFits) ∧
    (found = .error .segment1OutOfRange ↔ jumpWidthFits ∧ ¬ segment1Fits) ∧
    (found = .error .segment2OutOfRange ↔ jumpWidthFits ∧ segment1Fits ∧ ¬ segment2Fits) ∧
    (lengthsFit → 0 < clock.toNat →
      (found = .error indivisible ↔ bitrate = 0 ∨ ¬ quanta * bitrate ∣ clock.toNat) ∧
      (found = .error .prescalerOutOfRange ↔
        quanta * bitrate ∣ clock.toNat ∧ 1024 < clock.toNat / (quanta * bitrate))) ∧
    (lengthsFit → clock.toNat = 0 →
      found = .error (if bitrate = 0 ∨ UInt32.size ≤ quanta * bitrate then indivisible
        else .prescalerOutOfRange)) ∧
    (∀ error, timing.encode clock = .error error ↔ found = .error error) ∧
    ((∃ word, timing.encode clock = .ok word) ↔ ∃ divisor, found = .ok divisor) ∧
    (∀ divisor word, found = .ok divisor → timing.encode clock = .ok word →
      word &&& ~~~0x037F03FF#32 = 0 ∧
      TimingControl.jumpWidth.get word = timing.jumpWidth.toNat - 1 ∧
      TimingControl.segment1.get word = timing.segment1.toNat - 1 ∧
      TimingControl.segment2.get word = timing.segment2.toNat - 1 ∧
      TimingControl.prescaler.get word = divisor - 1) ∧
    (timing.narrowPrescaler clock).map UInt16.toNat = found ∧
    timing.narrowEncode clock = timing.encode clock := by
  intro quanta bitrate jumpWidthFits segment1Fits segment2Fits lengthsFit found indivisible
  obtain ⟨jumpWidth, segment1, segment2⟩ := timing.prescaler_eq_length_error_iff clock
  refine ⟨fun divisor => ?_, jumpWidth, segment1, segment2, fun fit running =>
      ⟨prescaler_eq_noPrescaler_iff fit running, prescaler_eq_outOfRange_iff fit running⟩,
    fun fit stopped => prescaler_of_stopped fit stopped,
    fun error => encode_eq_error_iff_prescaler, ?_, fun divisor word attained encoded => ?_,
    timing.map_toNat_narrowPrescaler clock, timing.narrowEncode_eq clock⟩
  · have product : divisor * quanta * bitrate = divisor * (bitrate * quanta) := by
      rw [Nat.mul_assoc, Nat.mul_comm quanta]
    rw [product]
    exact prescaler_eq_ok_iff.trans (and_congr_right' and_left_comm)
  · constructor
    · rintro ⟨word, encoded⟩
      obtain ⟨divisor, attained, -⟩ := encode_eq_ok_iff.mp encoded
      exact ⟨divisor, attained⟩
    · rintro ⟨divisor, attained⟩
      exact ⟨_, encode_eq_ok_iff.mpr ⟨divisor, attained, rfl⟩⟩
  · obtain ⟨other, again, rfl⟩ := encode_eq_ok_iff.mp encoded
    obtain rfl : other = divisor := Except.ok.inj (again.symm.trans attained)
    obtain ⟨inRange, bounded, -⟩ := prescaler_eq_ok_iff.mp again
    exact ⟨timing.pack_and_outside other, get_pack inRange bounded⟩

/-- Six quanta to the bit and a clock of 36 MHz, or none. -/
theorem prescaler_of_six_quanta :
    (standard 500000).prescaler 36000000 = .ok 12 ∧
      (standard 700000).prescaler 36000000 = .error (.noPrescaler 36000000 700000 6) ∧
      (standard 1000).prescaler 36000000 = .error .prescalerOutOfRange ∧
      (standard 700000).prescaler 0 = .error .prescalerOutOfRange ∧
      (standard 0).prescaler 0 = .error (.noPrescaler 0 0 6) := by
  obtain ⟨attained, -⟩ := prescaler_classified (standard 500000) 36000000
  obtain ⟨-, -, -, -, uneven, -⟩ := prescaler_classified (standard 700000) 36000000
  obtain ⟨-, -, -, -, slow, -⟩ := prescaler_classified (standard 1000) 36000000
  obtain ⟨-, -, -, -, -, stopped, -⟩ := prescaler_classified (standard 700000) 0
  obtain ⟨-, -, -, -, -, nothing, -⟩ := prescaler_classified (standard 0) 0
  refine ⟨(attained 12).mpr (by decide), ?_, ?_, stopped (inRange_standard _) rfl,
    nothing (inRange_standard _) rfl⟩
  · exact (uneven (inRange_standard _) (by decide)).1.mpr (.inr (by decide))
  · exact (slow (inRange_standard _) (by decide)).2.mpr (by decide)

end BitTiming

end CanController

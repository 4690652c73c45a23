import CanController.Proofs.Register.Merge
import CanController.Timing.BitTiming

/-!
Timings through their register words.  A prescaler exists exactly when the clock is a product of
prescaler, quanta and bit rate, all in range; the word packed from it has these quantities less one
in its fields, and reading a word looks at nothing but these fields.
-/

namespace CanController.BitTiming

/-- The lengths of the timing are ones that the hardware has. -/
def InRange (timing : BitTiming) : Prop :=
  jumpWidthBounds.Contains timing.jumpWidth.toNat ∧
    segment1Bounds.Contains timing.segment1.toNat ∧
    segment2Bounds.Contains timing.segment2.toNat

theorem check_eq_ok_iff {timing : BitTiming} : timing.check = .ok () ↔ timing.InRange := by
  unfold check InRange
  by_cases jumpWidth : jumpWidthBounds.Contains timing.jumpWidth.toNat
  · by_cases segment1 : segment1Bounds.Contains timing.segment1.toNat
    · by_cases segment2 : segment2Bounds.Contains timing.segment2.toNat
      · simp [jumpWidth, segment1, segment2]
      · simp [jumpWidth, segment1, segment2]
    · simp [jumpWidth, segment1]
  · simp [jumpWidth]

theorem quantumRate?_eq_some_iff {timing : BitTiming} {rate : Nat} :
    timing.quantumRate? = some rate ↔
      rate = timing.bitrate.toNat * timing.quanta ∧ 0 < rate ∧ rate < UInt32.size := by
  simp only [quantumRate?]
  split
  next fits =>
    rw [Option.some.injEq]
    exact ⟨fun same => same ▸ ⟨rfl, fits⟩, fun product => product.1.symm⟩
  next unfit =>
    refine ⟨nofun, ?_⟩
    rintro ⟨rfl, fits⟩
    exact absurd fits unfit

theorem prescaler_eq_ok_iff {timing : BitTiming} {clock : Hertz} {divisor : Nat} :
    timing.prescaler clock = .ok divisor ↔
      timing.InRange ∧ prescalerBounds.Contains divisor ∧ 0 < timing.bitrate.toNat ∧
        divisor * (timing.bitrate.toNat * timing.quanta) = clock.toNat := by
  constructor
  · intro found
    unfold prescaler at found
    cases checked : timing.check with
    | error error => simp [checked] at found
    | ok done =>
        cases rated : timing.quantumRate? with
        | none => simp [checked, rated] at found
        | some rate =>
            obtain ⟨product, positive, -⟩ := quantumRate?_eq_some_iff.mp rated
            simp only [checked, rated] at found
            split at found
            next => cases found
            next divides =>
              split at found
              next bounded =>
                cases found
                refine ⟨check_eq_ok_iff.mp checked, bounded, ?_, ?_⟩
                · rw [product] at positive
                  exact Nat.pos_of_mul_pos_right positive
                · rw [← product]
                  exact Nat.div_mul_cancel (Nat.dvd_of_mod_eq_zero (by omega))
              next => cases found
  · rintro ⟨inRange, bounded, positive, product⟩
    have ratePositive : 0 < timing.bitrate.toNat * timing.quanta := by
      apply Nat.mul_pos positive
      unfold quanta
      omega
    have rateSmall : timing.bitrate.toNat * timing.quanta < UInt32.size := by
      refine Nat.lt_of_le_of_lt ?_ clock.toNat_lt
      rw [← product]
      exact Nat.le_mul_of_pos_left _ bounded.1
    have rated := quantumRate?_eq_some_iff.mpr ⟨rfl, ratePositive, rateSmall⟩
    have quotient : clock.toNat / (timing.bitrate.toNat * timing.quanta) = divisor := by
      rw [← product, Nat.mul_div_cancel _ ratePositive]
    have divides : clock.toNat % (timing.bitrate.toNat * timing.quanta) = 0 := by
      rw [← product, Nat.mul_mod_left]
    simp only [BitTiming.prescaler, check_eq_ok_iff.mpr inRange, rated, divides, quotient,
      if_pos bounded, ne_eq, not_true_eq_false, if_false]

/-- The fields of the word that a timing in range is packed into. -/
theorem get_pack {timing : BitTiming} (inRange : timing.InRange) {divisor : Nat}
    (bounded : prescalerBounds.Contains divisor) :
    TimingControl.jumpWidth.get (timing.pack divisor) = timing.jumpWidth.toNat - 1 ∧
      TimingControl.segment1.get (timing.pack divisor) = timing.segment1.toNat - 1 ∧
      TimingControl.segment2.get (timing.pack divisor) = timing.segment2.toNat - 1 ∧
      TimingControl.prescaler.get (timing.pack divisor) = divisor - 1 := by
  obtain ⟨⟨-, jumpWidthMost⟩, ⟨-, segment1Most⟩, ⟨-, segment2Most⟩⟩ := inRange
  obtain ⟨-, divisorMost⟩ := bounded
  simp only [jumpWidthBounds, segment1Bounds, segment2Bounds, prescalerBounds] at *
  refine ⟨?_, ?_, ?_, ?_⟩
  · rw [pack, Field.get_set_of_disjoint (by decide) (by decide),
      Field.get_set_of_disjoint (by decide) (by decide),
      Field.get_set_of_disjoint (by decide) (by decide), Field.get_set_self (by decide)]
    exact Nat.mod_eq_of_lt (show timing.jumpWidth.toNat - 1 < 4 by omega)
  · rw [pack, Field.get_set_of_disjoint (by decide) (by decide),
      Field.get_set_of_disjoint (by decide) (by decide), Field.get_set_self (by decide)]
    exact Nat.mod_eq_of_lt (show timing.segment1.toNat - 1 < 16 by omega)
  · rw [pack, Field.get_set_of_disjoint (by decide) (by decide), Field.get_set_self (by decide)]
    exact Nat.mod_eq_of_lt (show timing.segment2.toNat - 1 < 8 by omega)
  · rw [pack, Field.get_set_self (by decide)]
    exact Nat.mod_eq_of_lt (show divisor - 1 < 1024 by omega)

/-- Reading a timing looks at the bits of the four timing fields only. -/
theorem decode?_congr {one other : Word}
    (same : one &&& 0x037F03FF#32 = other &&& 0x037F03FF#32) (clock : Hertz) :
    decode? one clock = decode? other clock := by
  unfold decode? cyclesPerBit
  rw [Field.get_eq_of_and_eq TimingControl.jumpWidth (by decide) (by decide) same,
    Field.get_eq_of_and_eq TimingControl.segment1 (by decide) (by decide) same,
    Field.get_eq_of_and_eq TimingControl.segment2 (by decide) (by decide) same,
    Field.get_eq_of_and_eq TimingControl.prescaler (by decide) (by decide) same]

theorem InRange.positive {timing : BitTiming} (inRange : timing.InRange) :
    1 ≤ timing.jumpWidth.toNat ∧ 1 ≤ timing.segment1.toNat ∧ 1 ≤ timing.segment2.toNat :=
  ⟨inRange.1.1, inRange.2.1.1, inRange.2.2.1⟩

/-- A bit as packed lasts as many cycles as the timing and the prescaler make it last. -/
theorem cyclesPerBit_pack {timing : BitTiming} (inRange : timing.InRange) {divisor : Nat}
    (bounded : prescalerBounds.Contains divisor) :
    cyclesPerBit (timing.pack divisor) = divisor * timing.quanta := by
  obtain ⟨-, segment1, segment2, divisorLess⟩ := get_pack inRange bounded
  obtain ⟨-, segment1Least, segment2Least⟩ := inRange.positive
  have divisorLeast : 1 ≤ divisor := bounded.1
  rw [cyclesPerBit, divisorLess, segment1, segment2, Nat.sub_add_cancel segment1Least,
    Nat.sub_add_cancel segment2Least, Nat.sub_add_cancel divisorLeast, quanta]

theorem get_timing_lt (word : Word) :
    TimingControl.jumpWidth.get word < 4 ∧ TimingControl.segment1.get word < 16 ∧
      TimingControl.segment2.get word < 8 ∧ TimingControl.prescaler.get word < 1024 :=
  ⟨(word.extractLsb' 24 2).isLt, (word.extractLsb' 16 4).isLt, (word.extractLsb' 20 3).isLt,
    (word.extractLsb' 0 10).isLt⟩

/-- No length is too large for eight bits. -/
theorem toNat_length {field : Nat} (small : field < 16) :
    (UInt8.ofNat (field + 1)).toNat = field + 1 :=
  UInt8.toNat_ofNat_of_lt' (Nat.lt_of_le_of_lt small (by decide))

/-- The timing that is read: each length is one above its field, and the rate makes up the clock. -/
theorem decode?_eq_some_iff {word : Word} {clock : Hertz} {timing : BitTiming} :
    decode? word clock = some timing ↔
      timing.jumpWidth.toNat = TimingControl.jumpWidth.get word + 1 ∧
        timing.segment1.toNat = TimingControl.segment1.get word + 1 ∧
        timing.segment2.toNat = TimingControl.segment2.get word + 1 ∧
        timing.bitrate.toNat * cyclesPerBit word = clock.toNat := by
  constructor
  · intro read
    obtain ⟨jumpWidth, segment1, segment2, -⟩ := get_timing_lt word
    have rateKept : (UInt32.ofNat (clock.toNat / cyclesPerBit word)).toNat =
        clock.toNat / cyclesPerBit word :=
      UInt32.toNat_ofNat_of_lt' (Nat.lt_of_le_of_lt (Nat.div_le_self _ _) clock.toNat_lt)
    unfold decode? at read
    split at read
    next divides =>
      cases read
      refine ⟨toNat_length (by omega), toNat_length segment1, toNat_length (by omega), ?_⟩
      rw [rateKept, Nat.div_mul_cancel (Nat.dvd_of_mod_eq_zero divides)]
    next => contradiction
  · rintro ⟨jumpWidth, segment1, segment2, product⟩
    unfold decode?
    rw [← product, Nat.mul_mod_left, if_pos rfl, Nat.mul_div_cancel _ (cyclesPerBit_pos word),
      ← jumpWidth, ← segment1, ← segment2, UInt8.ofNat_toNat, UInt8.ofNat_toNat,
      UInt8.ofNat_toNat, UInt32.ofNat_toNat]

theorem encode_eq_ok_iff {timing : BitTiming} {clock : Hertz} {word : Word} :
    timing.encode clock = .ok word ↔
      ∃ divisor, timing.prescaler clock = .ok divisor ∧ timing.pack divisor = word := by
  unfold encode
  cases timing.prescaler clock <;> simp [Except.map]

theorem decode?_of_encode {timing : BitTiming} {clock : Hertz} {word : Word}
    (encoded : timing.encode clock = .ok word) : decode? word clock = some timing := by
  obtain ⟨divisor, attained, rfl⟩ := encode_eq_ok_iff.mp encoded
  obtain ⟨inRange, bounded, -, product⟩ := prescaler_eq_ok_iff.mp attained
  obtain ⟨jumpWidth, segment1, segment2, -⟩ := get_pack inRange bounded
  obtain ⟨jumpWidthLeast, segment1Least, segment2Least⟩ := inRange.positive
  rw [decode?_eq_some_iff, jumpWidth, segment1, segment2, cyclesPerBit_pack inRange bounded,
    Nat.sub_add_cancel jumpWidthLeast, Nat.sub_add_cancel segment1Least,
    Nat.sub_add_cancel segment2Least, ← product, Nat.mul_left_comm]
  exact ⟨rfl, rfl, rfl, rfl⟩

end CanController.BitTiming

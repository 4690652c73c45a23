import CanController.Proofs.Timing.Division

/-!
Encoding and reading undo each other.  A word that realizes a timing reads as that timing, whatever
the bits around the four timing fields are.  The other way round every word describes a bit that
lasts some number of clock cycles, and where these divide the clock the timing that is read
realizes the word's own timing fields.  A clock that stands still is divided by everything, but the
rate that makes up for it is none.
-/

namespace CanController.BitTiming

/-- A word that realizes a timing has its fields and nothing else, and reads as nothing else. -/
theorem decode_undoes_encode {timing : BitTiming} {clock : Hertz} {word : Word}
    (encoded : timing.encode clock = .ok word) :
    word &&& ~~~0x037F03FF#32 = 0 ∧
    (1 + (TimingControl.segment1.get word + 1) + (TimingControl.segment2.get word + 1)) *
      (TimingControl.prescaler.get word + 1) * timing.bitrate.toNat = clock.toNat ∧
    (∀ other : Word, other &&& 0x037F03FF#32 = word &&& 0x037F03FF#32 →
      decode? other clock = some timing) ∧
    ∀ other : BitTiming, other.encode clock = .ok word → other = timing := by
  have read : decode? word clock = some timing := decode?_of_encode encoded
  refine ⟨?_, ?_, ?_, ?_⟩
  · obtain ⟨divisor, -, rfl⟩ := encode_eq_ok_iff.mp encoded
    exact timing.pack_and_outside divisor
  · obtain ⟨-, -, -, product⟩ := decode?_eq_some_iff.mp read
    rw [← product, cyclesPerBit, Nat.mul_comm timing.bitrate.toNat,
      Nat.mul_comm (TimingControl.prescaler.get word + 1)]
  · intro other same
    rw [decode?_congr same, read]
  · intro other alsoEncoded
    exact Option.some.inj ((decode?_of_encode alsoEncoded).symm.trans read)

/-- The slowest and longest timing there is, with both test modes and reserved bits set. -/
theorem decode_of_longest_timing :
    (⟨4, 16, 8, 1⟩ : BitTiming).encode 25600 = .ok 0x037F03FF#32 ∧
      decode? 0xFFFFFFFF#32 25600 = some ⟨4, 16, 8, 1⟩ := by
  have encoded : (⟨4, 16, 8, 1⟩ : BitTiming).encode 25600 = .ok 0x037F03FF#32 := rfl
  obtain ⟨-, -, read, -⟩ := decode_undoes_encode encoded
  exact ⟨encoded, read 0xFFFFFFFF#32 (by decide)⟩

section Reading

variable {word : Word} {clock : Hertz}

theorem decode?_eq_none_iff :
    decode? word clock = none ↔ ¬ cyclesPerBit word ∣ clock.toNat := by
  unfold decode?
  rw [Nat.dvd_iff_mod_eq_zero]
  split
  next divides => simp [divides]
  next indivisible => simp [indivisible]

/-- Whatever is in the fields, the lengths that are read are ones that the hardware has. -/
theorem inRange_of_decode? {timing : BitTiming} (read : decode? word clock = some timing) :
    timing.InRange := by
  obtain ⟨jumpWidth, segment1, segment2, -⟩ := decode?_eq_some_iff.mp read
  obtain ⟨jumpWidthMost, segment1Most, segment2Most, -⟩ := get_timing_lt word
  simp only [InRange, Bounds.Contains, jumpWidthBounds, segment1Bounds, segment2Bounds]
  omega

/-- Packing what is read copies the four timing fields. -/
theorem pack_of_decode? {timing : BitTiming} (read : decode? word clock = some timing) :
    timing.pack (TimingControl.prescaler.get word + 1) = word &&& 0x037F03FF#32 := by
  obtain ⟨jumpWidth, segment1, segment2, -⟩ := decode?_eq_some_iff.mp read
  have copied := Field.setAll_get [TimingControl.jumpWidth, TimingControl.segment1,
    TimingControl.segment2, TimingControl.prescaler] word 0
  have fields : Field.union [TimingControl.jumpWidth, TimingControl.segment1,
      TimingControl.segment2, TimingControl.prescaler] = 0x037F03FF#32 := by decide
  rw [fields, Word.merge_onto_zero] at copied
  rw [← copied, pack, jumpWidth, segment1, segment2]
  rfl

/-- While the clock runs, what is read needs the prescaler that it was read from. -/
theorem prescaler_of_decode? {timing : BitTiming} (read : decode? word clock = some timing)
    (running : 0 < clock.toNat) :
    timing.prescaler clock = .ok (TimingControl.prescaler.get word + 1) := by
  obtain ⟨-, segment1, segment2, product⟩ := decode?_eq_some_iff.mp read
  have bounded : prescalerBounds.Contains (TimingControl.prescaler.get word + 1) :=
    ⟨Nat.succ_pos _, (get_timing_lt word).2.2.2⟩
  have positive : 0 < timing.bitrate.toNat := by
    rw [← product] at running
    exact Nat.pos_of_mul_pos_right running
  refine prescaler_eq_ok_iff.mpr ⟨inRange_of_decode? read, bounded, positive, ?_⟩
  rw [quanta, segment1, segment2, Nat.mul_left_comm]
  exact product

theorem bitrate_of_decode? {timing : BitTiming} (read : decode? word clock = some timing)
    (stopped : clock.toNat = 0) : timing.bitrate.toNat = 0 := by
  obtain ⟨-, -, -, product⟩ := decode?_eq_some_iff.mp read
  rw [stopped] at product
  exact (Nat.mul_eq_zero.mp product).resolve_right (Nat.ne_of_gt (cyclesPerBit_pos word))

end Reading

/-- The lengths in a register word, in numbers of fixed width and with no rate yet. -/
def narrowLengths (word : Word) : BitTiming where
  jumpWidth := UInt8.ofNat (TimingControl.jumpWidth.get word) + 1
  segment1 := UInt8.ofNat (TimingControl.segment1.get word) + 1
  segment2 := UInt8.ofNat (TimingControl.segment2.get word) + 1
  bitrate := 0

/-- `cyclesPerBit` in numbers of fixed width. -/
def narrowCyclesPerBit (word : Word) : UInt32 :=
  (UInt32.ofNat (TimingControl.prescaler.get word) + 1) * (narrowLengths word).narrowQuanta

/-- `decode?` in numbers of fixed width. -/
def narrowDecode? (word : Word) (clock : Hertz) : Option BitTiming :=
  if clock % narrowCyclesPerBit word ≠ 0 then none
  else some { narrowLengths word with bitrate := clock / narrowCyclesPerBit word }

section NarrowReading

variable (word : Word) (clock : Hertz)

/-- The longest bit has 25600 cycles, which is nowhere near the width of the numbers. -/
theorem cyclesPerBit_le : cyclesPerBit word ≤ 25600 := by
  obtain ⟨-, segment1, segment2, prescaler⟩ := get_timing_lt word
  have quanta : 1 + (TimingControl.segment1.get word + 1) +
      (TimingControl.segment2.get word + 1) ≤ 25 := by omega
  exact Nat.mul_le_mul (Nat.succ_le_of_lt prescaler) quanta

theorem toNat_narrowCyclesPerBit : (narrowCyclesPerBit word).toNat = cyclesPerBit word := by
  obtain ⟨-, segment1, segment2, prescaler⟩ := get_timing_lt word
  have divisor : (UInt32.ofNat (TimingControl.prescaler.get word) + 1).toNat =
      TimingControl.prescaler.get word + 1 := by
    rw [show (1 : UInt32) = UInt32.ofNat 1 from rfl, ← UInt32.ofNat_add]
    exact UInt32.toNat_ofNat_of_lt' (Nat.lt_of_le_of_lt prescaler (by decide))
  have length {field : Nat} (small : field < 16) : (UInt8.ofNat field + 1).toNat = field + 1 := by
    rw [show (1 : UInt8) = UInt8.ofNat 1 from rfl, ← UInt8.ofNat_add, toNat_length small]
  have quanta : (narrowLengths word).narrowQuanta.toNat =
      1 + (TimingControl.segment1.get word + 1) + (TimingControl.segment2.get word + 1) := by
    rw [toNat_narrowQuanta, BitTiming.quanta, narrowLengths, length segment1,
      length (Nat.lt_trans segment2 (by decide))]
  have fits : (UInt32.ofNat (TimingControl.prescaler.get word) + 1).toNat *
      (narrowLengths word).narrowQuanta.toNat < UInt32.size := by
    rw [divisor, quanta]
    exact Nat.lt_of_le_of_lt (cyclesPerBit_le word) (by decide)
  rw [narrowCyclesPerBit, toNat_mul_of_lt fits, divisor, quanta, cyclesPerBit]

theorem narrowDecode?_eq : narrowDecode? word clock = decode? word clock := by
  have quotient : clock / narrowCyclesPerBit word =
      UInt32.ofNat (clock.toNat / cyclesPerBit word) := by
    rw [← toNat_narrowCyclesPerBit, ← UInt32.toNat_div, UInt32.ofNat_toNat]
  have remainder : clock % narrowCyclesPerBit word = 0 ↔
      clock.toNat % cyclesPerBit word = 0 := by
    rw [eq_zero_iff_toNat, UInt32.toNat_mod, toNat_narrowCyclesPerBit]
  unfold narrowDecode? decode?
  simp only [ne_eq, remainder, ite_not, quotient, narrowLengths, UInt8.ofNat_add]
  rfl

end NarrowReading

/-- Every word reads as a timing that realizes its timing fields, if the clock is a multiple of
its bit at all, and if there is a clock. -/
theorem encode_undoes_decode (word : Word) (clock : Hertz) :
    let divisor := TimingControl.prescaler.get word + 1
    let cycles :=
      divisor * (3 + TimingControl.segment1.get word + TimingControl.segment2.get word)
    (3 ≤ cycles ∧ cycles ≤ 25600) ∧
    (narrowCyclesPerBit word).toNat = cycles ∧
    narrowDecode? word clock = decode? word clock ∧
    (decode? word clock = none ↔ ¬ cycles ∣ clock.toNat) ∧
    (cycles ∣ clock.toNat → ∃ timing, decode? word clock = some timing ∧
      timing.jumpWidth.toNat = TimingControl.jumpWidth.get word + 1 ∧
      timing.segment1.toNat = TimingControl.segment1.get word + 1 ∧
      timing.segment2.toNat = TimingControl.segment2.get word + 1 ∧
      timing.check = .ok () ∧
      timing.bitrate.toNat * cycles = clock.toNat ∧
      (0 < clock.toNat → timing.prescaler clock = .ok divisor ∧
        timing.encode clock = .ok (word &&& 0x037F03FF#32)) ∧
      (clock.toNat = 0 → timing.bitrate.toNat = 0 ∧
        timing.encode clock = .error (.noPrescaler clock timing.bitrate timing.quanta))) := by
  intro divisor cycles
  have same : cyclesPerBit word = cycles := by
    rw [cyclesPerBit]
    congr 1
    omega
  rw [← same]
  refine ⟨⟨?_, cyclesPerBit_le word⟩, toNat_narrowCyclesPerBit word, narrowDecode?_eq word clock,
    decode?_eq_none_iff, fun divides => ?_⟩
  · exact Nat.le_trans (by omega) (Nat.le_mul_of_pos_left _ (Nat.succ_pos _))
  cases read : decode? word clock with
  | none => exact absurd divides (decode?_eq_none_iff.mp read)
  | some timing =>
      obtain ⟨jumpWidth, segment1, segment2, product⟩ := decode?_eq_some_iff.mp read
      have inRange : timing.InRange := inRange_of_decode? read
      refine ⟨timing, rfl, jumpWidth, segment1, segment2, check_eq_ok_iff.mpr inRange, product,
        fun running => ?_, fun stopped => ?_⟩
      · have attained : timing.prescaler clock = .ok divisor := prescaler_of_decode? read running
        exact ⟨attained, encode_eq_ok_iff.mpr ⟨divisor, attained, pack_of_decode? read⟩⟩
      · have none : timing.bitrate.toNat = 0 := bitrate_of_decode? read stopped
        refine ⟨none, encode_eq_error_iff_prescaler.mpr ?_⟩
        rw [prescaler_of_stopped inRange stopped, if_pos (.inl none)]

/-- The timing that the cell has after a reset, with a clock of 36 MHz and with none. -/
theorem encode_of_reset_timing :
    decode? TimingControl.resetValue 36000000 = some ⟨2, 4, 3, 4500000⟩ ∧
      (⟨2, 4, 3, 4500000⟩ : BitTiming).encode 36000000 = .ok TimingControl.resetValue ∧
      decode? TimingControl.resetValue 0 = some ⟨2, 4, 3, 0⟩ ∧
      (⟨2, 4, 3, 0⟩ : BitTiming).encode 0 = .error (.noPrescaler 0 0 8) := by
  have read : decode? TimingControl.resetValue 36000000 = some ⟨2, 4, 3, 4500000⟩ := rfl
  have readStopped : decode? TimingControl.resetValue 0 = some ⟨2, 4, 3, 0⟩ := rfl
  obtain ⟨-, -, -, -, reads⟩ := encode_undoes_decode TimingControl.resetValue 36000000
  obtain ⟨-, -, -, -, readsStopped⟩ := encode_undoes_decode TimingControl.resetValue 0
  obtain ⟨timing, found, -, -, -, -, -, running, -⟩ := reads (by decide)
  obtain ⟨other, foundStopped, -, -, -, -, -, -, stopped⟩ := readsStopped (by decide)
  obtain rfl := Option.some.inj (found.symm.trans read)
  obtain rfl := Option.some.inj (foundStopped.symm.trans readStopped)
  exact ⟨read, (running (by decide)).2, readStopped, (stopped rfl).2⟩

end CanController.BitTiming

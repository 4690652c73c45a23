import CanController.Word

/-!
A field is a named run of adjacent bits in a register.  Reading takes the run out as a number,
writing replaces it and leaves every other bit alone; a number too wide for the run loses its
high bits.
-/

namespace CanController

/-- The bits `low`, …, `low + width - 1` of a register. -/
structure Field where
  name : String
  low : Nat
  width : Nat
deriving DecidableEq

namespace Field

def flag (name : String) (bit : Nat) : Field :=
  ⟨name, bit, 1⟩

/-- The field from bit `high` down to bit `low`, both included. -/
def range (name : String) (high low : Nat) : Field :=
  ⟨name, low, high + 1 - low⟩

def covers (field : Field) (bit : Nat) : Bool :=
  decide (field.low ≤ bit) && decide (bit < field.low + field.width)

/-- The word with exactly the field's bits set. -/
def mask (field : Field) : Word :=
  (BitVec.allOnes field.width).setWidth 32 <<< field.low

theorem getLsbD_mask (field : Field) {bit : Nat} (inside : bit < 32) :
    field.mask.getLsbD bit = field.covers bit := by
  rw [mask, BitVec.getLsbD_shiftLeft, BitVec.getLsbD_setWidth, BitVec.getLsbD_allOnes, covers]
  by_cases above : field.low ≤ bit
  · have below : bit - field.low < 32 := by omega
    simp only [inside, above, below, Nat.not_lt.mpr above, decide_true, decide_false, Bool.not_false,
      Bool.true_and, decide_eq_decide]
    omega
  · simp [above, Nat.not_le.mp above]

def get (field : Field) (word : Word) : Nat :=
  (word.extractLsb' field.low field.width).toNat

theorem testBit_get (field : Field) (word : Word) (bit : Nat) :
    (field.get word).testBit bit =
      (decide (bit < field.width) && word.getLsbD (field.low + bit)) := by
  rw [get, BitVec.testBit_toNat, BitVec.getLsbD_extractLsb']

/-- Whether the lowest bit of the field is set: all there is to know of a flag. -/
def test (field : Field) (word : Word) : Bool :=
  word.getLsbD field.low

/-- Replace the field by `value`, of which it keeps the low `width` bits. -/
def set (field : Field) (value : Nat) (word : Word) : Word :=
  Word.merge field.mask (BitVec.ofNat 32 (value <<< field.low)) word

theorem getLsbD_set (field : Field) (value : Nat) (word : Word) {bit : Nat} (inside : bit < 32) :
    (field.set value word).getLsbD bit =
      if field.covers bit then value.testBit (bit - field.low) else word.getLsbD bit := by
  rw [set, Word.getLsbD_merge, getLsbD_mask field inside]
  by_cases covered : field.covers bit
  · have above : field.low ≤ bit := by
      simp only [covers, Bool.and_eq_true, decide_eq_true_eq] at covered
      exact covered.1
    rw [if_pos covered, if_pos covered, BitVec.getLsbD_ofNat, Nat.testBit_shiftLeft]
    simp [inside, above]
  · rw [if_neg covered, if_neg covered]

/-- Set or clear the lowest bit of the field. -/
def put (field : Field) (value : Bool) (word : Word) : Word :=
  field.set value.toNat word

def Disjoint (first second : Field) : Prop :=
  first.low + first.width ≤ second.low ∨ second.low + second.width ≤ first.low

instance (first second : Field) : Decidable (first.Disjoint second) :=
  inferInstanceAs (Decidable (_ ∨ _))

theorem get_set_of_disjoint {first second : Field} (apart : first.Disjoint second)
    (fits : first.low + first.width ≤ 32) (value : Nat) (word : Word) :
    first.get (second.set value word) = first.get word := by
  apply Nat.eq_of_testBit_eq
  intro bit
  rw [testBit_get, testBit_get]
  by_cases inside : bit < first.width
  · have uncovered : second.covers (first.low + bit) = false := by
      simp only [covers, Bool.and_eq_false_iff, decide_eq_false_iff_not]
      rcases apart with before | after <;> omega
    rw [getLsbD_set second value word (by omega), uncovered]
    simp
  · simp [inside]

/-- What is read back is `value` without the bits that the field has no room for. -/
theorem get_set_self {field : Field} (fits : field.low + field.width ≤ 32) (value : Nat)
    (word : Word) :
    field.get (field.set value word) = (BitVec.ofNat field.width value).toNat := by
  apply Nat.eq_of_testBit_eq
  intro bit
  rw [testBit_get, BitVec.testBit_toNat, BitVec.getLsbD_ofNat]
  by_cases inside : bit < field.width
  · have covered : field.covers (field.low + bit) = true := by
      simp only [covers, Bool.and_eq_true, decide_eq_true_eq]
      omega
    rw [getLsbD_set field value word (by omega), covered]
    simp [inside]
  · simp [inside]

theorem test_set_of_disjoint {first second : Field} (apart : first.Disjoint second)
    (proper : 0 < first.width) (value : Nat) (word : Word) :
    first.test (second.set value word) = first.test word := by
  by_cases inside : first.low < 32
  · have uncovered : second.covers first.low = false := by
      simp only [covers, Bool.and_eq_false_iff, decide_eq_false_iff_not]
      rcases apart with before | after <;> omega
    rw [test, getLsbD_set second value word inside, uncovered]
    rfl
  · have outside := Nat.le_of_not_lt inside
    rw [test, test, BitVec.getLsbD_of_ge _ _ outside, BitVec.getLsbD_of_ge _ _ outside]

theorem test_put_of_disjoint {first second : Field} (apart : first.Disjoint second)
    (proper : 0 < first.width) (value : Bool) (word : Word) :
    first.test (second.put value word) = first.test word :=
  test_set_of_disjoint apart proper value.toNat word

theorem test_put_self {field : Field} (proper : 0 < field.width) (inside : field.low < 32)
    (value : Bool) (word : Word) : field.test (field.put value word) = value := by
  have covered : field.covers field.low = true := by
    simp only [covers, Bool.and_eq_true, decide_eq_true_eq]
    omega
  rw [test, put, getLsbD_set field _ word inside, covered]
  cases value <;> simp

/-- Write fields one after the other. -/
def setAll (writes : List (Field × Nat)) (word : Word) : Word :=
  writes.foldl (fun word (field, value) => field.set value word) word

/-- The words that writing fields one after the other goes through. -/
def trail : List (Field × Nat) → Word → List Word
  | [], _ => []
  | (field, value) :: writes, word =>
      field.set value word :: trail writes (field.set value word)

/-- The bits that belong to at least one of the fields. -/
def union (fields : List Field) : Word :=
  fields.foldl (fun bits field => bits ||| field.mask) 0

end Field

end CanController

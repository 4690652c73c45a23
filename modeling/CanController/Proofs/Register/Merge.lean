import CanController.Register.Catalog

/-!
Masked merges as the one way in which words change.  A merge leaves the bits outside its mask, the
later of two merges wins where their masks meet, and a field is read from the word that its mask
was taken from.
-/

namespace CanController

namespace Word

theorem merge_and_kept {mask kept : Word} (apart : mask &&& kept = 0) (new old : Word) :
    merge mask new old &&& kept = old &&& kept := by
  apply BitVec.eq_of_getLsbD_eq
  intro bit inside
  have exclusive : (mask.getLsbD bit && kept.getLsbD bit) = false := by
    rw [← BitVec.getLsbD_and, apart]
    exact BitVec.getLsbD_zero
  rw [BitVec.getLsbD_and, BitVec.getLsbD_and, getLsbD_merge]
  cases marked : mask.getLsbD bit with
  | false => simp
  | true => simp [(Bool.and_eq_false_imp.mp exclusive) marked]

theorem merge_and_part {mask part : Word} (within : part &&& ~~~mask = 0) (new old : Word) :
    merge mask new old &&& part = new &&& part := by
  apply BitVec.eq_of_getLsbD_eq
  intro bit inside
  have covered : (part.getLsbD bit && !mask.getLsbD bit) = false := by
    have bits := congrArg (BitVec.getLsbD · bit) within
    simpa [inside] using bits
  rw [BitVec.getLsbD_and, BitVec.getLsbD_and, getLsbD_merge]
  cases marked : mask.getLsbD bit with
  | true => simp
  | false =>
      rw [marked, Bool.not_false, Bool.and_true] at covered
      simp [covered]

theorem merge_merge_self (mask new other old : Word) :
    merge mask new (merge mask other old) = merge mask new old := by
  apply BitVec.eq_of_getLsbD_eq
  intro bit inside
  simp only [getLsbD_merge]
  cases mask.getLsbD bit <;> rfl

theorem merge_self (mask word : Word) : merge mask word word = word := by
  apply BitVec.eq_of_getLsbD_eq
  intro bit inside
  rw [getLsbD_merge, ite_self]

theorem merge_zero (new old : Word) : merge 0 new old = old := by
  apply BitVec.eq_of_getLsbD_eq
  intro bit inside
  have unmarked : (0 : Word).getLsbD bit = false := BitVec.getLsbD_zero
  rw [getLsbD_merge, if_neg (Bool.eq_false_iff.mp unmarked)]

theorem merge_onto_zero (mask new : Word) : merge mask new 0 = new &&& mask := by
  show (0#32 &&& ~~~mask) ||| (new &&& mask) = new &&& mask
  rw [BitVec.zero_and, BitVec.zero_or]

/-- Two merges in a row are one, in which the second has the last word. -/
theorem merge_merge (outer inner new other old : Word) :
    merge outer new (merge inner other old) =
      merge (inner ||| outer) (merge outer new other) old := by
  apply BitVec.eq_of_getLsbD_eq
  intro bit inside
  simp only [getLsbD_merge, BitVec.getLsbD_or]
  cases outer.getLsbD bit <;> cases inner.getLsbD bit <;> rfl

/-- Merges under masks that do not meet may be made in either order. -/
theorem merge_comm {mask other : Word} (apart : mask &&& other = 0) (new newer old : Word) :
    merge mask new (merge other newer old) = merge other newer (merge mask new old) := by
  apply BitVec.eq_of_getLsbD_eq
  intro bit inside
  have exclusive : (mask.getLsbD bit && other.getLsbD bit) = false := by
    rw [← BitVec.getLsbD_and, apart]
    exact BitVec.getLsbD_zero
  simp only [getLsbD_merge]
  cases marked : mask.getLsbD bit with
  | false => simp
  | true => simp [(Bool.and_eq_false_imp.mp exclusive) marked]

theorem and_not_or_self (word mask : Word) : (word &&& ~~~mask) ||| mask = word ||| mask := by
  apply BitVec.eq_of_getLsbD_eq
  intro bit inside
  simp only [BitVec.getLsbD_or, BitVec.getLsbD_and, BitVec.getLsbD_not, inside]
  cases mask.getLsbD bit <;> simp

/-- A word is known from its bits inside a mask and those outside. -/
theorem eq_of_and_eq (mask : Word) {one other : Word} (inside : one &&& mask = other &&& mask)
    (outside : one &&& ~~~mask = other &&& ~~~mask) : one = other := by
  apply BitVec.eq_of_getLsbD_eq
  intro bit small
  have marked := congrArg (BitVec.getLsbD · bit) inside
  have unmarked := congrArg (BitVec.getLsbD · bit) outside
  simp only [BitVec.getLsbD_and, BitVec.getLsbD_not, small, decide_true, Bool.true_and]
    at marked unmarked
  cases within : mask.getLsbD bit with
  | false => simpa [within] using unmarked
  | true => simpa [within] using marked

/-- A mask leaves a word alone that has no bit outside it. -/
theorem and_eq_self {word mask : Word} (within : word &&& ~~~mask = 0) :
    word &&& mask = word := by
  apply eq_of_and_eq mask
  · rw [BitVec.and_assoc, BitVec.and_self]
  · rw [within, BitVec.and_assoc, BitVec.and_not_self]
    exact BitVec.and_zero

end Word

namespace Field

/-- The bits of the field are all under the mask. -/
def Within (field : Field) (mask : Word) : Prop :=
  field.mask &&& ~~~mask = 0

instance (field : Field) (mask : Word) : Decidable (field.Within mask) :=
  inferInstanceAs (Decidable (_ = _))

theorem within_mask (field : Field) : field.Within field.mask :=
  BitVec.and_not_self _

theorem getLsbD_of_within {field : Field} {mask : Word} (within : field.Within mask) {bit : Nat}
    (inside : bit < 32) (covered : field.covers bit = true) : mask.getLsbD bit = true := by
  have exclusive : (field.mask &&& ~~~mask).getLsbD bit = false := by
    rw [within]
    exact BitVec.getLsbD_zero
  rw [BitVec.getLsbD_and, getLsbD_mask field inside, covered, BitVec.getLsbD_not] at exclusive
  simpa [inside] using exclusive

theorem get_eq_of_agree {field : Field} (fits : field.low + field.width ≤ 32) {one other : Word}
    (agree : ∀ bit, bit < 32 → field.covers bit = true → one.getLsbD bit = other.getLsbD bit) :
    field.get one = field.get other := by
  apply Nat.eq_of_testBit_eq
  intro bit
  rw [testBit_get, testBit_get]
  by_cases inside : bit < field.width
  · have covered : field.covers (field.low + bit) = true := by
      simp only [covers, Bool.and_eq_true, decide_eq_true_eq]
      omega
    rw [agree (field.low + bit) (by omega) covered]
  · simp [inside]

theorem test_eq_of_agree {field : Field} (proper : 0 < field.width) {one other : Word}
    (agree : ∀ bit, bit < 32 → field.covers bit = true → one.getLsbD bit = other.getLsbD bit) :
    field.test one = field.test other := by
  by_cases inside : field.low < 32
  · apply agree field.low inside
    simp only [covers, Bool.and_eq_true, decide_eq_true_eq]
    omega
  · have outside := Nat.le_of_not_lt inside
    rw [test, test, BitVec.getLsbD_of_ge _ _ outside, BitVec.getLsbD_of_ge _ _ outside]

/-- Words that agree under a mask agree on the fields within it. -/
theorem agree_of_and_eq {field : Field} {mask one other : Word} (within : field.Within mask)
    (same : one &&& mask = other &&& mask) (bit : Nat) (inside : bit < 32)
    (covered : field.covers bit = true) : one.getLsbD bit = other.getLsbD bit := by
  have marked := getLsbD_of_within within inside covered
  have bits := congrArg (BitVec.getLsbD · bit) same
  simpa only [BitVec.getLsbD_and, marked, Bool.and_true] using bits

theorem get_eq_of_and_eq (field : Field) {mask one other : Word} (within : field.Within mask)
    (fits : field.low + field.width ≤ 32) (same : one &&& mask = other &&& mask) :
    field.get one = field.get other :=
  get_eq_of_agree fits (agree_of_and_eq within same)

theorem test_eq_of_and_eq (field : Field) {mask one other : Word} (within : field.Within mask)
    (proper : 0 < field.width) (same : one &&& mask = other &&& mask) :
    field.test one = field.test other :=
  test_eq_of_agree proper (agree_of_and_eq within same)

theorem set_and_kept {field : Field} {kept : Word} (apart : field.mask &&& kept = 0)
    (value : Nat) (word : Word) : field.set value word &&& kept = word &&& kept :=
  Word.merge_and_kept apart ..

theorem put_and_kept {field : Field} {kept : Word} (apart : field.mask &&& kept = 0)
    (value : Bool) (word : Word) : field.put value word &&& kept = word &&& kept :=
  set_and_kept apart ..

/-- Setting a field to what another word has there copies these bits. -/
theorem set_get (field : Field) (word base : Word) :
    field.set (field.get word) base = Word.merge field.mask word base := by
  apply BitVec.eq_of_getLsbD_eq
  intro bit inside
  rw [getLsbD_set field _ base inside, Word.getLsbD_merge, getLsbD_mask field inside]
  by_cases covered : field.covers bit = true
  · have within : field.low ≤ bit ∧ bit < field.low + field.width := by
      simpa [covers] using covered
    have place : field.low + (bit - field.low) = bit := Nat.add_sub_cancel' within.1
    have below : bit - field.low < field.width := by omega
    rw [if_pos covered, if_pos covered, testBit_get, place]
    simp [below]
  · rw [if_neg covered, if_neg covered]

/-- Copying fields one after the other copies the bits that belong to at least one of them. -/
theorem setAll_get (fields : List Field) (word base : Word) :
    setAll (fields.map fun field => (field, field.get word)) base =
      Word.merge (union fields) word base := by
  -- The bits copied so far only grow, so the induction is on the fields still to come.
  have onwards (bits : Word) :
      setAll (fields.map fun field => (field, field.get word)) (Word.merge bits word base) =
        Word.merge (fields.foldl (fun bits field => bits ||| field.mask) bits) word base := by
    induction fields generalizing bits with
    | nil => rfl
    | cons field fields inductionHypothesis =>
        have copied : field.set (field.get word) (Word.merge bits word base) =
            Word.merge (bits ||| field.mask) word base := by
          rw [set_get, Word.merge_merge, Word.merge_self]
        rw [List.foldl_cons, ← inductionHypothesis, ← copied]
        rfl
  have start := onwards 0
  rw [Word.merge_zero] at start
  exact start

end Field

end CanController

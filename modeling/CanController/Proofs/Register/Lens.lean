import CanController.Proofs.History
import CanController.Proofs.Register.Merge

/-!
Fields as views of a word.  However many fields are set, and in whatever order, a bit is as the last
field that has it was set, and a bit that none of them has stays.  So a field reads what it was set
to last, unless one that shares bits with it is set afterwards, and two fields that share none may
be set in either order.  In the documented words only two pairs of fields share bits.
-/

namespace CanController

namespace Field

section Disjoint

variable {first second : Field} (apart : first.Disjoint second)
include apart

theorem Disjoint.symm : second.Disjoint first :=
  Or.symm apart

theorem mask_and_mask : first.mask &&& second.mask = 0 := by
  apply BitVec.eq_of_getLsbD_eq
  intro bit inside
  rw [BitVec.getLsbD_and, getLsbD_mask _ inside, getLsbD_mask _ inside, covers, covers]
  simp only [BitVec.ofNat_eq_ofNat, BitVec.getLsbD_zero, Bool.and_eq_false_iff,
    decide_eq_false_iff_not]
  rcases apart with below | above <;> omega

theorem set_comm (one other : Nat) (word : Word) :
    first.set one (second.set other word) = second.set other (first.set one word) :=
  Word.merge_comm (mask_and_mask apart) ..

end Disjoint

section Reading

variable {field : Field} (proper : 0 < field.width)
include proper

theorem testBit_zero_get (word : Word) : (field.get word).testBit 0 = field.test word := by
  rw [testBit_get, test, decide_eq_true proper, Bool.true_and, Nat.add_zero]

theorem reading_eq_of_get_eq {one other : Word} (same : field.get one = field.get other) :
    field.reading one = field.reading other := by
  rw [reading, reading, ← testBit_zero_get proper, ← testBit_zero_get proper, same]

end Reading

/-- There is no more in a field of one bit than whether it is set. -/
theorem toNat_test {field : Field} (single : field.width = 1) (word : Word) :
    (field.test word).toNat = field.get word := by
  have small : field.get word < 2 := by
    rw [get, single]
    exact (word.extractLsb' field.low 1).isLt
  rw [← testBit_zero_get (single ▸ Nat.one_pos), Nat.toNat_testBit, Nat.pow_zero, Nat.div_one,
    Nat.mod_eq_of_lt small]

theorem toNat_reading (field : Field) (word : Word) :
    (field.reading word).toNat = field.get word := by
  unfold reading
  split
  next single => exact toNat_test single word
  next => rfl

section Writes

variable {field : Field} {writes : List (Field × Nat)}

/-- What setting a field to a value makes of a bit, if the field has it. -/
def decision? (bit : Nat) (write : Field × Nat) : Option Bool :=
  if write.1.covers bit then some (write.2.testBit (bit - write.1.low)) else none

theorem getLsbD_setAll (writes : List (Field × Nat)) (word : Word) {bit : Nat}
    (inside : bit < 32) : (setAll writes word).getLsbD bit =
      (writes.filterMap (decision? bit)).getLast?.getD (word.getLsbD bit) := by
  apply foldl_last_decision (BitVec.getLsbD · bit)
  intro word write
  rw [getLsbD_set _ _ _ inside, decision?]
  split <;> rfl

theorem get_setAll_of_disjoint (fits : field.low + field.width ≤ 32)
    (apart : ∀ write ∈ writes, field.Disjoint write.1) (word : Word) :
    field.get (setAll writes word) = field.get word := by
  induction writes generalizing word with
  | nil => rfl
  | cons write writes inductionHypothesis =>
      obtain ⟨head, tail⟩ := List.forall_mem_cons.mp apart
      exact (inductionHypothesis tail _).trans (get_set_of_disjoint head fits write.2 word)

/-- A field reads what it was set to, less the bits that it has no room for, as long as nothing
that is set later meets it. -/
theorem get_setAll_of_last (fits : field.low + field.width ≤ 32) {later : List (Field × Nat)}
    (apart : ∀ write ∈ later, field.Disjoint write.1) (earlier : List (Field × Nat))
    (value : Nat) (word : Word) :
    field.get (setAll (earlier ++ (field, value) :: later) word) =
      value % (1 <<< field.width) := by
  have split : setAll (earlier ++ (field, value) :: later) word =
      setAll later (field.set value (setAll earlier word)) := List.foldl_append
  rw [split, get_setAll_of_disjoint fits apart, get_set_self fits, BitVec.toNat_ofNat,
    Nat.one_shiftLeft]

/-- Where no two fields of a row meet, each reads what it was set to. -/
theorem get_setAll_of_mem (fits : field.low + field.width ≤ 32)
    (apart : writes.Pairwise fun one other => one.1.Disjoint other.1) {value : Nat}
    (listed : (field, value) ∈ writes) (word : Word) :
    field.get (setAll writes word) = value % (1 <<< field.width) := by
  obtain ⟨earlier, later, rfl⟩ := List.append_of_mem listed
  obtain ⟨rest, -⟩ := List.pairwise_cons.mp (List.pairwise_append.mp apart).2.1
  exact get_setAll_of_last fits rest earlier value word

theorem test_setAll_of_mem (proper : 0 < field.width) (fits : field.low + field.width ≤ 32)
    (apart : writes.Pairwise fun one other => one.1.Disjoint other.1) {isSet : Bool}
    (listed : (field, isSet.toNat) ∈ writes) (word : Word) :
    field.test (setAll writes word) = isSet := by
  rw [← testBit_zero_get proper, get_setAll_of_mem fits apart listed, Nat.one_shiftLeft,
    Nat.testBit_mod_two_pow, decide_eq_true proper, Bool.true_and]
  cases isSet <;> rfl

end Writes

end Field

namespace Layout

/-- The documented fields that share bits: the two kinds of identifier, and two fields of which a
mailbox uses one or the other. -/
def overlaps : List (Field × Field) :=
  [(MailboxIdentifier.standard, MailboxIdentifier.extended),
    (MailboxLength.filterMatch, MailboxLength.transmitTime)]

theorem overlaps_of_mem_catalog :
    ∀ layout ∈ catalog, layout.fields.Pairwise fun first second =>
      first.Disjoint second ∨ (first, second) ∈ overlaps := by
  decide

theorem not_disjoint_of_mem_overlaps : ∀ pair ∈ overlaps, ¬ pair.1.Disjoint pair.2 := by
  decide

theorem disjoint_or_mem_overlaps {layout : Layout} (listed : layout ∈ catalog) :
    ∀ first ∈ layout.fields, ∀ second ∈ layout.fields, first = second ∨
      first.Disjoint second ∨ (first, second) ∈ overlaps ∨ (second, first) ∈ overlaps := by
  -- The list of overlaps follows the order of the layout, so each pair has to be turned over.
  have ordered := overlaps_of_mem_catalog layout listed
  apply List.Pairwise.forall_of_forall_of_flip
  · exact fun _ _ => .inl rfl
  · exact ordered.imp fun either => .inr (either.imp_right .inl)
  · exact ordered.imp fun either => .inr (either.imp Field.Disjoint.symm .inr)

theorem disjoint_iff_of_mem_catalog {layout : Layout} (listed : layout ∈ catalog) :
    ∀ first ∈ layout.fields, ∀ second ∈ layout.fields, first ≠ second →
      (first.Disjoint second ↔ (first, second) ∉ overlaps ∧ (second, first) ∉ overlaps) := by
  intro first one second other distinct
  constructor
  · intro apart
    exact ⟨fun shared => not_disjoint_of_mem_overlaps _ shared apart,
      fun shared => not_disjoint_of_mem_overlaps _ shared apart.symm⟩
  · rintro ⟨unlisted, unlistedBack⟩
    rcases disjoint_or_mem_overlaps listed first one second other with
      same | apart | shared | shared
    · exact absurd same distinct
    · exact apart
    · exact absurd shared unlisted
    · exact absurd shared unlistedBack

/-- Any row of setters on any documented word, with values that may be too wide.  Each bit is as the
last setter that has it made it.  So a field that no later setter meets reads what it was set to,
modulo two to the power of its width, one that no setter meets reads as before, and the order of
setters matters only where fields meet. -/
theorem last_setter_decides {layout : Layout} (listed : layout ∈ catalog)
    {writes : List (Field × Nat)} (own : ∀ write ∈ writes, write.1 ∈ layout.fields)
    (word : Word) :
    let final := Field.setAll writes word
    (∀ bit, bit < 32 → final.getLsbD bit =
      (writes.filterMap (Field.decision? bit)).getLast?.getD (word.getLsbD bit)) ∧
    (∀ earlier field value later, writes = earlier ++ (field, value) :: later →
      (∀ write ∈ later, field.Disjoint write.1) →
      (field.reading final).toNat = value % (1 <<< field.width)) ∧
    (∀ field ∈ layout.fields, (∀ write ∈ writes, field.Disjoint write.1) →
      field.reading final = field.reading word) ∧
    (∀ first second : Field, first.Disjoint second → ∀ one other,
      first.set one (second.set other final) = second.set other (first.set one final)) ∧
    ∀ first ∈ layout.fields, ∀ second ∈ layout.fields, first ≠ second →
      (first.Disjoint second ↔ (first, second) ∉ overlaps ∧ (second, first) ∉ overlaps) := by
  intro final
  have fits := fits_of_mem_catalog layout listed
  refine ⟨fun bit inside => Field.getLsbD_setAll writes word inside, ?_, ?_, ?_,
    disjoint_iff_of_mem_catalog listed⟩
  · rintro earlier field value later rfl apart
    obtain ⟨-, inside⟩ := fits field (own (field, value) (by simp))
    rw [Field.toNat_reading]
    exact Field.get_setAll_of_last inside apart earlier value word
  · intro field documented apart
    obtain ⟨proper, inside⟩ := fits field documented
    apply Field.reading_eq_of_get_eq proper
    exact Field.get_setAll_of_disjoint inside apart word
  · intro first second apart one other
    exact Field.set_comm apart one other final

/-- A standard identifier put over an extended one leaves the low bits of the latter.  Both values
are too wide for their fields. -/
theorem setters_of_mailbox_identifier :
    let writes := [(MailboxIdentifier.extended, 0x3FFFFFFF), (MailboxIdentifier.standard, 0xF123),
      (MailboxIdentifier.isExtended, 0)]
    let final := Field.setAll writes 0x7#32
    MailboxIdentifier.layout ∈ catalog ∧
      (∀ write ∈ writes, write.1 ∈ MailboxIdentifier.layout.fields) ∧
      final.getLsbD 20 = true ∧ final.getLsbD 23 = false ∧
      (MailboxIdentifier.standard.reading final).toNat = 0x123 ∧
      MailboxIdentifier.remote.reading final = .flag true := by
  intro writes final
  have listed : MailboxIdentifier.layout ∈ catalog := by decide
  have own : ∀ write ∈ writes, write.1 ∈ MailboxIdentifier.layout.fields := by decide
  obtain ⟨bits, last, kept, -⟩ := last_setter_decides listed own 0x7#32
  have standard := last [(MailboxIdentifier.extended, 0x3FFFFFFF)] MailboxIdentifier.standard
    0xF123 [(MailboxIdentifier.isExtended, 0)] rfl (by decide)
  have remote := kept MailboxIdentifier.remote (by decide) (by decide)
  exact ⟨listed, own, bits 20 (by decide), bits 23 (by decide), standard, remote⟩

end Layout

end CanController

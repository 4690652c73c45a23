import CanController.Word

/-!
Words in messages.  The text of a word is `0x` and eight lowercase hexadecimal digits.  Read from
the left, the digits up to some place make the word without the bits of the places below, so all
of them make the word.
-/

namespace CanController.Word

def lowercaseDigits : List Char :=
  ['0', '1', '2', '3', '4', '5', '6', '7', '8', '9', 'a', 'b', 'c', 'd', 'e', 'f']

def digitValue (digit : Char) : Nat :=
  lowercaseDigits.idxOf digit

/-- The number that `value` becomes when digits are put after its own. -/
def readDigits (value : Nat) (digits : List Char) : Nat :=
  digits.foldl (fun value digit => 16 * value + digitValue digit) value

/-- The text is `0x` and exactly eight lowercase hexadecimal digits, which make the word. -/
def Spells (text : String) (word : Word) : Prop :=
  ∃ digits : List Char, text = "0x" ++ String.ofList digits ∧ digits.length = 8 ∧
    (∀ digit ∈ digits, digit ∈ lowercaseDigits) ∧ readDigits 0 digits = word.toNat

theorem digitChar_mem_and_value : ∀ value, value < 16 →
    Nat.digitChar value ∈ lowercaseDigits ∧ digitValue (Nat.digitChar value) = value := by
  decide

/-- The four bits at one place come after those of the places above. -/
theorem shiftRight_place (word : Word) (place : Nat) :
    16 * (word.toNat >>> (4 * (place + 1))) + (word.extractLsb' (4 * place) 4).toNat =
      word.toNat >>> (4 * place) := by
  rw [Nat.mul_succ, Nat.shiftRight_add, BitVec.extractLsb'_toNat, Nat.shiftRight_eq_div_pow _ 4]
  exact Nat.div_add_mod _ 16

theorem readDigits_places (word : Word) (count : Nat) :
    readDigits (word.toNat >>> (4 * count)) ((List.range count).reverse.map fun place =>
      Nat.digitChar (word.extractLsb' (4 * place) 4).toNat) = word.toNat := by
  induction count with
  | zero => rfl
  | succ count inductionHypothesis =>
      have value : digitValue (Nat.digitChar (word.extractLsb' (4 * count) 4).toNat) =
          (word.extractLsb' (4 * count) 4).toNat :=
        (digitChar_mem_and_value _ (word.extractLsb' (4 * count) 4).isLt).2
      rw [List.range_succ, List.reverse_append, List.reverse_singleton, List.singleton_append,
        List.map_cons, readDigits, List.foldl_cons, value, shiftRight_place]
      exact inductionHypothesis

theorem spells_hex (word : Word) : Spells (hex word) word := by
  refine ⟨hexDigits word, rfl, length_hexDigits word, ?_, ?_⟩
  · intro digit listed
    obtain ⟨place, -, rfl⟩ := List.mem_map.mp listed
    exact (digitChar_mem_and_value _ (word.extractLsb' (4 * place) 4).isLt).1
  · have above : word.toNat >>> (4 * 8) = 0 := Nat.shiftRight_eq_zero _ _ word.isLt
    have read := readDigits_places word 8
    rw [above] at read
    exact read

example : hex 0x001C0005#32 = "0x001c0005" := by decide

end CanController.Word

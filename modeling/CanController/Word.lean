/-!
Machine words.  A word is the contents of one register: thirty-two bits.  A masked merge takes the
bits under a mask from one word and all other bits from another.  In messages a word is written as
eight lowercase hexadecimal digits; on the bus it is four bytes, the lowest first.
-/

namespace CanController

abbrev Word := BitVec 32

namespace Word

/-- The bits under `mask` are those of `new`, all others those of `old`. -/
def merge (mask new old : Word) : Word :=
  (old &&& ~~~mask) ||| (new &&& mask)

theorem getLsbD_merge (mask new old : Word) (bit : Nat) :
    (merge mask new old).getLsbD bit =
      if mask.getLsbD bit then new.getLsbD bit else old.getLsbD bit := by
  rw [merge, BitVec.getLsbD_or, BitVec.getLsbD_and, BitVec.getLsbD_and, BitVec.getLsbD_not]
  by_cases inside : bit < 32
  · cases mask.getLsbD bit <;> simp [inside]
  · simp [BitVec.getLsbD_of_ge _ _ (Nat.le_of_not_lt inside)]

theorem merge_allOnes (new old : Word) : merge (BitVec.allOnes 32) new old = new := by
  rw [merge, BitVec.not_allOnes, BitVec.and_zero, BitVec.zero_or, BitVec.and_allOnes]

/-- The hexadecimal digits of a word, most significant first. -/
def hexDigits (word : Word) : List Char :=
  [7, 6, 5, 4, 3, 2, 1, 0].map fun place =>
    Nat.digitChar (word.extractLsb' (4 * place) 4).toNat

@[simp]
theorem length_hexDigits (word : Word) : (hexDigits word).length = 8 := rfl

def hex (word : Word) : String :=
  "0x" ++ String.ofList (hexDigits word)

/-- The four bytes of a word, lowest first. -/
def bytes (word : Word) : List Nat :=
  [0, 1, 2, 3].map fun place => (word.extractLsb' (8 * place) 8).toNat

end Word

end CanController

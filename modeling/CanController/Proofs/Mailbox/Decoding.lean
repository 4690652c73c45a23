import CanController.Mailbox.Contents
import CanController.Proofs.Register.Lens

/-!
Frames in the words of a mailbox.  An identifier that is put into a word is read back, whatever the
word held before and in whatever order its fields are set, though a standard identifier covers only
some of the bits of an extended one.  Data bytes and data words determine each other, and a mailbox
is read from the four words at its offset and from no others.
-/

namespace CanController

namespace Word

/-- The word that the bytes make, lowest first. -/
def ofBytes (bytes : List Nat) : Word :=
  BitVec.ofNat 32 (bytes.foldr (fun byte rest => byte + 0x100 * rest) 0)

theorem bytes_eq (word : Word) : bytes word = [word.toNat % 0x100, word.toNat / 0x100 % 0x100,
    word.toNat / 0x10000 % 0x100, word.toNat / 0x1000000 % 0x100] := by
  simp [bytes, Nat.shiftRight_eq_div_pow]

theorem lt_of_mem_bytes {word : Word} {byte : Nat} (listed : byte ∈ bytes word) :
    byte < 0x100 := by
  obtain ⟨place, -, rfl⟩ := List.mem_map.mp listed
  exact (word.extractLsb' (8 * place) 8).isLt

theorem ofBytes_bytes (word : Word) : ofBytes (bytes word) = word := by
  apply BitVec.eq_of_toNat_eq
  have bounded := word.isLt
  simp only [bytes_eq, ofBytes, List.foldr_cons, List.foldr_nil, BitVec.toNat_ofNat]
  omega

theorem bytes_ofBytes {bytes : List Nat} (four : bytes.length = 4)
    (small : ∀ byte ∈ bytes, byte < 0x100) : (ofBytes bytes).bytes = bytes := by
  match bytes, four with
  | [first, second, third, fourth], _ =>
      simp only [List.forall_mem_cons] at small
      obtain ⟨firstSmall, secondSmall, thirdSmall, fourthSmall, -⟩ := small
      simp only [bytes_eq, ofBytes, List.foldr_cons, List.foldr_nil, BitVec.toNat_ofNat,
        List.cons.injEq, and_true]
      omega

example : ofBytes [0x01, 0x02, 0x03, 0x04] = 0x04030201#32 := rfl

end Word

namespace Identifier

def isExtended : Identifier → Bool
  | standard _ => false
  | extended _ => true

/-- The field of the identifier word that holds an identifier of this kind. -/
def field : Identifier → Field
  | standard _ => MailboxIdentifier.standard
  | extended _ => MailboxIdentifier.extended

def value : Identifier → Nat
  | standard value => value
  | extended value => value

/-- What has to be set in the identifier word of a frame. -/
def writes (identifier : Identifier) (isRemote isRequested : Bool) : List (Field × Nat) :=
  [(MailboxIdentifier.isExtended, identifier.isExtended.toNat),
    (identifier.field, identifier.value), (MailboxIdentifier.remote, isRemote.toNat),
    (MailboxIdentifier.transmitRequest, isRequested.toNat)]

theorem value_mod_field {identifier : Identifier} (inRange : identifier.InRange) :
    identifier.value % (1 <<< identifier.field.width) = identifier.value := by
  cases identifier <;> exact Nat.mod_eq_of_lt inRange

theorem field_fits (identifier : Identifier) :
    identifier.field.low + identifier.field.width ≤ 32 := by
  cases identifier <;> exact Nat.le_refl 32

section Row

variable {identifier : Identifier} {isRemote isRequested : Bool} {row : List (Field × Nat)}
  (order : row.Perm (identifier.writes isRemote isRequested))
include order

theorem pairwise_of_perm : row.Pairwise fun one other => one.1.Disjoint other.1 := by
  have listed : (identifier.writes isRemote isRequested).Pairwise
      fun one other => one.1.Disjoint other.1 := by
    rw [← List.pairwise_map]
    cases identifier <;> simp only [writes, field, List.map_cons, List.map_nil] <;> decide
  exact listed.perm order.symm Field.Disjoint.symm

theorem remote_setAll (word : Word) :
    MailboxIdentifier.remote.test (Field.setAll row word) = isRemote :=
  Field.test_setAll_of_mem (by decide) (by decide) (pairwise_of_perm order)
    (order.mem_iff.mpr (by simp [writes])) word

theorem ofWord_setAll (inRange : identifier.InRange) (word : Word) :
    ofWord (Field.setAll row word) = identifier := by
  have apart := pairwise_of_perm order
  have kind : MailboxIdentifier.isExtended.test (Field.setAll row word) =
      identifier.isExtended :=
    Field.test_setAll_of_mem (by decide) (by decide) apart
      (order.mem_iff.mpr (by simp [writes])) word
  have number : identifier.field.get (Field.setAll row word) = identifier.value :=
    (Field.get_setAll_of_mem identifier.field_fits apart
      (order.mem_iff.mpr (by simp [writes])) word).trans (value_mod_field inRange)
  cases identifier with
  | standard value =>
      rw [ofWord, kind]
      exact congrArg standard number
  | extended value =>
      rw [ofWord, kind]
      exact congrArg extended number

end Row

end Identifier

namespace MailboxContents

/-- What a mailbox with these words holds. -/
def ofWords (words : MailboxPart → Word) : MailboxContents where
  identifier := .ofWord (words .identifier)
  isRemote := MailboxIdentifier.remote.test (words .identifier)
  dataLength := MailboxLength.dataLength.get (words .length)
  timestamp := MailboxLength.timestamp.get (words .length)
  filterMatch := MailboxLength.filterMatch.get (words .length)
  data := Word.bytes (words .dataLow) ++ Word.bytes (words .dataHigh)

/-- The contents are those of the four words from an offset on, and what is written elsewhere does
not change them. -/
def ReadFrom (contents : Memory → MailboxContents) (start : Nat) : Prop :=
  ∃ places : MailboxPart → Address,
    (∀ part, 4 * (places part).val = start + 4 * part.index) ∧
    (∀ memory, contents memory = ofWords fun part => memory.get (places part)) ∧
    ∀ (memory : Memory) (address : Address) (word : Word),
      (∀ part : MailboxPart, 4 * address.val ≠ start + 4 * part.index) →
      contents (memory.set address word) = contents memory

theorem readFrom_ofMemory {register : MailboxPart → Register} {start : Nat}
    (offsets : ∀ part, (register part).offset = start + 4 * part.index) :
    ReadFrom (ofMemory · register) start := by
  refine ⟨fun part => (register part).address, offsets, fun _ => rfl, ?_⟩
  intro memory address word elsewhere
  have kept (part : MailboxPart) : (memory.set address word).read (register part) =
      memory.read (register part) := by
    apply Memory.get_set_ne
    rintro rfl
    exact elsewhere part (offsets part)
  simp only [ofMemory, kept]

section Words

variable (words : MailboxPart → Word)

theorem length_data : (ofWords words).data.length = 8 := rfl

theorem data_of_bytes {bytes : List Nat} (eight : bytes.length = 8)
    (small : ∀ byte ∈ bytes, byte < 0x100) (low : words .dataLow = Word.ofBytes (bytes.take 4))
    (high : words .dataHigh = Word.ofBytes (bytes.drop 4)) : (ofWords words).data = bytes := by
  have first : Word.bytes (words .dataLow) = bytes.take 4 := by
    rw [low]
    exact Word.bytes_ofBytes (by simp [eight]) fun byte listed =>
      small byte (List.mem_of_mem_take listed)
  have rest : Word.bytes (words .dataHigh) = bytes.drop 4 := by
    rw [high]
    exact Word.bytes_ofBytes (by simp [eight]) fun byte listed =>
      small byte (List.mem_of_mem_drop listed)
  show Word.bytes (words .dataLow) ++ Word.bytes (words .dataHigh) = bytes
  rw [first, rest, List.take_append_drop]

theorem ofBytes_data : Word.ofBytes ((ofWords words).data.take 4) = words .dataLow ∧
    Word.ofBytes ((ofWords words).data.drop 4) = words .dataHigh :=
  ⟨Word.ofBytes_bytes _, Word.ofBytes_bytes _⟩

theorem lt_of_mem_data : ∀ byte ∈ (ofWords words).data, byte < 0x100 := by
  intro byte listed
  rcases List.mem_append.mp listed with low | high
  · exact Word.lt_of_mem_bytes low
  · exact Word.lt_of_mem_bytes high

/-- The three numbers in the length word take it up between them, but for bits that are in none. -/
theorem length_fields :
    (ofWords words).dataLength = (words .length).toNat % 0x10 ∧
    (ofWords words).filterMatch = (words .length).toNat / 0x100 % 0x100 ∧
    (ofWords words).timestamp = (words .length).toNat / 0x10000 := by
  have bounded := (words .length).isLt
  simp only [ofWords, Field.get, BitVec.extractLsb'_toNat, Nat.shiftRight_eq_div_pow,
    MailboxLength.dataLength, MailboxLength.filterMatch, MailboxLength.timestamp, Field.range,
    Nat.reduceAdd, Nat.reduceSub, Nat.reducePow, Nat.div_one, true_and]
  omega

end Words

/-- Whatever the words of a mailbox are, they tell one frame, and a frame that was put into them is
the one that they tell.  The mailboxes of the block have four words each, none of them shared. -/
theorem words_tell_frame (words : MailboxPart → Word) :
    let contents := ofWords words
    let length := (words .length).toNat
    (∀ (prior : Word) (identifier : Identifier) (isRemote isRequested : Bool)
      (row : List (Field × Nat)), identifier.InRange →
      row.Perm (identifier.writes isRemote isRequested) →
      words .identifier = Field.setAll row prior →
      contents.identifier = identifier ∧ contents.isRemote = isRemote) ∧
    contents.identifier.InRange ∧
    (∀ bytes : List Nat, bytes.length = 8 → (∀ byte ∈ bytes, byte < 0x100) →
      words .dataLow = Word.ofBytes (bytes.take 4) →
      words .dataHigh = Word.ofBytes (bytes.drop 4) → contents.data = bytes) ∧
    (contents.data.length = 8 ∧ (∀ byte ∈ contents.data, byte < 0x100) ∧
      Word.ofBytes (contents.data.take 4) = words .dataLow ∧
      Word.ofBytes (contents.data.drop 4) = words .dataHigh) ∧
    (contents.dataLength < 16 ∧ contents.dataLength = length % 0x10 ∧
      contents.filterMatch = length / 0x100 % 0x100 ∧ contents.timestamp = length / 0x10000) ∧
    (∀ mailbox : TxMailbox, ReadFrom mailbox.contents (0x180 + 0x10 * (mailbox.number - 1))) ∧
    ∀ fifo : RxFifo, ReadFrom fifo.contents (0x1B0 + 0x10 * fifo.index) := by
  intro contents length
  obtain ⟨dataLength, filterMatch, timestamp⟩ := length_fields words
  refine ⟨?_, Identifier.inRange_ofWord _, fun _ => data_of_bytes words,
    ⟨length_data words, lt_of_mem_data words, ofBytes_data words⟩,
    ⟨?_, dataLength, filterMatch, timestamp⟩, ?_, ?_⟩
  · intro prior identifier isRemote isRequested row inRange order held
    have frame : contents.identifier = identifier :=
      (congrArg Identifier.ofWord held).trans (Identifier.ofWord_setAll order inRange prior)
    have remote : contents.isRemote = isRemote :=
      (congrArg MailboxIdentifier.remote.test held).trans (Identifier.remote_setAll order prior)
    exact ⟨frame, remote⟩
  · rw [dataLength]
    exact Nat.mod_lt _ (by decide)
  · intro mailbox
    apply readFrom_ofMemory
    intro part
    simp only [Register.offset, Register.position, TxMailbox.number]
    omega
  · intro fifo
    apply readFrom_ofMemory
    intro part
    simp only [Register.offset, Register.position]
    omega

/-- A standard identifier over a word that had every bit set, its fields set in another order. -/
theorem standard_frame_over_leftovers :
    let row := [(MailboxIdentifier.standard, 0x123), (MailboxIdentifier.transmitRequest, 1),
      (MailboxIdentifier.isExtended, 0), (MailboxIdentifier.remote, 0)]
    let words (part : MailboxPart) : Word :=
      if part = .identifier then Field.setAll row 0xFFFFFFFF#32
      else if part = .length then 0xBEEF0208#32
      else if part = .dataLow then 0x04030201#32
      else 0x08070605#32
    let contents := ofWords words
    (Identifier.standard 0x123).InRange ∧
      row.Perm ((Identifier.standard 0x123).writes false true) ∧
      contents.identifier = .standard 0x123 ∧ contents.isRemote = false ∧
      contents.data = [1, 2, 3, 4, 5, 6, 7, 8] ∧
      contents.dataLength = 8 ∧ contents.filterMatch = 2 ∧ contents.timestamp = 0xBEEF ∧
      ReadFrom TxMailbox.second.contents 0x190 ∧ ReadFrom RxFifo.fifo1.contents 0x1C0 := by
  intro row words contents
  have inRange : (Identifier.standard 0x123).InRange := by
    rw [Identifier.InRange]
    decide
  have order : row.Perm ((Identifier.standard 0x123).writes false true) := by decide
  obtain ⟨told, -, data, -, numbers, transmit, receive⟩ := words_tell_frame words
  have length : words .length = 0xBEEF0208#32 := rfl
  rw [length] at numbers
  obtain ⟨-, dataLength, filterMatch, timestamp⟩ := numbers
  obtain ⟨identifier, remote⟩ := told 0xFFFFFFFF#32 _ false true row inRange order rfl
  have bytes := data [1, 2, 3, 4, 5, 6, 7, 8] rfl (by decide) (by decide) (by decide)
  exact ⟨inRange, order, identifier, remote, bytes, dataLength, filterMatch, timestamp,
    transmit .second, receive .fifo1⟩

end MailboxContents

end CanController

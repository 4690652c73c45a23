import CanController.Mailbox.Contents

/-!
The search for an empty mailbox.  The mailboxes are gone through by their numbers, so the search
finds the empty one with the least number.  All that it looks at is three bits of the status word:
users count the mailboxes from one, and the bits are counted from zero.
-/

namespace CanController.TxMailbox

/-- The flag that is set while the mailbox is empty. -/
def emptyFlag : TxMailbox → Field
  | first => TransmitStatus.mailboxEmpty0
  | second => TransmitStatus.mailboxEmpty1
  | third => TransmitStatus.mailboxEmpty2

theorem field?_emptyFlag (mailbox : TxMailbox) :
    TransmitStatus.layout.field? ("tme" ++ toString mailbox.index) = some mailbox.emptyFlag := by
  cases mailbox <;> decide

theorem isFree_eq_test (memory : Memory) (mailbox : TxMailbox) :
    mailbox.isFree memory = mailbox.emptyFlag.test (memory.read .transmitStatus) := by
  cases mailbox with
  | first => exact TransmitStatus.isEmpty_zero _
  | second => exact TransmitStatus.isEmpty_one _
  | third => exact TransmitStatus.isEmpty_two _

theorem number_injective {one other : TxMailbox} (same : one.number = other.number) :
    one = other :=
  index_injective (Nat.succ.inj same)

theorem all_ascending : all.Pairwise fun one other => one.number < other.number := by
  decide

section Number

variable {number : Nat} {mailbox : TxMailbox}

theorem ofNumber_eq_ok_iff : ofNumber number = .ok mailbox ↔ number = mailbox.number := by
  rw [← ofNumber?_eq_some_iff, ofNumber]
  cases ofNumber? number <;> simp

theorem exists_ofNumber_eq_ok_iff :
    (∃ mailbox, ofNumber number = .ok mailbox) ↔ number = 1 ∨ number = 2 ∨ number = 3 := by
  constructor
  · rintro ⟨mailbox, named⟩
    rw [ofNumber_eq_ok_iff.mp named]
    cases mailbox <;> simp [TxMailbox.number, index]
  · rintro (rfl | rfl | rfl)
    · exact ⟨first, rfl⟩
    · exact ⟨second, rfl⟩
    · exact ⟨third, rfl⟩

theorem ofNumber_eq_error (unnamed : ¬ ∃ mailbox, ofNumber number = .ok mailbox) :
    ofNumber number = .error .invalidArgument := by
  unfold ofNumber at unnamed ⊢
  split
  next mailbox found => exact absurd ⟨mailbox, by rw [found]⟩ unnamed
  next => rfl

end Number

section Search

variable {memory : Memory} {mailbox : TxMailbox}

theorem firstFree?_eq_none_iff :
    firstFree? memory = none ↔ ∀ mailbox : TxMailbox, mailbox.isFree memory = false := by
  simp [firstFree?, mem_all]

/-- What the search finds is empty, and what comes before it is not. -/
theorem of_firstFree? (found : firstFree? memory = some mailbox) :
    mailbox.isFree memory = true ∧
      ∀ other : TxMailbox, other.number < mailbox.number → other.isFree memory = false := by
  obtain ⟨free, earlier, later, listed, passed⟩ := List.find?_eq_some_iff_append.mp found
  refine ⟨free, fun other before => ?_⟩
  have ascending := listed ▸ all_ascending
  have member := listed ▸ mem_all other
  -- A lesser number stands before the find, among those that the search has passed over.
  rcases List.mem_append.mp member with isEarlier | isLater
  · simpa using passed other isEarlier
  · obtain ⟨above, -⟩ := List.pairwise_cons.mp (List.pairwise_append.mp ascending).2.1
    rcases List.mem_cons.mp isLater with rfl | isLater
    · exact absurd before (Nat.lt_irrefl _)
    · exact absurd before (Nat.lt_asymm (above other isLater))

theorem firstFree?_eq_some_iff : firstFree? memory = some mailbox ↔
    mailbox.isFree memory = true ∧
      ∀ other : TxMailbox, other.number < mailbox.number → other.isFree memory = false := by
  refine ⟨of_firstFree?, ?_⟩
  rintro ⟨free, least⟩
  cases found : firstFree? memory with
  | none =>
      rw [firstFree?_eq_none_iff.mp found mailbox] at free
      contradiction
  | some other =>
      obtain ⟨otherFree, otherLeast⟩ := of_firstFree? found
      have same : other.number = mailbox.number := by
        rcases Nat.lt_trichotomy other.number mailbox.number with below | same | above
        · simp [least other below] at otherFree
        · exact same
        · simp [otherLeast mailbox above] at free
      rw [number_injective same]

end Search

/-- The answers depend on the three empty flags alone. -/
theorem isFree_congr {memory other : Memory}
    (agree : ∀ bit, 26 ≤ bit → bit ≤ 28 → (other.read .transmitStatus).getLsbD bit =
      (memory.read .transmitStatus).getLsbD bit) : isFree other = isFree memory := by
  funext mailbox
  have bounded := mailbox.index_lt
  have place : TransmitStatus.emptyOffset = 26 := rfl
  apply agree <;> omega

/-- The search and the status tell the same, for any memory.  The number of a mailbox, its place in
the status word and its named flag go together, and nothing else in the block has a say. -/
theorem search_agrees_with_status (memory : Memory) :
    let status := memory.read .transmitStatus
    (∀ mailbox, firstFree? memory = some mailbox ↔ mailbox.isFree memory = true ∧
      ∀ other : TxMailbox, other.number < mailbox.number → other.isFree memory = false) ∧
    (firstFree? memory = none ↔ ∀ mailbox : TxMailbox, mailbox.isFree memory = false) ∧
    (∀ number, (∃ mailbox, ofNumber number = .ok mailbox) ↔
      number = 1 ∨ number = 2 ∨ number = 3) ∧
    (∀ number, (¬ ∃ mailbox, ofNumber number = .ok mailbox) →
      ofNumber number = .error .invalidArgument) ∧
    (∀ number mailbox, ofNumber number = .ok mailbox →
      mailbox.index = number - 1 ∧
      TransmitStatus.layout.field? ("tme" ++ toString (number - 1)) = some mailbox.emptyFlag ∧
      mailbox.isFree memory = mailbox.emptyFlag.test status ∧
      mailbox.isFree memory = status.getLsbD (26 + (number - 1))) ∧
    ∀ other : Memory,
      (∀ bit, 26 ≤ bit → bit ≤ 28 →
        (other.read .transmitStatus).getLsbD bit = status.getLsbD bit) →
      firstFree? other = firstFree? memory ∧
        ∀ mailbox : TxMailbox, mailbox.isFree other = mailbox.isFree memory := by
  intro status
  refine ⟨fun _ => firstFree?_eq_some_iff, firstFree?_eq_none_iff,
    fun _ => exists_ofNumber_eq_ok_iff, fun _ => ofNumber_eq_error, ?_, ?_⟩
  · intro number mailbox named
    rw [ofNumber_eq_ok_iff.mp named]
    exact ⟨rfl, mailbox.field?_emptyFlag, mailbox.isFree_eq_test memory, rfl⟩
  · intro other agree
    have same : isFree other = isFree memory := isFree_congr agree
    exact ⟨by rw [firstFree?, same, firstFree?], congrFun same⟩

/-- Only the first mailbox holds a frame; of the other memory all other bits are turned over. -/
theorem search_past_first_mailbox :
    let memory := Memory.powerOn.write .transmitStatus 0x18000103#32
    let other := (Memory.filled 0xFFFFFFFF#32).write .transmitStatus 0xFBFFFEFC#32
    firstFree? memory = some second ∧ firstFree? other = some second ∧
      ofNumber 2 = .ok second ∧ second.isFree memory = true ∧ first.isFree memory = false ∧
      ofNumber 4 = .error .invalidArgument := by
  intro memory other
  have status : memory.read .transmitStatus = 0x18000103#32 := Memory.read_write_self ..
  have otherStatus : other.read .transmitStatus = 0xFBFFFEFC#32 := Memory.read_write_self ..
  obtain ⟨found, -, named, unnamed, told, alone⟩ := search_agrees_with_status memory
  obtain ⟨-, -, -, secondFree⟩ := told 2 second rfl
  obtain ⟨-, -, -, firstFree⟩ := told 1 first rfl
  rw [status] at secondFree firstFree alone
  have free : firstFree? memory = some second := by
    refine (found second).mpr ⟨secondFree, fun mailbox before => ?_⟩
    cases mailbox with
    | first => exact firstFree
    | second => exact absurd before (Nat.lt_irrefl _)
    | third => exact absurd before (by decide)
  have agree : ∀ bit, 26 ≤ bit → bit ≤ 28 →
      (other.read .transmitStatus).getLsbD bit = (0x18000103#32).getLsbD bit := by
    intro bit least most
    rw [otherStatus]
    obtain rfl | rfl | rfl : bit = 26 ∨ bit = 27 ∨ bit = 28 := by omega
    · rfl
    · rfl
    · rfl
  refine ⟨free, (alone other agree).1.trans free, rfl, secondFree, firstFree, unnamed 4 ?_⟩
  simp [named]

end CanController.TxMailbox

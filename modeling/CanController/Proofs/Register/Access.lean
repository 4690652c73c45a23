import CanController.Proofs.History
import CanController.Proofs.Register.Merge
import CanController.Register.Memory

/-!
Rows of accesses to the register block.  The block is laid out without overlap, so an access to one
register is none to another, and what is in the gaps stays.  In the register itself each bit is as
the last access that wrote it left it: a write writes every bit, a masked update those under its
mask.
-/

namespace CanController

namespace Register

def gap (words : Nat) : List (Option Register) :=
  List.replicate words none

def mailboxWords (part : MailboxPart → Register) : List (Option Register) :=
  MailboxPart.all.map fun place => some (part place)

def bankWords (bank : Fin filterBanks) : List (Option Register) :=
  [some (filterBank bank .first), some (filterBank bank .second)]

/-- The block word for word, in the order of the words.  A word in a gap is of no register. -/
def declaration : List (Option Register) :=
  [some masterControl, some masterStatus, some transmitStatus]
  ++ (RxFifo.all.map fun fifo => some (receiveFifo fifo))
  ++ [some interruptEnable, some errorState, some timingControl]
  ++ gap 88
  ++ (TxMailbox.all.flatMap fun mailbox => mailboxWords (txMailbox mailbox))
  ++ (RxFifo.all.flatMap fun fifo => mailboxWords (rxMailbox fifo))
  ++ gap 12
  ++ [some filterMaster, some filterMode]
  ++ gap 1
  ++ [some filterScale]
  ++ gap 1
  ++ [some filterAssignment]
  ++ gap 1
  ++ [some filterActivation]
  ++ gap 8
  ++ (List.finRange filterBanks).flatMap bankWords

theorem length_declaration : declaration.length = blockWords := by
  decide +kernel

theorem mem_all (register : Register) : register ∈ all :=
  List.mem_of_find?_eq_some (at?_address register)

theorem declaration_position_of_mem_all :
    ∀ register ∈ all, declaration[register.position]? = some (some register) := by
  decide +kernel

/-- A register is where the block has it. -/
theorem declaration_position (register : Register) :
    declaration[register.position]? = some (some register) :=
  declaration_position_of_mem_all register (mem_all register)

theorem address_ne_of_gap {place : Address} (reserved : declaration[place.val]? = some none)
    (register : Register) : register.address ≠ place := by
  rintro rfl
  have declared := declaration_position register
  exact absurd (declared.symm.trans reserved) (by simp)

theorem eq_of_offset_eq {one other : Register} (same : one.offset = other.offset) :
    one = other :=
  address_injective (Fin.ext (Nat.eq_of_mul_eq_mul_left (by decide) same))

end Register

/-- An access that writes to a register. -/
inductive Access
  | write (register : Register) (word : Word)
  | merge (register : Register) (mask word : Word)
deriving DecidableEq

namespace Access

def register : Access → Register
  | write register _ => register
  | merge register _ _ => register

/-- The bits that the access writes. -/
def mask : Access → Word
  | write _ _ => BitVec.allOnes 32
  | merge _ mask _ => mask

def word : Access → Word
  | write _ word => word
  | merge _ _ word => word

/-- What the access makes of a bit of the register, if it writes it. -/
def decision? (register : Register) (bit : Nat) (access : Access) : Option Bool :=
  if access.register = register ∧ access.mask.getLsbD bit = true then
    some (access.word.getLsbD bit)
  else
    none

end Access

namespace Memory

theorem modify_modify (memory : Memory) (register : Register) (first second : Word → Word) :
    (memory.modify register first).modify register second =
      memory.modify register (second ∘ first) := by
  apply ext
  intro address
  by_cases same : register.address = address
  · subst same
    show ((memory.modify register first).modify register second).read register =
      (memory.modify register (second ∘ first)).read register
    rw [read_modify_self, read_modify_self, read_modify_self, Function.comp_apply]
  · rw [modify, write, get_set_ne same, modify, write, get_set_ne same, modify, write,
      get_set_ne same]

theorem merge_comm {mask other : Word} (apart : mask &&& other = 0) (memory : Memory)
    (register : Register) (new newer : Word) :
    (memory.merge register mask new).merge register other newer =
      (memory.merge register other newer).merge register mask new := by
  rw [merge, merge, merge, merge, modify_modify, modify_modify]
  congr 1
  funext word
  exact (Word.merge_comm apart new newer word).symm

def access (memory : Memory) : Access → Memory
  | .write register word => memory.write register word
  | .merge register mask word => memory.merge register mask word

def accessAll (memory : Memory) (accesses : List Access) : Memory :=
  accesses.foldl access memory

section Access

variable (memory : Memory) (access : Access)

theorem read_access_self : (memory.access access).read access.register =
    Word.merge access.mask access.word (memory.read access.register) := by
  cases access with
  | write register word =>
      exact (read_write_self ..).trans (Word.merge_allOnes ..).symm
  | merge register mask word => exact read_modify_self ..

theorem get_access_ne {place : Address} (apart : access.register.address ≠ place) :
    (memory.access access).get place = memory.get place := by
  cases access with
  | write register word => exact get_set_ne apart ..
  | merge register mask word => exact get_set_ne apart ..

theorem read_access_ne {register : Register} (apart : access.register ≠ register) :
    (memory.access access).read register = memory.read register :=
  memory.get_access_ne access fun same => apart (Register.address_injective same)

/-- An access writes the bits under its mask in its own register, and no others. -/
theorem getLsbD_read_access (register : Register) (bit : Nat) :
    ((memory.access access).read register).getLsbD bit =
      (access.decision? register bit).getD ((memory.read register).getLsbD bit) := by
  by_cases own : access.register = register
  · subst own
    rw [read_access_self, Word.getLsbD_merge, Access.decision?]
    cases access.mask.getLsbD bit <;> simp
  · rw [read_access_ne _ _ own, Access.decision?, if_neg (fun both => own both.1)]
    rfl

end Access

section Accesses

variable (memory : Memory) (accesses : List Access)

theorem getLsbD_read_accessAll (register : Register) (bit : Nat) :
    ((memory.accessAll accesses).read register).getLsbD bit =
      (accesses.filterMap (Access.decision? register bit)).getLast?.getD
        ((memory.read register).getLsbD bit) := by
  apply foldl_last_decision fun memory : Memory => (memory.read register).getLsbD bit
  intro memory access
  exact memory.getLsbD_read_access access register bit

theorem get_accessAll_ne {place : Address}
    (apart : ∀ access ∈ accesses, access.register.address ≠ place) :
    (memory.accessAll accesses).get place = memory.get place := by
  induction accesses generalizing memory with
  | nil => rfl
  | cons access accesses inductionHypothesis =>
      obtain ⟨head, tail⟩ := List.forall_mem_cons.mp apart
      exact (inductionHypothesis _ tail).trans (memory.get_access_ne access head)

/-- A register depends on the accesses to it and on what it held before, and on nothing else. -/
theorem read_accessAll_filter {other : Memory} {register : Register}
    (same : memory.read register = other.read register) :
    (memory.accessAll accesses).read register =
      (other.accessAll (accesses.filter (·.register = register))).read register := by
  -- The two memories go on agreeing on this register, and perhaps on no other.
  induction accesses generalizing memory other with
  | nil => exact same
  | cons access accesses inductionHypothesis =>
      by_cases own : access.register = register
      · have kept : (access :: accesses).filter (·.register = register) =
            access :: accesses.filter (·.register = register) :=
          List.filter_cons_of_pos (by simpa using own)
        subst own
        rw [kept]
        apply inductionHypothesis
        rw [read_access_self, read_access_self, same]
      · have dropped : (access :: accesses).filter (·.register = register) =
            accesses.filter (·.register = register) :=
          List.filter_cons_of_neg (by simpa using own)
        rw [dropped]
        apply inductionHypothesis
        rw [read_access_ne _ _ own, same]

end Accesses

/-- Any row of writes and masked updates, on any memory.  The registers do not meet, the gaps stay,
and each bit of a register is as the last access that writes it left it. -/
theorem last_access_decides (memory : Memory) (accesses : List Access) :
    let final := memory.accessAll accesses
    (∀ (register : Register) (bit : Nat), (final.read register).getLsbD bit =
      (accesses.filterMap (Access.decision? register bit)).getLast?.getD
        ((memory.read register).getLsbD bit)) ∧
    (∀ (register : Register) (other : Memory), memory.read register = other.read register →
      final.read register =
        (other.accessAll (accesses.filter (·.register = register))).read register) ∧
    (∀ place : Address, Register.declaration[place.val]? = some none →
      final.get place = memory.get place) ∧
    (∀ (register : Register) (mask other : Word), mask &&& other = 0 → ∀ new newer,
      (final.merge register mask new).merge register other newer =
        (final.merge register other newer).merge register mask new) ∧
    (∀ one other : Register, one.offset = other.offset → one = other) ∧
    (∀ register : Register,
      Register.declaration[register.position]? = some (some register)) ∧
    4 * Register.declaration.length = 0x2B0 := by
  intro final
  refine ⟨memory.getLsbD_read_accessAll accesses, ?_, ?_, ?_, ?_,
    Register.declaration_position, ?_⟩
  · intro register other same
    exact memory.read_accessAll_filter accesses same
  · intro place reserved
    exact memory.get_accessAll_ne accesses fun access _ =>
      Register.address_ne_of_gap reserved access.register
  · intro register mask other apart new newer
    exact final.merge_comm apart register new newer
  · intro one other same
    exact Register.eq_of_offset_eq same
  · rw [Register.length_declaration]
    rfl

/-- The control word is written, then updated under two masks that meet in four bits, with another
register in between.  The last word before the mailboxes is reserved. -/
theorem accesses_to_control_word :
    let memory := filled 0xFFFFFFFF#32
    let other := (filled 0#32).write .masterControl 0xFFFFFFFF#32
    let accesses : List Access := [.write .masterControl 0x12345600#32,
      .merge .masterControl 0xFF#32 0xA5#32, .merge .timingControl 0x3FF#32 0x0#32,
      .merge .masterControl 0xFF0#32 0x0#32]
    let final := memory.accessAll accesses
    let reserved : Address := ⟨95, by decide⟩
    (final.read .masterControl).getLsbD 2 = true ∧
      (final.read .masterControl).getLsbD 5 = false ∧
      memory.read .masterControl = other.read .masterControl ∧
      final.read .masterControl =
        (other.accessAll (accesses.filter (·.register = .masterControl))).read .masterControl ∧
      Register.declaration[reserved.val]? = some none ∧
      final.get reserved = memory.get reserved ∧
      (final.merge .masterControl 0xF0#32 0x30#32).merge .masterControl 0xF#32 0x7#32 =
        (final.merge .masterControl 0xF#32 0x7#32).merge .masterControl 0xF0#32 0x30#32 := by
  intro memory other accesses final reserved
  have same : memory.read .masterControl = other.read .masterControl :=
    (get_filled ..).trans (read_write_self ..).symm
  obtain ⟨bits, alone, gaps, commute, -⟩ := last_access_decides memory accesses
  exact ⟨bits .masterControl 2, bits .masterControl 5, same, alone .masterControl other same, rfl,
    gaps reserved rfl, commute .masterControl 0xF0#32 0xF#32 (by decide) 0x30#32 0x7#32⟩

end Memory

end CanController

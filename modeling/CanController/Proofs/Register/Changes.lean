import CanController.Proofs.Register.Background

/-!
The changes that mode control makes.  There are few kinds of them: the driver puts a request into
the control word or configures, and the cell settles.  Whatever is made of such changes leaves the
background alone, and the status word too, unless the cell has settled.  A change of the driver is
a row of writes, all of them to the three words that hold requests and configuration.
-/

namespace CanController

/-- The registers that hold requests and configuration. -/
def Setup.registers : List Register :=
  [.masterControl, .interruptEnable, .timingControl]

namespace Memory

inductive Change
  | sleep (isRequested : Bool)
  | initialization (isRequested : Bool)
  | configure (setup : Setup)
  /-- The only change that is the cell's. -/
  | settle
deriving DecidableEq

def change (memory : Memory) : Change → Memory
  | .sleep isRequested =>
      memory.modify .masterControl (MasterControl.sleepRequest.put isRequested)
  | .initialization isRequested =>
      memory.modify .masterControl (MasterControl.initializationRequest.put isRequested)
  | .configure setup => memory.configure setup
  | .settle => memory.settle

def changeAll (memory : Memory) (changes : List Change) : Memory :=
  changes.foldl change memory

/-- What the driver writes to make a change. -/
def written (memory : Memory) : Change → List (Register × Word)
  | .sleep isRequested =>
      [(.masterControl, MasterControl.sleepRequest.put isRequested (memory.read .masterControl))]
  | .initialization isRequested =>
      [(.masterControl,
        MasterControl.initializationRequest.put isRequested (memory.read .masterControl))]
  | .configure setup =>
      [(.masterControl,
          Word.merge MasterControl.configMask setup.control (memory.read .masterControl)),
        (.interruptEnable,
          Word.merge InterruptEnable.configMask setup.interrupts (memory.read .interruptEnable)),
        (.timingControl,
          Word.merge TimingControl.configMask setup.timing (memory.read .timingControl))]
  | .settle => []

def writtenAll (memory : Memory) : List Change → List (Register × Word)
  | [] => []
  | change :: changes => memory.written change ++ (memory.change change).writtenAll changes

theorem writtenAll_append (memory : Memory) (changes more : List Change) :
    memory.writtenAll (changes ++ more) =
      memory.writtenAll changes ++ (memory.changeAll changes).writtenAll more := by
  induction changes generalizing memory with
  | nil => rfl
  | cons change changes inductionHypothesis =>
      rw [List.cons_append, writtenAll, writtenAll, inductionHypothesis, List.append_assoc]
      rfl

theorem mem_registers_of_written {memory : Memory} {change : Change} {write : Register × Word}
    (listed : write ∈ memory.written change) : write.1 ∈ Setup.registers := by
  cases change with
  | sleep | initialization =>
      rw [List.mem_singleton.mp listed]
      exact List.mem_cons_self
  | configure setup =>
      simp only [written, List.mem_cons, List.not_mem_nil, or_false] at listed
      rcases listed with rfl | rfl | rfl <;> simp [Setup.registers]
  | settle => contradiction

theorem mem_registers_of_writtenAll {memory : Memory} {changes : List Change}
    {write : Register × Word} (listed : write ∈ memory.writtenAll changes) :
    write.1 ∈ Setup.registers := by
  induction changes generalizing memory with
  | nil => contradiction
  | cons change changes inductionHypothesis =>
      rcases List.mem_append.mp listed with now | later
      · exact mem_registers_of_written now
      · exact inductionHypothesis later

theorem background_change (memory : Memory) (change : Change) :
    (memory.change change).background = memory.background := by
  cases change with
  | sleep isRequested => exact background_put (by decide) ..
  | initialization isRequested => exact background_put (by decide) ..
  | configure setup => exact background_configure ..
  | settle => exact background_settle _

theorem background_changeAll (memory : Memory) (changes : List Change) :
    (memory.changeAll changes).background = memory.background := by
  induction changes generalizing memory with
  | nil => rfl
  | cons change changes inductionHypothesis =>
      exact (inductionHypothesis _).trans (memory.background_change change)

theorem read_masterStatus_change {change : Change} (driver : change ≠ .settle)
    (memory : Memory) : (memory.change change).read .masterStatus = memory.read .masterStatus := by
  have control : Register.masterControl ≠ .masterStatus := by decide
  cases change with
  | sleep isRequested => exact read_modify_ne control ..
  | initialization isRequested => exact read_modify_ne control ..
  | configure setup =>
      refine (read_modify_ne (by decide) ..).trans ?_
      exact (read_modify_ne (by decide) ..).trans (read_modify_ne control ..)
  | settle => exact absurd rfl driver

/-- The driver itself never writes the status word. -/
theorem read_masterStatus_changeAll {changes : List Change} (driver : .settle ∉ changes)
    (memory : Memory) :
    (memory.changeAll changes).read .masterStatus = memory.read .masterStatus := by
  induction changes generalizing memory with
  | nil => rfl
  | cons change changes inductionHypothesis =>
      obtain ⟨head, tail⟩ := List.ne_and_not_mem_of_not_mem_cons driver
      exact (inductionHypothesis tail _).trans (read_masterStatus_change (Ne.symm head) memory)

/-- One memory comes of the other by changes that the driver makes by these writes, and among which
the cell has settled only if it may. -/
def Becomes (maySettle : Prop) (writes : List (Register × Word)) (before after : Memory) : Prop :=
  ∃ changes, after = before.changeAll changes ∧ writes = before.writtenAll changes ∧
    (.settle ∈ changes → maySettle)

namespace Becomes

variable {maySettle : Prop} {writes more : List (Register × Word)} {first second third : Memory}

theorem refl (maySettle : Prop) (memory : Memory) : Becomes maySettle [] memory memory :=
  ⟨[], rfl, rfl, by simp⟩

theorem trans (early : Becomes maySettle writes first second)
    (late : Becomes maySettle more second third) :
    Becomes maySettle (writes ++ more) first third := by
  obtain ⟨changes, rfl, rfl, before⟩ := early
  obtain ⟨others, rfl, rfl, after⟩ := late
  refine ⟨changes ++ others, List.foldl_append.symm, (writtenAll_append ..).symm, ?_⟩
  exact fun settles => (List.mem_append.mp settles).elim before after

theorem mono {weaker : Prop} (becomes : Becomes maySettle writes first second)
    (weakened : maySettle → weaker) : Becomes weaker writes first second := by
  obtain ⟨changes, reached, written, only⟩ := becomes
  exact ⟨changes, reached, written, fun settles => weakened (only settles)⟩

theorem change {change : Change} (driver : change ≠ .settle) (memory : Memory) :
    Becomes maySettle (memory.written change) memory (memory.change change) := by
  refine ⟨[change], rfl, (List.append_nil _).symm, fun settles => ?_⟩
  exact absurd (List.mem_singleton.mp settles).symm driver

theorem settle (may : maySettle) (memory : Memory) : Becomes maySettle [] memory memory.settle :=
  ⟨[.settle], rfl, rfl, fun _ => may⟩

end Becomes

end Memory

end CanController

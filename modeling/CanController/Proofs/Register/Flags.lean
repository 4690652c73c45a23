import CanController.Proofs.History
import CanController.Proofs.Register.Handshake

/-!
The requests as flags.  Mode control asks by two flags in the control word, and the cell answers by
the mode in its status word.  A flag stays where the last signal that has to do with it has put it,
and the mode is the one that was requested when the cell settled last.
-/

namespace CanController

/-- What the driver can ask for, and the cell's part in it. -/
inductive Signal
  | wake
  | initialization
  | normal
  | sleep
  | settle
deriving DecidableEq

namespace Signal

/-- What becomes of the request for sleep, if anything. -/
def sleep? : Signal → Option Bool
  | wake | initialization => some false
  | sleep => some true
  | normal | settle => none

/-- What becomes of the request for initialization, if anything. -/
def initialization? : Signal → Option Bool
  | initialization => some true
  | normal => some false
  | wake | sleep | settle => none

end Signal

/-- The two requests, and the mode that the cell shows. -/
structure Flags where
  sleep : Bool
  initialization : Bool
  mode : Mode
deriving DecidableEq

namespace Flags

/-- The mode that is requested: initialization wins over sleep. -/
def requested (flags : Flags) : Mode :=
  if flags.initialization then .initialization else if flags.sleep then .sleep else .normal

def heed (flags : Flags) : Signal → Flags
  | .wake => { flags with sleep := false }
  | .initialization => { flags with sleep := false, initialization := true }
  | .normal => { flags with initialization := false }
  | .sleep => { flags with sleep := true }
  | .settle => { flags with mode := flags.requested }

variable (signals : List Signal) (flags : Flags)

theorem sleep_foldl_heed : (signals.foldl heed flags).sleep =
    (signals.filterMap Signal.sleep?).getLast?.getD flags.sleep := by
  apply foldl_last_decision sleep
  intro flags signal
  cases signal <;> rfl

theorem initialization_heed (signal : Signal) : (flags.heed signal).initialization =
    signal.initialization?.getD flags.initialization := by
  cases signal <;> rfl

theorem initialization_foldl_heed : (signals.foldl heed flags).initialization =
    (signals.filterMap Signal.initialization?).getLast?.getD flags.initialization :=
  foldl_last_decision initialization initialization_heed signals flags

/-- A cell that has settled last of all shows the mode that is requested. -/
theorem mode_foldl_heed_of_settled {signals : List Signal}
    (settled : signals.getLast? = some .settle) :
    (signals.foldl heed flags).mode = (signals.foldl heed flags).requested := by
  obtain ⟨earlier, rfl⟩ := List.getLast?_eq_some_iff.mp settled
  rw [List.foldl_append]
  rfl

theorem mode_foldl_heed_of_unsettled {signals : List Signal} (unsettled : .settle ∉ signals) :
    (signals.foldl heed flags).mode = flags.mode := by
  induction signals generalizing flags with
  | nil => rfl
  | cons signal signals inductionHypothesis =>
      obtain ⟨head, tail⟩ := List.ne_and_not_mem_of_not_mem_cons unsettled
      refine (inductionHypothesis (flags.heed signal) tail).trans ?_
      cases signal with
      | settle => exact absurd rfl head
      | _ => rfl

end Flags

namespace Memory

def flags (memory : Memory) : Flags where
  sleep := MasterControl.sleepRequest.test (memory.read .masterControl)
  initialization := MasterControl.initializationRequest.test (memory.read .masterControl)
  mode := memory.mode

/-- What a signal does to the registers. -/
def obey (memory : Memory) : Signal → Memory
  | .wake => memory.modify .masterControl (MasterControl.sleepRequest.put false)
  | .initialization =>
      (memory.modify .masterControl (MasterControl.sleepRequest.put false)).modify .masterControl
        (MasterControl.initializationRequest.put true)
  | .normal => memory.modify .masterControl (MasterControl.initializationRequest.put false)
  | .sleep => memory.modify .masterControl (MasterControl.sleepRequest.put true)
  | .settle => memory.settle

section Flags

variable (memory : Memory)

theorem mode_modify_masterControl (change : Word → Word) :
    (memory.modify .masterControl change).mode = memory.mode := by
  rw [mode, read_modify_ne (by decide), mode]

theorem flags_put_sleep (value : Bool) :
    (memory.modify .masterControl (MasterControl.sleepRequest.put value)).flags =
      { memory.flags with sleep := value } := by
  simp only [flags, read_modify_self, mode_modify_masterControl,
    Field.test_put_self (show 0 < MasterControl.sleepRequest.width by decide) (by decide),
    Field.test_put_of_disjoint (show MasterControl.initializationRequest.Disjoint
      MasterControl.sleepRequest by decide) (by decide)]

theorem flags_put_initialization (value : Bool) :
    (memory.modify .masterControl (MasterControl.initializationRequest.put value)).flags =
      { memory.flags with initialization := value } := by
  simp only [flags, read_modify_self, mode_modify_masterControl,
    Field.test_put_self (show 0 < MasterControl.initializationRequest.width by decide)
      (by decide),
    Field.test_put_of_disjoint (show MasterControl.sleepRequest.Disjoint
      MasterControl.initializationRequest by decide) (by decide)]

theorem flags_settle :
    memory.settle.flags = { memory.flags with mode := memory.flags.requested } := by
  have control : memory.settle.read .masterControl = memory.read .masterControl :=
    congrArg Setup.control memory.setup_settle
  simp only [flags, control, mode_settle]
  rfl

/-- The registers do with a signal what the flags do. -/
theorem flags_obey (signal : Signal) : (memory.obey signal).flags = memory.flags.heed signal := by
  cases signal with
  | wake => exact memory.flags_put_sleep false
  | initialization =>
      rw [obey, flags_put_initialization, flags_put_sleep]
      rfl
  | normal => exact memory.flags_put_initialization false
  | sleep => exact memory.flags_put_sleep true
  | settle => exact memory.flags_settle

theorem initialization_obey (signal : Signal) : (memory.obey signal).flags.initialization =
    signal.initialization?.getD memory.flags.initialization := by
  rw [flags_obey, Flags.initialization_heed]

theorem flags_initialization_of_setup {memory : Memory} {setup : Setup}
    (words : memory.setup = setup) :
    memory.flags.initialization = MasterControl.initializationRequest.test setup.control := by
  subst words
  rfl

theorem flags_foldl_obey (signals : List Signal) :
    (signals.foldl obey memory).flags = signals.foldl Flags.heed memory.flags := by
  induction signals generalizing memory with
  | nil => rfl
  | cons signal signals inductionHypothesis =>
      rw [List.foldl_cons, List.foldl_cons, inductionHypothesis, flags_obey]

end Flags

/-- The memories differ at most in what is requested and what is acknowledged. -/
structure SameButMode (before after : Memory) : Prop where
  control : after.read .masterControl &&& ~~~3#32 = before.read .masterControl &&& ~~~3#32
  status : after.read .masterStatus &&& ~~~3#32 = before.read .masterStatus &&& ~~~3#32
  others : ∀ address, address ≠ Register.masterControl.address →
    address ≠ Register.masterStatus.address → after.get address = before.get address

namespace SameButMode

variable {first second third : Memory}

theorem refl (memory : Memory) : SameButMode memory memory :=
  ⟨rfl, rfl, fun _ _ _ => rfl⟩

theorem trans (early : SameButMode first second) (late : SameButMode second third) :
    SameButMode first third where
  control := late.control.trans early.control
  status := late.status.trans early.status
  others address control status :=
    (late.others address control status).trans (early.others address control status)

theorem put (memory : Memory) {field : Field} (request : field.mask &&& ~~~3#32 = 0)
    (value : Bool) :
    SameButMode memory (memory.modify .masterControl (field.put value)) where
  control := by rw [read_modify_self, Field.put_and_kept request]
  status := by rw [read_modify_ne (by decide)]
  others _ control _ := get_set_ne (Ne.symm control) ..

theorem settle (memory : Memory) : SameButMode memory memory.settle where
  control := by rw [Memory.settle, read_write_ne (by decide)]
  status := by rw [Memory.settle, read_write_self, settledStatus, Mode.acknowledge_and_kept]
  others _ _ status := get_set_ne (Ne.symm status) ..

theorem obey (memory : Memory) (signal : Signal) : SameButMode memory (memory.obey signal) := by
  cases signal with
  | wake => exact .put memory (by decide) false
  | initialization =>
      exact (SameButMode.put memory (by decide) false).trans (.put _ (by decide) true)
  | normal => exact .put memory (by decide) false
  | sleep => exact .put memory (by decide) true
  | settle => exact .settle memory

theorem foldl_obey (signals : List Signal) (memory : Memory) :
    SameButMode memory (signals.foldl Memory.obey memory) := by
  induction signals generalizing memory with
  | nil => exact .refl memory
  | cons signal signals inductionHypothesis =>
      exact (SameButMode.obey memory signal).trans (inductionHypothesis _)

end SameButMode

/-- A request writes the control word and no other. -/
theorem get_obey {signal : Signal} (request : signal ≠ .settle) {address : Address}
    (apart : address ≠ Register.masterControl.address) (memory : Memory) :
    (memory.obey signal).get address = memory.get address := by
  have distinct := Ne.symm apart
  cases signal with
  | wake => exact get_set_ne distinct ..
  | initialization => exact (get_set_ne distinct ..).trans (get_set_ne distinct ..)
  | normal => exact get_set_ne distinct ..
  | sleep => exact get_set_ne distinct ..
  | settle => exact absurd rfl request

end Memory

end CanController

import CanController.Register.Setup
import CanController.Timing.BitRate

/-!
The driver's configuration: what goes into the control, interrupt enable and timing words, and how
long a mode change may take.  A change names the parts to replace; a named bit rate replaces the
timing as a whole and so wins over changes to its parts.
-/

namespace CanController

structure Options where
  debugFreeze : Bool
  timeTriggered : Bool
  autoBusOff : Bool
  autoWakeUp : Bool
  noRetransmit : Bool
  rxFifoLocked : Bool
  txFifoPriority : Bool
deriving DecidableEq

namespace Options

def allOff : Options :=
  ⟨false, false, false, false, false, false, false⟩

/-- The control word with these options and no request. -/
def toWord (options : Options) : Word :=
  (0 : Word)
    |> MasterControl.debugFreeze.put options.debugFreeze
    |> MasterControl.timeTriggered.put options.timeTriggered
    |> MasterControl.autoBusOff.put options.autoBusOff
    |> MasterControl.autoWakeUp.put options.autoWakeUp
    |> MasterControl.noRetransmit.put options.noRetransmit
    |> MasterControl.rxFifoLocked.put options.rxFifoLocked
    |> MasterControl.txFifoPriority.put options.txFifoPriority

structure Change where
  debugFreeze : Option Bool
  timeTriggered : Option Bool
  autoBusOff : Option Bool
  autoWakeUp : Option Bool
  noRetransmit : Option Bool
  rxFifoLocked : Option Bool
  txFifoPriority : Option Bool
deriving DecidableEq

def update (options : Options) (change : Change) : Options where
  debugFreeze := change.debugFreeze.getD options.debugFreeze
  timeTriggered := change.timeTriggered.getD options.timeTriggered
  autoBusOff := change.autoBusOff.getD options.autoBusOff
  autoWakeUp := change.autoWakeUp.getD options.autoWakeUp
  noRetransmit := change.noRetransmit.getD options.noRetransmit
  rxFifoLocked := change.rxFifoLocked.getD options.rxFifoLocked
  txFifoPriority := change.txFifoPriority.getD options.txFifoPriority

end Options

structure TestModes where
  /-- Frames sent are kept off the bus. -/
  silent : Bool
  /-- Frames sent are received back. -/
  loopback : Bool
deriving DecidableEq

namespace TestModes

def allOff : TestModes :=
  ⟨false, false⟩

def apply (modes : TestModes) (word : Word) : Word :=
  word
    |> TimingControl.silent.put modes.silent
    |> TimingControl.loopback.put modes.loopback

end TestModes

structure BitTiming.Change where
  jumpWidth : Option UInt8
  segment1 : Option UInt8
  segment2 : Option UInt8
  bitrate : Option Hertz
deriving DecidableEq

def BitTiming.update (timing : BitTiming) (change : BitTiming.Change) : BitTiming where
  jumpWidth := change.jumpWidth.getD timing.jumpWidth
  segment1 := change.segment1.getD timing.segment1
  segment2 := change.segment2.getD timing.segment2
  bitrate := change.bitrate.getD timing.bitrate

/-- A mode change is looked for once, then again after each of up to `attempts` pauses. -/
structure PollLimit where
  attempts : UInt32
  interval : UInt32
deriving DecidableEq

def PollLimit.standard : PollLimit :=
  ⟨10000, 1⟩

structure Config where
  options : Options
  testModes : TestModes
  interrupts : Word
  timing : BitTiming
  pollLimit : PollLimit
deriving DecidableEq

namespace Config

/-- All options off and the standard timing at `bitrate`. -/
def standard (bitrate : Hertz) : Config where
  options := .allOff
  testModes := .allOff
  interrupts := 0
  timing := .standard bitrate
  pollLimit := .standard

structure Change where
  options : Option Options.Change
  testModes : Option TestModes
  interrupts : Option Word
  timing : Option BitTiming.Change
  bitRate : Option BitRate
  pollLimit : Option PollLimit
deriving DecidableEq

def update (config : Config) (change : Change) : Config where
  options := change.options.elim config.options config.options.update
  testModes := change.testModes.getD config.testModes
  interrupts := change.interrupts.getD config.interrupts
  timing := (change.bitRate.map BitRate.timing).getD
    (change.timing.elim config.timing config.timing.update)
  pollLimit := change.pollLimit.getD config.pollLimit

/-- The configuration for starting at a standard rate.  Frames are always sent in the order in
which they were requested. -/
def start (config : Config) (rate : BitRate) (options : Options) (modes : TestModes) : Config :=
  { config with
    options := { options with txFifoPriority := true }
    testModes := modes
    timing := rate.timing }

/-- The words that realize the configuration, if the clock can realize its timing. -/
def setup (config : Config) (clock : Hertz) : Except BitTimingError Setup :=
  (config.timing.encode clock).map fun timing =>
    ⟨config.options.toWord, config.interrupts, config.testModes.apply timing⟩

end Config

end CanController

import DaqBus.Bus.Counters
import DaqBus.Bus.Error
import DaqBus.Logging.Level
/-!
The events that work on the bus leaves in the log, each with its severity, its message and the named
values it carries.
-/

namespace DaqBus

inductive EventValue
  | number (n : Nat)
  | flag (b : Bool)
  | text (s : String)
deriving DecidableEq, Repr

inductive Event
  | scopeEntered (device : String) (id : Option UInt32)
  | memoryDeviceFound (key : String)
  | streamOpened (path : String) (direction : Direction)
  | deviceScanned (base deviceName : String) (sets : Nat)
  | deviceReleased (base : String)
  | notDecimal (path value : String)
  | nodeBuilt (base : String) (attributes : Nat)
  | channelSetBuilt (set : String) (direction : Direction) (channels : Nat)
  | deviceOpened (device base : String) (sets : Nat)
  | deviceClosing (base : String)
  | deviceClosed (device : String)
  | attributeRead (path : String) (value : UInt32)
  | numberWritten (path : String) (value : UInt32)
  | textWritten (path text : String)
  | bufferFlushed (base : String)
  | flushFailed (channel : String) (error : BusError)
  | blockRead (channel : String) (sequence sampleCount : UInt32) (sampleSize : UInt16)
  | blockWritten (channel : String) (sequence : UInt32) (bytes : Nat)
  | runStarted (set : String) (channels : Nat) (maxSweeps : Option UInt64)
  | counterReset (channel : Nat) (previous sequence : UInt32)
  | sequenceGap (channel : Nat) (previous sequence gap : UInt32)
  | blockAlarmed (channel : Nat) (sequence : UInt32) (lostBlock lostTrigger : Bool)
  | stopRequested
  | runFinished (counters : RunCounters)
deriving DecidableEq, Repr

namespace Event

def level : Event → Level
  | scopeEntered .. | deviceOpened .. | deviceClosed .. | runStarted .. | runFinished .. => .info
  | memoryDeviceFound .. | streamOpened .. | deviceReleased .. | notDecimal .. |
    attributeRead .. => .trace
  | deviceScanned .. | nodeBuilt .. | channelSetBuilt .. | deviceClosing .. | numberWritten .. |
    textWritten .. | bufferFlushed .. | blockRead .. | blockWritten .. | stopRequested => .debug
  | flushFailed .. | counterReset .. | sequenceGap .. | blockAlarmed .. => .warn

/-- Whether the event opens a span, which then has a name in place of a message. -/
def isSpan : Event → Bool
  | scopeEntered .. => true
  | _ => false

/-- The message of an event, or the name of a span. -/
def title : Event → String
  | scopeEntered .. => "zio_session"
  | memoryDeviceFound .. => "Opening mock device"
  | streamOpened .. => "Opening char device"
  | deviceScanned .. => "Scanned ZIO device"
  | deviceReleased .. => "Released ZIO device"
  | notDecimal .. => "attribute is not a decimal value"
  | nodeBuilt .. => "Built resource node"
  | channelSetBuilt .. => "Built channel-set"
  | deviceOpened .. => "Opened ZIO device"
  | deviceClosing .. => "Closing ZIO device"
  | deviceClosed .. => "Closed ZIO device"
  | attributeRead .. => "Read attribute"
  | numberWritten .. | textWritten .. => "Wrote attribute"
  | bufferFlushed .. => "Flushed buffer"
  | flushFailed .. => "Buffer flush failed"
  | blockRead .. => "Read block"
  | blockWritten .. => "Wrote block"
  | runStarted .. => "Starting acquisition"
  | counterReset .. => "Sequence counter reset"
  | sequenceGap .. => "Sequence gap"
  | blockAlarmed .. => "Block carries alarms"
  | stopRequested => "Sink requested stop"
  | runFinished .. => "Acquisition finished"

/-- An optional number as it stands in an event. -/
def optionText : Option Nat → String
  | none => "None"
  | some n => s!"Some({n})"

open EventValue in
def fields : Event → List (String × EventValue)
  | scopeEntered device id =>
    [("device", text device), ("id", text (optionText (id.map UInt32.toNat)))]
  | memoryDeviceFound key => [("device", text key)]
  | streamOpened path direction => [("path", text path), ("direction", text direction.text)]
  | deviceScanned base deviceName sets =>
    [("sysbase", text base), ("devname", text deviceName), ("n_cset", number sets)]
  | deviceReleased base => [("sysbase", text base)]
  | notDecimal path value => [("path", text path), ("value", text value)]
  | nodeBuilt base attributes => [("sysbase", text base), ("n_attrs", number attributes)]
  | channelSetBuilt set direction channels =>
    [("cset", text set), ("direction", text direction.text), ("n_chan", number channels)]
  | deviceOpened device base sets =>
    [("device", text device), ("sysbase", text base), ("n_cset", number sets)]
  | deviceClosing base => [("device", text base)]
  | deviceClosed device => [("device", text device)]
  | attributeRead path value => [("path", text path), ("value", number value.toNat)]
  | numberWritten path value => [("path", text path), ("value", number value.toNat)]
  | textWritten path value => [("path", text path), ("text", text value)]
  | bufferFlushed base => [("buffer", text base)]
  | flushFailed channel error => [("channel", text channel), ("error", text error.message)]
  | blockRead channel sequence sampleCount sampleSize =>
    [("channel", text channel), ("seq", number sequence.toNat),
      ("nsamples", number sampleCount.toNat), ("ssize", number sampleSize.toNat)]
  | blockWritten channel sequence bytes =>
    [("channel", text channel), ("seq", number sequence.toNat), ("bytes", number bytes)]
  | runStarted set channels maxSweeps =>
    [("cset", text set), ("n_chan", number channels),
      ("max_sweeps", text (optionText (maxSweeps.map UInt64.toNat)))]
  | counterReset channel previous sequence =>
    [("channel", number channel), ("prev", number previous.toNat), ("seq", number sequence.toNat)]
  | sequenceGap channel previous sequence gap =>
    [("channel", number channel), ("prev", number previous.toNat), ("seq", number sequence.toNat),
      ("gap", number gap.toNat)]
  | blockAlarmed channel sequence lostBlock lostTrigger =>
    [("channel", number channel), ("seq", number sequence.toNat), ("lost_block", flag lostBlock),
      ("lost_trigger", flag lostTrigger)]
  | stopRequested => []
  | runFinished counters =>
    [("sweeps", number counters.sweeps.toNat), ("blocks", number counters.blocks.toNat),
      ("samples", number counters.samples.toNat),
      ("sequence_gaps", number counters.sequenceGaps.toNat),
      ("sequence_resets", number counters.sequenceResets.toNat)]

end Event

end DaqBus

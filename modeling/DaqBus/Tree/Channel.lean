import DaqBus.Tree.Basic
import DaqBus.Control.Flags
/-!
What can be done with a channel and with all channels of a set: blocks, alarms, buffers.
-/

namespace DaqBus

structure ChannelAlarms where
  framework : UInt8
  driver : UInt8
deriving DecidableEq, Repr

namespace ChannelAlarms

/-- Reads alarm bytes as two decimal fields. Without a usable second field the driver reports no
alarm. -/
def ofText? (text : String) : Option ChannelAlarms :=
  match Text.fields text with
  | [] => none
  | first :: rest =>
    (Text.byte? first).map fun framework =>
      { framework, driver := (rest.head?.bind Text.byte?).getD 0 }

def text (alarms : ChannelAlarms) : String :=
  s!"{alarms.framework} {alarms.driver}"

end ChannelAlarms

variable {S : Type} [Backend S]

def Buffer.flush (buffer : Buffer) : BusM S BusError Unit := do
  buffer.flushSwitch.writeText "1"
  Bus.emit (.bufferFlushed buffer.node.base)

namespace Channel

def readBlock (channel : Channel) : BusM S BusError Block := do
  channel.opening.check
  let name := channel.node.deviceName
  let refusal (code : Errno) : BusError :=
    .readFailure s!"Cannot read block on channel '{name}'" code.message
  let raw ← Bus.restate refusal (Bus.onStore (Backend.readBlock channel.streams))
  match Block.decode raw with
  | .error fault => throw (.block fault)
  | .ok block =>
    let header := block.header
    Bus.emit (.blockRead name header.sequence header.sampleCount header.sampleSize)
    return block

def writeBlock (channel : Channel) (block : Block) : BusM S BusError Unit := do
  channel.opening.check
  let name := channel.node.deviceName
  let refusal (code : Errno) : BusError :=
    .writeFailure s!"Cannot write block on channel '{name}'" code.message
  Bus.restate refusal (Bus.onStore (Backend.writeBlock channel.streams block.encode))
  Bus.emit (.blockWritten name block.header.sequence block.payload.length)

/-- The control record that the channel would attach to its next block. -/
def readControl (channel : Channel) : BusM S BusError Control.Header :=
  channel.currentControl.access (Bus.onStore (Backend.readHeader channel.currentControl.path))

def alarms (channel : Channel) : BusM S BusError ChannelAlarms := do
  let text ← channel.alarmRegister.readText
  match ChannelAlarms.ofText? text with
  | some alarms => return alarms
  | none => throw (.ioFailure channel.alarmRegister.path Errno.invalidArgument.message)

def clearAlarms (channel : Channel) (alarms : ChannelAlarms) : BusM S BusError Unit :=
  channel.alarmRegister.writeText alarms.text

end Channel

namespace ChannelSet

/-- Reads one block from every channel, in order. The first failure ends it, and the blocks read
before it are dropped. -/
def readBlocks (set : ChannelSet) : BusM S BusError (List Block) :=
  set.channels.mapM Channel.readBlock

/-- Flushes the buffers of the channels and returns the last failure, after `last`. -/
def flushEach : List Channel → (last : Option BusError) → BusM S BusError (Option BusError)
  | [], last => return last
  | channel :: rest, last => do
    match ← Bus.attempt channel.buffer.flush with
    | .ok () => flushEach rest last
    | .error failure =>
      Bus.emit (.flushFailed channel.node.deviceName failure)
      flushEach rest (some failure)

/-- Flushes the buffer of every channel. All are tried, and the last failure is returned. -/
def flushAll (set : ChannelSet) : BusM S BusError Unit := do
  match ← flushEach set.channels none with
  | none => return
  | some failure => throw failure

def currentTrigger (set : ChannelSet) : BusM S BusError String :=
  set.triggerName.readText

def changeTrigger (set : ChannelSet) (name : String) : BusM S BusError Unit :=
  set.triggerName.writeText name

def currentBuffer (set : ChannelSet) : BusM S BusError String :=
  set.bufferName.readText

def changeBuffer (set : ChannelSet) (name : String) : BusM S BusError Unit :=
  set.bufferName.writeText name

end ChannelSet

end DaqBus

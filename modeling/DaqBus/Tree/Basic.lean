import DaqBus.Tree.Node
/-!
The tree of an open device: channel-sets, each with a trigger and channels, each with a buffer.
-/

namespace DaqBus

structure Buffer where
  node : Node
  flushSwitch : Attribute
deriving DecidableEq, Repr

structure Trigger where
  node : Node
deriving DecidableEq, Repr

/-- A channel with its buffer and its two streams. -/
structure Channel where
  node : Node
  buffer : Buffer
  currentControl : Attribute
  alarmRegister : Attribute
  streams : ChannelStreams
  opening : Opening
deriving DecidableEq, Repr

/-- Channels that share one trigger and one direction. -/
structure ChannelSet where
  node : Node
  trigger : Trigger
  channels : List Channel
  direction : Direction
  triggerName : Attribute
  bufferName : Attribute
deriving DecidableEq, Repr

structure Device where
  node : Node
  sets : List ChannelSet
  id : Option UInt32
  opening : Opening
deriving DecidableEq, Repr

/-- The direction of the set that the channel belongs to. -/
def Channel.direction (channel : Channel) : Direction := channel.streams.direction

namespace Buffer

def ofRecord (opening : Opening) (record : BufferRecord) : Buffer where
  node := Node.ofHead opening record.head
  flushSwitch := { path := record.flush, opening }

end Buffer

namespace Channel

def ofRecord (opening : Opening) (record : ChannelRecord) : Channel where
  node := Node.ofHead opening record.head
  buffer := Buffer.ofRecord opening record.buffer
  currentControl := { path := record.currentControl, opening }
  alarmRegister := { path := record.alarms, opening }
  streams := record.streams
  opening := opening

def built (channel : Channel) : List Event :=
  [channel.node.built, channel.buffer.node.built]

end Channel

namespace ChannelSet

def ofRecord (opening : Opening) (record : ChannelSetRecord) : ChannelSet where
  node := Node.ofHead opening record.head
  trigger := { node := Node.ofHead opening record.trigger.head }
  channels := record.channels.map (Channel.ofRecord opening)
  direction := record.direction
  triggerName := { path := record.currentTrigger, opening }
  bufferName := { path := record.currentBuffer, opening }

def built (set : ChannelSet) : List Event :=
  [set.node.built, set.trigger.node.built] ++ set.channels.flatMap Channel.built ++
    [.channelSetBuilt set.node.deviceName set.direction set.channels.length]

end ChannelSet

namespace Device

def ofRecord (opening : Opening) (id : Option UInt32) (record : DeviceRecord) : Device where
  node := Node.ofHead opening record.head
  sets := record.sets.map (ChannelSet.ofRecord opening)
  id := id
  opening := opening

/-- What the log says when the tree is built: every object after the one it belongs to, and a
channel-set once more after its channels. -/
def built (device : Device) : List Event :=
  device.node.built :: device.sets.flatMap ChannelSet.built

end Device

end DaqBus

import DaqBus.Control.Basic
import DaqBus.Text.Blank
/-!
What a backend reports about a device when it is opened: every object of its tree with the paths of
its attribute files, and for each channel the numbers of its two streams.
-/

namespace DaqBus

inductive ObjectKind
  | device
  | channelSet
  | channel
  | trigger
  | buffer
  | unknown
deriving DecidableEq, Repr

namespace ObjectKind

/-- The text that names a kind in a type file. -/
def typeName : ObjectKind → String
  | device => "zio_zdev_type"
  | channelSet => "zio_cset_type"
  | channel => "zio_chan_type"
  | trigger => "zio_ti_type"
  | buffer => "zio_bi_type"
  | unknown => "unknown"

def named : List ObjectKind := [device, channelSet, channel, trigger, buffer]

/-- The kind that a type file names, blanks around the name aside. -/
def ofTypeName (text : String) : ObjectKind :=
  (named.find? fun kind => kind.typeName = Text.trim text).getD unknown

theorem ofTypeName_typeName (kind : ObjectKind) : ofTypeName kind.typeName = kind := by
  cases kind <;> decide +kernel

end ObjectKind

/-- Whether blocks come from a device or go to it. -/
inductive Direction
  | input
  | output
deriving DecidableEq, Repr

namespace Direction

def text : Direction → String
  | input => "input"
  | output => "output"

/-- The direction that an attribute spells; everything but the word for output means input. -/
def ofText (text : String) : Direction :=
  if Text.trim text = "output" then output else input

end Direction

inductive ModuleKind
  | buffer
  | trigger
  | device
deriving DecidableEq, Repr

def ModuleKind.text : ModuleKind → String
  | buffer => "buffer"
  | trigger => "trigger"
  | device => "device"

/-- Devices of the hardware layer below, which device lists leave out. -/
def isHardwareName (name : String) : Bool :=
  "hw-".toList.isPrefixOf name.toList

/-- Attribute paths in a fixed number of slots; an empty path marks an empty slot. -/
abbrev Slots (n : Nat) := Vector String n

/-- The first `n` paths in slots of their own, empty slots after them. -/
def Slots.ofList (n : Nat) (paths : List String) : Slots n :=
  Vector.ofFn fun i => paths[i.val]?.getD ""

structure HeadRecord where
  base : String
  name : String
  deviceName : String := ""
  kind : ObjectKind := .unknown
  enable : String := ""
  standard : Slots Control.standardSlots
  extended : Slots Control.extendedSlots
deriving DecidableEq

structure BufferRecord where
  head : HeadRecord
  flush : String
deriving DecidableEq

structure TriggerRecord where
  head : HeadRecord
deriving DecidableEq

/-- The number by which a backend knows a stream. -/
abbrev StreamId := Nat

/-- The two streams of a channel and the way its blocks go. -/
structure ChannelStreams where
  direction : Direction
  data : StreamId
  control : StreamId
deriving DecidableEq, Repr

structure ChannelRecord where
  head : HeadRecord
  currentControl : String
  alarms : String
  buffer : BufferRecord
  streams : ChannelStreams
deriving DecidableEq

structure ChannelSetRecord where
  head : HeadRecord
  direction : Direction
  directionPath : String
  currentTrigger : String
  currentBuffer : String
  trigger : TriggerRecord
  channels : List ChannelRecord
deriving DecidableEq

structure DeviceRecord where
  head : HeadRecord
  sets : List ChannelSetRecord
deriving DecidableEq

end DaqBus

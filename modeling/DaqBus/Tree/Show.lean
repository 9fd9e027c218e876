import DaqBus.Text.Quoted
import DaqBus.Tree.Basic
/-!
The objects of a tree as text: labels in a short and a long form, and structural descriptions.
-/

namespace DaqBus

/-- A structural description: a name and the named parts in braces. With `rest` there are parts
that are not shown. -/
def described (name : String) (parts : List (String × String)) (rest : Bool := false) : String :=
  let shown := parts.map fun part => part.1 ++ ": " ++ part.2
  name ++ " \x7b " ++ ", ".intercalate (if rest then shown ++ [".."] else shown) ++ " \x7d"

def ObjectKind.description : ObjectKind → String
  | .device => "Device"
  | .channelSet => "Cset"
  | .channel => "Channel"
  | .trigger => "Trigger"
  | .buffer => "Buffer"
  | .unknown => "Unknown"

def Direction.description : Direction → String
  | .input => "Input"
  | .output => "Output"

/-- The streams of a channel show only their direction. -/
def ChannelStreams.description (streams : ChannelStreams) : String :=
  described "ChannelIo" [("direction", streams.direction.description)] true

namespace Attribute

def description (a : Attribute) : String :=
  described "Attribute" [("path", Text.quoted a.path)]

/-- The attribute with its current value, or with a question mark if it cannot be read; in the long
form with its whole path. -/
def shown {S ε : Type} [Backend S] (a : Attribute) (long : Bool) : BusM S ε String := do
  let label := if long then a.path else a.name
  match ← Bus.attempt a.read with
  | .ok value => return s!"{label} = {value}"
  | .error _ => return s!"{label} = ?"

end Attribute

namespace Node

/-- The short name, or in the long form the name with that of the device. -/
def label (node : Node) (long : Bool) : String :=
  if long then node.deviceName else node.name

def description (node : Node) : String :=
  described "ResourceNode" [
    ("name", Text.quoted node.name),
    ("devname", Text.quoted node.deviceName),
    ("obj_type", node.kind.description),
    ("n_attrs", toString node.attributes.length)]

end Node

def Channel.description (channel : Channel) : String :=
  described "Channel" [
    ("node", channel.node.description),
    ("direction", channel.direction.description)] true

def ChannelSet.description (set : ChannelSet) : String :=
  described "ChannelSet" [
    ("node", set.node.description),
    ("trigger", described "Trigger" [("node", set.trigger.node.description)]),
    ("channels", "[" ++ ", ".intercalate (set.channels.map Channel.description) ++ "]"),
    ("direction", set.direction.description),
    ("current_trigger", set.triggerName.description),
    ("current_buffer", set.bufferName.description)]

def Device.description (device : Device) (closed : Bool) : String :=
  described "Device" [
    ("node", device.node.description),
    ("id", Event.optionText (device.id.map UInt32.toNat)),
    ("n_cset", toString device.sets.length),
    ("closed", toString closed)]

end DaqBus

import DaqBus.Bus.Error
import DaqBus.Control.Codec
/-!
Blueprints of devices that exist only in memory: which attribute files and streams a device gets
when it is registered, and the record that an opening of it reports.
-/

namespace DaqBus.Memory

/-- Where the directories of the devices stand. -/
def devicesRoot : String := "/sys/bus/zio/devices"

abbrev AttributeList := List (String × UInt32)

/-- What a channel-set is built from. All its channels have the same attributes. -/
structure SetBlueprint where
  direction : Direction
  channels : Nat
  attributes : AttributeList := []
  triggerAttributes : AttributeList := []
  channelAttributes : AttributeList := []
deriving DecidableEq, Repr

structure Blueprint where
  name : String
  id : Option UInt32 := none
  attributes : AttributeList := []
  extendedAttributes : AttributeList := []
  sets : List SetBlueprint := []
deriving DecidableEq, Repr

/-- The numbers of the two streams of a channel. -/
structure StreamPair where
  data : StreamId
  control : StreamId
deriving DecidableEq, Repr

namespace Blueprint

variable (device : Blueprint)

/-- The name under which the device is registered. -/
def key : String :=
  match device.id with
  | some id => instanceName device.name id
  | none => device.name

def deviceName : String :=
  s!"{device.name}-{Text.hex 4 (device.id.getD 0).toNat}"

def base : String := s!"{devicesRoot}/{device.key}"

def setBase (i : Nat) : String := s!"{device.base}/cset{i}"

def setDeviceName (i : Nat) : String := s!"{device.deviceName}-{i}"

def channelBase (i j : Nat) : String := s!"{device.setBase i}/chan{j}"

/-- The name of a channel, which is also that of its streams. -/
def channelDeviceName (i j : Nat) : String := s!"{device.setDeviceName i}-{j}"

/-- The control record that a channel shows before any block went through it. -/
def idleHeader (i j : Nat) : Control.Header :=
  Control.Header.withName
    { address := {
        deviceId := device.id.getD 0
        set := UInt16.ofNat i
        channel := UInt16.ofNat j } }
    device.name

end Blueprint

def line (text : String) : Bytes := Text.Utf8.encode (text ++ "\n")

def objectFiles (base name deviceName : String) (kind : ObjectKind) : List (String × Bytes) := [
  (s!"{base}/name", line name),
  (s!"{base}/devname", line deviceName),
  (s!"{base}/devtype", line kind.typeName),
  (s!"{base}/enable", line "1")
]

/-- The path of an attribute in a group of an object. -/
def attributePath (base group name : String) : String := s!"{base}/{group}/{name}"

def attributeFiles (base group : String) (attributes : AttributeList) : List (String × Bytes) :=
  attributes.map fun (name, value) => (attributePath base group name, line (toString value.toNat))

namespace Blueprint

variable (device : Blueprint)

def channelFiles (i : Nat) (set : SetBlueprint) (j : Nat) : List (String × Bytes) :=
  let base := device.channelBase i j
  objectFiles base s!"chan{j}" (device.channelDeviceName i j) .channel ++
    attributeFiles base "standard" set.channelAttributes ++
    [(s!"{base}/alarms", line "0 0"), (s!"{base}/buffer/flush", []),
      (s!"{base}/current_control", (device.idleHeader i j).encode)]

def setFiles (i : Nat) (set : SetBlueprint) : List (String × Bytes) :=
  let base := device.setBase i
  objectFiles base s!"cset{i}" (device.setDeviceName i) .channelSet ++
    attributeFiles base "standard" set.attributes ++
    attributeFiles s!"{base}/trigger" "standard" set.triggerAttributes ++
    [(s!"{base}/direction", Text.Utf8.encode set.direction.text),
      (s!"{base}/current_trigger", line "user"), (s!"{base}/current_buffer", line "kmalloc")] ++
    (List.range set.channels).flatMap (device.channelFiles i set)

/-- The files of a device with their first contents, in the order in which they are made. -/
def files : List (String × Bytes) :=
  objectFiles device.base device.name device.deviceName .device ++
    attributeFiles device.base "standard" device.attributes ++
    attributeFiles device.base "extended" device.extendedAttributes ++
    device.sets.zipIdx.flatMap fun (set, i) => device.setFiles i set

/-- The names of all channels, set after set. -/
def channelNames : List String :=
  device.sets.zipIdx.flatMap fun (set, i) =>
    (List.range set.channels).map (device.channelDeviceName i)

end Blueprint

/-- The record of an object. Attributes without a slot are left out. -/
def head (base name deviceName : String) (kind : ObjectKind) (attributes : AttributeList := [])
    (extended : AttributeList := []) : HeadRecord where
  base := base
  name := name
  deviceName := deviceName
  kind := kind
  enable := s!"{base}/enable"
  standard := Slots.ofList _ (attributes.map fun a => attributePath base "standard" a.1)
  extended := Slots.ofList _ (extended.map fun a => attributePath base "extended" a.1)

namespace Blueprint

variable (device : Blueprint) (streams : String → Option StreamPair)

/-- The record of a channel, if its streams are there. -/
def channelRecord? (i : Nat) (set : SetBlueprint) (j : Nat) : Option ChannelRecord := do
  let base := device.channelBase i j
  let name := device.channelDeviceName i j
  let pair ← streams name
  return {
    head := head base s!"chan{j}" name .channel set.channelAttributes
    currentControl := s!"{base}/current_control"
    alarms := s!"{base}/alarms"
    buffer := {
      head := head s!"{base}/buffer" "buffer" "" .buffer
      flush := s!"{base}/buffer/flush" }
    streams := { direction := set.direction, data := pair.data, control := pair.control } }

def setRecord? (i : Nat) (set : SetBlueprint) : Option ChannelSetRecord := do
  let base := device.setBase i
  let channels ← (List.range set.channels).mapM (device.channelRecord? streams i set)
  return {
    head := head base s!"cset{i}" (device.setDeviceName i) .channelSet set.attributes
    direction := set.direction
    directionPath := s!"{base}/direction"
    currentTrigger := s!"{base}/current_trigger"
    currentBuffer := s!"{base}/current_buffer"
    trigger := { head := head s!"{base}/trigger" "trigger" "" .trigger set.triggerAttributes }
    channels := channels }

/-- The record of the device, if all its streams are there. -/
def record? : Option DeviceRecord := do
  let sets ← device.sets.zipIdx.mapM fun (set, i) => device.setRecord? streams i set
  return {
    head := head device.base device.name device.deviceName .device device.attributes
      device.extendedAttributes
    sets := sets }

end Blueprint

end DaqBus.Memory

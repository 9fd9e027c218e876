import DaqBus.Bus.Backend
import DaqBus.Kernel.Basic
/-!
Scanning a device directory. The scan reads the identity files of every object, lists the attribute
directories and opens the streams of the channels; the first thing that is wrong ends it. Directories are
found by their bytes, but the record holds texts of paths, and the identity files are read by these.
-/

namespace DaqBus.KernelBus

structure ScanState where
  handles : List Handle
  log : List Event := []

/-- A scan only reads the file system. -/
abbrev ScanM := ExceptT Errno (StateM ScanState)

/-- The text of an attribute file, without line feeds at its end. -/
def attributeText (fs : FileSystem) (path : String) : Except Errno String := do
  let raw ← fs.readBytes (RawPath.ofText path) Backend.textLimit
  return Text.trimNewlines (Text.Utf8.decode raw)

/-- The paths of the first `capacity` entries of a directory, in order. A missing directory has
none. -/
def entryPaths (fs : FileSystem) (directory : RawPath) (capacity : Nat) :
    Except Errno (List String) :=
  match fs.names directory with
  | .ok names => .ok ((names.take capacity).map fun name => (directory.join name).text)
  | .error code => if code = .noEntry then .ok [] else .error code

/-- The directories inside a directory whose names begin so, in order. -/
def subdirectories (fs : FileSystem) (directory : RawPath) (start : String) :
    Except Errno (List RawPath) := do
  let names ← fs.names directory
  let matching := names.filter fun name => start.toList.isPrefixOf (RawPath.text name).toList
  return (matching.map directory.join).filter fs.isDirectory

/-- An object named after its directory, with its attributes. -/
def scanAttributes (fs : FileSystem) (base : RawPath) : Except Errno HeadRecord := do
  let standard ← entryPaths fs (base.entry "standard") Control.standardSlots
  let extended ← entryPaths fs (base.entry "extended") Control.extendedSlots
  return {
    base := base.text
    name := RawPath.text base.last
    standard := Slots.ofList _ standard
    extended := Slots.ofList _ extended }

def scanObject (fs : FileSystem) (base : RawPath) : Except Errno HeadRecord := do
  let head ← scanAttributes fs base
  let name ← attributeText fs (base.entry "name").text
  let deviceName ← attributeText fs (base.entry "devname").text
  let kind ← attributeText fs (base.entry "devtype").text
  return { head with
    name := name
    deviceName := deviceName
    kind := ObjectKind.ofTypeName kind
    enable := (base.entry "enable").text }

/-- The direction of a channel-set; input if it cannot be read. -/
def scanDirection (fs : FileSystem) (base : RawPath) : Direction :=
  match attributeText fs (base.entry "direction").text with
  | .ok text => Direction.ofText text
  | .error _ => .input

def openStream (fs : FileSystem) (streamRoot : RawPath) (deviceName role : String)
    (direction : Direction) : ScanM StreamId := do
  let path := streamRoot.entry s!"{deviceName}-{role}"
  modify fun scan => { scan with log := scan.log ++ [.streamOpened path.text direction] }
  let node ← fs.openNode path (direction = .output)
  let scan ← get
  set { scan with handles := scan.handles ++ [Handle.mk node 0] }
  return scan.handles.length

def scanChannel (fs : FileSystem) (streamRoot : RawPath) (direction : Direction) (base : RawPath) :
    ScanM ChannelRecord := do
  let head ← scanObject fs base
  if head.kind ≠ .channel then throw .notChannel
  let bufferBase := base.entry "buffer"
  let buffer ← scanAttributes fs bufferBase
  let data ← openStream fs streamRoot head.deviceName "data" direction
  let control ← openStream fs streamRoot head.deviceName "ctrl" direction
  return {
    head := head
    currentControl := (base.entry "current_control").text
    alarms := (base.entry "alarms").text
    buffer := { head := buffer, flush := (bufferBase.entry "flush").text }
    streams := { direction, data, control } }

def scanChannelSet (fs : FileSystem) (streamRoot base : RawPath) : ScanM ChannelSetRecord := do
  let direction := scanDirection fs base
  let head ← scanObject fs base
  if head.kind ≠ .channelSet then throw .notChannelSet
  let trigger ← scanAttributes fs (base.entry "trigger")
  let channels ← (← subdirectories fs base "chan").mapM (scanChannel fs streamRoot direction)
  return {
    head := head
    direction := direction
    directionPath := (base.entry "direction").text
    currentTrigger := (base.entry "current_trigger").text
    currentBuffer := (base.entry "current_buffer").text
    trigger := { head := trigger }
    channels := channels }

/-- The device at a path, which is first freed of links. -/
def scanDevice (fs : FileSystem) (streamRoot path : RawPath) : ScanM DeviceRecord := do
  match fs.canonical path with
  | none => throw .noDevice
  | some base =>
    if !fs.isDirectory base then throw .noDevice
    let head ← scanObject fs base
    if head.kind ≠ .device then throw .notDevice
    let sets ← (← subdirectories fs base "cset").mapM (scanChannelSet fs streamRoot)
    modify fun scan =>
      { scan with log := scan.log ++ [.deviceScanned head.base head.deviceName sets.length] }
    return { head, sets }

end DaqBus.KernelBus

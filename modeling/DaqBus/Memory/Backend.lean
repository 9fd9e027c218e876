import DaqBus.Bus.Backend
import DaqBus.Memory.Basic
/-!
The bus in memory as a backend. A failure set up for a path comes before everything else on it, and
only reads that are served count.
-/

namespace DaqBus.MemoryBus

open Memory

/-- Fails if a failure is set up for the path. -/
def check (path : String) : StoreM MemoryBus Unit := do
  match (← get).failures.find? path with
  | some code => throw code
  | none => return

def locate (path : String) : StoreM MemoryBus File := do
  check path
  match (← get).files.find? path with
  | some file => return file
  | none => throw .noEntry

def readRaw (path : String) (limit : Nat) : StoreM MemoryBus Bytes := do
  let file ← locate path
  modify fun bus => { bus with reads := bus.reads.insert path (bus.readCount path + 1) }
  return file.content.take limit

def writeRaw (path : String) (content : Bytes) : StoreM MemoryBus Unit := do
  let file ← locate path
  modify fun bus => { bus with files := bus.files.insert path { file with content } }

def mode (path : String) : StoreM MemoryBus UInt32 := do
  return (← locate path).mode

/-- The registered devices in order of their names. -/
def deviceNames (bus : MemoryBus) : List String :=
  (bus.devices.keys.filter fun key => !isHardwareName key).mergeSort

/-- The published names; an empty list counts as missing. -/
def modules (kind : ModuleKind) : StoreM MemoryBus (List String) := do
  let bus ← get
  match kind, bus.moduleNames.find? kind with
  | .device, _ => return bus.deviceNames
  | _, none | _, some [] => throw .noModuleList
  | _, some names => return names

/-- Opens the device registered under a name. -/
def openKey (key : String) : BusM MemoryBus Errno DeviceRecord := do
  let bus := (← get).store
  if let some code := bus.openFailure then throw code
  match bus.devices.find? key with
  | none => throw .noDevice
  | some device =>
    Bus.emit (.memoryDeviceFound key)
    match device.record? bus.streams.find? with
    | some found => return found
    | none => throw .noEntry

instance : Backend MemoryBus where
  Stream := Queue
  lens := queue
  openByName := openKey
  openById name id := openKey (instanceName name id)
  release base bus :=
    { bus with store := { bus.store with released := bus.store.released ++ [base] } }
  readRaw := readRaw
  writeRaw := writeRaw
  mode := mode
  modules := modules

end DaqBus.MemoryBus

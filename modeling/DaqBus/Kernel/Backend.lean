import DaqBus.Kernel.Scan
/-!
The kernel bus as a backend.
-/

namespace DaqBus.KernelBus

def ask {α : Type} (question : FileSystem → Except Errno α) : StoreM KernelBus α := do
  question (← get).files

/-- Opens the device at a name below the devices directory. -/
def openNamed (name : String) : BusM KernelBus Errno DeviceRecord := fun bus =>
  let store := bus.store
  let scan := scanDevice store.files store.streamRoot (store.devicesPath.entry name)
  match scan { handles := store.handles } with
  | (.ok found, scanned) =>
    (.ok found,
      { bus with
        store := { store with handles := scanned.handles }
        log := bus.log ++ scanned.log })
  | (.error code, scanned) => (.error code, { bus with log := bus.log ++ scanned.log })

def writeRaw (path : String) (content : Bytes) : StoreM KernelBus Unit := do
  let files ← ask fun fs => fs.writeBytes (RawPath.ofText path) content
  modify fun bus => { bus with files }

/-- The devices on the bus, in order; without a devices directory there are none. -/
def deviceNames (bus : KernelBus) : Except Errno (List String) :=
  match bus.files.names bus.devicesPath with
  | .ok names =>
    let found := names.filter fun name =>
      !isHardwareName (RawPath.text name) && bus.files.isDirectory (bus.devicesPath.join name)
    .ok (found.map RawPath.text).mergeSort
  | .error code => if code = .noEntry then .ok [] else .error code

/-- The names that a module list holds, one on a line. -/
def namesInList (text : String) : List String :=
  ((Text.lines text).map Text.trim).filter (· ≠ "")

def listFile (bus : KernelBus) (name : String) : Except Errno (List String) :=
  match attributeText bus.files (bus.busRoot.entry name).text with
  | .error _ => .error .noModuleList
  | .ok text =>
    let names := namesInList text
    if names = [] then .error .noModuleList else .ok names

def moduleNames (bus : KernelBus) : ModuleKind → Except Errno (List String)
  | .device => bus.deviceNames
  | .buffer => bus.listFile "available_buffers"
  | .trigger => bus.listFile "available_triggers"

instance : Backend KernelBus where
  Stream := FileStream
  lens := lens
  openByName := openNamed
  openById name id := openNamed (instanceName name id)
  release base bus := bus.record (.deviceReleased base)
  readRaw path limit := ask fun fs => fs.readBytes (RawPath.ofText path) limit
  writeRaw := writeRaw
  mode path := ask fun fs => fs.modeOf (RawPath.ofText path)
  modules kind := do (← get).moduleNames kind

end DaqBus.KernelBus

import DaqBus.Tree.Basic
/-!
Opening and closing devices. An open yields the whole tree or nothing; a device is torn down once,
and its handles fail from then on.
-/

namespace DaqBus

namespace Bus

variable {S α : Type} [Backend S]

/-- What the backend reports for a name, or for the instance of a name with an id. -/
def findDevice (name : String) : Option UInt32 → BusM S Errno DeviceRecord
  | none => if name = "" then throw .invalidArgument else Backend.openByName name
  | some id => if name = "" then throw .invalidArgument else Backend.openById name id

def openDevice (name : String) (id : Option UInt32) : BusM S BusError Device := do
  let record ← restate (fun code => .openFailure name id code.message) (findDevice name id)
  let number ← register
  let device := Device.ofRecord { number, base := record.head.base } id record
  device.built.forM fun event => emit event
  emit (.deviceOpened device.node.deviceName device.node.base device.sets.length)
  return device

end Bus

namespace Device

variable {S : Type} [Backend S]

/-- The bus after the device has been torn down; nothing happens if that has been done before. -/
def teardown (device : Device) (bus : Bus S) : Bus S :=
  let opening := device.opening
  if bus.isClosed opening.number then bus
  else
    let closing := (bus.markClosed opening.number).record (.deviceClosing device.node.base)
    (Backend.release opening.base closing).record (.deviceClosed device.node.deviceName)

def close (device : Device) : BusM S BusError Unit := fun bus =>
  (.ok (), device.teardown bus)

end Device

namespace Bus

variable {S α : Type} [Backend S]

/-- Opens a device for the time of one piece of work and closes it afterwards, also if the work
fails. -/
def withDevice (name : String) (id : Option UInt32) (work : Device → BusM S BusError α) :
    BusM S BusError α := do
  emit (.scopeEntered name id)
  let device ← openDevice name id
  let outcome ← attempt (work device)
  device.close
  match outcome with
  | .ok value => return value
  | .error failure => throw failure

def list (kind : ModuleKind) : BusM S BusError (List String) :=
  restate (fun code => .listFailure kind code.message) (onStore (Backend.modules kind))

end Bus

end DaqBus

import DaqBus.Block.Basic
import DaqBus.Record.Basic
import DaqBus.Text.Numeral
/-!
Why work on a device fails.
-/

namespace DaqBus

/-- The hexadecimal form of a device id, at least four digits. -/
def idText (id : UInt32) : String := "0x" ++ Text.hex 4 id.toNat

/-- The directory name of the instance of a device with an id. -/
def instanceName (name : String) (id : UInt32) : String :=
  s!"{name}-{idText id}"

/-- A failure on the device tree. The failures of the backend carry the message of its code. -/
inductive BusError
  /-- The backend did not find or could not read the device. -/
  | openFailure (name : String) (id : Option UInt32) (reason : String)
  /-- An attribute could not be read or written, or its permissions not asked for. -/
  | ioFailure (path reason : String)
  | readFailure (context reason : String)
  | writeFailure (context reason : String)
  | listFailure (kind : ModuleKind) (reason : String)
  /-- A block is not what its record says. -/
  | block (fault : BlockFault)
  /-- The device of the handle has been closed. -/
  | deviceClosed (path : String)
deriving DecidableEq, Repr

namespace BusError

def message : BusError → String
  | openFailure name none reason => s!"Cannot open device '{name}': {reason}"
  | openFailure name (some id) reason => s!"Cannot open device '{name}' (id {idText id}): {reason}"
  | ioFailure path reason => s!"I/O failure on '{path}': {reason}"
  | readFailure context reason => s!"{context}: {reason}"
  | writeFailure context reason => s!"{context}: {reason}"
  | listFailure kind reason => s!"Cannot list {kind.text} modules: {reason}"
  | block fault => fault.message
  | deviceClosed path => s!"Device '{path}' is closed"

/-- Whether the backend reported the failure. -/
def isBackend : BusError → Bool
  | openFailure .. | ioFailure .. | readFailure .. | writeFailure .. | listFailure .. => true
  | block _ | deviceClosed _ => false

/-- Whether a block broke its format. -/
def isDecode : BusError → Bool
  | block _ => true
  | _ => false

/-- Whether a handle outlived its device. -/
def isClosed : BusError → Bool
  | deviceClosed _ => true
  | _ => false

end BusError

end DaqBus

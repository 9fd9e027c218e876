import DaqBus.Bus.Backend
import DaqBus.Files.Path
/-!
Handles to attribute files. A handle caches nothing: each read and each write is one call of the
backend, and none at all once the device of the handle is closed.
-/

namespace DaqBus

/-- One opening of a device, shared by every handle of its tree. -/
structure Opening where
  number : Nat
  base : String
deriving DecidableEq, Repr

inductive Permission
  | ownerRead
  | ownerWrite
  | groupRead
  | groupWrite
  | otherRead
  | otherWrite
deriving DecidableEq, Repr

namespace Permission

def bits : Permission → UInt32
  | ownerRead => 0o400
  | ownerWrite => 0o200
  | groupRead => 0o040
  | groupWrite => 0o020
  | otherRead => 0o004
  | otherWrite => 0o002

def name : Permission → String
  | ownerRead => "OWNER_READ"
  | ownerWrite => "OWNER_WRITE"
  | groupRead => "GROUP_READ"
  | groupWrite => "GROUP_WRITE"
  | otherRead => "OTHER_READ"
  | otherWrite => "OTHER_WRITE"

def all : List Permission :=
  [ownerRead, ownerWrite, groupRead, groupWrite, otherRead, otherWrite]

def isWrite : Permission → Bool
  | ownerWrite | groupWrite | otherWrite => true
  | ownerRead | groupRead | otherRead => false

/-- The permissions that a mode grants. Its other bits mean nothing here. -/
def ofMode (mode : UInt32) : List Permission :=
  all.filter fun permission => mode &&& permission.bits ≠ 0

end Permission

namespace Opening

variable {S : Type}

/-- Fails if the opening is over. -/
def check (opening : Opening) : BusM S BusError Unit := do
  if (← get).isClosed opening.number then throw (.deviceClosed opening.base)

end Opening

structure Attribute where
  path : String
  opening : Opening
deriving DecidableEq, Repr

namespace Attribute

variable {S α : Type}

def name (a : Attribute) : String :=
  Path.last a.path

/-- A backend operation on the file of the handle. -/
def access (a : Attribute) (operation : BusM S Errno α) : BusM S BusError α := do
  a.opening.check
  Bus.restate (fun code => .ioFailure a.path code.message) operation

variable [Backend S]

def read (a : Attribute) : BusM S BusError UInt32 := do
  let value ← a.access (Backend.readNumber a.path)
  Bus.emit (.attributeRead a.path value)
  return value

/-- Writes a number. After a failure nothing is known about the value. -/
def write (a : Attribute) (value : UInt32) : BusM S BusError Unit := do
  a.access (Bus.onStore (Backend.writeNumber a.path value))
  Bus.emit (.numberWritten a.path value)

/-- The value as text, without line feeds at its end. -/
def readText (a : Attribute) : BusM S BusError String :=
  a.access (Bus.onStore (Backend.readText a.path))

def writeText (a : Attribute) (text : String) : BusM S BusError Unit := do
  a.access (Bus.onStore (Backend.writeText a.path text))
  Bus.emit (.textWritten a.path text)

def permissions (a : Attribute) : BusM S BusError (List Permission) := do
  return Permission.ofMode (← a.access (Bus.onStore (Backend.mode a.path)))

end Attribute

end DaqBus

import DaqBus.Errno.Messages
/-!
Numeric error codes. Codes from 1024 on belong to the bus framework, all others to the operating
system; `message` words both.
-/

namespace DaqBus

structure Errno where
  code : Int32
deriving DecidableEq, Repr

namespace Errno

def noEntry : Errno := ⟨2⟩
def interrupted : Errno := ⟨4⟩
def inputOutput : Errno := ⟨5⟩
def notDirectory : Errno := ⟨20⟩
def isDirectory : Errno := ⟨21⟩
def invalidArgument : Errno := ⟨22⟩
def nameTooLong : Errno := ⟨36⟩
def linkLoop : Errno := ⟨40⟩

/-- No device answers to the name. -/
def noDevice : Errno := ⟨1024⟩
/-- A module list cannot be read, or is empty. -/
def noModuleList : Errno := ⟨1026⟩
/-- A control record is too short or announces an unusable sample size. -/
def controlWrong : Errno := ⟨1027⟩
/-- The object at the device's place is not a device. -/
def notDevice : Errno := ⟨1029⟩
/-- The object at a channel-set's place is not a channel-set. -/
def notChannelSet : Errno := ⟨1030⟩
/-- The object at a channel's place is not a channel. -/
def notChannel : Errno := ⟨1031⟩
/-- A block operation goes against the direction of its channel. -/
def wrongDirection : Errno := ⟨1032⟩

/-- The codes of the bus framework with their messages. -/
def busMessages : List (Int × String) := [
  (1024, "No ZIO device available"),
  (1025, "Incompatible ZIO version"),
  (1026, "Module list is not available"),
  (1027, "Control block is not correct"),
  (1028, "Invalid char-device"),
  (1029, "Invalid device"),
  (1030, "Invalid channel set"),
  (1031, "Invalid channel"),
  (1032, "Wrong I/O direction while using char-device")
]

/-- Whether a code lies in the range of the bus framework. -/
def isBusSpecific (e : Errno) : Bool :=
  1024 ≤ e.code.toInt && e.code.toInt < 1033

def message (e : Errno) : String :=
  let n := e.code.toInt
  let table := if e.isBusSpecific then busMessages else systemMessages
  (table.lookup n).getD s!"Unknown error {n}"

end Errno

end DaqBus

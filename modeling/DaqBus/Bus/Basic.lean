import DaqBus.Bus.Event
import DaqBus.Stream.Lens
/-!
A bus: a backend's state together with the log and with the openings of devices, which of them are
over included.
-/

namespace DaqBus

/-- A bus over a backend state. Openings of devices are numbered from zero. -/
structure Bus (S : Type) where
  store : S
  /-- What happened, oldest first. -/
  log : List Event := []
  /-- How many openings there have been. -/
  opened : Nat := 0
  /-- The openings that are over, the latest first. -/
  closed : List Nat := []

/-- Work on a bus that can fail; what it did before it failed stays done. -/
abbrev BusM (S ε : Type) := ExceptT ε (StateM (Bus S))

namespace Bus

variable {S ε δ α : Type}

def record (event : Event) (bus : Bus S) : Bus S :=
  { bus with log := bus.log ++ [event] }

def isClosed (bus : Bus S) (opening : Nat) : Bool :=
  bus.closed.contains opening

def markClosed (opening : Nat) (bus : Bus S) : Bus S :=
  { bus with closed := opening :: bus.closed }

def emit (event : Event) : BusM S ε Unit := fun bus =>
  (.ok (), bus.record event)

def register : BusM S ε Nat := fun bus =>
  (.ok bus.opened, { bus with opened := bus.opened + 1 })

/-- Work on the backend's state alone. -/
def onStore (operation : StoreM S α) : BusM S Errno α := fun bus =>
  match operation bus.store with
  | (outcome, store) => (outcome, { bus with store })

def restate (f : δ → ε) (operation : BusM S δ α) : BusM S ε α := fun bus =>
  match operation bus with
  | (outcome, after) => (outcome.mapError f, after)

/-- The outcome of an operation as a value; this never fails. -/
def attempt (operation : BusM S δ α) : BusM S ε (Except δ α) := fun bus =>
  match operation bus with
  | (outcome, after) => (.ok outcome, after)

end Bus

end DaqBus

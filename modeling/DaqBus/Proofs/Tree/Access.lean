import DaqBus.Proofs.Effect
import DaqBus.Tree.Node

/-!
# Operations through a handle

What can be done with a handle or with the switch of a node, as data. A handle whose opening is over
refuses every operation before the backend is asked; any other passes it on.
-/

namespace DaqBus

variable {S α : Type} {bus : Bus S}

namespace Opening

variable {opening : Opening}

theorem check_of_open (hopen : bus.isClosed opening.number = false) :
    opening.check bus = (.ok (), bus) := by
  unfold check
  refine (Effect.bind_of_ok (Effect.get_apply bus)).trans ?_
  rw [hopen]
  rfl

theorem check_of_closed (hclosed : bus.isClosed opening.number = true) :
    opening.check bus = (.error (.deviceClosed opening.base), bus) := by
  unfold check
  refine (Effect.bind_of_ok (Effect.get_apply bus)).trans ?_
  rw [hclosed]
  rfl

end Opening

namespace Attribute

/-- How a code of the backend is told to the caller. -/
def refusal (a : Attribute) (code : Errno) : BusError :=
  .ioFailure a.path code.message

variable {a : Attribute}

theorem access_of_open (hopen : bus.isClosed a.opening.number = false)
    (operation : BusM S Errno α) : a.access operation bus = Bus.restate a.refusal operation bus := by
  unfold access
  exact Effect.bind_of_ok (Opening.check_of_open hopen)

theorem access_of_closed (hclosed : bus.isClosed a.opening.number = true)
    (operation : BusM S Errno α) :
    a.access operation bus = (.error (.deviceClosed a.opening.base), bus) := by
  unfold access
  exact Effect.bind_of_error (Opening.check_of_closed hclosed)

/-- What content reads as. -/
def textOf (content : Bytes) : String :=
  Text.trimNewlines (Text.Utf8.decode (content.take Backend.textLimit))

def numberOf? (content : Bytes) : Option UInt32 :=
  Text.word32? (Text.trim (textOf content))

theorem access_onStore (hopen : bus.isClosed a.opening.number = false) (operation : StoreM S α) :
    a.access (Bus.onStore operation) bus =
      ((operation bus.store).1.mapError a.refusal, { bus with store := (operation bus.store).2 }) := by
  rw [access_of_open hopen]
  rfl

variable [Backend S]

theorem readNumber_of_content {path : String} {content : Bytes} {store : S}
    (hraw : Backend.readRaw path Backend.textLimit bus.store =
      (.ok (content.take Backend.textLimit), store)) :
    Backend.readNumber path bus =
      match numberOf? content with
      | some value => (.ok value, { bus with store })
      | none => (.error .invalidArgument,
          { bus with store, log := bus.log ++ [.notDecimal path (textOf content)] }) := by
  have htext : Backend.readText path bus.store = (.ok (textOf content), store) := by
    unfold Backend.readText
    rw [Effect.bind_of_ok hraw]
    rfl
  unfold Backend.readNumber
  rw [Effect.bind_apply, Bus.onStore, htext, numberOf?]
  dsimp only
  cases Text.word32? (Text.trim (textOf content)) <;> rfl

theorem read_of_content {content : Bytes} {store : S}
    (hopen : bus.isClosed a.opening.number = false)
    (hraw : Backend.readRaw a.path Backend.textLimit bus.store =
      (.ok (content.take Backend.textLimit), store)) :
    a.read bus =
      match numberOf? content with
      | some value => (.ok value, { bus with store, log := bus.log ++ [.attributeRead a.path value] })
      | none => (.error (a.refusal .invalidArgument),
          { bus with store, log := bus.log ++ [.notDecimal a.path (textOf content)] }) := by
  unfold read
  rw [Effect.bind_apply, access_of_open hopen, Bus.restate, readNumber_of_content hraw]
  cases numberOf? content <;> rfl

theorem read_of_error {code : Errno} {store : S} (hopen : bus.isClosed a.opening.number = false)
    (hraw : Backend.readRaw a.path Backend.textLimit bus.store = (.error code, store)) :
    a.read bus = (.error (a.refusal code), { bus with store }) := by
  have htext : Backend.readText a.path bus.store = (.error code, store) := by
    unfold Backend.readText
    rw [Effect.bind_of_error hraw]
  unfold read
  rw [Effect.bind_apply, access_of_open hopen, Bus.restate, Backend.readNumber, Effect.bind_apply,
    Bus.onStore, htext]
  rfl

/-- Writing replaces the content, and then the log says so. -/
theorem put_of_open (hopen : bus.isClosed a.opening.number = false) (content : Bytes) (event : Event) :
    (do
      a.access (Bus.onStore (Backend.writeRaw a.path content))
      Bus.emit event : BusM S BusError Unit) bus =
      match Backend.writeRaw a.path content bus.store with
      | (.ok (), store) => (.ok (), { bus with store, log := bus.log ++ [event] })
      | (.error code, store) => (.error (a.refusal code), { bus with store }) := by
  rw [Effect.bind_apply, access_onStore hopen]
  rcases Backend.writeRaw a.path content bus.store with ⟨code | done, store⟩ <;> rfl

end Attribute

inductive Access
  | read (handle : Attribute)
  | write (handle : Attribute) (value : UInt32)
  | readText (handle : Attribute)
  | writeText (handle : Attribute) (text : String)
  | permissions (handle : Attribute)
  | enable (node : Node)
  | disable (node : Node)
  | isEnabled (node : Node)
deriving DecidableEq, Repr

inductive Answer
  | done
  | number (value : UInt32)
  | text (text : String)
  | permissions (granted : List Permission)
  | flag (on : Bool)
deriving DecidableEq, Repr

namespace Access

def handle : Access → Attribute
  | read a | write a _ | readText a | writeText a _ | permissions a => a
  | enable node | disable node | isEnabled node => node.enableSwitch

def path (access : Access) : String := access.handle.path

def opening (access : Access) : Opening := access.handle.opening

variable [Backend S]

def run : Access → BusM S BusError Answer
  | read a => .number <$> a.read
  | write a value => (fun _ => .done) <$> a.write value
  | readText a => .text <$> a.readText
  | writeText a text => (fun _ => .done) <$> a.writeText text
  | permissions a => .permissions <$> a.permissions
  | enable node => (fun _ => .done) <$> node.enable
  | disable node => (fun _ => .done) <$> node.disable
  | isEnabled node => .flag <$> node.isEnabled

/-- The content that the operation puts into the file. -/
def written? : Access → Option Bytes
  | write _ value => some (Text.Utf8.encode (toString value.toNat))
  | writeText _ text => some (Text.Utf8.encode text)
  | enable _ => some (Text.Utf8.encode "1")
  | disable _ => some (Text.Utf8.encode "0")
  | read _ | readText _ | permissions _ | isEnabled _ => none

/-- Whether the operation reads the content of the file. -/
def isRead : Access → Bool
  | read _ | readText _ | isEnabled _ => true
  | write _ _ | writeText _ _ | permissions _ | enable _ | disable _ => false

/-- The answer of a file with this content and mode. -/
def answer (content : Bytes) (mode : UInt32) : Access → Except Errno Answer
  | read _ => (Attribute.numberOf? content).elim (.error .invalidArgument) fun v => .ok (.number v)
  | isEnabled _ =>
    (Attribute.numberOf? content).elim (.error .invalidArgument) fun v => .ok (.flag (v ≠ 0))
  | readText _ => .ok (.text (Attribute.textOf content))
  | permissions _ => .ok (.permissions (Permission.ofMode mode))
  | write _ _ | writeText _ _ | enable _ | disable _ => .ok .done

/-- What the log says about the operation on a file with this content. -/
def events (content : Bytes) : Access → List Event
  | read a => reading a
  | isEnabled node => reading node.enableSwitch
  | write a value => [.numberWritten a.path value]
  | writeText a text => [.textWritten a.path text]
  | enable node => [.textWritten node.enableSwitch.path "1"]
  | disable node => [.textWritten node.enableSwitch.path "0"]
  | readText _ | permissions _ => []
where
  reading (a : Attribute) : List Event :=
    match Attribute.numberOf? content with
    | some value => [.attributeRead a.path value]
    | none => [.notDecimal a.path (Attribute.textOf content)]

/-- **A closed handle.** -/
theorem run_of_closed {access : Access} (hclosed : bus.isClosed access.opening.number = true) :
    access.run bus = (.error (.deviceClosed access.opening.base), bus) := by
  cases access with
  | readText a =>
      apply Effect.map_of_error
      exact Attribute.access_of_closed hclosed _
  | isEnabled node =>
      -- What follows the read does not come up either.
      apply Effect.map_of_error
      apply Effect.bind_of_error
      exact Effect.bind_of_error (Attribute.access_of_closed hclosed _)
  | read | write | writeText | permissions | enable | disable =>
      apply Effect.map_of_error
      exact Effect.bind_of_error (Attribute.access_of_closed hclosed _)

end Access

end DaqBus

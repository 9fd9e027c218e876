import DaqBus.Block.Transfer
import DaqBus.Bus.Basic
import DaqBus.Control.Codec
import DaqBus.Text.Numeral
/-!
Backends. A backend opens devices, reads and writes attribute files and holds the streams of the
channels; the typed forms of an attribute and the transfer of blocks follow from these.
-/

namespace DaqBus

/-- What a backend with states of type `S` can do. -/
class Backend (S : Type) where
  Stream : Type
  [stream : ByteStream Stream]
  /-- The place of a numbered stream. -/
  lens : StreamId → Lens S Stream
  /-- The device with the name of its directory. -/
  openByName : String → BusM S Errno DeviceRecord
  /-- The instance of a device with an id. -/
  openById : String → UInt32 → BusM S Errno DeviceRecord
  /-- Gives back what the device at a directory holds. -/
  release : String → Bus S → Bus S
  /-- The first bytes of an attribute file, at most the given number. -/
  readRaw : String → Nat → StoreM S Bytes
  /-- Replaces the content of an attribute file. -/
  writeRaw : String → Bytes → StoreM S Unit
  /-- The permission bits of an attribute file. -/
  mode : String → StoreM S UInt32
  /-- The names in a module list. -/
  modules : ModuleKind → StoreM S (List String)

namespace Backend

instance (S : Type) [Backend S] : ByteStream (Stream S) := stream

/-- How many bytes are read for an attribute as text. -/
def textLimit : Nat := 4096

variable {S : Type} [Backend S]

/-- An attribute as text, without line feeds at its end. -/
def readText (path : String) : StoreM S String := do
  let raw ← readRaw path textLimit
  return Text.trimNewlines (Text.Utf8.decode raw)

def writeText (path text : String) : StoreM S Unit :=
  writeRaw path (Text.Utf8.encode text)

/-- An attribute as a decimal number, blanks around it aside. -/
def readNumber (path : String) : BusM S Errno UInt32 := do
  let text ← Bus.onStore (readText path)
  match Text.word32? (Text.trim text) with
  | some value => return value
  | none =>
    Bus.emit (.notDecimal path text)
    throw .invalidArgument

def writeNumber (path : String) (value : UInt32) : StoreM S Unit :=
  writeText path (toString value.toNat)

def readHeader (path : String) : StoreM S Control.Header := do
  let raw ← readRaw path Control.recordSize
  match Control.Header.decode raw with
  | .ok header => return header
  | .error _ => throw .controlWrong

def lane (streams : ChannelStreams) : Lane S (Stream S) where
  direction := streams.direction
  control := lens streams.control
  data := lens streams.data

def readBlock (streams : ChannelStreams) : StoreM S RawBlock :=
  (lane streams).readBlock

def writeBlock (streams : ChannelStreams) (block : RawBlock) : StoreM S Unit :=
  (lane streams).writeBlock block

end Backend

end DaqBus

import DaqBus.Files.Access
import DaqBus.Files.Stream
import DaqBus.Record.Basic
import DaqBus.Stream.Lens
/-!
The bus as the kernel shows it: attribute files in a directory tree, and one directory with the
streams of all channels.
-/

namespace DaqBus

structure Handle where
  node : NodeId
  offset : Nat := 0
deriving DecidableEq, Repr

/-- The state of a kernel bus: the file system with the two roots in it, and the files that have
been opened as streams. -/
structure KernelBus where
  files : FileSystem
  /-- The directory of the bus. -/
  busRoot : RawPath
  /-- The directory of the streams. -/
  streamRoot : RawPath
  handles : List Handle := []

namespace KernelBus

def defaultBusRoot : String := "/sys/bus/zio"

/-- Where the streams are unless told otherwise. -/
def defaultStreamRoot : String := "/dev/zio"

def devicesPath (bus : KernelBus) : RawPath :=
  bus.busRoot.entry "devices"

def stream (bus : KernelBus) (handle : Handle) : FileStream :=
  match bus.files.node? handle.node with
  | some (.file content _) => { content := some content, offset := handle.offset }
  | _ => { content := none, offset := handle.offset }

/-- The place of a stream: what is written to it is in the file at once. -/
def lens (id : StreamId) : Lens KernelBus FileStream where
  view bus :=
    match bus.handles[id]? with
    | some handle => bus.stream handle
    | none => { content := some [], offset := 0 }
  put opened bus :=
    match bus.handles[id]? with
    | none => bus
    | some handle =>
      { bus with
        files := match opened.content with
          | some content => bus.files.setContent handle.node content
          | none => bus.files
        handles := bus.handles.set id { handle with offset := opened.offset } }

end KernelBus

end DaqBus

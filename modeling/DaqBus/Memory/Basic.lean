import DaqBus.Memory.Blueprint
import DaqBus.Stream.Lens
import DaqBus.Stream.Queue
import DaqBus.Table
/-!
A bus in memory: attribute files in a table and channel streams in queues. Failures can be set up
for a path and for openings; reads and releases are counted.
-/

namespace DaqBus

namespace Memory

structure File where
  content : Bytes
  mode : UInt32 := 0o644
deriving DecidableEq, Repr

end Memory

open Memory in
/-- The state of a bus in memory. A registered channel has two queues of its own; a channel that is
registered again gets new ones, and who opened it before keeps the old. -/
structure MemoryBus where
  files : Table String File := {}
  devices : Table String Blueprint := {}
  streams : Table String StreamPair := {}
  queues : List Queue := []
  failures : Table String Errno := {}
  openFailure : Option Errno := none
  /-- How often each path has been read. -/
  reads : Table String Nat := {}
  /-- The directories of released devices, in order. -/
  released : List String := []
  moduleNames : Table ModuleKind (List String) := {}

namespace MemoryBus

open Memory

/-- Makes a file or replaces its content; the mode of a file that exists stays. -/
def setFile (bus : MemoryBus) (path : String) (content : Bytes) : MemoryBus :=
  let mode := ((bus.files.find? path).map File.mode).getD 0o644
  { bus with files := bus.files.insert path { content, mode } }

def file? (bus : MemoryBus) (path : String) : Option Bytes :=
  (bus.files.find? path).map File.content

def setMode (bus : MemoryBus) (path : String) (mode : UInt32) : MemoryBus :=
  match bus.files.find? path with
  | some file => { bus with files := bus.files.insert path { file with mode } }
  | none => bus

/-- From now on every access to the path fails. -/
def failPath (bus : MemoryBus) (path : String) (code : Errno) : MemoryBus :=
  { bus with failures := bus.failures.insert path code }

def clearFailure (bus : MemoryBus) (path : String) : MemoryBus :=
  { bus with failures := bus.failures.erase path }

def readCount (bus : MemoryBus) (path : String) : Nat :=
  (bus.reads.find? path).getD 0

def setModules (bus : MemoryBus) (kind : ModuleKind) (names : List String) : MemoryBus :=
  { bus with moduleNames := bus.moduleNames.insert kind names }

def queue (id : StreamId) : Lens MemoryBus Queue where
  view bus := bus.queues[id]?.getD {}
  put queue bus := { bus with queues := bus.queues.set id queue }

def pushTo (bus : MemoryBus) (id : StreamId) (bs : Bytes) : MemoryBus :=
  (queue id).put (((queue id).view bus).push bs) bus

/-- Appends control and payload bytes to the streams of a channel, if there is such a channel. -/
def push (bus : MemoryBus) (channel : String) (block : RawBlock) : MemoryBus :=
  match bus.streams.find? channel with
  | some pair => (bus.pushTo pair.control block.control).pushTo pair.data block.data
  | none => bus

/-- Empties the streams of a channel and returns what was in them. -/
def drain (bus : MemoryBus) (channel : String) : RawBlock × MemoryBus :=
  match bus.streams.find? channel with
  | some pair =>
    let taken : RawBlock := {
      control := ((queue pair.control).view bus).bytes
      data := ((queue pair.data).view bus).bytes }
    (taken, (queue pair.data).put {} ((queue pair.control).put {} bus))
  | none => ({}, bus)

/-- Two new queues under the name of a channel. -/
def addStreams (bus : MemoryBus) (channel : String) : MemoryBus :=
  let id := bus.queues.length
  { bus with
    queues := bus.queues ++ [{}, {}]
    streams := bus.streams.insert channel { data := id, control := id + 1 } }

/-- Registers a device with its files and streams. -/
def addDevice (bus : MemoryBus) (device : Blueprint) : MemoryBus :=
  let withFiles := device.files.foldl (fun bus file => bus.setFile file.1 file.2) bus
  let withStreams := device.channelNames.foldl addStreams withFiles
  { withStreams with devices := withStreams.devices.insert device.key device }

end MemoryBus

end DaqBus

import DaqBus.Errno.Basic
import DaqBus.Files.RawPath
import DaqBus.Table
/-!
A file system: numbered nodes, directories that name them, and the walk that resolves a path. Names
are bytes, which need not be text. A walk follows symbolic links, but only so many of them; a path and
each name on it can only be so long. The permissions of a node are kept and shown, but keep nobody from
it.
-/

namespace DaqBus

abbrev NodeId := Nat

inductive FileNode
  | file (content : Bytes) (mode : UInt32)
  | directory (entries : Table Bytes NodeId) (mode : UInt32)
  | link (target : RawPath)
deriving DecidableEq, Repr

/-- The way from the root to a node: names and nodes, the deepest first. -/
abbrev Place := List (Bytes × NodeId)

/-- Where a walk ends: at a node, or in a directory that lacks the last name. -/
inductive Arrival
  | found (place : Place)
  | missing (directory : Place) (name : Bytes)
deriving DecidableEq, Repr

/-- A file system. Node zero is the root directory; relative paths start at `home`. A node that no
directory names any more can still be open. -/
structure FileSystem where
  nodes : List FileNode := [.directory {} 0o755]
  home : Place := []
deriving Repr

def Place.node (place : Place) : NodeId :=
  (place.head?.map Prod.snd).getD 0

/-- The path of a place without dots and links. -/
def Place.path (place : Place) : RawPath :=
  RawPath.slash :: [RawPath.slash].intercalate (place.reverse.map Prod.fst)

namespace FileSystem

def linkLimit : Nat := 40

def nameLimit : Nat := 255

/-- How long a path can be, in bytes, its end mark included. -/
def pathLimit : Nat := 4096

def node? (fs : FileSystem) (id : NodeId) : Option FileNode :=
  fs.nodes[id]?

/-- The entries of a node that is a directory. -/
def entries? (fs : FileSystem) (id : NodeId) : Option (Table Bytes NodeId) :=
  match fs.node? id with
  | some (.directory entries _) => some entries
  | _ => none

/-- Follows names from a place, where `links` more symbolic links may be met. A link at the very end
is only followed on demand. -/
def walk (fs : FileSystem) (through : Bool) :
    (links : Nat) → (names : List Bytes) → Place → Except Errno Arrival
  | _, [], here => .ok (.found here)
  | links, name :: rest, here =>
    match fs.entries? here.node with
    | none => .error .notDirectory
    | some entries =>
      if name = RawPath.here then walk fs through links rest here
      else if name = RawPath.up then walk fs through links rest here.tail
      else if nameLimit < name.length then .error .nameTooLong
      else
        match entries.find? name with
        | none => if rest = [] then .ok (.missing here name) else .error .noEntry
        | some id =>
          match fs.node? id with
          | some (.link target) =>
            if rest = [] && !through then .ok (.found ((name, id) :: here))
            else
              match links with
              | 0 => .error .linkLoop
              | links + 1 =>
                let start := if target.isAbsolute then [] else here
                walk fs through links (target.components ++ rest) start
          | _ => walk fs through links rest ((name, id) :: here)
termination_by links names => (links, names.length)

def start (fs : FileSystem) (path : RawPath) : Place :=
  if path.isAbsolute then [] else fs.home

/-- Where a path ends. A path with a zero byte cannot even be asked for, which is reported without
a code of its own. -/
def follow (fs : FileSystem) (path : RawPath) (through : Bool := true) : Except Errno Arrival :=
  if path.contains 0 then .error .inputOutput
  else if path = [] then .error .noEntry
  else if pathLimit ≤ path.length then .error .nameTooLong
  else fs.walk through linkLimit path.components (fs.start path)

def resolve (fs : FileSystem) (path : RawPath) (through : Bool := true) : Except Errno Place := do
  match ← fs.follow path through with
  | .found place => return place
  | .missing _ _ => throw .noEntry

end FileSystem

end DaqBus

import DaqBus.Files.Basic
/-!
Reading a file system, and replacing the content of files that exist.
-/

namespace DaqBus.FileSystem

variable (fs : FileSystem)

/-- Whether the names that are left ask for a directory: none but dots are, or they lead up. -/
def asksDirectory (rest : List Bytes) : Bool :=
  match rest.dropWhile (· = RawPath.here) with
  | [] => rest ≠ []
  | name :: _ => name = RawPath.up

/-- Finds the place that names lead to. For every name on the way the system is asked about the
path from the root to it, with a slash behind it where a directory is asked for; that path must not be
too long, whatever the place at the end. -/
def trace : (links : Nat) → (names : List Bytes) → Place → Option Place
  | _, [], place => some place
  | links, name :: rest, place =>
    match fs.entries? place.node with
    | none => none
    | some entries =>
      if name = RawPath.here then trace links rest place
      else if name = RawPath.up then trace links rest place.tail
      else
        let asked := place.path.join name
        if pathLimit ≤ asked.length || nameLimit < name.length then none
        else
          match entries.find? name with
          | none => none
          | some id =>
            match fs.node? id with
            | some (.link target) =>
              match links with
              | 0 => none
              | links + 1 =>
                let start := if target.isAbsolute then [] else place
                trace links (target.components ++ rest) start
            | _ =>
              if asksDirectory rest && pathLimit ≤ asked.length + 1 then none
              else trace links rest ((name, id) :: place)
termination_by links names => (links, names.length)

/-- The path of what a path leads to, without dots and links. The path itself may be of any
length. Nothing reads the code of a failure. -/
def canonical (path : RawPath) : Option RawPath :=
  if path.contains 0 || path = [] then none
  else (fs.trace linkLimit path.components (fs.start path)).map Place.path

def isDirectory (path : RawPath) : Bool :=
  match fs.resolve path with
  | .ok place => (fs.entries? place.node).isSome
  | .error _ => false

def names (path : RawPath) : Except Errno (List Bytes) := do
  let place ← fs.resolve path
  match fs.entries? place.node with
  | some entries => return entries.keys.mergeSort
  | none => throw .notDirectory

/-- Opens a file. A directory can be opened, but not for writing. -/
def openNode (path : RawPath) (write : Bool) : Except Errno NodeId := do
  let place ← fs.resolve path
  if write && (fs.entries? place.node).isSome then throw .isDirectory
  return place.node

/-- The first bytes of a file, at most `limit`. A directory has none to read. -/
def readBytes (path : RawPath) (limit : Nat) : Except Errno Bytes := do
  let id ← fs.openNode path false
  match fs.node? id with
  | some (.file content _) => return content.take limit
  | _ => if limit = 0 then return [] else throw .isDirectory

/-- The permission bits of a file or directory. -/
def modeOf (path : RawPath) : Except Errno UInt32 := do
  let place ← fs.resolve path
  match fs.node? place.node with
  | some (.file _ mode) | some (.directory _ mode) => return mode &&& 0o7777
  | _ => throw .noEntry

/-- The file system with another content in a file; the mode stays. -/
def setContent (id : NodeId) (content : Bytes) : FileSystem :=
  match fs.node? id with
  | some (.file _ mode) => { fs with nodes := fs.nodes.set id (.file content mode) }
  | _ => fs

/-- Replaces the content of a file that exists. -/
def writeBytes (path : RawPath) (content : Bytes) : Except Errno FileSystem := do
  let id ← fs.openNode path true
  return fs.setContent id content

end DaqBus.FileSystem

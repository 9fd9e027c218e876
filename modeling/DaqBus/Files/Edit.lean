import DaqBus.Files.Access
/-!
Changing the tree of a file system: making files, directories and links, removing them, and
changing modes. What cannot be done leaves the file system as it is.
-/

namespace DaqBus.FileSystem

/-- The entries of a directory changed by `f`. -/
def updateEntries (fs : FileSystem) (directory : NodeId)
    (f : Table Bytes NodeId → Table Bytes NodeId) : FileSystem :=
  match fs.node? directory with
  | some (.directory entries mode) =>
    { fs with nodes := fs.nodes.set directory (.directory (f entries) mode) }
  | _ => fs

/-- Puts a new node under a name in a directory. -/
def addNode (fs : FileSystem) (parent : Place) (name : Bytes) (node : FileNode) :
    Place × FileSystem :=
  let id := fs.nodes.length
  let grown := { fs with nodes := fs.nodes ++ [node] }
  ((name, id) :: parent, grown.updateEntries parent.node (·.insert name id))

/-- Makes the directories along some names, as far as they are missing. A link that leads nowhere
is in the way. -/
def makeDirectories : List Bytes → Place → FileSystem → Option (Place × FileSystem)
  | [], here, fs => some (here, fs)
  | name :: rest, here, fs =>
    match fs.walk false linkLimit [name] here, fs.walk true linkLimit [name] here with
    | .ok (.missing parent name), _ =>
      let (place, grown) := fs.addNode parent name (.directory {} 0o755)
      makeDirectories rest place grown
    | _, .ok (.found place) => makeDirectories rest place fs
    | _, _ => none

/-- Makes a directory and all above it. -/
def makeDirectory (fs : FileSystem) (path : RawPath) : FileSystem :=
  ((makeDirectories (path.components) (fs.start path) fs).map Prod.snd).getD fs

def makeAbove (fs : FileSystem) (path : RawPath) : FileSystem :=
  ((makeDirectories (path.components).dropLast (fs.start path) fs).map Prod.snd).getD fs

/-- Makes a file, or replaces the content and the mode of one that exists. A link at the path leads
on to the file. -/
def putFile (fs : FileSystem) (path : RawPath) (content : Bytes) : FileSystem :=
  let grown := fs.makeAbove path
  let file := FileNode.file content 0o644
  match grown.follow path with
  | .ok (.missing directory name) => (grown.addNode directory name file).2
  | .ok (.found place) =>
    match grown.node? place.node with
    | some (.file _ _) => { grown with nodes := grown.nodes.set place.node file }
    | _ => grown
  | .error _ => grown

/-- Makes a symbolic link where nothing is. -/
def putLink (fs : FileSystem) (path target : RawPath) : FileSystem :=
  let grown := fs.makeAbove path
  match grown.follow path false with
  | .ok (.missing directory name) => (grown.addNode directory name (.link target)).2
  | _ => grown

def changeMode (fs : FileSystem) (path : RawPath) (mode : UInt32) : FileSystem :=
  match fs.resolve path with
  | .error _ => fs
  | .ok found =>
    match fs.node? found.node with
    | some (.file content _) => { fs with nodes := fs.nodes.set found.node (.file content mode) }
    | some (.directory entries _) =>
      { fs with nodes := fs.nodes.set found.node (.directory entries mode) }
    | _ => fs

/-- Takes the name of a file, link or directory out of the tree. -/
def remove (fs : FileSystem) (path : RawPath) : FileSystem :=
  match fs.resolve path false with
  | .ok ((name, _) :: parent) => fs.updateEntries (Place.node parent) (·.erase name)
  | _ => fs

end DaqBus.FileSystem

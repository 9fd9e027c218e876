import DaqBus.Kernel.Scan

/-!
# What a scan looks for

A scan of a device directory is a list of questions to the file system, in the order in which it asks
them: groups that are directories if they are there, identity files that can be read, streams that
can be opened. Each question has its own answer to what is wrong. Which directories are objects, and
so which questions there are, is told by the names in the directories above them.
-/

namespace DaqBus.KernelBus

/-! ### Questions -/

inductive Check
  /-- The path has a canonical one, which leads to a directory. -/
  | root (path : RawPath)
  /-- There is a directory or nothing. -/
  | group (path : RawPath)
  | readable (path : String)
  /-- The type file names the kind. -/
  | typed (path : String) (kind : ObjectKind)
  | stream (path : RawPath) (direction : Direction)

/-- The code for an object of another kind. -/
def refusal : ObjectKind → Errno
  | .channelSet => .notChannelSet
  | .channel => .notChannel
  | _ => .notDevice

def Check.fault (fs : FileSystem) : Check → Option Errno
  | .root path =>
    match fs.canonical path with
    | none => some .noDevice
    | some base => if fs.isDirectory base then none else some .noDevice
  | .group path =>
    match fs.resolve path with
    | .error code => if code = .noEntry then none else some code
    | .ok _ => if fs.isDirectory path then none else some .notDirectory
  | .readable path =>
    match fs.resolve (RawPath.ofText path) with
    | .error code => some code
    | .ok place =>
      match fs.node? place.node with
      | some (.file _ _) => none
      | _ => some .isDirectory
  | .typed path kind =>
    match attributeText fs path with
    | .error code => some code
    | .ok text => if ObjectKind.ofTypeName text = kind then none else some (refusal kind)
  | .stream path direction =>
    match fs.resolve path with
    | .error code => some code
    | .ok _ => if direction = .output ∧ fs.isDirectory path then some .isDirectory else none

def firstFault (fs : FileSystem) (checks : List Check) : Option Errno :=
  checks.findSome? (Check.fault fs)

/-! ### Which questions there are -/

/-- Whether an entry is an object of the kind whose names begin so. -/
def isChild (fs : FileSystem) (base : RawPath) (start : String) (name : Bytes) : Bool :=
  start.toList.isPrefixOf (RawPath.text name).toList && fs.isDirectory (base.join name)

/-- The directories of the objects inside a directory, in order. -/
def children (fs : FileSystem) (base : RawPath) (start : String) : List RawPath :=
  (((fs.names base).toOption.getD []).filter (isChild fs base start)).map base.join

def attributeChecks (base : RawPath) : List Check :=
  [.group (base.entry "standard"), .group (base.entry "extended")]

def identityChecks (base : RawPath) : List Check :=
  attributeChecks base ++
    [.readable (base.entry "name").text, .readable (base.entry "devname").text,
      .readable (base.entry "devtype").text]

def objectChecks (base : RawPath) (kind : ObjectKind) : List Check :=
  identityChecks base ++ [.typed (base.entry "devtype").text kind]

/-- The path of a stream of the channel in a directory. -/
def streamPath (fs : FileSystem) (streamRoot base : RawPath) (role : String) : RawPath :=
  let deviceName := (attributeText fs (base.entry "devname").text).toOption.getD ""
  streamRoot.entry s!"{deviceName}-{role}"

def channelChecks (fs : FileSystem) (streamRoot : RawPath) (direction : Direction) (base : RawPath) :
    List Check :=
  objectChecks base .channel ++ attributeChecks (base.entry "buffer") ++
    [.stream (streamPath fs streamRoot base "data") direction,
      .stream (streamPath fs streamRoot base "ctrl") direction]

def channelSetChecks (fs : FileSystem) (streamRoot base : RawPath) : List Check :=
  objectChecks base .channelSet ++ attributeChecks (base.entry "trigger") ++
    (children fs base "chan").flatMap (channelChecks fs streamRoot (scanDirection fs base))

/-- All questions about the device at a path, which is first freed of links. -/
def deviceChecks (fs : FileSystem) (streamRoot path : RawPath) : List Check :=
  .root path ::
    match fs.canonical path with
    | none => []
    | some base =>
      objectChecks base .device ++
        (children fs base "cset").flatMap (channelSetChecks fs streamRoot)

end DaqBus.KernelBus

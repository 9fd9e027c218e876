import DaqBus.Text.Blank
import DaqBus.Text.Utf8
/-!
Paths as a file system takes them: bytes, which need not be text. A text asks for its UTF-8 bytes,
and a path is shown as text with a replacement for whatever is none.
-/

namespace DaqBus

abbrev RawPath := Bytes

namespace RawPath

def slash : UInt8 := 0x2F

/-- The name of a directory in itself. -/
def here : Bytes := [0x2E]

/-- The name of the directory above. -/
def up : Bytes := [0x2E, 0x2E]

def ofText (s : String) : RawPath :=
  Text.Utf8.encode s

def text (path : RawPath) : String :=
  Text.Utf8.decode path

def isAbsolute (path : RawPath) : Bool :=
  path.head? = some slash

/-- The path seen from a directory; an absolute path stands for itself. -/
def join (base path : RawPath) : RawPath :=
  if isAbsolute path || base = [] then path
  else if base.getLast? = some slash then base ++ path
  else base ++ slash :: path

/-- The path of an entry that has a text for its name. -/
def entry (base : RawPath) (name : String) : RawPath :=
  join base (ofText name)

def last (path : RawPath) : Bytes :=
  (Text.pieces (· == slash) path).getLast?.getD []

/-- The names along a path. A slash at the end asks for a directory, which a final dot stands
for. -/
def components (path : RawPath) : List Bytes :=
  let pieces := Text.pieces (· == slash) path
  let names := pieces.filter (· ≠ [])
  if names ≠ [] && pieces.getLast? = some [] then names ++ [here] else names

end RawPath

end DaqBus

import DaqBus.Text.Blank
/-!
Paths as text: joining them and taking them apart.
-/

namespace DaqBus.Path

def isAbsolute (path : String) : Bool :=
  path.toList.head? = some '/'

/-- The path seen from a directory; an absolute path stands for itself. -/
def join (base path : String) : String :=
  if isAbsolute path || base = "" then path
  else if base.toList.getLast? = some '/' then base ++ path
  else base ++ "/" ++ path

def last (path : String) : String :=
  String.ofList ((Text.pieces (· == '/') path.toList).getLast?.getD [])

/-- The names along a path without those that lead nowhere. A dot counts only in front. -/
def names (path : String) : List String :=
  let named := ((Text.pieces (· == '/') path.toList).filter (· ≠ [])).map String.ofList
  match isAbsolute path, named with
  | false, first :: rest => first :: rest.filter (· ≠ ".")
  | _, _ => named.filter (· ≠ ".")

/-- Whether two paths are the same, however they are written. -/
def same (a b : String) : Bool :=
  isAbsolute a == isAbsolute b && names a == names b

/-- A path as it is seen from a directory, if it is relative or lies in that directory. -/
def seenFrom (base path : String) : String :=
  let along := names path
  if !isAbsolute path then "/".intercalate (along.filter (· ≠ "."))
  else if (names base).isPrefixOf along then "/".intercalate (along.drop (names base).length)
  else path

end DaqBus.Path

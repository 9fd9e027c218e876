import DaqBus.External.Toml.Document
import DaqBus.External.Toml.Scalar
/-!
Reading TOML documents. A text that breaks a rule of the format is refused as a whole.
-/

namespace DaqBus.External.Toml

open Scanner

/-- Values in brackets; a comma may also stand after the last one. -/
def array (item : Scanner Value) : Scanner Value := do
  let spaced : Scanner Value := do
    gap
    let v ← item
    gap
    return v
  char '['
  let items ← maybe (separated1 spaced (char ','))
  if items.isSome then
    let _ ← maybe (char ',')
  gap
  char ']'
  return .list (items.getD [])

def pair (item : Scanner Value) : Scanner ((List String × String) × Value) := do
  let name ← key
  char '='
  spaces
  let v ← item
  return (name, v)

/-- Pairs in braces on one line, none of them for a key that is taken. -/
def inlineTable (item : Scanner Value) : Scanner Value := do
  char '\x7b'
  let spaced := do
    let entry ← pair item
    spaces
    return entry
  let pairs ← maybe (separated1 spaced (char ','))
  spaces
  char '\x7d'
  let entries ← lift ((pairs.getD []).foldlM
    (fun entries ((path, key), v) => Entries.addAt entries path key v) ([] : Entries))
  lift ((entriesToValues? entries).bind Value.ofEntries?)

/-- A value with others nested in it at most so deep. -/
def value : (depth : Nat) → Scanner Value
  | 0 => scalar
  | depth + 1 => do
    match ← peek with
    | some '[' => array (value depth)
    | some '\x7b' => inlineTable (value depth)
    | _ => scalar

/-- A line of a document, and what it does to the tables. -/
def expression (d : Document) : Scanner Document := do
  match ← peek with
  | some '#' =>
    lineEnd
    return d
  | some '\n' | some '\r' =>
    newline
    return d
  | some '[' =>
    let element ← maybe (word "[[")
    if element.isSome then
      let (path, name) ← key
      word "]]"
      lineEnd
      lift (d.beginElement path name)
    else
      char '['
      let (path, name) ← key
      char ']'
      lineEnd
      lift (d.beginTable path name)
  | _ =>
    let ((path, name), v) ← pair (value depthLimit)
    lineEnd
    lift (d.add path name v)

/-- The lines of a document, at most `limit` of them. -/
def expressions : (limit : Nat) → Document → Scanner Document
  | 0, d => pure d
  | limit + 1, d => do
    spaces
    match ← peek with
    | none => return d
    | some _ => expressions limit (← expression d)

/-- The top table of a document as it is written. A byte order mark in front of it is not part of
it. -/
def document? (text : String) : Option Entries := do
  let cs := text.toList
  let body := if cs.head? = some '\uFEFF' then cs.drop 1 else cs
  let d ← whole? (expressions (body.length + 1) {}) body
  d.finish

end DaqBus.External.Toml

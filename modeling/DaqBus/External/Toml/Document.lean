import DaqBus.External.Value
/-!
The tables of a TOML document while it is read. A table knows how it came to be, since what may be
added to it later depends on that.
-/

namespace DaqBus.External.Toml

/-- How a table came to be. -/
inductive TableKind
  /-- It has a header of its own, or is an element of an array of tables. -/
  | headed
  /-- It is only named on the way to the table of some header. -/
  | implied
  /-- It is named in a dotted key. -/
  | dotted
deriving DecidableEq, Repr

inductive Item
  | value (v : Value)
  | table (kind : TableKind) (entries : List (String × Item))
  /-- An array of tables, the latest last. -/
  | tables (elements : List (List (String × Item)))

abbrev Entries := List (String × Item)

namespace Entries

def put (entries : Entries) (key : String) (item : Item) : Entries :=
  entries.filter (fun entry => entry.1 ≠ key) ++ [(key, item)]

/-- Changes the table at a path by `f`, which is also told how that table came to be. Tables that
are missing are made, of the kind `made`; with dotted keys no table with a header is entered. In an
array of tables the path goes on in the latest. -/
def update (made : TableKind) (f : TableKind → Entries → Option Entries) :
    (path : List String) → TableKind → Entries → Option Entries
  | [], kind, entries => f kind entries
  | key :: rest, _, entries =>
    match entries.lookup key with
    | none => do
      let child ← update made f rest made []
      return put entries key (.table made child)
    | some (.value _) => none
    | some (.table kind child) =>
      if made = .dotted && kind = .headed then none
      else do
        let changed ← update made f rest kind child
        return put entries key (.table kind changed)
    | some (.tables elements) => do
      let changed ← update made f rest .headed (← elements.getLast?)
      return put entries key (.tables (elements.dropLast ++ [changed]))

/-- Puts a value under a key that is not taken yet. -/
def add (entries : Entries) (key : String) (v : Value) : Option Entries :=
  if (entries.lookup key).isSome then none else some (entries ++ [(key, .value v)])

/-- Puts a value under a dotted key. The tables on the way must have come from dotted keys. -/
def addAt (entries : Entries) (path : List String) (key : String) (v : Value) : Option Entries :=
  update .dotted (fun kind table => if path = [] || kind = .dotted then table.add key v else none)
    path .headed entries

/-- Changes the table that holds the last part of a header's key. -/
def atHeader (f : Entries → Option Entries) (path : List String) (entries : Entries) :
    Option Entries :=
  update .implied (fun _ => f) path .headed entries

end Entries

mutual

def Item.toValue? : Item → Option Value
  | .value v => some v
  | .table _ entries => (entriesToValues? entries).bind Value.ofEntries?
  | .tables elements => (tablesToValues? elements).map .list

def entriesToValues? : List (String × Item) → Option (List (String × Value))
  | [] => some []
  | (key, item) :: rest => do
    let v ← item.toValue?
    return (key, v) :: (← entriesToValues? rest)

def tablesToValues? : List (List (String × Item)) → Option (List Value)
  | [] => some []
  | entries :: rest => do
    let v ← (entriesToValues? entries).bind Value.ofEntries?
    return v :: (← tablesToValues? rest)

end

/-- A document in reading: what is complete, and the table that is being filled. -/
structure Document where
  root : Entries := []
  /-- The header's key of the table that is being filled, without its last part. -/
  path : List String := []
  /-- The last part of that key; nothing before the first header. -/
  key : Option String := none
  /-- Whether the table is an element of an array. -/
  isElement : Bool := false
  current : Entries := []

namespace Document

/-- The document with the table that was being filled in its place. -/
def finish (d : Document) : Option Entries :=
  match d.key with
  | none => some d.current
  | some key =>
    Entries.atHeader (fun parent =>
      if d.isElement then
        match parent.lookup key with
        | none => some (parent.put key (.tables [d.current]))
        | some (.tables elements) => some (parent.put key (.tables (elements ++ [d.current])))
        | some _ => none
      else some (parent.put key (.table .headed d.current))) d.path d.root

/-- Begins the table of a header. Only a table that has merely been implied so far can get one. -/
def beginTable (d : Document) (path : List String) (key : String) : Option Document := do
  let root ← d.finish
  let parent ← Entries.atHeader some path root
  let taken ← held path parent
  match taken.lookup key with
  | none => return { root := parent, path, key := some key }
  | some (.table .implied entries) =>
    let withoutKey (t : Entries) : Option Entries := some (t.filter fun entry => entry.1 ≠ key)
    let root ← Entries.atHeader withoutKey path parent
    return { root, path, key := some key, current := entries }
  | some _ => none
where
  /-- The entries of the table at a path. -/
  held : List String → Entries → Option Entries
    | [], entries => some entries
    | name :: rest, entries =>
      match entries.lookup name with
      | some (.table _ child) => held rest child
      | some (.tables elements) => elements.getLast?.bind (held rest)
      | _ => none

/-- Begins a new element of an array of tables. -/
def beginElement (d : Document) (path : List String) (key : String) : Option Document := do
  let root ← d.finish
  let free (parent : Entries) : Option Entries :=
    match parent.lookup key with
    | none | some (.tables _) => some parent
    | some _ => none
  let root ← Entries.atHeader free path root
  return { root, path, key := some key, isElement := true }

/-- Puts a value under a dotted key of the table that is being filled. -/
def add (d : Document) (path : List String) (key : String) (v : Value) : Option Document := do
  return { d with current := ← d.current.addAt path key v }

end Document

end DaqBus.External.Toml

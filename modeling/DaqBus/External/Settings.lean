import DaqBus.Config.Load
import DaqBus.External.Environment
import DaqBus.External.Toml.Parser
/-!
The library with which settings are loaded here: TOML documents, environment variables and the
dictionaries between them, and what it says when a value does not fit.
-/

namespace DaqBus.External

open Config

inductive Expected
  | number
  | text
  | path
  | record (name : String)
deriving DecidableEq, Repr

def Expected.description : Expected → String
  | number => "u64"
  | text => "a string"
  | path => "path string"
  | record name => "struct " ++ name

/-- Why a value cannot be what a setting needs. -/
inductive Misfit
  | wrongType (found : Value) (expected : Expected)
  /-- A number below zero. -/
  | belowZero (n : Int)

def Misfit.text : Misfit → String
  | wrongType found expected =>
    s!"invalid type: found {found.description}, expected {expected.description}"
  | belowZero n =>
    s!"invalid value {(Value.signed n).description}, expected {Expected.number.description}"

inductive Failure
  /-- The file is not in its format. -/
  | malformed
  /-- A misfit at a path of keys. In a list, the key is the position. -/
  | misfit (path : List String) (cause : Misfit)

def Failure.path : Failure → List String
  | malformed => []
  | misfit path _ => path

def Failure.under (key : String) : Failure → Failure
  | malformed => malformed
  | misfit path cause => misfit (key :: path) cause

/-! ### Reading -/

namespace Value

def wrongType {α : Type} (found : Value) (expected : Expected) : Except Failure α :=
  .error (.misfit [] (.wrongType found expected))

def entries? : Value → Option (List (String × Value))
  | .dict entries => some entries
  | _ => none

def toNumber : Value → Except Failure UInt64
  | .unsigned n => .ok (UInt64.ofNat n)
  | .signed n => if 0 ≤ n then .ok (UInt64.ofNat n.toNat) else .error (.misfit [] (.belowZero n))
  | other => other.wrongType .number

def toOptionalNumber : Value → Except Failure (Option UInt64)
  | .empty => .ok none
  | other => some <$> other.toNumber

def toText (expected : Expected) : Value → Except Failure String
  | .text s => .ok s
  | other => other.wrongType expected

def ofNumber (n : UInt64) : Value := .unsigned n.toNat

end Value

/-- A field whose value may be missing; the key is the one that a failure tells. -/
def readField {α : Type} (field : Field Value Failure α) (key : String) :
    Option Value → Except Failure α
  | none => .ok field.byDefault
  | some value => (field.read value).mapError (Failure.under key)

/-- Reads all fields by their keys, and collects the failures. -/
def readByKey (entries : List (String × Value)) {τ : Type} :
    Fields Value Failure τ → Except (List (String × Failure)) τ
  | .last field => (readField field field.key (entries.lookup field.key)).mapError fun failure =>
      [(field.key, failure)]
  | .more field rest =>
    match readField field field.key (entries.lookup field.key), readByKey entries rest with
    | .ok a, .ok b => .ok (a, b)
    | .ok _, .error failures => .error failures
    | .error failure, .ok _ => .error [(field.key, failure)]
    | .error failure, .error failures => .error ((field.key, failure) :: failures)

/-- A dictionary is read in the order of its keys, so the failure at the least key is told. -/
def firstFailure : List (String × Failure) → Failure
  | [] => .malformed
  | first :: rest =>
    (rest.foldl (fun least other => if other.1 < least.1 then other else least) first).2

def readByPosition (items : List Value) {τ : Type} : Nat → Fields Value Failure τ → Except Failure τ
  | position, .last field => readField field (toString position) items[position]?
  | position, .more field rest => do
    let a ← readField field (toString position) items[position]?
    let b ← readByPosition items (position + 1) rest
    return (a, b)

def readRecord {τ : Type} (name : String) (fields : Fields Value Failure τ) :
    Value → Except Failure τ
  | .dict entries => (readByKey entries fields).mapError firstFailure
  | .list items => readByPosition items 0 fields
  | other => other.wrongType (.record name)

def writeFields {τ : Type} : Fields Value Failure τ → τ → List (String × Value)
  | .last field, a => [(field.key, field.write a)]
  | .more field rest, (a, b) => (field.key, field.write a) :: writeFields rest b

/-! ### The library -/

namespace Toml

/-- A document that is read, or a part of one. Reserved keys have no meaning in the top table. -/
inductive Node
  | top (entries : Entries)
  | inner (item : Item)

/-- The top table of a document whose reserved keys are in order. -/
def parse? (text : String) : Option Node := do
  let entries ← document? text
  let _ ← entriesToValues? entries
  return .top entries

def Node.table? : Node → Option (List (String × Node))
  | .top entries => some (entries.map fun (key, item) => (key, .inner item))
  | .inner (.table _ entries) => some (entries.map fun (key, item) => (key, .inner item))
  | .inner (.value (.dict items)) =>
    some (items.map fun (key, value) => (key, .inner (.value value)))
  | .inner _ => none

def Node.toValue : Node → Value
  | .top entries => .dict ((entriesToValues? entries).getD [])
  | .inner item => item.toValue?.getD .empty

end Toml

def library : Library Value Failure Toml.Node where
  entries? := Value.entries?
  empty := .dict []
  single key value := .dict [(key, value)]
  merge := Value.merge
  path := ⟨Value.toText .path, .text⟩
  text := ⟨Value.toText .text, .text⟩
  number := ⟨Value.toNumber, Value.ofNumber⟩
  optionalNumber := ⟨Value.toOptionalNumber, fun n => n.elim .empty Value.ofNumber⟩
  readRecord := readRecord
  writeRecord fields r := .dict (writeFields fields r)
  parse text := (Toml.parse? text).elim (.error .malformed) .ok
  table? := Toml.Node.table?
  ofDocument := Toml.Node.toValue
  keys? := Environment.path?
  ofVariable := Environment.read
  ofEnvironment := Environment.ofVariables

/-! ### Messages -/

inductive Origin
  | file
  | environment
deriving DecidableEq, Repr

namespace Origin

/-- A path of keys as it is written at its origin. -/
def key : Origin → List String → String
  | file, path => ".".intercalate ("default" :: path)
  | environment, path => ".".intercalate (path.map String.toUpper)

def name (filePath : String) : Origin → String
  | file => filePath ++ " TOML file"
  | environment => s!"\x60{nameStart}\x60 environment variable(s)"

/-- What stands at a path of keys, if all on the way are dictionaries. -/
def valueAt : Value → List String → Option Value
  | value, [] => some value
  | value, key :: rest =>
    ((value.entries?.getD []).lookup key).bind fun inner => valueAt inner rest

/-- The layer that gave what stands at a path. What stands in a list comes from where the list
does. -/
def ofPath (environment : Value) (path : List String) : Origin :=
  let isList : Option Value → Bool
    | some (.list _) => true
    | _ => false
  if (valueAt environment path).isSome || isList (valueAt environment path.dropLast) then
    .environment
  else .file

end Origin

/-- What is said about a failure, given the path of the file and the variables. -/
def Failure.message (filePath : String) (environment : List (String × String)) : Failure → String
  | malformed => loadMessage s!"malformed document in {Origin.file.name filePath}"
  | misfit path cause =>
    let origin := Origin.ofPath (Environment.ofVariables nameStart keyMark environment) path
    let key := Text.quoted (origin.key path)
    loadMessage s!"{cause.text} for key {key} in {origin.name filePath}"

end DaqBus.External

import DaqBus.External.Binary64
import DaqBus.Text.Quoted
/-!
Configuration values as a file or the environment spells them, before it is known which setting they
are for. This and all that builds on it stands in for a library, so that settings can be loaded.
-/

namespace DaqBus.External

inductive Value
  /-- What is written for a missing option. -/
  | empty
  | boolean (b : Bool)
  | unsigned (n : Nat)
  | signed (n : Int)
  | float (x : Binary64)
  | text (s : String)
  | list (items : List Value)
  | dict (entries : List (String × Value))

def Value.description : Value → String
  | .empty => "Option value"
  | .boolean b => s!"bool {b}"
  | .unsigned n => s!"unsigned int \x60{n}\x60"
  | .signed n => s!"signed int \x60{n}\x60"
  | .float x => "float \x60" ++ x.text ++ "\x60"
  | .text s => "string " ++ Text.quoted s
  | .list _ => "sequence"
  | .dict _ => "map"

mutual

/-- A value under the one that a later source gives. Two dictionaries are merged, anything else
gives way to the later value. -/
def Value.merge : Value → Value → Value
  | .dict earlier, .dict later => .dict (mergeEntries earlier later)
  | _, later => later

/-- The entries of two dictionaries, those under one key merged. -/
def mergeEntries : List (String × Value) → List (String × Value) → List (String × Value)
  | [], later => later
  | (key, value) :: earlier, later =>
    match later.lookup key with
    | none => (key, value) :: mergeEntries earlier later
    | some other =>
      (key, value.merge other) :: mergeEntries earlier (later.filter fun entry => entry.1 ≠ key)

end

/-- The key under which a dictionary in a file can hold the value that is meant by it. -/
def valueKey : String := "___figment_value_value"

/-- The key under which a dictionary in a file can hold the number of an origin, which is not
used. -/
def originKey : String := "___figment_value_id"

/-- The value that a dictionary in a file stands for. The number of an origin must be an integer. -/
def Value.ofEntries? (entries : List (String × Value)) : Option Value :=
  let value := (entries.lookup valueKey).getD
    (.dict (entries.filter fun entry => entry.1 ≠ originKey))
  match entries.lookup originKey with
  | none | some (.signed _) => some value
  | some _ => none

end DaqBus.External

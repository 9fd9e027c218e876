/-!
What loading settings takes from a library: values with dictionaries among them, records that are read and
written field by field, and providers that make dictionaries of a document and of environment variables.
-/

namespace DaqBus.Config

/-- How something is read from a value and written as one. -/
structure Codec (Value Error α : Type) where
  read : Value → Except Error α
  write : α → Value

def Codec.imap {Value Error α β : Type} (codec : Codec Value Error α) (into : α → β) (back : β → α) :
    Codec Value Error β where
  read value := into <$> codec.read value
  write b := codec.write (back b)

/-- A field of a record. -/
structure Field (Value Error α : Type) extends Codec Value Error α where
  key : String
  /-- What the field is if there is no value for it. -/
  byDefault : α

def Codec.field {Value Error α : Type} (codec : Codec Value Error α) (key : String) (byDefault : α) :
    Field Value Error α :=
  { codec with key, byDefault }

/-- The fields of a record, one after the other. -/
inductive Fields (Value Error : Type) : Type → Type 1
  | last {α : Type} (field : Field Value Error α) : Fields Value Error α
  | more {α β : Type} (field : Field Value Error α) (rest : Fields Value Error β) :
    Fields Value Error (α × β)

structure Library (Value Error Document : Type) where
  /-- The entries of a value that is a dictionary. -/
  entries? : Value → Option (List (String × Value))
  empty : Value
  /-- The dictionary with one entry. -/
  single : String → Value → Value
  /-- A dictionary under a later one. -/
  merge : Value → Value → Value
  path : Codec Value Error String
  text : Codec Value Error String
  number : Codec Value Error UInt64
  optionalNumber : Codec Value Error (Option UInt64)
  readRecord {τ : Type} : (name : String) → Fields Value Error τ → Value → Except Error τ
  writeRecord {τ : Type} : Fields Value Error τ → τ → Value
  parse : String → Except Error Document
  /-- The entries of what is a table in a document. -/
  table? : Document → Option (List (String × Document))
  ofDocument : Document → Value
  /-- The keys in the name of a variable: what follows the start, split at the mark. -/
  keys? : (start mark name : String) → Option (List String)
  ofVariable : String → Value
  /-- The dictionary of all variables whose names begin so. -/
  ofEnvironment : (start mark : String) → List (String × String) → Value

namespace Library

variable {Value Error Document : Type} (lib : Library Value Error Document)

def record {τ : Type} (name : String) (fields : Fields Value Error τ) : Codec Value Error τ where
  read := lib.readRecord name fields
  write := lib.writeRecord fields

/-- A value inside dictionaries under a path of keys. -/
def nest (path : List String) (value : Value) : Value :=
  path.foldr lib.single value

end Library

end DaqBus.Config

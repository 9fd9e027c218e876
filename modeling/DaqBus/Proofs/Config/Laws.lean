import DaqBus.Config.Load

/-!
# What a library of settings promises

Settings are loaded with a library that is not part of this project. What is relied on is said here: that
later dictionaries are merged over earlier ones down to the single keys, that a record is read field by
field with the defaults of the fields that are missing, that a document keeps its tables, and that a
variable named for a setting is one dictionary in another, under the keys in its name.
-/

namespace DaqBus.Config

variable {Value Error Document α : Type}

/-! ### Settings -/

/-- All settings, by section and key. -/
def settingKeys : List (String × String) := [
  ("paths", "sys_root"), ("paths", "dev_root"),
  ("logging", "level"), ("logging", "format"),
  ("acquisition", "max_sweeps"), ("acquisition", "idle_backoff_ms")]

def settingPaths : List (List String) := settingKeys.map fun entry => [entry.1, entry.2]

/-- The name of the variable for a path, in lower case. -/
def lowerName (path : List String) : List Char :=
  nameStart.toList.map Char.toLower ++ (keyMark.intercalate path).toList

/-- A variable's name is, in whatever case, that of the variable for a path. -/
def IsNameOf (path : List String) (name : String) : Prop :=
  name.toList.map Char.toLower = lowerName path

instance (path : List String) (name : String) : Decidable (IsNameOf path name) :=
  inferInstanceAs (Decidable (_ = _))

/-! ### Fields -/

/-- Something is read from its value. If there is none, it is what it is by default. -/
def Codec.Takes (codec : Codec Value Error α) (byDefault : α) : Option Value → α → Prop
  | none, a => a = byDefault
  | some value, a => codec.read value = .ok a

instance [DecidableEq α] (codec : Codec Value Error α) (byDefault : α) :
    (given : Option Value) → (a : α) → Decidable (codec.Takes byDefault given a)
  | none, _ => decEq _ _
  | some value, a =>
    decidable_of_iff ((codec.read value).toOption = some a) <| by
      show _ ↔ codec.read value = .ok a
      cases codec.read value <;> simp [Except.toOption]

def Field.Takes (field : Field Value Error α) : Option Value → α → Prop :=
  field.toCodec.Takes field.byDefault

namespace Fields

/-- Each field is read from the value under its own key. -/
def Takes {τ : Type} : Fields Value Error τ → (String → Option Value) → τ → Prop
  | .last field, given, a => field.Takes (given field.key) a
  | .more field rest, given, (a, b) => field.Takes (given field.key) a ∧ rest.Takes given b

/-- What is written under a key. -/
def written? {τ : Type} : Fields Value Error τ → τ → String → Option Value
  | .last field, a, key => if key = field.key then some (field.write a) else none
  | .more field rest, (a, b), key =>
    if key = field.key then some (field.write a) else rest.written? b key

end Fields

/-! ### Dictionaries -/

/-- What stands at a path of keys, if all on the way have entries. -/
def lookupAt (entries? : α → Option (List (String × α))) : α → List String → Option α
  | value, [] => some value
  | value, key :: rest =>
    ((entries? value).bind fun entries => entries.lookup key).bind fun inner =>
      lookupAt entries? inner rest

namespace Library

variable (lib : Library Value Error Document)

def at? : Value → List String → Option Value := lookupAt lib.entries?

def IsDict (value : Value) : Prop := (lib.entries? value).isSome

/-- What a later layer makes of an earlier one in one place. -/
def joined : Option Value → Option Value → Option Value
  | some earlier, some later => some (lib.merge earlier later)
  | some earlier, none => some earlier
  | none, later => later

/-- A codec of values that are no dictionaries. -/
structure IsScalar (codec : Codec Value Error α) : Prop where
  read_write (a : α) : codec.read (codec.write a) = .ok a
  not_isDict_write (a : α) : ¬ lib.IsDict (codec.write a)
  read_dict {value : Value} (hdict : lib.IsDict value) (a : α) : codec.read value ≠ .ok a

/-- A variable adds a dictionary to those of the variables before it, if the library takes it. -/
def addVariable (start mark : String) (earlier : Value) (named : String × String) : Value :=
  match lib.keys? start mark named.1 with
  | some path => lib.merge earlier (lib.nest path (lib.ofVariable named.2))
  | none => earlier

structure IsLawful : Prop where
  entries?_empty : lib.entries? lib.empty = some []
  entries?_single (key : String) (value : Value) :
    lib.entries? (lib.single key value) = some [(key, value)]
  /-- A merge of dictionaries is deep: what stands under one key in both is merged again. -/
  merge_dict {earlier later : Value} {first second : List (String × Value)}
    (hfirst : lib.entries? earlier = some first) (hsecond : lib.entries? later = some second) :
    ∃ entries, lib.entries? (lib.merge earlier later) = some entries ∧
      ∀ key, entries.lookup key = lib.joined (first.lookup key) (second.lookup key)
  /-- Anything else gives way to the later value. -/
  merge_other {earlier later : Value} (h : ¬ (lib.IsDict earlier ∧ lib.IsDict later)) :
    lib.merge earlier later = later
  path : lib.IsScalar lib.path
  text : lib.IsScalar lib.text
  number : lib.IsScalar lib.number
  optionalNumber : lib.IsScalar lib.optionalNumber
  /-- A dictionary is read field by field; keys that are no fields are passed over. -/
  readRecord {τ : Type} {value : Value} {entries : List (String × Value)}
    (hentries : lib.entries? value = some entries) (name : String) (fields : Fields Value Error τ)
    (r : τ) : lib.readRecord name fields value = .ok r ↔
      fields.Takes (fun key => entries.lookup key) r
  writeRecord {τ : Type} (fields : Fields Value Error τ) (r : τ) :
    ∃ entries, lib.entries? (lib.writeRecord fields r) = some entries ∧
      ∀ key, entries.lookup key = fields.written? r key
  /-- A document is a table. -/
  table?_of_parse {text : String} {document : Document} (hparse : lib.parse text = .ok document) :
    (lib.table? document).isSome
  /-- The start is stripped from a name, the rest is put in lower case and split at the mark. -/
  keys?_of_isNameOf {path : List String} (hpath : path ∈ settingPaths) {name : String}
    (hname : IsNameOf path name) : lib.keys? nameStart keyMark name = some path
  ofEnvironment (start mark : String) (environment : List (String × String)) :
    lib.ofEnvironment start mark environment = environment.foldl (lib.addVariable start mark) lib.empty

/-! ### Documents -/

/-- A table becomes a dictionary with the same keys, and under each key stands what the table has
there. -/
def KeepsTable (table : Document) : Prop :=
  ∀ entries, lib.table? table = some entries →
    ∃ items, lib.entries? (lib.ofDocument table) = some items ∧
      ∀ key, items.lookup key = (entries.lookup key).map lib.ofDocument

/-- A document keeps its sections: no key in them has a meaning of its own to the library. -/
structure Keeps (document : Document) : Prop where
  top : lib.KeepsTable document
  sections : ∀ part ∈ ["paths", "logging", "acquisition"],
    ∀ table ∈ lookupAt lib.table? document [part], lib.KeepsTable table

/-- Every section that is in a document is a table. -/
def HasTables (document : Document) : Prop :=
  ∀ part ∈ ["paths", "logging", "acquisition"],
    ∀ table ∈ lookupAt lib.table? document [part], (lib.table? table).isSome

instance (document : Document) : Decidable (lib.HasTables document) :=
  inferInstanceAs (Decidable (∀ _ ∈ _, ∀ _ ∈ _, _))

end Library

end DaqBus.Config

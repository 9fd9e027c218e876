import DaqBus.External.Pattern.Expression
import DaqBus.Logging.Layer
import DaqBus.Text.Utf8
/-!
Filters that say what is printed. A filter is a list of rules with commas between them; a rule is
for everything, for what has some field, or for some place or span only. They stand in for those of a
library, so that logs can be tried out.
-/

namespace DaqBus.External

/-- The least severe level that is printed, or nothing if none is. -/
abbrev Threshold := Option Level

def Threshold.allows (threshold : Threshold) (level : Level) : Bool :=
  threshold.any fun least => least.rank ≤ level.rank

/-- A filter on what comes from no special place. -/
structure LogFilter where
  /-- The rules for events with a certain field, the last field in order first. -/
  fields : List (String × Threshold) := []
  /-- The rule for everything else. -/
  general : Threshold := none
deriving DecidableEq, Repr

namespace LogFilter

/-- The threshold for an event with some fields. -/
def forEvent (filter : LogFilter) (fields : List String) : Threshold :=
  ((filter.fields.find? fun rule => fields.contains rule.1).map Prod.snd).getD filter.general

/-- The threshold for a span. The fields of a span may be given later, so the first rule for any
field counts. -/
def forSpan (filter : LogFilter) : Threshold :=
  (filter.fields.head?.map Prod.snd).getD filter.general

/-- The threshold of a level, by its name or its number. -/
def threshold? (s : String) : Option Threshold :=
  match Text.decimalBelow? 6 s.toList, Text.lower s with
  | some 0, _ | none, "off" => some none
  | some 1, _ => some (some .error)
  | some 2, _ => some (some .warn)
  | some 3, _ => some (some .info)
  | some 4, _ => some (some .debug)
  | some _, _ => some (some .trace)
  | none, name => (Level.ofName? name).map some

inductive Rule
  | everywhere (threshold : Threshold)
  /-- For what has a field. -/
  | withField (name : String) (threshold : Threshold)
  /-- For one place or span, or for a field with some value. -/
  | elsewhere
deriving DecidableEq, Repr

/-- Puts a rule for a field in its place, instead of an earlier one for the same field. -/
def insert (name : String) (threshold : Threshold) :
    List (String × Threshold) → List (String × Threshold)
  | [] => [(name, threshold)]
  | rule :: rest =>
    if rule.1 = name then (name, threshold) :: rest
    else if rule.1 < name then (name, threshold) :: rule :: rest
    else rule :: insert name threshold rest

def add (filter : LogFilter) : Rule → LogFilter
  | .everywhere threshold => { filter with general := threshold }
  | .withField name threshold => { filter with fields := insert name threshold filter.fields }
  | .elsewhere => filter

/-- What the rule read so far is about. -/
inductive Scope
  | everything
  | field (name : String)
  | other
deriving DecidableEq, Repr

/-- How far a rule has been read. Numbers are the offsets of the bytes where something begins. -/
inductive Reading
  | start
  /-- In the first word, a level or the name of a place. -/
  | first
  | span (isPlaced : Bool) (begun : Nat)
  /-- In the test of a field; whether a place or a span is named before it. -/
  | test (isNarrow : Bool) (begun : Nat)
  | tested (scope : Scope)
  | scoped (scope : Scope)
  | level (scope : Scope) (begun : Nat)
deriving DecidableEq, Repr

/-- A number with a plus sign, which cannot be a pattern. -/
def plusNumber : Scanner Unit := do
  Scanner.char '+'
  Scanner.orElse named decimal
where
  named : Scanner Unit := do
    let name ← Scanner.takeWhile1 Char.isAlpha
    if Text.lower (String.ofList name) ∉ ["inf", "infinity", "nan"] then Scanner.fail
  decimal : Scanner Unit := do
    let whole ← Scanner.takeWhile Char.isDigit
    let places ← Scanner.maybe do
      Scanner.char '.'
      Scanner.takeWhile Char.isDigit
    if whole = [] && places.getD [] = [] then Scanner.fail
    let _ ← Scanner.maybe do
      let _ ← Scanner.satisfy fun c => c = 'e' || c = 'E'
      let _ ← Scanner.sign
      Scanner.takeWhile1 Char.isDigit

/-- What the test of a field is about: a field by its name, or by a value too, which is a number or
a pattern. -/
def tested? (cs : List Char) : Option Scope :=
  match Text.pieces (· == '=') cs with
  | _ :: value :: _ =>
    if (Scanner.whole? plusNumber value).isSome || Pattern.accepts value then some .other else none
  | _ => if cs = [] then none else some (.field (String.ofList cs))

def isFirst (c : Char) : Bool :=
  c = '-' || c = ':' || c = '_' || Text.isAlphanumeric c

/-- Reads the character at an offset of a rule; `slice` gives the text between two offsets. -/
def Reading.step (slice : Nat → Nat → List Char) (offset : Nat) (c : Char) :
    Reading → Option Reading
  | .start =>
    if c = '[' then some (.span false (offset + 1))
    else if isFirst c then some .first
    else none
  | .first =>
    some (if c = '=' then .level .other (offset + 1)
      else if c = '[' then .span true (offset + 1)
      else .first)
  | .span isPlaced begun =>
    some (if c = ']' then .scoped .other
      else if c = '\x7b' then .test (isPlaced || begun < offset) (offset + 1)
      else .span isPlaced begun)
  | .test isNarrow begun =>
    if c ≠ '\x7d' then some (.test isNarrow begun)
    else (tested? (slice begun offset)).map fun scope =>
      .tested (if isNarrow then .other else scope)
  | .tested scope => if c = ']' then some (.scoped scope) else none
  | .scoped scope => if c = '=' then some (.level scope (offset + 1)) else none
  | .level scope begun => some (.level scope begun)

def Reading.steps (slice : Nat → Nat → List Char) : Nat → List Char → Reading → Option Reading
  | _, [], reading => some reading
  | offset, c :: cs, reading => do
    let next ← reading.step slice offset c
    next.steps slice (offset + c.utf8Size) cs

def Scope.rule (threshold : Threshold) : Scope → Rule
  | everything => .everywhere threshold
  | field name => .withField name threshold
  | other => .elsewhere

/-- The rule with a text. What is no level is the name of a place. A rule without a level allows
everything. Blanks around the text are passed over, but the offsets that are found count from its
very start. -/
def rule? (cs : List Char) : Option Rule := do
  let bytes := Text.Utf8.encode (String.ofList cs)
  let slice (start stop : Nat) : List Char :=
    Text.Utf8.decodeChars ((bytes.drop start).take (stop - start))
  match ← Reading.start.steps slice 0 (Text.trimChars cs) with
  | .first => return ((threshold? (String.ofList cs)).elim .elsewhere .everywhere)
  | .level scope begun =>
    let level := slice begun bytes.length
    let threshold ← if level = [] then some (some .trace) else threshold? (String.ofList level)
    return scope.rule threshold
  | .scoped scope => return scope.rule (some .trace)
  | _ => none

def pieces (s : String) : List (List Char) :=
  (Text.pieces (· == ',') s.toList).filter (· ≠ [])

/-- The filter with a text, unless one of its rules is faulty. Between two commas there may be
nothing. A later rule takes the place of an earlier one of its kind. -/
def ofText? (s : String) : Option LogFilter := do
  let rules ← (pieces s).mapM rule?
  return rules.foldl add {}

/-- The filter with a text, without its faulty rules. -/
def ofText (s : String) : LogFilter :=
  ((pieces s).filterMap rule?).foldl add {}

end LogFilter

def logFilters : LogFilters LogFilter := ⟨LogFilter.ofText?, LogFilter.ofText⟩

end DaqBus.External

import DaqBus.External.Pattern.Escape
/-!
The sets of a regular expression: characters in brackets.
-/

namespace DaqBus.External.Pattern

open Scanner

/-- What has to be known of a set, or of a part of one. -/
structure CharSet where
  /-- How deep brackets and operations are nested. -/
  height : Nat := 0
  /-- Whether it names characters, and not only brackets and operations. -/
  isNaming : Bool := false
  /-- Whether the bytes beyond ASCII belong to it. -/
  isHigh : Bool := false
deriving DecidableEq, Repr

inductive SetOperation
  | intersection
  | difference
  | symmetricDifference
deriving DecidableEq, Repr

namespace SetOperation

def sign : SetOperation → String
  | intersection => "&&"
  | difference => "--"
  | symmetricDifference => "~~"

def all : List SetOperation := [intersection, difference, symmetricDifference]

/-- Whether something belongs to the result, by whether it belongs to the two sets. -/
def holds : SetOperation → Bool → Bool → Bool
  | intersection, a, b => a && b
  | difference, a, b => a && !b
  | symmetricDifference, a, b => a != b

end SetOperation

namespace CharSet

/-- A set that names ASCII characters only. -/
def plain : CharSet := { isNaming := true }

def union : List CharSet → CharSet
  | [] => {}
  | [part] => part
  | parts =>
    { height := (parts.map height).foldl max 0 + 1
      isNaming := parts.any isNaming
      isHigh := parts.any isHigh }

/-- The right set, joined with what stands to its left, if anything does. -/
def operate (left : Option (CharSet × SetOperation)) (right : CharSet) : CharSet :=
  match left with
  | none => right
  | some (left, operation) =>
    { height := max left.height right.height + 1
      isNaming := left.isNaming || right.isNaming
      isHigh := operation.holds left.isHigh right.isHigh }

/-- A set in brackets. Letter case cannot be ignored without a table of all characters, and bytes
beyond ASCII are no text. -/
def bracketed? (s : Switches) (negated : Bool) (inner : CharSet) : Option CharSet :=
  let isHigh := inner.isHigh != negated
  if s.wide && s.anyCase && inner.isNaming || !s.wide && isHigh then none
  else some { height := inner.height + 1, isNaming := inner.isNaming, isHigh }

def names : List String :=
  ["alnum", "alpha", "ascii", "blank", "cntrl", "digit", "graph", "lower", "print", "punct",
    "space", "upper", "word", "xdigit"]

/-- A set by its name, with a sign of negation or without. -/
def named : Scanner CharSet := do
  word "[:"
  let negated ← maybe (char '^')
  let name ← takeWhile (· ≠ ':')
  word ":]"
  if String.ofList name ∈ names then return { isNaming := true, isHigh := negated.isSome }
  else fail

/-- A character of a set, or nothing for a class in it. Where bytes are meant all are ASCII; classes
are faulty where they need a table of all characters or hold bytes beyond ASCII. -/
def member (s : Switches) : Scanner (Option Char) := do
  let isIn (c : Char) : Bool := s.wide || c ≤ '\x7f'
  match ← satisfy fun _ => true with
  | '\\' =>
    match ← Escape.scan s with
    | .char c _ => if isIn c then return some c else fail
    | .named negated => if s.wide || negated then fail else return none
    | .bound | .wordBound => fail
  | c => if isIn c then return some c else fail

/-- A character or class of a set, or all characters from one to another that is not below it. -/
def range (s : Switches) : Scanner CharSet := do
  let first ← member s
  blanks s
  match ← fun cs => some (cs, cs) with
  | '-' :: rest =>
    if glimpse s rest = some ']' || glimpse s rest = some '-' then return plain
    char '-'
    blanks s
    match first, ← member s with
    | some first, some last => if first ≤ last then return plain else fail
    | _, _ => fail
  | _ => return plain

/-- The start of a set: whether it is negated, and the hyphens or the closing bracket that belong to
it because they stand in front. -/
def opening (s : Switches) : Scanner (Bool × List CharSet) := do
  char '['
  blanks s
  let negated ← maybe do
    char '^'
    blanks s
  let hyphens ← many do
    char '-'
    blanks s
  if hyphens ≠ [] then return (negated.isSome, hyphens.map fun _ => plain)
  let bracket ← maybe do
    char ']'
    blanks s
  return (negated.isSome, bracket.toList.map fun _ => plain)

def operation : Scanner SetOperation := fun cs =>
  SetOperation.all.findSome? fun operation => (do word operation.sign; return operation) cs

/-- The rest of a set of at most so many parts, after the parts that are read and what stands to
their left. -/
def rest (s : Switches) :
    (limit : Nat) → Option (CharSet × SetOperation) → List CharSet → Scanner CharSet
  | 0, _, _ => fail
  | limit + 1, left, parts => do
    blanks s
    match ← maybe named with
    | some part => rest s limit left (part :: parts)
    | none =>
      match ← peek with
      | some '[' =>
        let (negated, front) ← opening s
        let inner ← rest s limit none front
        let part ← StateT.lift (bracketed? s negated inner)
        rest s limit left (part :: parts)
      | some ']' =>
        char ']'
        return operate left (union parts)
      | _ =>
        match ← maybe operation with
        | some operation => rest s limit (some (operate left (union parts), operation)) []
        | none => rest s limit left ((← range s) :: parts)

def scan (s : Switches) : Scanner CharSet := do
  let (negated, front) ← opening s
  let inner ← fun cs => rest s (cs.length + 1) none front cs
  StateT.lift (bracketed? s negated inner)

end CharSet

end DaqBus.External.Pattern

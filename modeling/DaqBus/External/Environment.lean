import DaqBus.External.Value
import DaqBus.Text.Blank
import DaqBus.Text.Literal
import DaqBus.Text.Utf8
/-!
Configuration values in environment variables. A variable's name says which setting it is for, its
text follows a small grammar in which everything that is nothing else is plain text.
-/

namespace DaqBus.External.Environment

open Scanner

def isSpace (c : Char) : Bool :=
  c = ' ' || c = '\t' || c = '\n' || c = '\x0c' || c = '\r'

def spaces : Scanner Unit := do
  let _ ← takeWhile isSpace

/-- Characters of plain text, and of numbers. -/
def isBare (c : Char) : Bool :=
  c ≠ ',' && c ≠ '\x7b' && c ≠ '\x7d' && c ≠ '[' && c ≠ ']'

/-- The digits before and after a point, either of which may be missing, and a power of ten. -/
def pointNumber : Scanner Binary64 := do
  let negative ← sign
  let whole ← takeWhile Char.isDigit
  char '.'
  let places ← takeWhile Char.isDigit
  if whole = [] && places = [] then fail
  let power ← maybe do
    let _ ← satisfy fun c => c = 'e' || c = 'E'
    let below ← sign
    let digits ← takeWhile1 Char.isDigit
    let n : Int := ((Text.digitsValue? digits).getD 0 : Nat)
    return if below then -n else n
  let digits := (Text.digitsValue? (whole ++ places)).getD 0
  return Binary64.ofDecimal negative digits (power.getD 0 - places.length)

/-- A whole number below zero, with its sign, that fits in 64 bits. -/
def negative? : List Char → Option Int
  | '-' :: digits =>
    if digits = [] then none
    else ((Text.digitsValue? digits).filter (· ≤ UInt64.size / 2)).map fun n => -(n : Int)
  | _ => none

def bareValue (cs : List Char) : Value :=
  let cs := Text.trimChars cs
  match whole? pointNumber cs, Text.decimalBelow? UInt64.size cs, negative? cs with
  | some x, _, _ => .float x
  | none, some n, _ => .unsigned n
  | none, none, some n => .signed n
  | none, none, none => .text (String.ofList cs)

/-- Items up to a closing bracket, with commas between them. A comma after the last one is
allowed. -/
def items {α : Type} (finish : Char) (item : Scanner α) : (limit : Nat) → Scanner (List α)
  | 0 => fail
  | limit + 1 =>
    orElse (do char finish; return []) (do
      let a ← item
      orElse (do char ','; return a :: (← items finish item limit)) (do char finish; return [a]))

def bracketed {α : Type} (start finish : Char) (item : Scanner α) : Scanner (List α) := do
  char start
  fun cs => items finish item (cs.length + 1) cs

/-- As many bytes of a text as it has characters. -/
def cut (cs : List Char) : List Char :=
  Text.Utf8.decodeChars ((Text.Utf8.encode (String.ofList cs)).take cs.length)

/-- Text between double quotes. What is before the first escape is measured in characters but kept
in bytes, so that its end is lost when it is not ASCII. -/
def quoted : Scanner String := do
  char '"'
  let plain ← takeWhile Text.isBasic
  let pieces ← many (orElse (takeWhile1 Text.isBasic) Text.escape)
  char '"'
  return String.ofList (if pieces = [] then plain else cut plain ++ pieces.flatten)

def key : Scanner String := do
  match ← peek with
  | some '"' => quoted
  | _ =>
    let isPlain (c : Char) : Bool := c.isAlphanum || c = '_' || c = '-'
    return String.ofList (← takeWhile1 isPlain)

def pair (value : Scanner Value) : Scanner (String × Value) := do
  spaces
  let k ← key
  spaces
  char '='
  spaces
  let v ← value
  spaces
  return (k, v)

/-- The entries of a dictionary. Of two under one key the later counts. -/
def entries : List (String × Value) → List (String × Value)
  | [] => []
  | (k, v) :: rest => if (rest.lookup k).isSome then entries rest else (k, v) :: entries rest

/-- A value that is no truth value; `inner` reads the values that are nested in it. -/
def nonBoolean (inner : Scanner Value) : Scanner Value := do
  match ← peek with
  | some '\x7b' =>
    let pairs ← bracketed '\x7b' '\x7d' (pair inner)
    return .dict (entries pairs)
  | some '[' => return .list (← bracketed '[' ']' inner)
  | some '"' => return .text (← quoted)
  | some '\'' =>
    char '\''
    let c ← satisfy fun _ => true
    char '\''
    return .text c.toString
  | _ => return bareValue (← takeWhile isBare)

/-- A value with others nested in it at most so deep. -/
def value : (depth : Nat) → Scanner Value
  | 0 => fail
  | depth + 1 => do
    spaces
    let v ← orElse (do word "true"; return .boolean true)
      (orElse (do word "false"; return .boolean false) (nonBoolean (value depth)))
    spaces
    return v

/-- The value in the text of a variable. Text outside the grammar stands for itself. -/
def read (text : String) : Value :=
  let cs := text.toList
  (whole? (value (cs.length + 1)) cs).getD (.text text)

/-- A value inside dictionaries under a path of keys. -/
def nest (path : List String) (v : Value) : Value :=
  path.foldr (fun key inner => .dict [(key, inner)]) v

/-- Puts a point for every mark; `skip` characters are left of the last one. -/
def pointed (mark : List Char) : (skip : Nat) → List Char → List Char
  | _, [] => []
  | skip + 1, _ :: rest => pointed mark skip rest
  | 0, c :: rest =>
    if mark.isPrefixOf (c :: rest) then '.' :: pointed mark (mark.length - 1) rest
    else c :: pointed mark 0 rest

/-- The path of keys in a name that is in lower case and has no blanks around it. -/
def plainPath? (start mark : String) (cs : List Char) : Option (List String) :=
  let front := start.toList.map Char.toLower
  if front.isPrefixOf cs then
    let named := Text.trimChars (pointed mark.toList 0 (cs.drop front.length))
    let keys := Text.pieces (· == '.') named
    if keys.any (· = []) then none else some (keys.map String.ofList)
  else none

/-- The path of keys in a variable's name, if the name begins so. The mark stands between the
keys. -/
def path? (start mark name : String) : Option (List String) :=
  plainPath? start mark ((Text.trimChars name.toList).map Char.toLower)

/-- What a variable adds to a dictionary, if its name begins so. -/
def addVariable (start mark : String) (acc : Value) (entry : String × String) : Value :=
  match path? start mark entry.1 with
  | some path => acc.merge (nest path (read entry.2))
  | none => acc

/-- The dictionary that a list of variables stands for. A later variable may add to what an earlier
one gave, or replace it. -/
def ofVariables (start mark : String) (named : List (String × String)) : Value :=
  named.foldl (addVariable start mark) (.dict [])

/-- The variables after a list of assignments. A name keeps its place when it is assigned again. -/
def assign (assignments : List (String × String)) : List (String × String) :=
  assignments.foldl (fun acc (name, text) =>
    if (acc.lookup name).isSome then
      acc.map fun entry => if entry.1 = name then (name, text) else entry
    else acc ++ [(name, text)]) []

end DaqBus.External.Environment

import DaqBus.External.Pattern.Set
import DaqBus.Text.Alphanumeric
/-!
Which texts are regular expressions. Nothing is matched here; a filter only has to know whether the
patterns in its rules are faulty. They are where they need a table of all characters, as the classes
of digits and the ends of words do unless bytes are meant.
-/

namespace DaqBus.External.Pattern

open Scanner

/-- What has to be known of a part of an expression. -/
structure Part where
  /-- How deep other parts are nested in it. -/
  height : Nat := 0
  isRepeatable : Bool := true
  /-- The names of the groups in it. -/
  names : List String := []
deriving DecidableEq, Repr

namespace Part

def around (parts : List Part) : Part :=
  { height := (parts.map height).foldl max 0 + 1, names := parts.flatMap names }

/-- Parts after or beside each other. A single one stands for itself. -/
def join : List Part → Part
  | [] => {}
  | [part] => part
  | parts => around parts

end Part

def heightLimit : Nat := 250

/-- Whether a character by itself can be matched. -/
def isLiteral (s : Switches) (c : Char) (isByte : Bool) : Bool :=
  if s.wide then !s.anyCase else !isByte || c ≤ '\x7f'

/-- The name of a group, up to its closing bracket. -/
def groupName : Scanner String := do
  let first ← satisfy fun c => c = '_' || Text.isAlphabetic c
  let others ← takeWhile fun c =>
    c = '_' || c = '.' || c = '[' || c = ']' || Text.isAlphanumeric c
  char '>'
  return String.ofList (first :: others)

/-- The start of a group, or a setting of the switches. -/
inductive Opening
  | group (s : Switches) (name : Option String)
  | setting (s : Switches)
deriving DecidableEq, Repr

/-- The start of a group, or a setting, after the parenthesis. -/
def opening (s : Switches) : Scanner Opening := do
  blanks s
  match ← fun cs => some (cs.take 3, cs) with
  | ['?', 'P', '<'] =>
    word "?P<"
    return .group s (← groupName)
  | '?' :: '<' :: _ =>
    word "?<"
    return .group s (← groupName)
  | '?' :: _ =>
    char '?'
    let setting ← takeWhile fun c => c ≠ ':' && c ≠ ')'
    if !Switches.isSetting setting then fail
    match ← satisfy fun _ => true with
    | ':' => return .group (s.change setting) none
    | _ => if setting = [] then fail else return .setting (s.change setting)
  | _ => return .group s none

/-- A part that is neither a group nor a repetition. -/
def atom (s : Switches) : Scanner Part := do
  match ← peek with
  | some '[' => return { height := (← CharSet.scan s).height }
  | _ =>
    match ← satisfy fun _ => true with
    | '\x7b' => fail
    | '.' => if s.wide then return {} else fail
    | '^' | '$' => return {}
    | '\\' =>
      match ← Escape.scan s with
      | .char c isByte => if isLiteral s c isByte then return {} else fail
      | .named negated => if s.wide || negated then fail else return {}
      | .bound => return {}
      | .wordBound => if s.wide then fail else return {}
    | c => if isLiteral s c false then return {} else fail

/-- The rest of an expression of at most so many parts, up to a closing parenthesis or the end,
after the branches and the parts that are read. The latest stands first. -/
def expression : (limit : Nat) → Switches → (branches parts : List Part) → Scanner Part
  | 0, _, _, _ => fail
  | limit + 1, s, branches, parts => do
    blanks s
    match ← peek with
    | none | some ')' => return Part.join (Part.join parts :: branches)
    | some '|' =>
      char '|'
      expression limit s (Part.join parts :: branches) []
    | some '*' | some '+' | some '?' =>
      let _ ← satisfy fun _ => true
      let _ ← maybe (char '?')
      match parts with
      | part :: before =>
        if part.isRepeatable then expression limit s branches (Part.around [part] :: before)
        else fail
      | [] => fail
    | some '(' =>
      char '('
      match ← opening s with
      | .setting changed => expression limit changed branches ({ isRepeatable := false } :: parts)
      | .group inside name =>
        let inner ← expression limit inside [] []
        char ')'
        let group := Part.around [{ inner with names := name.toList ++ inner.names }]
        expression limit s branches (group :: parts)
    | some _ => expression limit s branches ((← atom s) :: parts)

def accepts (cs : List Char) : Bool :=
  match whole? (expression (cs.length + 1) {} [] []) cs with
  | some part => part.height ≤ heightLimit && decide part.names.Nodup
  | none => false

end DaqBus.External.Pattern

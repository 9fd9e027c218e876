import DaqBus.Text.Literal
/-!
The lexical parts of a TOML document: blanks, line ends, comments, strings and keys.
-/

namespace DaqBus.External.Toml

open Scanner Text

def isSpace (c : Char) : Bool := c = ' ' || c = '\t'

def spaces : Scanner Unit := do
  let _ ← takeWhile isSpace

/-- A line end: a line feed, with or without a carriage return before it. -/
def newline : Scanner Unit := orElse (char '\n') (word "\r\n")

def atEnd : Scanner Unit
  | [] => some ((), [])
  | _ => none

def comment : Scanner Unit := do
  char '#'
  let _ ← takeWhile isPrintable

/-- What may follow on a line: a comment, and then the end of the line or of the text. -/
def lineEnd : Scanner Unit := do
  spaces
  let _ ← maybe comment
  orElse newline atEnd

/-- Blanks, line ends and comments, as they may stand in arrays. -/
def gap : Scanner Unit := do
  let blank : Scanner Unit := do
    let _ ← satisfy isSpace
  let _ ← many (orElse blank (orElse newline comment))

/-- Characters that stand for themselves in a literal string. -/
def isLiteral (c : Char) : Bool := isPrintable c && c ≠ '\''

/-- A string in single quotes, without escapes. -/
def literalString : Scanner String := do
  char '\''
  let cs ← takeWhile isLiteral
  char '\''
  return String.ofList cs

/-- A backslash at the end of a line takes the line end away, with all blanks and line ends that
follow. -/
def continuation : Scanner (List Char) := do
  char '\\'
  spaces
  newline
  let blank : Scanner Unit := do
    let _ ← satisfy isSpace
  let _ ← many (orElse blank newline)
  return []

def lineFeed : Scanner (List Char) := do
  newline
  return ['\n']

/-- One or two quotes inside a string that three of them end. -/
def innerQuotes (quote : Char) : Scanner (List Char) := do
  let quotes ← takeWhile1 (· == quote)
  if quotes.length < 3 then return quotes else fail

/-- The quotes that end a string of several lines. Up to two more before them belong to it. -/
def closingQuotes (quote : Char) : Scanner (List Char) := fun cs =>
  let run := (cs.takeWhile (· == quote)).length
  if run < 3 then none
  else
    let taken := min run 5
    some (List.replicate (taken - 3) quote, cs.drop taken)

/-- A string of several lines between triple quotes. A line end right after the opening quotes does
not belong to it. -/
def linesString (quote : Char) (piece : Scanner (List Char)) : Scanner String := do
  word (String.ofList [quote, quote, quote])
  let _ ← maybe newline
  let pieces ← many (orElse (innerQuotes quote) piece)
  let last ← closingQuotes quote
  return String.ofList (pieces.flatten ++ last)

def basicLines : Scanner String :=
  linesString '"'
    (orElse (takeWhile1 isBasic) (orElse continuation (orElse escape lineFeed)))

def literalLines : Scanner String :=
  linesString '\'' (orElse (takeWhile1 isLiteral) lineFeed)

def string : Scanner String :=
  orElse basicLines (orElse literal (orElse literalLines literalString))

def isKeyChar (c : Char) : Bool :=
  c.isAlphanum || c = '_' || c = '-'

def simpleKey : Scanner String := do
  match ← peek with
  | some '"' => literal
  | some '\'' => literalString
  | _ => return String.ofList (← takeWhile1 isKeyChar)

/-- How many parts a key can have, and how deep values can be nested. -/
def depthLimit : Nat := 79

/-- A key of one or more parts with dots between them: the parts before the last, and the last. -/
def key : Scanner (List String × String) := do
  let part : Scanner String := do
    spaces
    let name ← simpleKey
    spaces
    return name
  let parts ← separated1 part (char '.')
  match parts.getLast? with
  | some last => if depthLimit < parts.length then fail else return (parts.dropLast, last)
  | none => fail

end DaqBus.External.Toml

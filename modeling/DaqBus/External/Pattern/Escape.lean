import DaqBus.External.Pattern.Switches
import DaqBus.Text.Literal
/-!
The escapes of a regular expression.
-/

namespace DaqBus.External.Pattern

open Scanner

/-- What a backslash and the text after it stand for. -/
inductive Escape
  /-- A character. It is a byte if it is written with two digits and only bytes are meant. -/
  | char (c : Char) (isByte : Bool)
  /-- A class of characters, such as the digits, or all others. -/
  | named (negated : Bool)
  /-- The start or the end of the text. -/
  | bound
  /-- A start or an end of a word. -/
  | wordBound
deriving DecidableEq, Repr

namespace Escape

def ofLetter? : Char → Option Escape
  | 'a' => some (.char '\x07' false)
  | 'f' => some (.char '\x0c' false)
  | 'n' => some (.char '\n' false)
  | 'r' => some (.char '\r' false)
  | 't' => some (.char '\t' false)
  | 'v' => some (.char '\x0b' false)
  | 'A' | 'z' => some .bound
  | 'b' | 'B' | '<' | '>' => some .wordBound
  | 'd' | 's' | 'w' => some (.named false)
  | 'D' | 'S' | 'W' => some (.named true)
  | _ => none

/-- A mark that a backslash makes stand for itself. -/
def isMark (c : Char) : Bool :=
  c ≤ '\x7f' && !c.isAlphanum && c ≠ '<' && c ≠ '>'

/-- A character given by a certain count of hexadecimal digits, with blanks around them. -/
def numbered (s : Switches) (count : Nat) : Scanner Char := do
  let digits ← (List.replicate count ()).mapM fun _ => do
    blanks s
    satisfy fun c => (Text.hexValue? c).isSome
  blanks s
  StateT.lift ((Text.valueIn? 16 digits).bind Text.charWith?)

/-- An escape, after its backslash. Classes by a property of characters need a table of all
characters and are faulty. -/
def scan (s : Switches) : Scanner Escape := do
  match ← satisfy fun _ => true with
  | 'x' => return .char (← numbered s 2) true
  | 'u' => return .char (← numbered s 4) false
  | 'U' => return .char (← numbered s 8) false
  | c => if isMark c then return .char c false else StateT.lift (ofLetter? c)

end Escape

end DaqBus.External.Pattern

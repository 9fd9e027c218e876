import DaqBus.Text.Numeral
import DaqBus.Text.Scanner
/-!
Text literals: text between double quotes, where a backslash begins an escape.
-/

namespace DaqBus.Text

open Scanner

/-- Characters that a line of text may hold: all but the control characters, of which the
tab is allowed. -/
def isPrintable (c : Char) : Bool :=
  c = '\t' || (' ' ≤ c && c ≠ '\x7f')

def hexValue? (c : Char) : Option Nat :=
  if '0' ≤ c && c ≤ '9' then some (c.toNat - '0'.toNat)
  else if 'a' ≤ c && c ≤ 'f' then some (c.toNat - 'a'.toNat + 10)
  else if 'A' ≤ c && c ≤ 'F' then some (c.toNat - 'A'.toNat + 10)
  else none

def valueIn? (base : Nat) (digits : List Char) : Option Nat :=
  digits.foldlM (fun acc c => do
    let d ← hexValue? c
    if d < base then some (acc * base + d) else none) 0

/-- The character with a number, if there is one. -/
def charWith? (n : Nat) : Option Char :=
  if n.isValidChar then some (Char.ofNat n) else none

/-- A character given by a certain count of hexadecimal digits. -/
def numbered (count : Nat) : Scanner Char := fun cs => do
  let digits := cs.take count
  if digits.length < count then none
  else
    let c ← (valueIn? 16 digits).bind charWith?
    some (c, cs.drop count)

/-- The rest of an escape, after its backslash. -/
def escaped : Scanner Char := do
  match ← satisfy fun _ => true with
  | 'b' => return '\x08'
  | 'f' => return '\x0c'
  | 'n' => return '\n'
  | 'r' => return '\r'
  | 't' => return '\t'
  | '"' => return '"'
  | '\\' => return '\\'
  | 'u' => numbered 4
  | 'U' => numbered 8
  | _ => fail

/-- Characters that stand for themselves in a literal. -/
def isBasic (c : Char) : Bool := isPrintable c && c ≠ '"' && c ≠ '\\'

def escape : Scanner (List Char) := do
  char '\\'
  return [← escaped]

def literal : Scanner String := do
  char '"'
  let pieces ← many (orElse (takeWhile1 isBasic) escape)
  char '"'
  return String.ofList pieces.flatten

end DaqBus.Text

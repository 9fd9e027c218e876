import DaqBus.Text.Blank
import DaqBus.Text.Scanner
/-!
The switches of a regular expression: what they are, how an expression sets them, and the blanks
that one of them allows between its parts.
-/

namespace DaqBus.External.Pattern

open Scanner

/-- The switches that tell faulty expressions from others. -/
structure Switches where
  /-- Blanks and comments between the parts are passed over. -/
  spaced : Bool := false
  /-- The parts stand for characters, not for bytes. -/
  wide : Bool := true
  /-- Letter case is ignored. -/
  anyCase : Bool := false
deriving DecidableEq, Repr

namespace Switches

/-- The letters of the switches; a hyphen stands before those that are cleared. -/
def letters : List Char := "imsUuRx".toList

/-- Whether a text sets and clears switches, none of them twice. -/
def isSetting (cs : List Char) : Bool :=
  cs.all (fun c => c = '-' || letters.contains c) && decide cs.Nodup && cs.getLast? ≠ some '-'

def change (setting : List Char) (s : Switches) : Switches :=
  let value (letter : Char) (old : Bool) : Bool :=
    if (setting.takeWhile (· ≠ '-')).contains letter then true
    else if setting.contains letter then false
    else old
  { spaced := value 'x' s.spaced
    wide := value 'u' s.wide
    anyCase := value 'i' s.anyCase }

end Switches

/-- Drops blanks and comments. A comment goes up to the end of its line. -/
def dropBlanks : (inComment : Bool) → List Char → List Char
  | _, [] => []
  | true, c :: cs => dropBlanks (c ≠ '\n') cs
  | false, c :: cs =>
    if Text.isBlank c then dropBlanks false cs
    else if c = '#' then dropBlanks true cs
    else c :: cs

/-- Passes over what may stand between two parts. -/
def blanks (s : Switches) : Scanner Unit := fun cs =>
  some ((), if s.spaced then dropBlanks false cs else cs)

/-- The character that comes after blanks and the sign of a comment, as far as there are any. -/
def glimpse (s : Switches) (cs : List Char) : Option Char :=
  if !s.spaced then cs.head?
  else
    let rest := match cs.dropWhile Text.isBlank with
      | '#' :: rest => rest.dropWhile Text.isBlank
      | rest => rest
    rest.head?.or cs.head?

end DaqBus.External.Pattern

/-!
Scanners: functions that take something off the front of a text or fail. The scanners here know no
grammar; they are the means to write one down.
-/

namespace DaqBus

/-- A scanner yields what it has read and the rest of the text, or nothing. -/
abbrev Scanner (α : Type) := StateT (List Char) Option α

namespace Scanner

variable {α β : Type}

def fail : Scanner α := fun _ => none

/-- The next character, which stays in the text; nothing at the end. -/
def peek : Scanner (Option Char) := fun cs => some (cs.head?, cs)

def satisfy (p : Char → Bool) : Scanner Char
  | c :: cs => if p c then some (c, cs) else none
  | [] => none

def char (c : Char) : Scanner Unit := do
  let _ ← satisfy (· == c)

def word (w : String) : Scanner Unit := fun cs =>
  if w.toList.isPrefixOf cs then some ((), cs.drop w.length) else none

/-- Takes all characters up to the first that does not satisfy `p`. -/
def takeWhile (p : Char → Bool) : Scanner (List Char) := fun cs =>
  some (cs.takeWhile p, cs.dropWhile p)

/-- Takes at least one character that satisfies `p`, and all that follow. -/
def takeWhile1 (p : Char → Bool) : Scanner (List Char) := do
  let cs ← takeWhile p
  if cs = [] then fail else return cs

/-- Tries the first scanner, and the second where the first fails. -/
def orElse (first second : Scanner α) : Scanner α := fun cs =>
  match first cs with
  | some result => some result
  | none => second cs

/-- The sign in front of a number: whether it is negative. -/
def sign : Scanner Bool :=
  orElse (do char '-'; return true) (orElse (do char '+'; return false) (pure false))

/-- What a scanner reads, or nothing where it fails. -/
def maybe (scanner : Scanner α) : Scanner (Option α) :=
  orElse (some <$> scanner) (pure none)

/-- Takes as many as there are, at most `limit`. A scanner that takes no text ends it. -/
def upTo (scanner : Scanner α) : (limit : Nat) → Scanner (List α)
  | 0 => pure []
  | limit + 1 => fun cs =>
    match scanner cs with
    | none => some ([], cs)
    | some (a, rest) =>
      if rest.length < cs.length then
        (do return a :: (← upTo scanner limit) : Scanner (List α)) rest
      else some ([], cs)

def many (scanner : Scanner α) : Scanner (List α) := fun cs =>
  upTo scanner cs.length cs

/-- Takes at least one, with a separator between any two. -/
def separated1 (scanner : Scanner α) (separator : Scanner β) : Scanner (List α) := do
  let first ← scanner
  let rest ← many (do let _ ← separator; scanner)
  return first :: rest

/-- The result of a scanner that takes the whole text. -/
def whole? (scanner : Scanner α) (cs : List Char) : Option α :=
  match scanner cs with
  | some (a, []) => some a
  | _ => none

end Scanner

end DaqBus

/-!
Blank characters, and the cuts that attribute text goes through: trimming, fields between blanks,
lines.
-/

namespace DaqBus.Text

/-- The characters with the Unicode property White_Space. -/
def isBlank (c : Char) : Bool :=
  let n := c.toNat
  (9 ≤ n && n ≤ 13) || n == 0x20 || n == 0x85 || n == 0xA0 || n == 0x1680 ||
    (0x2000 ≤ n && n ≤ 0x200A) || n == 0x2028 || n == 0x2029 || n == 0x202F || n == 0x205F ||
    n == 0x3000

def trimRightWhile (p : Char → Bool) (cs : List Char) : List Char :=
  (cs.reverse.dropWhile p).reverse

def trimChars (cs : List Char) : List Char :=
  trimRightWhile isBlank (cs.dropWhile isBlank)

def trim (s : String) : String :=
  String.ofList (trimChars s.toList)

def trimNewlines (s : String) : String :=
  String.ofList (trimRightWhile (· == '\n') s.toList)

/-- The pieces between the elements that satisfy `p`, empty pieces included. -/
def pieces {α : Type} (p : α → Bool) : List α → List (List α)
  | [] => [[]]
  | c :: cs =>
    match p c, pieces p cs with
    | true, rest => [] :: rest
    | false, [] => [[c]]
    | false, piece :: rest => (c :: piece) :: rest

/-- The non-empty pieces between blanks. -/
def fields (s : String) : List String :=
  ((pieces isBlank s.toList).filter (· ≠ [])).map String.ofList

def dropReturn (cs : List Char) : List Char :=
  if cs.getLast? = some '\r' then cs.dropLast else cs

/-- The lines of a text. Each ends at a line feed, with or without a carriage return before it; the
last one may lack its line feed, and then keeps its carriage return. -/
def lines (s : String) : List String :=
  let all := pieces (· == '\n') s.toList
  let ended := all.dropLast.map dropReturn
  let last := all.getLast?.getD []
  (if last = [] then ended else ended ++ [last]).map String.ofList

/-- Every character that core counts as whitespace is blank. -/
theorem isBlank_of_isWhitespace (c : Char) (h : c.isWhitespace) : isBlank c := by
  simp only [Char.isWhitespace, Bool.or_eq_true, decide_eq_true_eq] at h
  rcases h with ((h | h) | h) | h <;> subst h <;> decide

end DaqBus.Text

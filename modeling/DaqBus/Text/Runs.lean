/-!
Sets of characters, given by the code points at which their runs begin and end.
-/

namespace DaqBus.Text

/-- Whether a character lies in one of some runs. The bounds are in order: a run begins at the
first, ends before the second, and so on. -/
def inRuns (bounds : List Nat) (c : Char) : Bool :=
  (bounds.takeWhile (· ≤ c.toNat)).length % 2 = 1

end DaqBus.Text

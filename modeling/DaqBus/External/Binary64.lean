import DaqBus.Text.Numeral
/-!
Binary floating-point numbers of 64 bits, exactly: the number nearest to a decimal, and the shortest
decimal that reads back as the number.
-/

namespace DaqBus.External

/-- A number is `mantissa * 2 ^ exponent`, infinite, or none at all. -/
inductive Binary64
  | finite (negative : Bool) (mantissa : Nat) (exponent : Int)
  | infinite (negative : Bool)
  | nan
deriving DecidableEq, Repr

namespace Binary64

def leastExponent : Int := -1074

/-- The greatest exponent of a finite number. -/
def greatestExponent : Int := 971

/-- The least mantissa of a number whose exponent is not the least, `2 ^ 52`. -/
def leastMantissa : Nat := 0x10000000000000

/-- The part of `base ^ e` above the line of a fraction; `power base (-e)` is the part below. -/
def power (base : Nat) (e : Int) : Nat := Nat.pow base e.toNat

/-- The quotient rounded to the nearest number, a half to the even one. -/
def divRound (num den : Nat) : Nat :=
  let quotient := num / den
  let rest := num % den
  if 2 * rest < den || (2 * rest = den && quotient % 2 = 0) then quotient else quotient + 1

/-- The number nearest to a positive fraction. -/
def ofRatio (negative : Bool) (num den : Nat) : Binary64 :=
  let low : Int := (num.log2 : Int) - den.log2 - 53
  let atLeast (q : Int) : Nat := num * power 2 (-q) / (den * power 2 q)
  let normal := if atLeast low < 2 * leastMantissa then low else low + 1
  let q := max normal leastExponent
  let m := divRound (num * power 2 (-q)) (den * power 2 q)
  let (m, q) := if m = 2 * leastMantissa then (leastMantissa, q + 1) else (m, q)
  if greatestExponent < q then .infinite negative else .finite negative m q

/-- The number nearest to `digits * 10 ^ e`. Where the power alone decides, it is not worked out. -/
def ofDecimal (negative : Bool) (digits : Nat) (e : Int) : Binary64 :=
  let size := e + (Nat.toDigits 10 digits).length
  if digits = 0 || size < -330 then .finite negative 0 leastExponent
  else if 310 < size then .infinite negative
  else ofRatio negative (digits * power 10 e) (power 10 (-e))

def negate : Binary64 → Binary64
  | finite negative m q => finite (!negative) m q
  | infinite negative => infinite (!negative)
  | nan => nan

/-- The multiple of `10 ^ p` that reads back as `m * 2 ^ q`, if there is one: of the two neighbours
on that grid the nearer one, and in the middle the upper one. All is counted in quarters of the last
binary place. -/
def onGrid? (m : Nat) (q p : Int) : Option Nat :=
  let one := power 2 (q - 2) * power 10 (-p)
  let step := power 10 p * power 2 (2 - q)
  let value := 4 * m * one
  let low := (if m = leastMantissa && leastExponent < q then 4 * m - 1 else 4 * m - 2) * one
  let high := (4 * m + 2) * one
  let readsBack (t : Nat) : Bool :=
    if m % 2 = 0 then low ≤ t * step && t * step ≤ high
    else low < t * step && t * step < high
  let below := value / step
  let above := below + 1
  match readsBack below, readsBack above with
  | true, true => some (if value - below * step < above * step - value then below else above)
  | true, false => some below
  | false, true => some above
  | false, false => none

/-- How many digits `m * 2 ^ q` has before the point; not above zero for a number below one, where
leading zeros after the point count against it. -/
def decimalSize (m : Nat) (q : Int) : Int :=
  let shifted := m * power 2 q * power 10 400 / power 2 (-q)
  ((Nat.toDigits 10 shifted).length : Int) - 400

/-- The shortest decimal that reads back as `m * 2 ^ q`, as digits and a power of ten. -/
def shortest (m : Nat) (q : Int) : Nat × Int :=
  let size := decimalSize m q
  let found := (List.range 17).findSome? fun (n : Nat) =>
    let p := size - (n + 1)
    (onGrid? m q p).map fun t => if t % 10 = 0 then (t / 10, p + 1) else (t, p)
  found.getD (0, 0)

/-- The decimal `digits * 10 ^ p` without a power. -/
def positional (digits : Nat) (p : Int) : String :=
  let written := Nat.toDigits 10 digits
  if 0 ≤ p then String.ofList (written ++ List.replicate p.toNat '0')
  else
    let places := (-p).toNat
    let padded := Text.padZeros (places + 1) written
    let whole := padded.take (padded.length - places)
    String.ofList (whole ++ '.' :: padded.drop (padded.length - places))

/-- A number in as few digits as read back, never with a power of ten. -/
def text : Binary64 → String
  | nan => "NaN"
  | infinite negative => if negative then "-inf" else "inf"
  | finite negative m q =>
    let (digits, p) := if m = 0 then (0, 0) else shortest m q
    (if negative then "-" else "") ++ positional digits p

end Binary64

end DaqBus.External

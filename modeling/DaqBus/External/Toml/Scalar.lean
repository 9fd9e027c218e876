import DaqBus.External.Value
import DaqBus.External.Toml.Text
/-!
TOML numbers, truth values and dates.
-/

namespace DaqBus.External.Toml

open Scanner Text

/-- Digits of a base, with single underscores between them. -/
def digits (base : Nat) : Scanner (List Char) := do
  let isDigit (c : Char) : Bool := (hexValue? c).any (· < base)
  let groups ← separated1 (takeWhile1 isDigit) (char '_')
  return groups.flatten

def wholeDigits : Scanner (List Char) := do
  match ← peek with
  | some '0' =>
    char '0'
    return ['0']
  | _ => digits 10

/-- An integer has to fit in 64 bits with a sign. -/
def integerOf (n : Int) : Option Value :=
  if Int64.minValue.toInt ≤ n ∧ n ≤ Int64.maxValue.toInt then some (.signed n) else none

def lift {α : Type} (found : Option α) : Scanner α := fun cs => found.map fun a => (a, cs)

/-- An integer in hexadecimal, octal or binary digits. -/
def basedInteger : Scanner Value := do
  let based (mark : String) (base : Nat) : Scanner Value := do
    word mark
    let n ← lift (valueIn? base (← digits base))
    lift (integerOf n)
  orElse (based "0x" 16) (orElse (based "0o" 8) (based "0b" 2))

def decimalInteger : Scanner Value := do
  let negative ← sign
  let n ← lift (valueIn? 10 (← wholeDigits))
  lift (integerOf (if negative then -n else n))

def power : Scanner Int := do
  let _ ← satisfy fun c => c = 'e' || c = 'E'
  let negative ← sign
  let n ← lift (valueIn? 10 (← digits 10))
  return if negative then -n else n

/-- A number with a fraction or a power of ten. One that is too large is not a number, but only if
it is positive. -/
def decimalFloat : Scanner Value := do
  let negative ← sign
  let whole ← wholeDigits
  let fraction ← maybe (do char '.'; digits 10)
  let exponent ← maybe power
  if fraction.isNone && exponent.isNone then fail
  let places := fraction.getD []
  let n ← lift (valueIn? 10 (whole ++ places))
  let x := Binary64.ofDecimal negative n (exponent.getD 0 - places.length)
  if x = .infinite false then fail else return .float x

def specialFloat : Scanner Value := do
  let negative ← sign
  let x ← orElse (do word "inf"; return Binary64.infinite false) (do word "nan"; return .nan)
  return .float (if negative then x.negate else x)

/-- A number of exactly `count` digits in a range. -/
def counted (count low high : Nat) : Scanner Nat := fun cs => do
  let taken := cs.take count
  let n ← Text.digitsValue? taken
  if taken.length = count && low ≤ n && n ≤ high then some (n, cs.drop count) else none

def daysIn (year month : Nat) : Nat :=
  let leap := year % 4 = 0 && (year % 100 ≠ 0 || year % 400 = 0)
  if month = 2 then if leap then 29 else 28
  else if month = 4 || month = 6 || month = 9 || month = 11 then 30
  else 31

def date : Scanner Unit := do
  let year ← counted 4 0 9999
  char '-'
  let month ← counted 2 1 12
  char '-'
  let _ ← counted 2 1 (daysIn year month)

def time : Scanner Unit := do
  let _ ← counted 2 0 23
  char ':'
  let _ ← counted 2 0 59
  char ':'
  let _ ← counted 2 0 60
  let _ ← maybe (do char '.'; takeWhile1 Char.isDigit)

def zone : Scanner Unit := do
  match ← satisfy fun _ => true with
  | 'Z' | 'z' => return
  | '+' | '-' =>
    let _ ← counted 2 0 23
    char ':'
    let _ ← counted 2 0 59
  | _ => fail

def moment : Scanner Unit := do
  let clock : Scanner Unit := do
    let _ ← satisfy fun c => c = 'T' || c = 't' || c = ' '
    time
    let _ ← maybe zone
  let dated : Scanner Unit := do
    date
    let _ ← maybe clock
  orElse dated time

/-- A moment counts as a dictionary of one entry. -/
def momentValue : Scanner Value := fun cs => do
  let ((), rest) ← moment cs
  let written := cs.take (cs.length - rest.length)
  some (.dict [("moment", .text (String.ofList written))], rest)

def scalar : Scanner Value := do
  match ← peek with
  | some '"' | some '\'' => return .text (← string)
  | some 't' =>
    word "true"
    return .boolean true
  | some 'f' =>
    word "false"
    return .boolean false
  | _ =>
    orElse momentValue
      (orElse decimalFloat (orElse specialFloat (orElse basedInteger decimalInteger)))

end DaqBus.External.Toml

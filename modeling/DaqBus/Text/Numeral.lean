/-!
Numerals: unsigned decimal readers with a bound, and fixed-width printers.
-/

namespace DaqBus.Text

def digitValue? (c : Char) : Option Nat :=
  if '0' ≤ c ∧ c ≤ '9' then some (c.toNat - '0'.toNat) else none

/-- The value of a digit string, or nothing if some character is not a digit. -/
def digitsValue? (cs : List Char) : Option Nat :=
  cs.foldlM (fun acc c => (digitValue? c).map (acc * 10 + ·)) 0

/-- Reads an optional plus sign and one or more digits, whose value is below `bound`. -/
def decimalBelow? (bound : Nat) (cs : List Char) : Option Nat :=
  let digits := match cs with
    | '+' :: rest => rest
    | _ => cs
  if digits = [] then none
  else (digitsValue? digits).filter (· < bound)

def word32? (s : String) : Option UInt32 :=
  (decimalBelow? UInt32.size s.toList).map UInt32.ofNat

def byte? (s : String) : Option UInt8 :=
  (decimalBelow? UInt8.size s.toList).map UInt8.ofNat

/-- Pads with zeros on the left up to `width` characters. -/
def padZeros (width : Nat) (cs : List Char) : List Char :=
  List.replicate (width - cs.length) '0' ++ cs

/-- Lower-case hexadecimal with at least `width` digits. -/
def hex (width n : Nat) : String :=
  String.ofList (padZeros width (Nat.toDigits 16 n))

def decimal (width n : Nat) : String :=
  String.ofList (padZeros width (Nat.toDigits 10 n))

end DaqBus.Text

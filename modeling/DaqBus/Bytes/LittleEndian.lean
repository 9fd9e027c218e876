/-!
Little-endian words over byte lists: `value` reads a number, `digits` writes one at a fixed width,
and the `word` functions do both for the machine widths a control record uses.
-/

namespace DaqBus

abbrev Bytes := List UInt8

namespace Bytes

/-- The number a byte string spells, least significant byte first. -/
def value : Bytes → Nat
  | [] => 0
  | b :: bs => b.toNat + 256 * value bs

/-- The `width` low bytes of a number, least significant byte first. -/
def digits : (width : Nat) → Nat → Bytes
  | 0, _ => []
  | width + 1, n => UInt8.ofNat n :: digits width (n / 256)

/-- How many numbers a width has room for. -/
def capacity : (width : Nat) → Nat
  | 0 => 1
  | width + 1 => 256 * capacity width

def ofWord16 (w : UInt16) : Bytes := digits 2 w.toNat

def ofWord32 (w : UInt32) : Bytes := digits 4 w.toNat

def ofWord64 (w : UInt64) : Bytes := digits 8 w.toNat

def toWord16 (bs : Bytes) : UInt16 := UInt16.ofNat (value bs)

def toWord32 (bs : Bytes) : UInt32 := UInt32.ofNat (value bs)

def toWord64 (bs : Bytes) : UInt64 := UInt64.ofNat (value bs)

/-- The first `n` bytes, with zeros after the end. -/
def fit (n : Nat) (bs : Bytes) : Bytes :=
  bs.take n ++ List.replicate (n - bs.length) 0

theorem length_digits (width n : Nat) : (digits width n).length = width := by
  induction width generalizing n with
  | zero => rfl
  | succ width ih => simp [digits, ih]

theorem value_digits (width n : Nat) : value (digits width n) = n % capacity width := by
  induction width generalizing n with
  | zero => simp [digits, value, capacity, Nat.mod_one]
  | succ width ih =>
    simp only [digits, value, capacity, ih]
    rw [Nat.mod_mul]
    simp

theorem value_lt (bs : Bytes) : value bs < capacity bs.length := by
  induction bs with
  | nil => simp [value, capacity]
  | cons b bs ih =>
    have hb : b.toNat < 256 := b.toNat_lt
    simp only [value, List.length_cons, capacity]
    omega

theorem digits_value (bs : Bytes) : digits bs.length (value bs) = bs := by
  induction bs with
  | nil => rfl
  | cons b bs ih =>
    have hb : b.toNat < 256 := b.toNat_lt
    have hdiv : (b.toNat + 256 * value bs) / 256 = value bs := by omega
    have hmod : UInt8.ofNat (b.toNat + 256 * value bs) = b := by
      apply UInt8.toNat_inj.mp
      rw [UInt8.toNat_ofNat']
      omega
    simp [digits, value, hdiv, hmod, ih]

theorem length_fit (n : Nat) (bs : Bytes) : (fit n bs).length = n := by
  simp [fit]
  omega

end Bytes

end DaqBus

import DaqBus.Control.Codec
/-!
The samples of a block: a list of words of one width, and the payload bytes it stands for.
-/

namespace DaqBus

/-- Decoded samples. All samples of a block have the same width. -/
inductive Samples
  | u8 (values : List UInt8)
  | u16 (values : List UInt16)
  | u32 (values : List UInt32)
  | u64 (values : List UInt64)
deriving DecidableEq, Repr

namespace Samples

def length : Samples → Nat
  | u8 vs => vs.length
  | u16 vs => vs.length
  | u32 vs => vs.length
  | u64 vs => vs.length

def width : Samples → Nat
  | u8 _ => 1
  | u16 _ => 2
  | u32 _ => 4
  | u64 _ => 8

/-- The samples in order, all as 64-bit words. -/
def values : Samples → List UInt64
  | u8 vs => vs.map UInt8.toUInt64
  | u16 vs => vs.map UInt16.toUInt64
  | u32 vs => vs.map UInt32.toUInt64
  | u64 vs => vs

def get? (s : Samples) (i : Nat) : Option UInt64 :=
  s.values[i]?

/-- The payload: each sample little-endian, in order. -/
def toBytes : Samples → Bytes
  | u8 vs => vs
  | u16 vs => vs.flatMap Bytes.ofWord16
  | u32 vs => vs.flatMap Bytes.ofWord32
  | u64 vs => vs.flatMap Bytes.ofWord64

theorem length_toBytes (s : Samples) : s.toBytes.length = s.length * s.width := by
  have hconst : ∀ {α : Type} (n : Nat) (write : α → Bytes) (vs : List α),
      (∀ v, (write v).length = n) → (vs.flatMap write).length = vs.length * n := by
    intro α n write vs hwrite
    induction vs with
    | nil => simp
    | cons v vs ih =>
      simp only [List.flatMap_cons, List.length_append, List.length_cons, ih, hwrite,
        Nat.succ_mul]
      omega
  cases s with
  | u8 vs => simp [toBytes, length, width]
  | u16 vs => exact hconst 2 _ vs fun v => Bytes.length_digits 2 _
  | u32 vs => exact hconst 4 _ vs fun v => Bytes.length_digits 4 _
  | u64 vs => exact hconst 8 _ vs fun v => Bytes.length_digits 8 _

end Samples

end DaqBus

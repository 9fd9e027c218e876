import DaqBus.Control.Codec
/-!
The wire form of a control record as a table of offsets: each field is the little-endian number or
the raw bytes at a fixed place. `run_header` says that the reader with a cursor finds every field at
its place.
-/

namespace DaqBus.Control.Layout

def field (bs : Bytes) (offset size : Nat) : Bytes := (bs.drop offset).take size

def byte (bs : Bytes) (offset : Nat) : UInt8 := UInt8.ofNat (Bytes.value (field bs offset 1))

def word16 (bs : Bytes) (offset : Nat) : UInt16 := Bytes.toWord16 (field bs offset 2)

def word32 (bs : Bytes) (offset : Nat) : UInt32 := Bytes.toWord32 (field bs offset 4)

def word64 (bs : Bytes) (offset : Nat) : UInt64 := Bytes.toWord64 (field bs offset 8)

def raw (n : Nat) (bs : Bytes) (offset : Nat) : Vector UInt8 n := Bytes.fixed n (field bs offset n)

def words32 (n : Nat) (bs : Bytes) (offset : Nat) : Vector UInt32 n :=
  Vector.ofFn fun i => word32 bs (offset + 4 * i.val)

def address (bs : Bytes) (offset : Nat) : Address where
  family := word16 bs offset
  hostType := byte bs (offset + 2)
  filler := byte bs (offset + 3)
  hostId := raw 8 bs (offset + 4)
  deviceId := word32 bs (offset + 12)
  set := word16 bs (offset + 16)
  channel := word16 bs (offset + 18)
  name := raw 12 bs (offset + 20)

def stamp (bs : Bytes) (offset : Nat) : Stamp where
  seconds := word64 bs offset
  ticks := word64 bs (offset + 8)
  bins := word64 bs (offset + 16)

def snapshot (bs : Bytes) (offset : Nat) : Snapshot where
  standardMask := word16 bs offset
  unused := word16 bs (offset + 2)
  extendedMask := word32 bs (offset + 4)
  standard := words32 16 bs (offset + 8)
  extended := words32 32 bs (offset + 72)

def extension (bs : Bytes) (offset : Nat) : Extension where
  kind := word32 bs offset
  length := word32 bs (offset + 4)
  payload := raw 8 bs (offset + 8)

def extensionsOffset : Nat := 496

/-- `n` extension entries, one after the other. -/
def extensions (n : Nat) (bs : Bytes) (offset : Nat) : List Extension :=
  (List.range n).map fun k => extension bs (offset + extensionSize * k)

/-- The whole record, with every complete extension entry. -/
def header (bs : Bytes) : Header where
  major := byte bs 0
  minor := byte bs 1
  busAlarms := byte bs 2
  driverAlarms := byte bs 3
  sequence := word32 bs 4
  sampleCount := word32 bs 8
  sampleSize := word16 bs 12
  sampleBits := word16 bs 14
  address := address bs 16
  stamp := stamp bs 48
  memoryOffset := word32 bs 72
  reserved := word32 bs 76
  flags := word32 bs 80
  trigger := raw 12 bs 84
  channelSnapshot := snapshot bs 96
  triggerSnapshot := snapshot bs 296
  extensions := extensions ((bs.length - extensionsOffset) / extensionSize) bs extensionsOffset

/-! What the cursor does after `offset` bytes of a record. -/

theorem run_bind {α β : Type} (x : Cursor α) (f : α → Cursor β) (bs : Bytes) :
    (x >>= f) bs = f (x bs).1 (x bs).2 := rfl

theorem run_pure {α : Type} (a : α) (bs : Bytes) : (pure a : Cursor α) bs = (a, bs) := rfl

theorem run_byte (bs : Bytes) (offset : Nat) :
    Cursor.byte (bs.drop offset) = (byte bs offset, bs.drop (offset + 1)) := by
  show (_, (bs.drop offset).drop 1) = _
  rw [List.drop_drop]
  rfl

theorem run_word16 (bs : Bytes) (offset : Nat) :
    Cursor.word16 (bs.drop offset) = (word16 bs offset, bs.drop (offset + 2)) := by
  show (_, (bs.drop offset).drop 2) = _
  rw [List.drop_drop]
  rfl

theorem run_word32 (bs : Bytes) (offset : Nat) :
    Cursor.word32 (bs.drop offset) = (word32 bs offset, bs.drop (offset + 4)) := by
  show (_, (bs.drop offset).drop 4) = _
  rw [List.drop_drop]
  rfl

theorem run_word64 (bs : Bytes) (offset : Nat) :
    Cursor.word64 (bs.drop offset) = (word64 bs offset, bs.drop (offset + 8)) := by
  show (_, (bs.drop offset).drop 8) = _
  rw [List.drop_drop]
  rfl

theorem run_raw (n : Nat) (bs : Bytes) (offset : Nat) :
    Cursor.raw n (bs.drop offset) = (raw n bs offset, bs.drop (offset + n)) := by
  show (_, (bs.drop offset).drop n) = _
  rw [List.drop_drop]
  rfl

theorem run_words32 (n : Nat) (bs : Bytes) (offset : Nat) :
    Cursor.words32 n (bs.drop offset) = (words32 n bs offset, bs.drop (offset + 4 * n)) := by
  induction n with
  | zero => rfl
  | succ n ih =>
    show ((Cursor.words32 n (bs.drop offset)).1.push
        (Cursor.word32 (Cursor.words32 n (bs.drop offset)).2).1,
      (Cursor.word32 (Cursor.words32 n (bs.drop offset)).2).2) = _
    rw [ih, run_word32, words32, words32, Vector.ofFn_succ]
    rfl

theorem run_address (bs : Bytes) (offset : Nat) :
    Cursor.address (bs.drop offset) = (address bs offset, bs.drop (offset + 32)) := by
  simp only [Cursor.address, run_bind, run_pure, run_word16, run_byte, run_raw, run_word32]
  rfl

theorem run_stamp (bs : Bytes) (offset : Nat) :
    Cursor.stamp (bs.drop offset) = (stamp bs offset, bs.drop (offset + 24)) := by
  simp only [Cursor.stamp, run_bind, run_pure, run_word64]
  rfl

theorem run_snapshot (bs : Bytes) (offset : Nat) :
    Cursor.snapshot (bs.drop offset) = (snapshot bs offset, bs.drop (offset + 200)) := by
  simp only [Cursor.snapshot, run_bind, run_pure, run_word16, run_word32, run_words32]
  rfl

theorem run_extension (bs : Bytes) (offset : Nat) :
    Cursor.extension (bs.drop offset) =
      (extension bs offset, bs.drop (offset + extensionSize)) := by
  simp only [Cursor.extension, run_bind, run_pure, run_word32, run_raw]
  rfl

/-- What is left of the bytes decides how many entries there are. -/
theorem run_extensions (bs : Bytes) (offset : Nat) :
    (Cursor.extensions (bs.drop offset)).1 =
      extensions ((bs.length - offset) / extensionSize) bs offset := by
  generalize hcount : (bs.length - offset) / extensionSize = n
  induction n generalizing offset with
  | zero =>
    have hless := (Nat.div_eq_zero_iff.mp hcount).resolve_left (by decide)
    rw [Cursor.extensions, if_neg (by rw [List.length_drop]; omega)]
    rfl
  | succ n ih =>
    have hsize : extensionSize = 16 := rfl
    rw [hsize] at hcount
    have hrest : (bs.length - (offset + extensionSize)) / extensionSize = n := by
      rw [hsize]
      omega
    have hplace : ∀ k, offset + extensionSize + extensionSize * k =
        offset + extensionSize * (k + 1) := by
      intro k
      rw [Nat.mul_succ]
      omega
    rw [Cursor.extensions, if_pos (by rw [List.length_drop]; omega), run_extension]
    simp only [ih _ hrest, extensions, List.range_succ_eq_map, List.map_cons, List.map_map, hplace]
    rfl

/-- The cursor reads what stands at the offsets. -/
theorem run_header (bs : Bytes) : (Cursor.header bs).1 = header bs := by
  conv => lhs; rw [← List.drop_zero (l := bs)]
  simp only [Cursor.header, run_bind, run_pure, run_byte, run_word16, run_word32, run_raw, run_address,
    run_stamp, run_snapshot, run_extensions]
  rfl

end DaqBus.Control.Layout

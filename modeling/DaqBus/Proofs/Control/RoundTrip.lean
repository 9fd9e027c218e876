import DaqBus.Control.Layout

/-!
# Writing a control record and reading it back

Each reader of the cursor takes exactly the bytes that the writer of the same field put in front, and
leaves what follows. Put together field by field this is the round trip of a whole record: after the
fields the reader goes on until less than an entry is left, and so finds the entries that were written,
whatever shorter tail follows them.
-/

namespace DaqBus

namespace Bytes

theorem toWord16_ofWord16 (w : UInt16) : toWord16 (ofWord16 w) = w := by
  have hlt : w.toNat < capacity 2 := w.toNat_lt
  rw [toWord16, ofWord16, value_digits, Nat.mod_eq_of_lt hlt, UInt16.ofNat_toNat]

theorem toWord32_ofWord32 (w : UInt32) : toWord32 (ofWord32 w) = w := by
  have hlt : w.toNat < capacity 4 := w.toNat_lt
  rw [toWord32, ofWord32, value_digits, Nat.mod_eq_of_lt hlt, UInt32.ofNat_toNat]

theorem toWord64_ofWord64 (w : UInt64) : toWord64 (ofWord64 w) = w := by
  have hlt : w.toNat < capacity 8 := w.toNat_lt
  rw [toWord64, ofWord64, value_digits, Nat.mod_eq_of_lt hlt, UInt64.ofNat_toNat]

@[simp]
theorem length_ofWord16 (w : UInt16) : (ofWord16 w).length = 2 := length_digits 2 _

@[simp]
theorem length_ofWord32 (w : UInt32) : (ofWord32 w).length = 4 := length_digits 4 _

@[simp]
theorem length_ofWord64 (w : UInt64) : (ofWord64 w).length = 8 := length_digits 8 _

theorem fixed_toList {n : Nat} (v : Vector UInt8 n) : fixed n v.toList = v := by
  apply Vector.toList_inj.mp
  have hfit : fit n v.toList = v.toList := by
    simp [fit, List.take_of_length_le]
  simpa [fixed, Vector.toList] using hfit

theorem length_flatMap_of_width {α : Type} {width : Nat} {write : α → Bytes}
    (hwidth : ∀ a, (write a).length = width) (values : List α) :
    (values.flatMap write).length = width * values.length := by
  induction values with
  | nil => rfl
  | cons a values ih =>
      rw [List.flatMap_cons, List.length_append, hwidth, ih, List.length_cons, Nat.mul_succ,
        Nat.add_comm]

end Bytes

namespace Control

open Layout (run_bind run_pure)

namespace Cursor

theorem run_eq {α : Type} (reader : Cursor α) (bs : Bytes) : reader.run bs = reader bs := rfl

theorem next_append {n : Nat} {bs : Bytes} (hlength : bs.length = n) (rest : Bytes) :
    next n (bs ++ rest) = (bs, rest) := by
  rw [next, List.take_left' hlength, List.drop_left' hlength]

theorem byte_cons (b : UInt8) (rest : Bytes) : byte (b :: rest) = (b, rest) := by
  have hvalue : UInt8.ofNat (Bytes.value [b]) = b := by
    simp [Bytes.value]
  show (UInt8.ofNat (Bytes.value [b]), rest) = (b, rest)
  rw [hvalue]

theorem word16_append (w : UInt16) (rest : Bytes) :
    word16 (Bytes.ofWord16 w ++ rest) = (w, rest) := by
  rw [word16, run_bind, next_append (Bytes.length_ofWord16 w), run_pure, Bytes.toWord16_ofWord16]

theorem word32_append (w : UInt32) (rest : Bytes) :
    word32 (Bytes.ofWord32 w ++ rest) = (w, rest) := by
  rw [word32, run_bind, next_append (Bytes.length_ofWord32 w), run_pure, Bytes.toWord32_ofWord32]

theorem word64_append (w : UInt64) (rest : Bytes) :
    word64 (Bytes.ofWord64 w ++ rest) = (w, rest) := by
  rw [word64, run_bind, next_append (Bytes.length_ofWord64 w), run_pure, Bytes.toWord64_ofWord64]

theorem raw_append {n : Nat} (v : Vector UInt8 n) (rest : Bytes) :
    raw n (v.toList ++ rest) = (v, rest) := by
  rw [raw, run_bind, next_append v.length_toList, run_pure, Bytes.fixed_toList]

/-- The words of a vector are read from the front, so the induction takes the last one off. -/
theorem words32_append {n : Nat} (v : Vector UInt32 n) (rest : Bytes) :
    words32 n (v.toList.flatMap Bytes.ofWord32 ++ rest) = (v, rest) := by
  induction n generalizing rest with
  | zero =>
      have hv : v = #v[] := Vector.eq_empty
      subst hv
      rfl
  | succ n ih =>
      have hrebuilt : (v.pop.push v.back).toList.flatMap Bytes.ofWord32 =
          v.toList.flatMap Bytes.ofWord32 := by
        rw [Vector.push_pop_back]
      have hsplit : v.toList.flatMap Bytes.ofWord32 ++ rest =
          v.pop.toList.flatMap Bytes.ofWord32 ++ (Bytes.ofWord32 v.back ++ rest) := by
        rw [← hrebuilt, Vector.toList_push, List.flatMap_append, List.flatMap_singleton,
          List.append_assoc]
      rw [hsplit, words32, run_bind, ih v.pop, run_bind, word32_append, run_pure,
        Vector.push_pop_back]

theorem address_append (a : Address) (rest : Bytes) : address (a.encode ++ rest) = (a, rest) := by
  simp only [address, Address.encode, List.append_assoc, List.cons_append, List.nil_append, run_bind,
    run_pure, word16_append, byte_cons, raw_append, word32_append]

theorem stamp_append (s : Stamp) (rest : Bytes) : stamp (s.encode ++ rest) = (s, rest) := by
  simp only [stamp, Stamp.encode, List.append_assoc, run_bind, run_pure, word64_append]

theorem snapshot_append (s : Snapshot) (rest : Bytes) :
    snapshot (s.encode ++ rest) = (s, rest) := by
  simp only [snapshot, Snapshot.encode, List.append_assoc, run_bind, run_pure, word16_append,
    word32_append, words32_append]

theorem extension_append (e : Extension) (rest : Bytes) :
    extension (e.encode ++ rest) = (e, rest) := by
  simp only [extension, Extension.encode, List.append_assoc, run_bind, run_pure, word32_append,
    raw_append]

end Cursor

/-! ### How long the written parts are -/

@[simp]
theorem Address.length_encode (a : Address) : a.encode.length = 32 := by
  simp [Address.encode]

@[simp]
theorem Stamp.length_encode (s : Stamp) : s.encode.length = 24 := by
  simp [Stamp.encode]

@[simp]
theorem Snapshot.length_encode (s : Snapshot) : s.encode.length = 200 := by
  simp only [Snapshot.encode, List.length_append, Bytes.length_ofWord16, Bytes.length_ofWord32,
    Bytes.length_flatMap_of_width Bytes.length_ofWord32, Vector.length_toList]

@[simp]
theorem Extension.length_encode (e : Extension) : e.encode.length = extensionSize := by
  simp [Extension.encode, extensionSize]

theorem length_encode_extensions (entries : List Extension) :
    (entries.flatMap Extension.encode).length = extensionSize * entries.length :=
  Bytes.length_flatMap_of_width Extension.length_encode entries

namespace Header

@[simp]
theorem length_encodeFields (h : Header) : h.encodeFields.length = recordSize - extensionSize := by
  simp [encodeFields, recordSize, extensionSize]

theorem length_writtenExtensions (h : Header) :
    h.writtenExtensions.length = max h.extensions.length 1 := by
  rw [writtenExtensions]
  split
  · simp [*]
  · have hpos : 0 < h.extensions.length := List.length_pos_iff.mpr ‹_›
    omega

theorem length_encode (h : Header) : h.encode.length = h.encodedLength := by
  rw [encode, List.length_append, length_encodeFields, length_encode_extensions,
    length_writtenExtensions, encodedLength]

theorem recordSize_le_length_encode (h : Header) : recordSize ≤ h.encode.length := by
  rw [length_encode, encodedLength, recordSize, extensionSize]
  omega

/-- The record that a reader finds for a written one: an empty list of extension entries was written
as one zero entry. -/
def asRead (h : Header) : Header := { h with extensions := h.writtenExtensions }

theorem asRead_of_extensions {h : Header} (hne : h.extensions ≠ []) : h.asRead = h := by
  rw [asRead, writtenExtensions, if_neg hne]

theorem asRead_of_nil {h : Header} (hnil : h.extensions = []) :
    h.asRead = { h with extensions := [{}] } := by
  rw [asRead, writtenExtensions, if_pos hnil]

end Header

/-- Every entry that was written is found, and no more than these. -/
theorem Cursor.extensions_append (entries : List Extension) {tail : Bytes}
    (htail : tail.length < extensionSize) :
    extensions (entries.flatMap Extension.encode ++ tail) = (entries, tail) := by
  induction entries with
  | nil =>
      rw [List.flatMap_nil, List.nil_append, extensions, if_neg (Nat.not_le.mpr htail)]
  | cons entry entries ih =>
      have hwhole : extensionSize ≤ ((entry :: entries).flatMap Extension.encode ++ tail).length := by
        rw [List.flatMap_cons, List.append_assoc, List.length_append, Extension.length_encode]
        exact Nat.le_add_right _ _
      rw [extensions, if_pos hwhole, List.flatMap_cons, List.append_assoc, extension_append]
      show (entry :: (extensions (entries.flatMap Extension.encode ++ tail)).1, _) = _
      rw [ih]

/-- After the fields the reader takes every entry that was written and leaves the tail. -/
theorem Cursor.header_append (h : Header) (entries : List Extension) {tail : Bytes}
    (htail : tail.length < extensionSize) :
    Cursor.header (h.encodeFields ++ (entries.flatMap Extension.encode ++ tail)) =
      ({ h with extensions := entries }, tail) := by
  simp only [Cursor.header, Header.encodeFields, List.append_assoc, List.cons_append,
    List.nil_append, run_bind, run_pure, byte_cons, word32_append, word16_append, address_append,
    stamp_append, raw_append, snapshot_append, extensions_append entries htail]

theorem Header.decode_of_length {bs : Bytes} (hlength : recordSize ≤ bs.length) :
    Header.decode bs = .ok (Cursor.header bs).1 := by
  rw [Header.decode, if_neg (Nat.not_lt.mpr hlength), Cursor.run_eq]

theorem Header.decode_append (h : Header) {tail : Bytes} (htail : tail.length < extensionSize) :
    Header.decode (h.encode ++ tail) = .ok h.asRead := by
  have hlength : recordSize ≤ (h.encode ++ tail).length := by
    rw [List.length_append]
    exact Nat.le_add_right_of_le h.recordSize_le_length_encode
  rw [Header.decode_of_length hlength, Header.encode, List.append_assoc,
    Cursor.header_append h h.writtenExtensions htail, Header.asRead]

theorem Header.decode_encode (h : Header) : Header.decode h.encode = .ok h.asRead := by
  have hnil : ([] : Bytes).length < extensionSize := by decide
  rw [← List.append_nil h.encode, h.decode_append hnil]

/-- **The round trip of a record.** What is written has the announced length, and reads back as the
record that was written, whatever incomplete entry follows it. -/
theorem Header.decode_encode_append (h : Header) (tail : Bytes)
    (htail : tail.length < extensionSize) :
    h.encode.length = h.encodedLength ∧
      Header.decode (h.encode ++ tail) =
        .ok (if h.extensions = [] then { h with extensions := [{}] } else h) := by
  refine ⟨h.length_encode, ?_⟩
  rw [h.decode_append htail]
  by_cases hnil : h.extensions = []
  · rw [if_pos hnil, Header.asRead_of_nil hnil]
  · rw [if_neg hnil, Header.asRead_of_extensions hnil]

theorem Header.decode_encode_append_short :
    ([255, 255, 255] : Bytes).length < extensionSize ∧
      Header.decode (({ sequence := 7, sampleSize := 2 } : Header).encode ++ [255, 255, 255]) =
        .ok { sequence := 7, sampleSize := 2, extensions := [{}] } := by
  have htail : ([255, 255, 255] : Bytes).length < extensionSize := by decide
  exact ⟨htail, (Header.decode_encode_append { sequence := 7, sampleSize := 2 } _ htail).2⟩

end Control

end DaqBus

import DaqBus.Proofs.Control.RoundTrip

/-!
# Records of the fixed size

Streams and attribute files are read in records of one size, which has room for one extension entry.
This is the part of a written record that such a read sees, and what it decodes to.
-/

namespace DaqBus.Control

namespace Header

/-- The part of a record that the fixed size has room for: the first extension entry stays. -/
def inRecord (h : Header) : Header := { h with extensions := h.writtenExtensions.take 1 }

theorem writtenExtensions_ne_nil (h : Header) : h.writtenExtensions ≠ [] := by
  rw [writtenExtensions]
  split
  · exact List.cons_ne_nil _ _
  · assumption

theorem length_inRecord (h : Header) : h.inRecord.extensions.length = 1 := by
  have hpos : 0 < h.writtenExtensions.length := List.length_pos_iff.mpr h.writtenExtensions_ne_nil
  show (h.writtenExtensions.take 1).length = 1
  rw [List.length_take]
  omega

theorem inRecord_extensions_ne_nil (h : Header) : h.inRecord.extensions ≠ [] := by
  intro hnil
  have hlength := h.length_inRecord
  rw [hnil] at hlength
  cases hlength

theorem take_encode (h : Header) : h.encode.take recordSize = h.inRecord.encode := by
  have hwritten : h.inRecord.writtenExtensions = h.writtenExtensions.take 1 := by
    rw [writtenExtensions, if_neg h.inRecord_extensions_ne_nil]
    rfl
  have hfields : h.inRecord.encodeFields = h.encodeFields := rfl
  obtain ⟨entry, entries, hentries⟩ := List.exists_cons_of_ne_nil h.writtenExtensions_ne_nil
  rw [encode, encode, hwritten, hfields, hentries, List.flatMap_cons, List.take_succ_cons,
    List.take_zero, List.flatMap_singleton, ← List.append_assoc]
  apply List.take_left'
  rw [List.length_append, length_encodeFields, Extension.length_encode]
  rfl

theorem length_encode_inRecord (h : Header) : h.inRecord.encode.length = recordSize := by
  rw [← take_encode, List.length_take]
  exact Nat.min_eq_left h.recordSize_le_length_encode

theorem decode_inRecord (h : Header) : Header.decode h.inRecord.encode = .ok h.inRecord := by
  rw [decode_encode, asRead_of_extensions h.inRecord_extensions_ne_nil]

/-- Nothing of a record is lost in the fixed size exactly when it has at most one entry. -/
theorem inRecord_eq_asRead_iff (h : Header) :
    h.inRecord = h.asRead ↔ h.extensions.length ≤ 1 := by
  have hwritten := h.length_writtenExtensions
  constructor
  · intro heq
    have hlength : h.inRecord.extensions.length = h.writtenExtensions.length := by
      rw [heq, asRead]
    rw [length_inRecord] at hlength
    omega
  · intro hone
    rw [inRecord, asRead, List.take_of_length_le (by omega)]

theorem drop_encode_eq_nil_iff (h : Header) :
    h.encode.drop recordSize = [] ↔ h.extensions.length ≤ 1 := by
  rw [List.drop_eq_nil_iff, length_encode, encodedLength, recordSize, extensionSize]
  omega

end Header

end DaqBus.Control

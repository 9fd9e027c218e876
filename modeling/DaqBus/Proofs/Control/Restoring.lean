import DaqBus.Proofs.Control.RoundTrip

/-!
# Reading a control record and writing it back

Every byte of a record belongs to exactly one field, padding and reserved words included. So each field
that stands at its offset is written as the bytes found there, neighbours join, and the whole record is
written as the bytes it was read from, less an incomplete extension entry at their end.
-/

namespace DaqBus

namespace Bytes

theorem toNat_byte {bs : Bytes} (hlength : bs.length = 1) : (UInt8.ofNat (value bs)).toNat = value bs := by
  have hvalue : value bs < 2 ^ 8 := by
    have hlt := value_lt bs
    rwa [hlength] at hlt
  rw [UInt8.toNat_ofNat', Nat.mod_eq_of_lt hvalue]

theorem toNat_toWord16 {bs : Bytes} (hlength : bs.length = 2) : (toWord16 bs).toNat = value bs := by
  have hvalue : value bs < 2 ^ 16 := by
    have hlt := value_lt bs
    rwa [hlength] at hlt
  rw [toWord16, UInt16.toNat_ofNat', Nat.mod_eq_of_lt hvalue]

theorem toNat_toWord32 {bs : Bytes} (hlength : bs.length = 4) : (toWord32 bs).toNat = value bs := by
  have hvalue : value bs < 2 ^ 32 := by
    have hlt := value_lt bs
    rwa [hlength] at hlt
  rw [toWord32, UInt32.toNat_ofNat', Nat.mod_eq_of_lt hvalue]

theorem toNat_toWord64 {bs : Bytes} (hlength : bs.length = 8) : (toWord64 bs).toNat = value bs := by
  have hvalue : value bs < 2 ^ 64 := by
    have hlt := value_lt bs
    rwa [hlength] at hlt
  rw [toWord64, UInt64.toNat_ofNat', Nat.mod_eq_of_lt hvalue]

theorem ofWord16_toWord16 {bs : Bytes} (hlength : bs.length = 2) : ofWord16 (toWord16 bs) = bs := by
  rw [ofWord16, toNat_toWord16 hlength, ← hlength, digits_value]

theorem ofWord32_toWord32 {bs : Bytes} (hlength : bs.length = 4) : ofWord32 (toWord32 bs) = bs := by
  rw [ofWord32, toNat_toWord32 hlength, ← hlength, digits_value]

theorem ofWord64_toWord64 {bs : Bytes} (hlength : bs.length = 8) : ofWord64 (toWord64 bs) = bs := by
  rw [ofWord64, toNat_toWord64 hlength, ← hlength, digits_value]

theorem toList_fixed {n : Nat} {bs : Bytes} (hlength : bs.length = n) : (fixed n bs).toList = bs := by
  show fit n bs = bs
  rw [fit, List.take_of_length_le (Nat.le_of_eq hlength), hlength, Nat.sub_self, List.replicate_zero,
    List.append_nil]

end Bytes

namespace Control

namespace Layout

variable {bs : Bytes} {offset next m n : Nat}

/-! ### Fields -/

theorem length_field (h : offset + n ≤ bs.length) : (field bs offset n).length = n := by
  rw [field, List.length_take, List.length_drop]
  omega

theorem field_drop (bs : Bytes) (place offset n : Nat) :
    field (bs.drop place) offset n = field bs (place + offset) n := by
  rw [field, field, List.drop_drop]

theorem field_append (hnext : offset + m = next) :
    field bs offset m ++ field bs next n = field bs offset (m + n) := by
  rw [field, field, field, ← hnext, ← List.drop_drop, ← List.take_add]

theorem cons_field (h : offset < bs.length) (hnext : offset + 1 = next) :
    byte bs offset :: field bs next n = field bs offset (1 + n) := by
  have hbyte : [byte bs offset] = field bs offset 1 := by
    rw [byte, field, List.drop_eq_getElem_cons h, List.take_succ_cons, List.take_zero]
    simp [Bytes.value]
  rw [← field_append hnext, ← hbyte, List.singleton_append]

theorem ofWord16_word16 (h : offset + 2 ≤ bs.length) :
    Bytes.ofWord16 (word16 bs offset) = field bs offset 2 :=
  Bytes.ofWord16_toWord16 (length_field h)

theorem ofWord32_word32 (h : offset + 4 ≤ bs.length) :
    Bytes.ofWord32 (word32 bs offset) = field bs offset 4 :=
  Bytes.ofWord32_toWord32 (length_field h)

theorem ofWord64_word64 (h : offset + 8 ≤ bs.length) :
    Bytes.ofWord64 (word64 bs offset) = field bs offset 8 :=
  Bytes.ofWord64_toWord64 (length_field h)

theorem toList_raw (h : offset + n ≤ bs.length) : (raw n bs offset).toList = field bs offset n :=
  Bytes.toList_fixed (length_field h)

/-- Words are written in order, so the induction takes the last one off. -/
theorem flatMap_words32 (h : offset + 4 * n ≤ bs.length) :
    (words32 n bs offset).toList.flatMap Bytes.ofWord32 = field bs offset (4 * n) := by
  induction n with
  | zero => rfl
  | succ n ih =>
      have hsplit : words32 (n + 1) bs offset =
          (words32 n bs offset).push (word32 bs (offset + 4 * n)) := Vector.ofFn_succ
      rw [hsplit, Vector.toList_push, List.flatMap_append, List.flatMap_singleton, ih (by omega),
        ofWord32_word32 (by omega), field_append rfl, Nat.mul_succ]

/-! ### Parts -/

theorem encode_address (h : offset + 32 ≤ bs.length) :
    (address bs offset).encode = field bs offset 32 := by
  have hbytes : [byte bs (offset + 2), byte bs (offset + 3)] = field bs (offset + 2) 2 := by
    show _ :: _ :: field bs (offset + 4) 0 = _
    rw [cons_field (by omega) rfl, cons_field (by omega) rfl]
  simp (disch := omega) only [Address.encode, address, hbytes, ofWord16_word16, ofWord32_word32,
    toList_raw, field_append, Nat.reduceAdd]

theorem encode_stamp (h : offset + 24 ≤ bs.length) : (stamp bs offset).encode = field bs offset 24 := by
  simp (disch := omega) only [Stamp.encode, stamp, ofWord64_word64, field_append, Nat.reduceAdd]

theorem encode_snapshot (h : offset + 200 ≤ bs.length) :
    (snapshot bs offset).encode = field bs offset 200 := by
  simp (disch := omega) only [Snapshot.encode, snapshot, ofWord16_word16, ofWord32_word32,
    flatMap_words32, field_append, Nat.reduceAdd, Nat.reduceMul]

theorem encode_extension (h : offset + extensionSize ≤ bs.length) :
    (extension bs offset).encode = field bs offset extensionSize := by
  rw [extensionSize] at h ⊢
  simp (disch := omega) only [Extension.encode, extension, ofWord32_word32, toList_raw, field_append,
    Nat.reduceAdd]

theorem flatMap_extensions (h : offset + extensionSize * n ≤ bs.length) :
    (extensions n bs offset).flatMap Extension.encode = field bs offset (extensionSize * n) := by
  induction n with
  | zero => rfl
  | succ n ih =>
      rw [Nat.mul_succ] at h ⊢
      have hsplit : extensions (n + 1) bs offset =
          extensions n bs offset ++ [extension bs (offset + extensionSize * n)] := by
        rw [extensions, List.range_succ, List.map_append]
        rfl
      rw [hsplit, List.flatMap_append, List.flatMap_singleton, ih (by omega),
        encode_extension (by omega), field_append rfl]

theorem encodeFields_header (h : extensionsOffset ≤ bs.length) :
    (header bs).encodeFields = field bs 0 extensionsOffset := by
  rw [extensionsOffset] at h ⊢
  have hbytes : [byte bs 0, byte bs 1, byte bs 2, byte bs 3] = field bs 0 4 := by
    show _ :: _ :: _ :: _ :: field bs 4 0 = _
    rw [cons_field (by omega) rfl, cons_field (by omega) rfl, cons_field (by omega) rfl,
      cons_field (by omega) rfl]
  simp (disch := omega) only [Header.encodeFields, header, hbytes, ofWord16_word16, ofWord32_word32,
    toList_raw, encode_address, encode_stamp, encode_snapshot, field_append, Nat.reduceAdd]

end Layout

namespace Header

open Layout (extensionsOffset)

/-- How many of some bytes are fields or whole extension entries. -/
def wholeLength (length : Nat) : Nat :=
  extensionsOffset + extensionSize * ((length - extensionsOffset) / extensionSize)

variable {bs cs : Bytes}

theorem wholeLength_le (hlength : extensionsOffset ≤ bs.length) : wholeLength bs.length ≤ bs.length := by
  have hentries := Nat.mul_div_le (bs.length - extensionsOffset) extensionSize
  rw [wholeLength]
  omega

theorem length_drop_wholeLength (bs : Bytes) :
    (bs.drop (wholeLength bs.length)).length < extensionSize := by
  have hrest := Nat.mod_lt (bs.length - extensionsOffset) (show extensionSize > 0 by decide)
  have hentries := Nat.mod_add_div (bs.length - extensionsOffset) extensionSize
  rw [List.length_drop, wholeLength]
  omega

/-- A record has room for one entry, so none has to be made up. -/
theorem extensions_layout_ne_nil (hlength : recordSize ≤ bs.length) :
    (Layout.header bs).extensions ≠ [] := by
  have hcount : 0 < (bs.length - extensionsOffset) / extensionSize := by
    apply Nat.div_pos _ (by decide)
    rw [recordSize] at hlength
    rw [extensionsOffset, extensionSize]
    omega
  rw [← List.length_pos_iff]
  show 0 < ((List.range _).map _).length
  rwa [List.length_map, List.length_range]

theorem encode_layout (hlength : recordSize ≤ bs.length) :
    (Layout.header bs).encode = bs.take (wholeLength bs.length) := by
  have hfields : extensionsOffset ≤ bs.length := Nat.le_trans (by decide) hlength
  have hwritten : (Layout.header bs).writtenExtensions = (Layout.header bs).extensions :=
    if_neg (extensions_layout_ne_nil hlength)
  have hentries : (Layout.header bs).extensions.flatMap Extension.encode =
      Layout.field bs extensionsOffset
        (extensionSize * ((bs.length - extensionsOffset) / extensionSize)) :=
    Layout.flatMap_extensions (wholeLength_le hfields)
  rw [encode, Layout.encodeFields_header hfields, hwritten, hentries,
    Layout.field_append (Nat.zero_add _)]
  rfl

theorem decode_eq_layout (hlength : recordSize ≤ bs.length) :
    Header.decode bs = .ok (Layout.header bs) := by
  rw [decode_of_length hlength, Layout.run_header]

theorem decode_eq_error_iff {fault : Malformed} :
    Header.decode bs = .error fault ↔ bs.length < recordSize ∧ fault = ⟨recordSize, bs.length⟩ := by
  rw [Header.decode]
  by_cases hshort : bs.length < recordSize
  · rw [if_pos hshort]
    simp [hshort, eq_comm]
  · rw [if_neg hshort]
    simp [hshort]

/-- Records that were read are the same if they are written the same. -/
theorem layout_eq_iff (hbs : recordSize ≤ bs.length) (hcs : recordSize ≤ cs.length) :
    Layout.header bs = Layout.header cs ↔
      bs.take (wholeLength bs.length) = cs.take (wholeLength cs.length) := by
  rw [← encode_layout hbs, ← encode_layout hcs]
  constructor
  · exact congrArg encode
  · intro heq
    have hread := (Layout.header bs).decode_encode
    rw [heq, decode_encode, asRead_of_extensions (extensions_layout_ne_nil hbs),
      asRead_of_extensions (extensions_layout_ne_nil hcs)] at hread
    exact (Except.ok.inj hread).symm

/-- **Reading loses nothing.** Only bytes that are too few for a record are refused. What is read from
any others is written as they were, up to an entry that is incomplete at their end, so it is the same
for two byte strings exactly when they agree that far. -/
theorem encode_of_decode (bs : Bytes) :
    (∀ fault, Header.decode bs = .error fault ↔
      bs.length < recordSize ∧ fault = ⟨recordSize, bs.length⟩) ∧
    (recordSize ≤ bs.length → ∃ h, Header.decode bs = .ok h ∧
      h.encode = bs.take (wholeLength bs.length) ∧
      (bs.drop (wholeLength bs.length)).length < extensionSize) ∧
    ∀ cs : Bytes, recordSize ≤ bs.length → recordSize ≤ cs.length →
      (Header.decode bs = Header.decode cs ↔
        bs.take (wholeLength bs.length) = cs.take (wholeLength cs.length)) := by
  refine ⟨fun fault => decode_eq_error_iff, ?_, ?_⟩
  · intro hlength
    exact ⟨Layout.header bs, decode_eq_layout hlength, encode_layout hlength,
      length_drop_wholeLength bs⟩
  · intro cs hbs hcs
    rw [decode_eq_layout hbs, decode_eq_layout hcs, Except.ok.injEq, layout_eq_iff hbs hcs]

/-- Two byte strings that differ only in an incomplete entry are the same record. -/
theorem encode_of_decode_incomplete :
    recordSize ≤ (List.replicate 529 7 : Bytes).length ∧
      (∃ h, Header.decode (List.replicate 530 7) = .ok h ∧ h.encode = List.replicate 528 7) ∧
      Header.decode (List.replicate 530 7) = Header.decode (List.replicate 529 7) := by
  have hlength (n : Nat) : (List.replicate n 7 : Bytes).length = n := List.length_replicate
  have hrecord {n : Nat} (hn : 512 ≤ n) : recordSize ≤ (List.replicate n 7 : Bytes).length := by
    rwa [hlength]
  obtain ⟨-, hread, hsame⟩ := encode_of_decode (List.replicate 530 7)
  obtain ⟨h, hdecode, hencode, -⟩ := hread (hrecord (by decide))
  refine ⟨hrecord (by decide), ⟨h, hdecode, ?_⟩, ?_⟩
  · rw [hencode, hlength, List.take_replicate]
    rfl
  · rw [hsame _ (hrecord (by decide)) (hrecord (by decide)), hlength, hlength, List.take_replicate,
      List.take_replicate]
    rfl

end Header

end Control

end DaqBus

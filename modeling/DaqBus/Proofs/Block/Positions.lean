import DaqBus.Control.Flags
import DaqBus.Proofs.Block.Restoring
import DaqBus.Proofs.Channel.Outcomes

/-!
# Samples by their positions

The decoder walks over a payload and takes one word after the other. What it finds can be said without
the walk: the sample with a number is the little-endian word that stands at that multiple of the width.
Only the two fields of a header that announce the payload have a part in it, and only the bytes that they
announce.
-/

namespace DaqBus

open Control

/-! ### Words -/

theorem Bytes.words_eq_map (width count : Nat) (bs : Bytes) :
    Bytes.words width count bs =
      (List.range count).map fun i => Layout.field bs (i * width) width := by
  induction count generalizing bs with
  | zero => rfl
  | succ count ih =>
      have hnext (i : Nat) :
          Layout.field (bs.drop width) (i * width) width = Layout.field bs ((i + 1) * width) width := by
        rw [Layout.field_drop, Nat.succ_mul, Nat.add_comm]
      have hfirst : bs.take width = Layout.field bs (0 * width) width := by
        rw [Layout.field, Nat.zero_mul, List.drop_zero]
      rw [Bytes.words, ih, List.range_succ_eq_map, List.map_cons, List.map_map, hfirst]
      exact congrArg _ (List.map_congr_left fun i _ => hnext i)

/-- Words that all lie in the bytes have the full width, so the number read from each is its own. -/
theorem Bytes.map_words_eq_map {width count : Nat} {bs : Bytes} {number : Bytes → Nat}
    (hnumber : ∀ word : Bytes, word.length = width → number word = Bytes.value word)
    (hlength : count * width ≤ bs.length) :
    (Bytes.words width count bs).map number =
      (List.range count).map fun i => Bytes.value (Layout.field bs (i * width) width) := by
  rw [words_eq_map, List.map_map]
  apply List.map_congr_left
  intro i hi
  apply hnumber
  apply Layout.length_field
  calc i * width + width = (i + 1) * width := (Nat.succ_mul i width).symm
    _ ≤ count * width := Nat.mul_le_mul_right width (List.mem_range.mp hi)
    _ ≤ bs.length := hlength

theorem Bytes.take_eq_map_words {count : Nat} {bs : Bytes} (hlength : count ≤ bs.length) :
    bs.take count = (Bytes.words 1 count bs).map fun word => UInt8.ofNat (Bytes.value word) := by
  have hbyte (word : Bytes) (hword : word.length = 1) : [UInt8.ofNat (Bytes.value word)] = word := by
    obtain ⟨b, rfl⟩ := List.length_eq_one_iff.mp hword
    simp [Bytes.value]
  have hjoined : ((Bytes.words 1 count bs).map fun word => UInt8.ofNat (Bytes.value word)).flatMap
      (fun b => [b]) = bs.take (count * 1) :=
    Bytes.flatMap_map_words hbyte count (by rwa [Nat.mul_one])
  rw [List.flatMap_singleton', Nat.mul_one] at hjoined
  exact hjoined.symm

theorem Control.isSampleSize_iff {size : UInt16} : isSampleSize size ↔ size.toNat ∈ [1, 2, 4, 8] := by
  simp [isSampleSize, ← UInt16.toNat_inj, or_assoc]

/-! ### Samples -/

namespace Samples

/-- The samples are the words of a payload, each at the multiple of the size that its number says. -/
structure WordsOf (samples : Samples) (payload : Bytes) (count size : Nat) : Prop where
  width : samples.width = size
  length : samples.length = count
  get? : ∀ i, (samples.get? i).map UInt64.toNat =
    if i < count then some (Bytes.value (Layout.field payload (i * size) size)) else none
  values : samples.values.map UInt64.toNat =
    (List.range count).map fun i => Bytes.value (Layout.field payload (i * size) size)
  toBytes : samples.toBytes = payload.take (count * size)

variable {h other : Header} {payload : Bytes} {samples : Samples}

theorem values_of_read? {size : UInt16} {count : Nat}
    (hread : Samples.read? size count payload = some samples)
    (hpayload : count * size.toNat ≤ payload.length) :
    samples.values.map UInt64.toNat = (List.range count).map fun i =>
      Bytes.value (Layout.field payload (i * size.toNat) size.toNat) := by
  rw [read?] at hread
  split_ifs at hread with hone htwo hfour height
  · cases hread
    subst hone
    have hcount : count ≤ payload.length := by
      rwa [show count * (1 : UInt16).toNat = count from Nat.mul_one count] at hpayload
    rw [values, Bytes.take_eq_map_words hcount, List.map_map, List.map_map]
    exact Bytes.map_words_eq_map (fun _ => Bytes.toNat_byte) hpayload
  · cases hread
    subst htwo
    rw [values, List.map_map, List.map_map]
    exact Bytes.map_words_eq_map (fun _ => Bytes.toNat_toWord16) hpayload
  · cases hread
    subst hfour
    rw [values, List.map_map, List.map_map]
    exact Bytes.map_words_eq_map (fun _ => Bytes.toNat_toWord32) hpayload
  · cases hread
    subst height
    rw [values, List.map_map]
    exact Bytes.map_words_eq_map (fun _ => Bytes.toNat_toWord64) hpayload

/-- The number of a sample is looked up among the numbers of all samples. -/
theorem WordsOf.of_values {count size : Nat} (hwidth : samples.width = size)
    (hlength : samples.length = count)
    (hvalues : samples.values.map UInt64.toNat =
      (List.range count).map fun i => Bytes.value (Layout.field payload (i * size) size))
    (hbytes : samples.toBytes = payload.take (count * size)) : samples.WordsOf payload count size := by
  refine ⟨hwidth, hlength, ?_, hvalues, hbytes⟩
  intro i
  rw [Samples.get?, ← List.getElem?_map, hvalues, List.getElem?_map]
  by_cases hi : i < count
  · rw [if_pos hi, List.getElem?_range hi, Option.map_some]
  · have hend : (List.range count)[i]? = none := by
      rw [List.getElem?_eq_none_iff, List.length_range]
      exact Nat.not_lt.mp hi
    rw [if_neg hi, hend, Option.map_none]

theorem exists_decode_wordsOf (hsize : isSampleSize h.sampleSize)
    (hpayload : h.payloadLength ≤ payload.length) :
    ∃ samples, Samples.decode h payload = .ok samples ∧
      samples.WordsOf payload h.sampleCount.toNat h.sampleSize.toNat := by
  obtain ⟨samples, hdecode⟩ := decode_of_sampleSize hsize hpayload
  have hannounced := announcedBy_of_decode hdecode
  refine ⟨samples, hdecode, .of_values hannounced.size.symm hannounced.count.symm ?_ ?_⟩
  · rw [Samples.decode, if_neg (by simp [hsize]), if_neg (Nat.not_lt.mpr hpayload)] at hdecode
    cases hread : Samples.read? h.sampleSize h.sampleCount.toNat payload with
    | none =>
        rw [hread] at hdecode
        cases hdecode
    | some found =>
        rw [hread] at hdecode
        cases hdecode
        exact values_of_read? hread hpayload
  · exact toBytes_of_decode hdecode

theorem decode_of_fields (hcount : other.sampleCount = h.sampleCount)
    (hsize : other.sampleSize = h.sampleSize) (payload : Bytes) :
    Samples.decode other payload = Samples.decode h payload := by
  have hlength : other.payloadLength = h.payloadLength := by
    rw [Header.payloadLength, Header.payloadLength, hcount, hsize]
  rw [Samples.decode, Samples.decode, hcount, hsize, hlength]

theorem decode_of_unsupported (hsize : ¬ isSampleSize h.sampleSize) (payload : Bytes) :
    Samples.decode h payload = .error (.unsupportedSampleSize h.sampleSize) := by
  rw [Samples.decode, if_pos (by simpa using hsize)]

/-- Payloads that agree as far as the header announces are either both cut short, and then they are the
same, or start with the bytes of the same samples. -/
theorem decode_of_take {changed : Bytes}
    (hsame : changed.take h.payloadLength = payload.take h.payloadLength) :
    Samples.decode h changed = Samples.decode h payload := by
  by_cases hsize : isSampleSize h.sampleSize
  · by_cases hshort : payload.length < h.payloadLength
    · rw [List.take_of_length_le (Nat.le_of_lt hshort)] at hsame
      have hlength := congrArg List.length hsame
      rw [List.length_take] at hlength
      rw [List.take_of_length_le (by omega)] at hsame
      rw [hsame]
    · obtain ⟨samples, hdecode, hwords⟩ := exists_decode_wordsOf hsize (Nat.not_lt.mp hshort)
      have hbytes : changed.take h.payloadLength = samples.toBytes :=
        hsame.trans hwords.toBytes.symm
      rw [hdecode, ← List.take_append_drop h.payloadLength changed, hbytes,
        decode_toBytes_append (announcedBy_of_decode hdecode)]
  · rw [decode_of_unsupported hsize, decode_of_unsupported hsize]

theorem decode_cases (h : Header) (payload : Bytes) :
    (h.sampleSize.toNat ∉ [1, 2, 4, 8] ∧
      Samples.decode h payload = .error (.unsupportedSampleSize h.sampleSize)) ∨
    (h.sampleSize.toNat ∈ [1, 2, 4, 8] ∧ payload.length < h.payloadLength ∧
      Samples.decode h payload = .error (.truncated h.payloadLength payload.length)) ∨
    (h.sampleSize.toNat ∈ [1, 2, 4, 8] ∧ h.payloadLength ≤ payload.length ∧
      ∃ samples, Samples.decode h payload = .ok samples ∧
        samples.WordsOf payload h.sampleCount.toNat h.sampleSize.toNat) := by
  rw [← isSampleSize_iff]
  by_cases hsize : isSampleSize h.sampleSize
  · by_cases hshort : payload.length < h.payloadLength
    · exact .inr (.inl ⟨hsize, hshort, decode_of_short hsize hshort⟩)
    · have hpayload := Nat.not_lt.mp hshort
      exact .inr (.inr ⟨hsize, hpayload, exists_decode_wordsOf hsize hpayload⟩)
  · exact .inl ⟨hsize, decode_of_unsupported hsize payload⟩

theorem decode_eq_unsupported_iff {size : UInt16} :
    Samples.decode h payload = .error (.unsupportedSampleSize size) ↔
      h.sampleSize.toNat ∉ [1, 2, 4, 8] ∧ size = h.sampleSize := by
  rcases decode_cases h payload with
    ⟨hsize, hdecode⟩ | ⟨hsize, -, hdecode⟩ | ⟨hsize, -, samples, hdecode, -⟩
  · simp only [hdecode, hsize, Except.error.injEq, BlockFault.unsupportedSampleSize.injEq,
      not_false_eq_true, true_and, eq_comm]
  · simp only [hdecode, hsize, Except.error.injEq, reduceCtorEq, not_true_eq_false, false_and]
  · simp only [hdecode, hsize, reduceCtorEq, not_true_eq_false, false_and]

theorem decode_eq_truncated_iff {expected actual : Nat} :
    Samples.decode h payload = .error (.truncated expected actual) ↔
      h.sampleSize.toNat ∈ [1, 2, 4, 8] ∧ payload.length < h.payloadLength ∧
        expected = h.payloadLength ∧ actual = payload.length := by
  rcases decode_cases h payload with
    ⟨hsize, hdecode⟩ | ⟨hsize, hshort, hdecode⟩ | ⟨hsize, hpayload, samples, hdecode, -⟩
  · simp only [hdecode, hsize, Except.error.injEq, reduceCtorEq, false_and]
  · simp only [hdecode, hsize, hshort, Except.error.injEq, BlockFault.truncated.injEq, true_and,
      eq_comm]
  · simp only [hdecode, hsize, Nat.not_lt.mpr hpayload, reduceCtorEq, false_and, and_false]

/-- **What is decoded from a payload.** A sample size that samples cannot have is refused whatever the
payload is, and then one that is too short. From any other come exactly the announced samples, each the
little-endian word at its place. Nothing else of the header has a part in it, and no byte behind the
payload. -/
theorem decode_wordsOf (h : Header) (payload : Bytes) :
    (∀ size, Samples.decode h payload = .error (.unsupportedSampleSize size) ↔
      h.sampleSize.toNat ∉ [1, 2, 4, 8] ∧ size = h.sampleSize) ∧
    (∀ expected actual, Samples.decode h payload = .error (.truncated expected actual) ↔
      h.sampleSize.toNat ∈ [1, 2, 4, 8] ∧
        payload.length < h.sampleCount.toNat * h.sampleSize.toNat ∧
        expected = h.sampleCount.toNat * h.sampleSize.toNat ∧ actual = payload.length) ∧
    (h.sampleSize.toNat ∈ [1, 2, 4, 8] →
      h.sampleCount.toNat * h.sampleSize.toNat ≤ payload.length →
      ∃ samples, Samples.decode h payload = .ok samples ∧
        samples.WordsOf payload h.sampleCount.toNat h.sampleSize.toNat) ∧
    ∀ (other : Header) (changed : Bytes),
      other.sampleCount = h.sampleCount → other.sampleSize = h.sampleSize →
      changed.take (h.sampleCount.toNat * h.sampleSize.toNat) =
        payload.take (h.sampleCount.toNat * h.sampleSize.toNat) →
      Samples.decode other changed = Samples.decode h payload := by
  refine ⟨fun _ => decode_eq_unsupported_iff, fun _ _ => decode_eq_truncated_iff, ?_, ?_⟩
  · intro hsize hpayload
    exact exists_decode_wordsOf (isSampleSize_iff.mpr hsize) hpayload
  · intro other changed hcount hsize hsame
    rw [decode_of_fields hcount hsize, decode_of_take hsame]

/-- Two samples of a block that is flagged as big-endian, with a byte behind them. -/
theorem decode_wordsOf_flagged :
    (2 : UInt16).toNat ∈ [1, 2, 4, 8] ∧
      ∃ samples, Samples.decode { sampleCount := 2, sampleSize := 2, flags := Flag.bigEndian.bits }
          [1, 0, 2, 1, 9] = .ok samples ∧
        samples.values.map UInt64.toNat = [1, 258] ∧ samples.toBytes = [1, 0, 2, 1] ∧
        Samples.decode { sampleCount := 2, sampleSize := 2 } [1, 0, 2, 1] = .ok samples := by
  obtain ⟨-, -, hread, hsame⟩ := decode_wordsOf
    { sampleCount := 2, sampleSize := 2, flags := Flag.bigEndian.bits } [1, 0, 2, 1, 9]
  obtain ⟨samples, hdecode, hwords⟩ := hread (by decide) (by decide)
  have hvalues : samples.values.map UInt64.toNat = [1, 258] := hwords.values
  refine ⟨by decide, samples, hdecode, hvalues, hwords.toBytes, ?_⟩
  rw [hsame { sampleCount := 2, sampleSize := 2 } [1, 0, 2, 1] rfl rfl rfl, hdecode]

end Samples

end DaqBus

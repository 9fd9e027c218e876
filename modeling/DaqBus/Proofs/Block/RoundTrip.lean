import DaqBus.Proofs.Control.FixedSize
import DaqBus.Proofs.Memory.Waiting
import Mathlib.Tactic.ByContra
import Mathlib.Tactic.SplitIfs

/-!
# Blocks and their bytes

A payload reads back as the samples it was written from when the header announces their number and
width. The two fields that a transfer looks at before anything is decoded stand at fixed places, and
the decoded header agrees with them, so a transfer cuts a payload where the decoder expects it to end.
-/

namespace DaqBus

open Control

namespace Lane

theorem eq_layout_of_decode {bs : Bytes} {h : Header} (hdecode : Header.decode bs = .ok h) :
    h = Layout.header bs := by
  have hlength : recordSize ≤ bs.length := by
    by_contra hshort
    rw [Header.decode, if_pos (Nat.not_le.mp hshort)] at hdecode
    cases hdecode
  rw [Header.decode_of_length hlength, Layout.run_header] at hdecode
  exact (Except.ok.inj hdecode).symm

theorem sampleCount_of_decode {bs : Bytes} {h : Header} (hdecode : Header.decode bs = .ok h) :
    sampleCount bs = h.sampleCount := by
  rw [eq_layout_of_decode hdecode]
  rfl

theorem sampleSize_of_decode {bs : Bytes} {h : Header} (hdecode : Header.decode bs = .ok h) :
    sampleSize bs = h.sampleSize := by
  rw [eq_layout_of_decode hdecode]
  rfl

/-- A record announces the same payload before and after it is decoded. -/
theorem announced_of_decode {bs : Bytes} {h : Header} (hdecode : Header.decode bs = .ok h) :
    RawBlock.announced bs = h.payloadLength := by
  rw [RawBlock.announced, sampleCount_of_decode hdecode, sampleSize_of_decode hdecode,
    Header.payloadLength]

end Lane

/-! ### Samples -/

theorem Bytes.words_flatMap {α : Type} {width : Nat} {write : α → Bytes}
    (hwidth : ∀ a, (write a).length = width) (values : List α) (rest : Bytes) :
    Bytes.words width values.length (values.flatMap write ++ rest) = values.map write := by
  induction values with
  | nil => rfl
  | cons a values ih =>
      rw [List.flatMap_cons, List.append_assoc, List.length_cons, Bytes.words,
        List.take_left' (hwidth a), List.drop_left' (hwidth a), ih, List.map_cons]

theorem Bytes.map_words_flatMap {α : Type} {width : Nat} {write : α → Bytes} {parse : Bytes → α}
    (hwidth : ∀ a, (write a).length = width) (hparse : ∀ a, parse (write a) = a) (values : List α)
    (rest : Bytes) :
    (Bytes.words width values.length (values.flatMap write ++ rest)).map parse = values := by
  rw [Bytes.words_flatMap hwidth, List.map_map]
  exact List.map_id'' hparse values

/-- The header announces the number and the width of the samples. -/
structure Samples.AnnouncedBy (samples : Samples) (h : Header) : Prop where
  count : h.sampleCount.toNat = samples.length
  size : h.sampleSize.toNat = samples.width

namespace Samples

variable {samples : Samples} {h : Header}

theorem read?_toBytes {size : UInt16} (hsize : size.toNat = samples.width) (rest : Bytes) :
    Samples.read? size samples.length (samples.toBytes ++ rest) = some samples := by
  have hword : size = UInt16.ofNat samples.width := by
    rw [← hsize, UInt16.ofNat_toNat]
  subst hword
  cases samples with
  | u8 values =>
      show some (Samples.u8 ((values ++ rest).take values.length)) = _
      rw [List.take_left]
  | u16 values =>
      show some (Samples.u16 ((Bytes.words 2 values.length
        (values.flatMap Bytes.ofWord16 ++ rest)).map Bytes.toWord16)) = _
      rw [Bytes.map_words_flatMap Bytes.length_ofWord16 Bytes.toWord16_ofWord16]
  | u32 values =>
      show some (Samples.u32 ((Bytes.words 4 values.length
        (values.flatMap Bytes.ofWord32 ++ rest)).map Bytes.toWord32)) = _
      rw [Bytes.map_words_flatMap Bytes.length_ofWord32 Bytes.toWord32_ofWord32]
  | u64 values =>
      show some (Samples.u64 ((Bytes.words 8 values.length
        (values.flatMap Bytes.ofWord64 ++ rest)).map Bytes.toWord64)) = _
      rw [Bytes.map_words_flatMap Bytes.length_ofWord64 Bytes.toWord64_ofWord64]

theorem AnnouncedBy.isSampleSize (ha : samples.AnnouncedBy h) : isSampleSize h.sampleSize := by
  have hword : h.sampleSize = UInt16.ofNat samples.width := by
    rw [← ha.size, UInt16.ofNat_toNat]
  rw [hword]
  cases samples <;> rfl

theorem AnnouncedBy.payloadLength (ha : samples.AnnouncedBy h) :
    samples.toBytes.length = h.payloadLength := by
  rw [length_toBytes, Header.payloadLength, ha.count, ha.size]

/-- Bytes after the announced payload are ignored. -/
theorem decode_toBytes_append (ha : samples.AnnouncedBy h) (rest : Bytes) :
    Samples.decode h (samples.toBytes ++ rest) = .ok samples := by
  have hread := read?_toBytes ha.size rest
  rw [← ha.count] at hread
  have hlength : ¬ (samples.toBytes ++ rest).length < h.payloadLength := by
    rw [List.length_append, ha.payloadLength]
    omega
  rw [Samples.decode, if_neg (by simp [ha.isSampleSize]), if_neg hlength, hread]

theorem decode_toBytes (ha : samples.AnnouncedBy h) :
    Samples.decode h samples.toBytes = .ok samples := by
  rw [← List.append_nil samples.toBytes, decode_toBytes_append ha]

theorem decode_of_sampleSize {payload : Bytes} (hsize : Control.isSampleSize h.sampleSize)
    (hpayload : h.payloadLength ≤ payload.length) :
    ∃ samples, Samples.decode h payload = .ok samples := by
  have hread : (Samples.read? h.sampleSize h.sampleCount.toNat payload).isSome := by
    rw [read?]
    simp only [Control.isSampleSize, Bool.or_eq_true, decide_eq_true_eq] at hsize
    split_ifs with hone htwo hfour height
    · rfl
    · rfl
    · rfl
    · rfl
    · simp_all
  obtain ⟨samples, hsamples⟩ := Option.isSome_iff_exists.mp hread
  refine ⟨samples, ?_⟩
  rw [Samples.decode, if_neg (by simp [hsize]), if_neg (Nat.not_lt.mpr hpayload), hsamples]

end Samples

/-! ### Blocks -/

theorem Block.decode_eq_ok_iff {raw : RawBlock} {block : Block} :
    Block.decode raw = .ok block ↔
      Header.decode raw.control = .ok block.header ∧
        Samples.decode block.header raw.data = .ok block.samples := by
  rw [Block.decode, Block.decodeHeader]
  cases hheader : Header.decode raw.control with
  | error size =>
      constructor
      · intro h
        cases h
      · rintro ⟨h, -⟩
        cases h
  | ok header =>
      show (do
        let samples ← Samples.decode header raw.data
        return { header, samples } : Except BlockFault Block) = .ok block ↔ _
      cases hsamples : Samples.decode header raw.data with
      | error fault =>
          constructor
          · intro h
            cases h
          · rintro ⟨h, hnot⟩
            cases h
            rw [hsamples] at hnot
            cases hnot
      | ok samples =>
          constructor
          · intro h
            cases h
            exact ⟨rfl, hsamples⟩
          · rintro ⟨h, hsame⟩
            cases h
            rw [hsamples] at hsame
            cases hsame
            rfl

namespace RawBlock

/-- The first record of a queue that starts with a written header and its payload. What the header
has beyond the fixed size stays in front of the next record. -/
theorem first_of_encode {h : Header} {payload : Bytes} (hsize : isSampleSize h.sampleSize)
    (hpayload : payload.length = h.payloadLength) (later : RawBlock) :
    ((⟨h.encode, payload⟩ : RawBlock) ++ later).first =
      (.ok ⟨h.inRecord.encode, payload⟩,
        ⟨h.encode.drop recordSize ++ later.control, later.data⟩) := by
  have hcontrol : ((⟨h.encode, payload⟩ : RawBlock) ++ later).control.take recordSize =
      h.inRecord.encode := by
    rw [control_append, List.take_append_of_le_length h.recordSize_le_length_encode, h.take_encode]
  have hdecode := h.decode_inRecord
  have hannounced : announced h.inRecord.encode = payload.length := by
    rw [Lane.announced_of_decode hdecode, hpayload]
    rfl
  have husable : isSampleSize (Lane.sampleSize h.inRecord.encode) := by
    rw [Lane.sampleSize_of_decode hdecode]
    exact hsize
  rw [first_of_usable hcontrol h.length_encode_inRecord husable, hannounced, control_append,
    data_append, List.take_left, List.drop_left,
    List.drop_append_of_le_length h.recordSize_le_length_encode]

end RawBlock

end DaqBus

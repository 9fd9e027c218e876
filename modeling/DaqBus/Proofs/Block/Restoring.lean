import DaqBus.Proofs.Block.RoundTrip
import DaqBus.Proofs.Channel.Ledger
import DaqBus.Proofs.Control.Restoring

/-!
# Reading a block and writing it back

A record of the fixed size and a payload of the announced length are all that a block is read from, and
every byte of them is kept. So a block that was read is written as the bytes it was read from.
-/

namespace DaqBus

open Control

/-! ### Samples -/

theorem Bytes.flatMap_map_words {α : Type} {width : Nat} {parse : Bytes → α} {write : α → Bytes}
    (hwrite : ∀ word : Bytes, word.length = width → write (parse word) = word) (count : Nat)
    {bs : Bytes} (hlength : count * width ≤ bs.length) :
    ((Bytes.words width count bs).map parse).flatMap write = bs.take (count * width) := by
  induction count generalizing bs with
  | zero => rw [Nat.zero_mul, List.take_zero]; rfl
  | succ count ih =>
      rw [Nat.succ_mul, Nat.add_comm (count * width) width] at hlength ⊢
      have hfirst : (bs.take width).length = width := by
        rw [List.length_take]
        omega
      have hrest : count * width ≤ (bs.drop width).length := by
        rw [List.length_drop]
        omega
      rw [Bytes.words, List.map_cons, List.flatMap_cons, hwrite _ hfirst, ih hrest, List.take_add]

namespace Samples

variable {h : Header} {payload : Bytes} {samples : Samples}

theorem toBytes_of_read? {size : UInt16} {count : Nat}
    (hread : Samples.read? size count payload = some samples)
    (hpayload : count * size.toNat ≤ payload.length) :
    samples.toBytes = payload.take (count * size.toNat) := by
  rw [read?] at hread
  split_ifs at hread with hone htwo hfour height
  · cases hread
    rw [hone]
    show payload.take count = payload.take (count * 1)
    rw [Nat.mul_one]
  · cases hread
    subst htwo
    exact Bytes.flatMap_map_words (fun _ => Bytes.ofWord16_toWord16) count hpayload
  · cases hread
    subst hfour
    exact Bytes.flatMap_map_words (fun _ => Bytes.ofWord32_toWord32) count hpayload
  · cases hread
    subst height
    exact Bytes.flatMap_map_words (fun _ => Bytes.ofWord64_toWord64) count hpayload

theorem toBytes_of_decode (hdecode : Samples.decode h payload = .ok samples) :
    samples.toBytes = payload.take h.payloadLength := by
  rw [Samples.decode] at hdecode
  split_ifs at hdecode with hsize hshort
  cases hread : Samples.read? h.sampleSize h.sampleCount.toNat payload with
  | none =>
      rw [hread] at hdecode
      cases hdecode
  | some found =>
      rw [hread] at hdecode
      cases hdecode
      exact toBytes_of_read? hread (Nat.not_lt.mp hshort)

end Samples

/-! ### Blocks -/

/-- A record of the fixed size has no room for a second extension entry, so nothing is cut off. -/
theorem Control.Header.encode_of_decode_record {record : Bytes} {h : Header}
    (hlength : record.length = recordSize) (hdecode : Header.decode record = .ok h) :
    h.encode = record := by
  have hrecord : recordSize ≤ record.length := Nat.le_of_eq hlength.symm
  rw [decode_eq_layout hrecord] at hdecode
  cases hdecode
  rw [encode_layout hrecord, hlength]
  exact List.take_of_length_le (Nat.le_of_eq hlength)

namespace RawBlock

variable {raw : RawBlock}

theorem IsWhole.encode_eq (hwhole : raw.IsWhole) {block : Block}
    (hdecode : Block.decode raw = .ok block) : block.encode = raw := by
  obtain ⟨hheader, hsamples⟩ := Block.decode_eq_ok_iff.mp hdecode
  have hlength : raw.data.length = block.header.payloadLength :=
    hwhole.length_data.trans (Lane.announced_of_decode hheader)
  rw [Block.encode, Header.encode_of_decode_record hwhole.length_control hheader, Block.payload,
    Samples.toBytes_of_decode hsamples, List.take_of_length_le (Nat.le_of_eq hlength)]

/-- A record of the fixed size with a usable sample size and all of its payload is a block. -/
theorem IsWhole.exists_decode (hwhole : raw.IsWhole) (husable : raw.isUsable) :
    ∃ block, Block.decode raw = .ok block ∧ block.encode = raw := by
  have hheader := Header.decode_eq_layout (Nat.le_of_eq hwhole.length_control.symm)
  have hsize : isSampleSize (Layout.header raw.control).sampleSize := by
    rw [← Lane.sampleSize_of_decode hheader]
    exact husable
  have hpayload : (Layout.header raw.control).payloadLength ≤ raw.data.length :=
    Nat.le_of_eq (hwhole.length_data.trans (Lane.announced_of_decode hheader)).symm
  obtain ⟨samples, hsamples⟩ := Samples.decode_of_sampleSize hsize hpayload
  have hdecode : Block.decode raw = .ok ⟨Layout.header raw.control, samples⟩ :=
    Block.decode_eq_ok_iff.mpr ⟨hheader, hsamples⟩
  exact ⟨_, hdecode, hwhole.encode_eq hdecode⟩

end RawBlock

end DaqBus

import DaqBus.Proofs.Channel.Loopback

/-!
# Blocks built from samples

A block that is built from samples takes their number and width into its header. The number goes into a
word of 32 bits, so of samples that are too many only the remainder is announced. The samples beyond it
are in the payload, but whoever reads the block does not see them.
-/

namespace DaqBus

open Control

namespace Samples

variable {samples : Samples} {count : Nat}

/-- The first samples, at most the given number. -/
def take (count : Nat) : Samples → Samples
  | u8 values => u8 (values.take count)
  | u16 values => u16 (values.take count)
  | u32 values => u32 (values.take count)
  | u64 values => u64 (values.take count)

def drop (count : Nat) : Samples → Samples
  | u8 values => u8 (values.drop count)
  | u16 values => u16 (values.drop count)
  | u32 values => u32 (values.drop count)
  | u64 values => u64 (values.drop count)

theorem toBytes_take_append_drop (count : Nat) (samples : Samples) :
    (samples.take count).toBytes ++ (samples.drop count).toBytes = samples.toBytes := by
  cases samples with
  | u8 values => exact List.take_append_drop count values
  | u16 values => rw [take, drop, toBytes, toBytes, toBytes, ← List.flatMap_append, List.take_append_drop]
  | u32 values => rw [take, drop, toBytes, toBytes, toBytes, ← List.flatMap_append, List.take_append_drop]
  | u64 values => rw [take, drop, toBytes, toBytes, toBytes, ← List.flatMap_append, List.take_append_drop]

theorem length_take (count : Nat) (samples : Samples) :
    (samples.take count).length = min count samples.length := by
  cases samples <;> exact List.length_take

theorem width_take (count : Nat) (samples : Samples) : (samples.take count).width = samples.width := by
  cases samples <;> rfl

theorem width_pos (samples : Samples) : 0 < samples.width := by
  cases samples <;> exact Nat.zero_lt_succ _

theorem take_eq_self_iff : samples.take count = samples ↔ samples.length ≤ count := by
  constructor
  · intro htake
    rw [← htake, length_take]
    exact Nat.min_le_left count samples.length
  · intro hle
    cases samples with
    | u8 values => exact congrArg u8 (List.take_of_length_le hle)
    | u16 values => exact congrArg u16 (List.take_of_length_le hle)
    | u32 values => exact congrArg u32 (List.take_of_length_le hle)
    | u64 values => exact congrArg u64 (List.take_of_length_le hle)

theorem drop_toBytes_eq_nil_iff : (samples.drop count).toBytes = [] ↔ samples.length ≤ count := by
  have hbytes := congrArg List.length (toBytes_take_append_drop count samples)
  rw [List.length_append, length_toBytes, length_toBytes samples, width_take, length_take] at hbytes
  rw [← List.length_eq_zero_iff]
  constructor
  · intro hnone
    rw [hnone, Nat.add_zero] at hbytes
    have hmin : min count samples.length = samples.length :=
      Nat.eq_of_mul_eq_mul_right samples.width_pos hbytes
    omega
  · intro hle
    rw [Nat.min_eq_right hle] at hbytes
    omega

/-- How many samples their header announces. -/
def announcedCount (samples : Samples) : Nat := samples.length % UInt32.size

theorem length_le_announcedCount_iff :
    samples.length ≤ samples.announcedCount ↔ samples.length < UInt32.size := by
  have hmod : samples.announcedCount < UInt32.size := Nat.mod_lt _ (by decide)
  constructor
  · exact fun hle => Nat.lt_of_le_of_lt hle hmod
  · intro hlt
    exact Nat.le_of_eq (Nat.mod_eq_of_lt hlt).symm

end Samples

namespace Block

variable (header : Header) (samples : Samples)

theorem announcedBy_ofSamples :
    (samples.take samples.announcedCount).AnnouncedBy (ofSamples header samples).header where
  count := by
    have hle : samples.announcedCount ≤ samples.length := Nat.mod_le _ _
    rw [Samples.length_take, Nat.min_eq_left hle]
    exact UInt32.toNat_ofNat
  size := by
    rw [Samples.width_take, ofSamples]
    cases samples <;> rfl

theorem payloadLength_ofSamples_iff :
    (ofSamples header samples).header.payloadLength = (ofSamples header samples).payload.length ↔
      samples.length < UInt32.size := by
  have hcut := congrArg List.length (Samples.toBytes_take_append_drop samples.announcedCount samples)
  rw [List.length_append, (announcedBy_ofSamples header samples).payloadLength] at hcut
  show _ = samples.toBytes.length ↔ _
  rw [← hcut, Nat.left_eq_add, List.length_eq_zero_iff, Samples.drop_toBytes_eq_nil_iff,
    Samples.length_le_announcedCount_iff]

theorem decode_encode_ofSamples :
    Block.decode (ofSamples header samples).encode =
      .ok ⟨(ofSamples header samples).header.asRead, samples.take samples.announcedCount⟩ := by
  have hannounced := announcedBy_ofSamples header samples
  rw [Block.decode_eq_ok_iff]
  refine ⟨Header.decode_encode _, ?_⟩
  show Samples.decode _ samples.toBytes = _
  rw [← Samples.toBytes_take_append_drop samples.announcedCount samples]
  exact Samples.decode_toBytes_append (h := (ofSamples header samples).header.asRead)
    ⟨hannounced.count, hannounced.size⟩ _

theorem decode_encode_ofSamples_iff :
    Block.decode (ofSamples header samples).encode = .ok (ofSamples header samples).asRead ↔
      samples.length < UInt32.size := by
  rw [decode_encode_ofSamples, ← Samples.length_le_announcedCount_iff, ← Samples.take_eq_self_iff,
    asRead, Except.ok.injEq, Block.mk.injEq]
  exact and_iff_right rfl

/-- What the first read of a built block finds, and what it leaves in front of the next one. -/
theorem first_ofSamples (later : RawBlock) :
    ((ofSamples header samples).encode ++ later).first =
      (.ok ⟨(ofSamples header samples).header.inRecord.encode,
          (samples.take samples.announcedCount).toBytes⟩,
        ⟨(ofSamples header samples).header.encode.drop recordSize ++ later.control,
          (samples.drop samples.announcedCount).toBytes ++ later.data⟩) := by
  have hannounced := announcedBy_ofSamples header samples
  have hcut : (ofSamples header samples).encode ++ later =
      (⟨(ofSamples header samples).header.encode,
          (samples.take samples.announcedCount).toBytes⟩ : RawBlock) ++
        ⟨later.control, (samples.drop samples.announcedCount).toBytes ++ later.data⟩ := by
    show RawBlock.mk _ (samples.toBytes ++ later.data) = RawBlock.mk _ (_ ++ (_ ++ later.data))
    rw [← List.append_assoc, Samples.toBytes_take_append_drop]
    rfl
  rw [hcut, RawBlock.first_of_encode hannounced.isSampleSize hannounced.payloadLength]

end Block

namespace Channel

variable {input : Channel} {host : Bus MemoryBus}

theorem readBlock_ofSamples (hinput : input.Connected host) (hdirection : input.direction = .input)
    (header : Header) (samples : Samples) {later : RawBlock}
    (hwaiting : input.waiting host = (Block.ofSamples header samples).encode ++ later) :
    (input.readBlock host).1 =
        .ok ⟨(Block.ofSamples header samples).header.inRecord, samples.take samples.announcedCount⟩ ∧
      (input.waiting (input.readBlock host).2 = later ↔
        samples.length < UInt32.size ∧ header.extensions.length ≤ 1) := by
  have hannounced := Block.announcedBy_ofSamples header samples
  have hfirst := Block.first_ofSamples header samples later
  constructor
  · rw [fst_readBlock hinput hdirection, hwaiting, hfirst, readOutcome_eq_ok_iff]
    refine ⟨_, rfl, Block.decode_eq_ok_iff.mpr ⟨Header.decode_inRecord _, ?_⟩⟩
    exact Samples.decode_toBytes (h := (Block.ofSamples header samples).header.inRecord)
      ⟨hannounced.count, hannounced.size⟩
  · have hrest (control data : Bytes) :
        (⟨control ++ later.control, data ++ later.data⟩ : RawBlock) = later ↔
          data = [] ∧ control = [] := by
      obtain ⟨laterControl, laterData⟩ := later
      rw [RawBlock.mk.injEq, List.append_left_eq_self, List.append_left_eq_self, and_comm]
    rw [waiting_readBlock hinput hdirection, hwaiting, hfirst, hrest,
      Samples.drop_toBytes_eq_nil_iff, Samples.length_le_announcedCount_iff,
      Header.drop_encode_eq_nil_iff]
    rfl

/-- **When a built block comes back.** Its header announces its payload, and the block decodes to itself,
exactly when the number of samples fits its field; otherwise the samples beyond the announced ones are
lost. On a stream the next block is found behind it exactly when besides that there is at most one
extension entry. -/
theorem ofSamples_comes_back_iff (header : Header) (samples : Samples) :
    ((Block.ofSamples header samples).header.payloadLength =
        (Block.ofSamples header samples).payload.length ↔ samples.length < UInt32.size) ∧
      Block.decode (Block.ofSamples header samples).encode =
        .ok ⟨(Block.ofSamples header samples).header.asRead, samples.take samples.announcedCount⟩ ∧
      (Block.decode (Block.ofSamples header samples).encode =
        .ok (Block.ofSamples header samples).asRead ↔ samples.length < UInt32.size) ∧
      ∀ (out input : Channel) (bus host : Bus MemoryBus) (later : List Block),
        out.Idle bus → out.direction = .output → input.Idle host → input.direction = .input →
        ∃ written, (Block.ofSamples header samples :: later).forM out.writeBlock bus = (.ok (), written) ∧
          (input.readBlock (input.push (out.drain written).1 host)).1 =
            .ok ⟨(Block.ofSamples header samples).header.inRecord,
              samples.take samples.announcedCount⟩ ∧
          (input.waiting (input.readBlock (input.push (out.drain written).1 host)).2 =
              Block.encodeAll later ↔
            samples.length < UInt32.size ∧ header.extensions.length ≤ 1) := by
  refine ⟨Block.payloadLength_ofSamples_iff header samples,
    Block.decode_encode_ofSamples header samples, Block.decode_encode_ofSamples_iff header samples, ?_⟩
  intro out input bus host later hout houtput hinput hdirection
  obtain ⟨written, hwritten, hdrained, -⟩ := drain_forM_writeBlock hout houtput
    (Block.ofSamples header samples :: later)
  have hwaiting : input.waiting (input.push (out.drain written).1 host) =
      (Block.ofSamples header samples).encode ++ Block.encodeAll later := by
    rw [waiting_push hinput, hdrained, Block.encodeAll]
  exact ⟨written, hwritten,
    readBlock_ofSamples (hinput.connected.push _) hdirection header samples hwaiting⟩

def tooMany : Samples := .u8 (List.replicate UInt32.size 0)

def twoTags : Header := { extensions := [{}, { kind := 1 }] }

theorem ofSamples_comes_back_iff_fails :
    (Block.ofSamples {} tooMany).header.payloadLength ≠ (Block.ofSamples {} tooMany).payload.length ∧
      (Block.decode (Block.ofSamples {} tooMany).encode).map Block.samples = .ok (.u8 []) ∧
      ∃ written, [Block.ofSamples twoTags (.u8 [7]), Block.ofSamples {} (.u8 [9])].forM
          benchOutput.writeBlock bench = (.ok (), written) ∧
        benchInput.waiting (benchInput.readBlock
            (benchInput.push (benchOutput.drain written).1 bench)).2 ≠
          Block.encodeAll [Block.ofSamples {} (.u8 [9])] := by
  have hlength : tooMany.length = UInt32.size := List.length_replicate
  have hcount : tooMany.announcedCount = 0 := by rw [Samples.announcedCount, hlength, Nat.mod_self]
  have hnone : tooMany.take 0 = .u8 [] := congrArg Samples.u8 List.take_zero
  obtain ⟨hpayload, hdecode, -, -⟩ := ofSamples_comes_back_iff {} tooMany
  obtain ⟨-, -, -, hstream⟩ := ofSamples_comes_back_iff twoTags (.u8 [7])
  obtain ⟨written, hwritten, -, hbehind⟩ := hstream benchOutput benchInput bench bench
    [Block.ofSamples {} (.u8 [9])] idle_benchOutput rfl idle_benchInput rfl
  refine ⟨?_, ?_, written, hwritten, ?_⟩
  · rw [Ne, hpayload, hlength]
    exact Nat.lt_irrefl _
  · rw [hdecode, hcount, hnone]
    rfl
  · rw [Ne, hbehind]
    rintro ⟨-, htags⟩
    exact absurd htags (by decide)

end Channel

end DaqBus

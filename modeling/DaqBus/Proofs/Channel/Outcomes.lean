import DaqBus.Proofs.Block.RoundTrip
import DaqBus.Proofs.Channel.Connected
import DaqBus.Proofs.Channel.Scripted
import DaqBus.Proofs.Stream.Bounded

/-!
# What reading a block comes to

The transfer looks at two fields of a record that has not been decoded, and the decoder looks at them
again. They agree on every record, so what the transfer lets through is never malformed and always of a
sample size that samples can have: only a payload that ends early is left for the decoder to find.
-/

namespace DaqBus

open Control ByteStream

/-! ### Samples -/

theorem Bytes.length_words (width count : Nat) (bs : Bytes) :
    (Bytes.words width count bs).length = count := by
  induction count generalizing bs with
  | zero => rfl
  | succ count ih => rw [Bytes.words, List.length_cons, ih]

namespace Samples

variable {h : Header} {payload : Bytes} {samples : Samples}

theorem width_of_read? {size : UInt16} {count : Nat}
    (hread : Samples.read? size count payload = some samples) : samples.width = size.toNat := by
  rw [read?] at hread
  split_ifs at hread <;> cases hread <;> subst size <;> rfl

theorem length_of_read? {size : UInt16} {count : Nat}
    (hread : Samples.read? size count payload = some samples)
    (hpayload : count * size.toNat ≤ payload.length) : samples.length = count := by
  rw [read?] at hread
  split_ifs at hread with hone htwo hfour height
  · cases hread
    subst hone
    rw [length, List.length_take]
    exact Nat.min_eq_left (by simpa using hpayload)
  all_goals
    cases hread
    rw [length, List.length_map, Bytes.length_words]

/-- Decoded samples are as many and as wide as the header says. -/
theorem announcedBy_of_decode (hdecode : Samples.decode h payload = .ok samples) :
    samples.AnnouncedBy h := by
  rw [Samples.decode] at hdecode
  split_ifs at hdecode with hsize hshort
  cases hread : Samples.read? h.sampleSize h.sampleCount.toNat payload with
  | none =>
      rw [hread] at hdecode
      cases hdecode
  | some found =>
      rw [hread] at hdecode
      cases hdecode
      exact ⟨(length_of_read? hread (Nat.not_lt.mp hshort)).symm, (width_of_read? hread).symm⟩

theorem decode_of_short (hsize : isSampleSize h.sampleSize)
    (hshort : payload.length < h.payloadLength) :
    Samples.decode h payload = .error (.truncated h.payloadLength payload.length) := by
  rw [Samples.decode, if_neg (by simp [hsize]), if_pos hshort]

end Samples

theorem Control.Header.payloadLength_lt (h : Header) : h.payloadLength < UInt64.size := by
  have hcount := h.sampleCount.toNat_lt_size
  have hsize := h.sampleSize.toNat_lt_size
  calc h.payloadLength
      ≤ UInt32.size * UInt16.size := Nat.mul_le_mul (Nat.le_of_lt hcount) (Nat.le_of_lt hsize)
    _ < UInt64.size := by decide

/-! ### Streams -/

namespace Backend

variable {S : Type} [Backend S] {streams : ChannelStreams}

/-- A stream as it stands in a store. -/
def streamAt (id : StreamId) (store : S) : Stream S := (lens id).view store

/-- Between two stores the control stream has given exactly a record, and the record is accepted. -/
structure Accepts (streams : ChannelStreams) (before after : S) (control : Bytes) : Prop where
  length_control : control.length = recordSize
  usable : isSampleSize (Lane.sampleSize control)
  gives : Gives (streamAt streams.control before) control (streamAt streams.control after)

/-- Why no block is read, and how far the two streams have been read. -/
inductive Refuses (streams : ChannelStreams) (before after : S) : Errno → Prop
  | controlFault {fault : Fault}
      (hcontrol : Bounded recordSize (streamAt streams.control before) (.error fault)
        (streamAt streams.control after))
      (hdata : streamAt streams.data after = streamAt streams.data before) :
      Refuses streams before after fault.errno
  | short {control : Bytes} (hlength : control.length < recordSize)
      (hcontrol : Bounded recordSize (streamAt streams.control before) (.ok control)
        (streamAt streams.control after))
      (hdata : streamAt streams.data after = streamAt streams.data before) :
      Refuses streams before after .controlWrong
  | unusable {control : Bytes} (hlength : control.length = recordSize)
      (hsize : isSampleSize (Lane.sampleSize control) = false)
      (hcontrol : Gives (streamAt streams.control before) control (streamAt streams.control after))
      (hdata : streamAt streams.data after = streamAt streams.data before) :
      Refuses streams before after .controlWrong
  | dataFault {control : Bytes} {fault : Fault} (hcontrol : Accepts streams before after control)
      (hdata : Bounded (RawBlock.announced control) (streamAt streams.data before) (.error fault)
        (streamAt streams.data after)) :
      Refuses streams before after fault.errno

theorem readUpTo_of_ok {id : StreamId} {limit : Nat} {store : S} {bs : Bytes}
    (hread : (readUpTo limit (streamAt id store)).1 = .ok bs) :
    (lens id).readUpTo limit store = (.ok bs, ((lens id).readUpTo limit store).2) := by
  refine Prod.ext ?_ rfl
  rw [Lens.readUpTo, Lens.run_eq]
  show (readUpTo limit (streamAt id store)).1.mapError _ = _
  rw [hread]
  rfl

theorem readUpTo_of_error {id : StreamId} {limit : Nat} {store : S} {fault : Fault}
    (hread : (readUpTo limit (streamAt id store)).1 = .error fault) :
    (lens id).readUpTo limit store = (.error fault.errno, ((lens id).readUpTo limit store).2) := by
  refine Prod.ext ?_ rfl
  rw [Lens.readUpTo, Lens.run_eq]
  show (readUpTo limit (streamAt id store)).1.mapError _ = _
  rw [hread]
  rfl

variable [ReadsConsume S]

theorem bounded_streamAt (id : StreamId) (limit : Nat) (store : S) :
    Bounded limit (streamAt id store) (readUpTo limit (streamAt id store)).1
      (streamAt id ((lens id).readUpTo limit store).2) := by
  have hview : streamAt id ((lens id).readUpTo limit store).2 =
      (readUpTo limit (streamAt id store)).2 := ReadsConsume.view_readUpTo id limit store
  rw [hview]
  exact bounded_readUpTo limit _

theorem streamAt_readUpTo_ne {id other : StreamId} (hne : id ≠ other) (limit : Nat) (store : S) :
    streamAt other ((lens id).readUpTo limit store).2 = streamAt other store :=
  ReadsConsume.view_readUpTo_ne hne limit store

/-- **What a transfer reads.** -/
theorem readBlock_outcome (hinput : streams.direction = .input)
    (hapart : streams.control ≠ streams.data) (store : S) :
    (∃ control data, (readBlock streams store).1 = .ok ⟨control, data⟩ ∧
      Accepts streams store (readBlock streams store).2 control ∧
      Bounded (RawBlock.announced control) (streamAt streams.data store) (.ok data)
        (streamAt streams.data (readBlock streams store).2)) ∨
    ∃ code, (readBlock streams store).1 = .error code ∧
      Refuses streams store (readBlock streams store).2 code := by
  rw [readBlock_of_input hinput]
  have hcontrol := bounded_streamAt streams.control recordSize store
  have hkept := streamAt_readUpTo_ne hapart recordSize store
  cases hread : (readUpTo recordSize (streamAt streams.control store)).1 with
  | error fault =>
      rw [hread] at hcontrol
      rw [readUpTo_of_error hread]
      exact .inr ⟨_, rfl, .controlFault hcontrol hkept⟩
  | ok control =>
      rw [hread] at hcontrol
      rw [readUpTo_of_ok hread]
      generalize ((lens streams.control).readUpTo recordSize store).2 = next at hcontrol hkept
      dsimp only
      by_cases hlength : control.length = recordSize
      · have hgives := hcontrol.gives_of_full hlength
        by_cases hsize : isSampleSize (Lane.sampleSize control)
        · rw [if_pos ⟨hlength, hsize⟩]
          -- The payload is read behind the record, which stays as far read as it is.
          have hdata := bounded_streamAt streams.data (RawBlock.announced control) next
          have haccepts : Accepts streams store
              ((lens streams.data).readUpTo (RawBlock.announced control) next).2 control := by
            refine ⟨hlength, hsize, ?_⟩
            rw [streamAt_readUpTo_ne hapart.symm]
            exact hgives
          cases hpayload : (readUpTo (RawBlock.announced control) (streamAt streams.data next)).1 with
          | error fault =>
              rw [hpayload, hkept] at hdata
              rw [readUpTo_of_error hpayload]
              exact .inr ⟨_, rfl, .dataFault haccepts hdata⟩
          | ok data =>
              rw [hpayload, hkept] at hdata
              rw [readUpTo_of_ok hpayload]
              exact .inl ⟨control, data, rfl, haccepts, hdata⟩
        · rw [if_neg fun h => hsize h.2]
          exact .inr ⟨_, rfl, .unusable hlength (by simpa using hsize) hgives hkept⟩
      · rw [if_neg fun h => hlength h.1]
        have hshort := Nat.lt_of_le_of_ne hcontrol.length_le hlength
        exact .inr ⟨_, rfl, .short hshort hcontrol hkept⟩

end Backend

/-! ### Channels -/

namespace Lane

/-- The transfer and the decoder find the same announcement in a record. -/
theorem announcement_of_length {control : Bytes} (hlength : control.length = recordSize) :
    ∃ header, Header.decode control = .ok header ∧ sampleCount control = header.sampleCount ∧
      sampleSize control = header.sampleSize ∧
      RawBlock.announced control = header.payloadLength := by
  have hdecode := Header.decode_of_length (Nat.le_of_eq hlength.symm)
  exact ⟨_, hdecode, sampleCount_of_decode hdecode, sampleSize_of_decode hdecode,
    announced_of_decode hdecode⟩

end Lane

namespace Channel

open Backend (streamAt Accepts Refuses)

variable {S : Type} [Backend S] {channel : Channel} {bus : Bus S}

/-- The two streams have given exactly the bytes of a block. -/
structure Delivered (streams : ChannelStreams) (before after : S) (control data : Bytes)
    (block : Block) : Prop where
  header : Header.decode control = .ok block.header
  samples : Samples.decode block.header data = .ok block.samples
  length_samples : block.samples.length = block.header.sampleCount.toNat
  width_samples : block.samples.width = block.header.sampleSize.toNat
  accepts : Accepts streams before after control
  length_data : data.length = block.header.payloadLength
  gives : Gives (streamAt streams.data before) data (streamAt streams.data after)

/-- The data stream has ended within the payload of a record. -/
structure CutShort (streams : ChannelStreams) (before after : S) (control data : Bytes)
    (header : Header) : Prop where
  decode : Header.decode control = .ok header
  accepts : Accepts streams before after control
  length_data : data.length < header.payloadLength
  ended : ∃ n last, 0 < n ∧ Gives (streamAt streams.data before) data last ∧
    ByteStream.read n last = (.ok [], streamAt streams.data after)

theorem readBlock_of_open (hopen : bus.isClosed channel.opening.number = false) :
    ∃ log, channel.readBlock bus =
      (channel.readOutcome (Backend.readBlock channel.streams bus.store).1,
        { bus with store := (Backend.readBlock channel.streams bus.store).2, log }) := by
  have hrestate : Bus.restate channel.readRefusal
        (Bus.onStore (Backend.readBlock channel.streams)) bus =
      ((Backend.readBlock channel.streams bus.store).1.mapError channel.readRefusal,
        { bus with store := (Backend.readBlock channel.streams bus.store).2 }) := rfl
  unfold readBlock
  rw [Effect.bind_of_ok (Opening.check_of_open hopen)]
  generalize Backend.readBlock channel.streams bus.store = found at hrestate
  obtain ⟨code | raw, store⟩ := found
  · exact ⟨bus.log, Effect.bind_of_error hrestate⟩
  · have houtcome : channel.readOutcome (.ok raw) = (Block.decode raw).mapError .block := rfl
    simp only [houtcome]
    cases hdecode : Block.decode raw with
    | error fault =>
        refine ⟨bus.log, (Effect.bind_of_ok hrestate).trans ?_⟩
        rw [hdecode]
        rfl
    | ok block =>
        refine ⟨bus.log ++ [.blockRead channel.node.deviceName block.header.sequence
          block.header.sampleCount block.header.sampleSize], (Effect.bind_of_ok hrestate).trans ?_⟩
        rw [hdecode]
        rfl

/-- **What reading a block comes to.** It delivers a block, and then the streams have given its bytes and
no others; it finds the payload cut short, and then the data stream has ended; or it is refused. A
record announces the same to the transfer and to the decoder, so no other fault is left to find. -/
theorem readBlock_outcomes [ReadsConsume S]
    (hopen : bus.isClosed channel.opening.number = false) (hinput : channel.direction = .input)
    (hapart : channel.streams.control ≠ channel.streams.data) :
    ((∃ control data block, (channel.readBlock bus).1 = .ok block ∧
        Delivered channel.streams bus.store (channel.readBlock bus).2.store control data block) ∨
      (∃ control data header, (channel.readBlock bus).1 =
          .error (.block (.truncated header.payloadLength data.length)) ∧
        CutShort channel.streams bus.store (channel.readBlock bus).2.store control data header) ∨
      ∃ code, (channel.readBlock bus).1 = .error (channel.readRefusal code) ∧
        Refuses channel.streams bus.store (channel.readBlock bus).2.store code) ∧
    ∀ control : Bytes, control.length = recordSize →
      ∃ header, Header.decode control = .ok header ∧
        Lane.sampleCount control = header.sampleCount ∧ Lane.sampleSize control = header.sampleSize ∧
        RawBlock.announced control = header.payloadLength ∧ header.payloadLength < UInt64.size := by
  obtain ⟨log, hreadBlock⟩ := readBlock_of_open hopen
  rw [hreadBlock]
  refine ⟨?_, ?_⟩
  · rcases Backend.readBlock_outcome hinput hapart bus.store with
      ⟨control, data, hread, haccepts, hdata⟩ | ⟨code, hread, hrefuses⟩
    · rw [hread]
      obtain ⟨header, hheader, hcount, hsize, hannounced⟩ :=
        Lane.announcement_of_length haccepts.length_control
      have husable : isSampleSize header.sampleSize := by
        rw [← hsize]
        exact haccepts.usable
      rw [hannounced] at hdata
      by_cases hlength : data.length = header.payloadLength
      · obtain ⟨samples, hsamples⟩ :=
          Samples.decode_of_sampleSize husable (Nat.le_of_eq hlength.symm)
        have hannouncedBy := Samples.announcedBy_of_decode hsamples
        left
        refine ⟨control, data, ⟨header, samples⟩, ?_, ?_⟩
        · exact readOutcome_eq_ok_iff.mpr ⟨_, rfl, Block.decode_eq_ok_iff.mpr ⟨hheader, hsamples⟩⟩
        · exact ⟨hheader, hsamples, hannouncedBy.count.symm, hannouncedBy.size.symm, haccepts, hlength,
            hdata.gives_of_full hlength⟩
      · have hless := Nat.lt_of_le_of_ne hdata.length_le hlength
        right; left
        refine ⟨control, data, header, ?_, ⟨hheader, haccepts, hless, hdata.ended_of_short hless⟩⟩
        show (Block.decode ⟨control, data⟩).mapError _ = _
        rw [Block.decode, Block.decodeHeader, hheader]
        show (do
          let samples ← Samples.decode header data
          return { header, samples } : Except BlockFault Block).mapError _ = _
        rw [Samples.decode_of_short husable hless]
        rfl
    · rw [hread]
      exact .inr (.inr ⟨code, rfl, hrefuses⟩)
  · intro control hlength
    obtain ⟨header, hheader, hcount, hsize, hannounced⟩ := Lane.announcement_of_length hlength
    exact ⟨header, hheader, hcount, hsize, hannounced, header.payloadLength_lt⟩

def uneven : Bus ScriptStore where
  store :=
    let control := ({ sampleCount := 2, sampleSize := 1 } : Header).encode
    ⟨[{ reads := [.chunk [7], .fault (.kind .interrupted), .ended] },
      { reads := [.chunk (control.take 100), .fault (.system .interrupted),
        .chunk (control.drop 100)] }]⟩

/-- A record that comes in two pieces, and one of the two bytes that it announces. -/
theorem readBlock_outcomes_uneven :
    ∃ control data header,
      (benchInput.readBlock uneven).1 =
        .error (.block (.truncated header.payloadLength data.length)) ∧
      header.payloadLength = 2 ∧ data.length = 1 ∧
      CutShort benchInput.streams uneven.store (benchInput.readBlock uneven).2.store control data
        header := by
  have hfailure : (match (benchInput.readBlock uneven).1 with
      | .error failure => some failure
      | .ok _ => none) = some (.block (.truncated 2 1)) := by decide +kernel
  have hopen : uneven.isClosed benchInput.opening.number = false := rfl
  have hinput : benchInput.direction = .input := rfl
  rcases (readBlock_outcomes hopen hinput (by decide)).1 with
    ⟨control, data, block, hread, -⟩ | ⟨control, data, header, hread, hcut⟩ | ⟨code, hread, -⟩
  · rw [hread] at hfailure
    cases hfailure
  · rw [hread] at hfailure
    injection hfailure with hfailure
    injection hfailure with hfault
    injection hfault with hexpected hactual
    exact ⟨control, data, header, hread, hexpected, hactual, hcut⟩
  · rw [hread] at hfailure
    cases hfailure

end Channel

end DaqBus

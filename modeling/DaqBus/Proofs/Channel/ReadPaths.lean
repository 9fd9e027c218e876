import DaqBus.Proofs.Block.RoundTrip
import DaqBus.Proofs.Channel.Connected
import DaqBus.Proofs.Tree.Content

/-!
# The three ways to read a record

A record is decoded from all the bytes that are there, read from an attribute file, or taken from the
control stream of a channel. The last two go by the fixed size, so the three agree exactly on the
records with at most one extension entry. Of a longer record the later entries are not seen, and in a
stream they stay in front of the next record.
-/

namespace DaqBus

open Control

/-! ### Attribute files -/

section File

variable {S : Type} [Backend S] {h : Header} {path : String}

theorem Backend.fst_readHeader {store : S} (hfile : Backend.Holds store path h.encode) :
    (Backend.readHeader path store).1 = .ok h.inRecord := by
  have hread : Backend.readRaw path recordSize store =
      (.ok h.inRecord.encode, (Backend.readRaw path recordSize store).2) := by
    rw [← h.take_encode]
    exact hfile.readRaw_eq recordSize
  unfold readHeader
  rw [Effect.bind_of_ok hread, h.decode_inRecord]
  rfl

theorem Channel.fst_readControl {channel : Channel} {bus : Bus S}
    (hopen : bus.isClosed channel.currentControl.opening.number = false)
    (hfile : Backend.Holds bus.store channel.currentControl.path h.encode) :
    (channel.readControl bus).1 = .ok h.inRecord := by
  unfold readControl Attribute.access
  rw [Effect.bind_of_ok (Opening.check_of_open hopen)]
  show (Backend.readHeader channel.currentControl.path bus.store).1.mapError _ = _
  rw [Backend.fst_readHeader hfile]
  rfl

end File

/-! ### Streams -/

namespace Channel

variable {channel : Channel} {bus : Bus MemoryBus} {h : Header} {payload : Bytes}

theorem first_push_encode (hidle : channel.Idle bus) (hsize : isSampleSize h.sampleSize)
    (hpayload : payload.length = h.payloadLength) :
    (channel.waiting (channel.push ⟨h.encode, payload⟩ bus)).first =
      (.ok ⟨h.inRecord.encode, payload⟩, ⟨h.encode.drop recordSize, []⟩) := by
  have hfirst := RawBlock.first_of_encode hsize hpayload {}
  rw [RawBlock.append_empty, List.append_nil] at hfirst
  rw [waiting_push hidle, hfirst]

theorem fst_readBlock_push_encode (hidle : channel.Idle bus) (hinput : channel.direction = .input)
    (hsize : isSampleSize h.sampleSize) (hpayload : payload.length = h.payloadLength) :
    ∃ samples, Samples.decode h payload = .ok samples ∧
      (channel.readBlock (channel.push ⟨h.encode, payload⟩ bus)).1 = .ok ⟨h.inRecord, samples⟩ := by
  obtain ⟨samples, hsamples⟩ := Samples.decode_of_sampleSize hsize (Nat.le_of_eq hpayload.symm)
  refine ⟨samples, hsamples, ?_⟩
  rw [fst_readBlock (hidle.connected.push _) hinput, first_push_encode hidle hsize hpayload,
    readOutcome_eq_ok_iff]
  refine ⟨_, rfl, Block.decode_eq_ok_iff.mpr ⟨h.decode_inRecord, ?_⟩⟩
  exact hsamples

/-- What the record has beyond the fixed size is not consumed. -/
theorem waiting_readBlock_push_encode (hidle : channel.Idle bus) (hinput : channel.direction = .input)
    (hsize : isSampleSize h.sampleSize) (hpayload : payload.length = h.payloadLength) :
    channel.waiting (channel.readBlock (channel.push ⟨h.encode, payload⟩ bus)).2 =
      ⟨h.encode.drop recordSize, []⟩ := by
  rw [waiting_readBlock (hidle.connected.push _) hinput, first_push_encode hidle hsize hpayload]

/-- **When the readers agree.** An attribute file and a stream give the record with its first
extension entry, and the stream keeps what is behind it. That is the record as written, and all of
its bytes, exactly when there is at most one entry. -/
theorem readPaths_agree_iff {S : Type} [Backend S] {shown : Channel} {host : Bus S}
    (hopen : host.isClosed shown.currentControl.opening.number = false)
    (hfile : Backend.Holds host.store shown.currentControl.path h.encode)
    (hidle : channel.Idle bus) (hinput : channel.direction = .input)
    (hsize : isSampleSize h.sampleSize) (hpayload : payload.length = h.payloadLength) :
    Header.decode h.encode = .ok h.asRead ∧
      (Backend.readHeader shown.currentControl.path host.store).1 = .ok h.inRecord ∧
      (shown.readControl host).1 = .ok h.inRecord ∧
      (∃ samples, Samples.decode h payload = .ok samples ∧
        (channel.readBlock (channel.push ⟨h.encode, payload⟩ bus)).1 = .ok ⟨h.inRecord, samples⟩) ∧
      channel.waiting (channel.readBlock (channel.push ⟨h.encode, payload⟩ bus)).2 =
        ⟨h.encode.drop recordSize, []⟩ ∧
      (h.inRecord = h.asRead ↔ h.extensions.length ≤ 1) ∧
      (h.encode.drop recordSize = [] ↔ h.extensions.length ≤ 1) := by
  refine ⟨h.decode_encode, Backend.fst_readHeader hfile, fst_readControl hopen hfile, ?_, ?_,
    h.inRecord_eq_asRead_iff, h.drop_encode_eq_nil_iff⟩
  · exact fst_readBlock_push_encode hidle hinput hsize hpayload
  · exact waiting_readBlock_push_encode hidle hinput hsize hpayload

def twoEntries : Header := { sampleSize := 1, extensions := [{}, { kind := 1 }] }

def benchShowing : Bus MemoryBus :=
  { bench with store := bench.store.setFile benchInput.currentControl.path twoEntries.encode }

theorem readPaths_differ_twoEntries :
    Header.decode twoEntries.encode = .ok twoEntries ∧
      (benchInput.readControl benchShowing).1 = .ok { twoEntries with extensions := [{}] } ∧
      (benchInput.readBlock (benchInput.push ⟨twoEntries.encode, []⟩ bench)).1 =
        .ok ⟨{ twoEntries with extensions := [{}] }, .u8 []⟩ ∧
      (benchInput.waiting (benchInput.readBlock
        (benchInput.push ⟨twoEntries.encode, []⟩ bench)).2).control.length = extensionSize := by
  have hfile : Backend.Holds benchShowing.store benchInput.currentControl.path twoEntries.encode :=
    MemoryBus.holds_of_file rfl rfl
  obtain ⟨hdecode, -, hcontrol, ⟨samples, hsamples, hblock⟩, hwaiting, -, -⟩ :=
    readPaths_agree_iff (rfl : benchShowing.isClosed 0 = false) hfile idle_benchInput rfl
      (rfl : isSampleSize twoEntries.sampleSize) (rfl : [].length = twoEntries.payloadLength)
  have hsamplesEq : samples = .u8 [] := (Except.ok.inj hsamples).symm
  refine ⟨hdecode, hcontrol, ?_, ?_⟩
  · rw [hblock, hsamplesEq]
    rfl
  · rw [hwaiting]
    decide +kernel

end Channel

end DaqBus

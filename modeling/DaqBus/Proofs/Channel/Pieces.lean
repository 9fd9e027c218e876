import DaqBus.Proofs.Memory.Waiting
import DaqBus.Proofs.Stream.Pieces

/-!
# Blocks from streams in pieces

A record may come in two halves, and the first piece of a payload may hold the last one's end: the
transfer keeps what it did not want for the next one. So the blocks that are read, one after the other,
are those that the bytes of the two streams make up, and how the streams cut them does not show.
-/

namespace DaqBus

open Control ByteStream

/-- The blocks that waiting bytes make up, one after the other, and the bytes that are left. -/
def RawBlock.firsts : (count : Nat) → RawBlock → List (Except Errno RawBlock) × RawBlock
  | 0, waiting => ([], waiting)
  | count + 1, waiting =>
    (waiting.first.1 :: (firsts count waiting.first.2).1, (firsts count waiting.first.2).2)

namespace Lane

section Runs

variable {S σ : Type} [ByteStream σ]

/-- Reads one block after the other, whatever comes of it. -/
def readBlocks (lane : Lane S σ) : (count : Nat) → S → List (Except Errno RawBlock) × S
  | 0, state => ([], state)
  | count + 1, state =>
    let (outcome, next) := lane.readBlock state
    let (outcomes, last) := lane.readBlocks count next
    (outcome :: outcomes, last)

end Runs

/-- Both streams give their bytes in pieces and do nothing worse than to be interrupted. -/
structure Steady (streams : Script × Script) : Prop where
  control : streams.1.IsSteady
  data : streams.2.IsSteady

def unread (streams : Script × Script) : RawBlock := ⟨streams.1.unread, streams.2.unread⟩

/-- Two streams that give these bytes in one piece each. -/
def wholes (raw : RawBlock) : Script × Script := (.whole raw.control, .whole raw.data)

/-- What some reads come to, and the bytes that they leave. -/
def seen (count : Nat) (streams : Script × Script) : List (Except Errno RawBlock) × RawBlock :=
  let run := (ofPair .input).readBlocks count streams
  (run.1, unread run.2)

/-- A read comes to a fault before it has the bytes that it wants, and what the fault leaves. -/
inductive Breaks (streams : Script × Script) (fault : Fault) : Script × Script → Prop
  | control {front rest : List ReadEntry} (hreads : streams.1.reads = front ++ .fault fault :: rest)
      (hfront : ∀ entry ∈ front, entry.isSteady)
      (hshort : (Script.joined front).length < recordSize) :
      Breaks streams fault ({ streams.1 with reads := rest }, streams.2)
  | data {front rest : List ReadEntry} {record : Bytes} {control : Script}
      (hcontrol : readUpTo recordSize streams.1 = (.ok record, control))
      (hlength : record.length = recordSize) (husable : isSampleSize (sampleSize record))
      (hreads : streams.2.reads = front ++ .fault fault :: rest)
      (hfront : ∀ entry ∈ front, entry.isSteady)
      (hshort : (Script.joined front).length < RawBlock.announced record) :
      Breaks streams fault (control, { streams.2 with reads := rest })

variable {streams others after : Script × Script}

theorem steady_wholes (raw : RawBlock) : Steady (wholes raw) :=
  ⟨Script.isSteady_whole _, Script.isSteady_whole _⟩

theorem unread_wholes (raw : RawBlock) : unread (wholes raw) = raw := by
  rw [unread, wholes, Script.unread_whole, Script.unread_whole]

/-- One read finds what a read of the joined bytes finds, and leaves pieces again. -/
theorem readBlock_of_steady (hsteady : Steady streams) :
    ∃ next, Steady next ∧ unread next = (unread streams).first.2 ∧
      (ofPair .input).readBlock streams = ((unread streams).first.1, next) := by
  obtain ⟨control, data⟩ := streams
  obtain ⟨hcontrol, hdata⟩ := hsteady
  obtain ⟨control', hcontrol', hcontrolLeft, hrecord⟩ := Script.readUpTo_of_steady hcontrol recordSize
  generalize htake : control.unread.take recordSize = record at hrecord
  rw [readBlock_ofPair, hrecord]
  dsimp only
  by_cases husable : record.length = recordSize ∧ isSampleSize (sampleSize record)
  · obtain ⟨data', hdata', hdataLeft, hpayload⟩ :=
      Script.readUpTo_of_steady hdata (RawBlock.announced record)
    rw [if_pos husable, hpayload, RawBlock.first_of_usable htake husable.1 husable.2]
    refine ⟨(control', data'), ⟨hcontrol', hdata'⟩, ?_, rfl⟩
    rw [unread, hcontrolLeft, hdataLeft]
    rfl
  · have hunusable := husable
    rw [← htake] at hunusable
    have hfirst : (unread (control, data)).first = _ := RawBlock.first_of_unusable hunusable
    rw [if_neg husable, hfirst]
    refine ⟨(control', data), ⟨hcontrol', hdata⟩, ?_, rfl⟩
    rw [unread, hcontrolLeft]
    rfl

theorem seen_of_steady (hsteady : Steady streams) (count : Nat) :
    seen count streams = (unread streams).firsts count := by
  induction count generalizing streams with
  | zero => rfl
  | succ count ih =>
      obtain ⟨next, hnext, hunread, hread⟩ := readBlock_of_steady hsteady
      have hlater : seen count next = (unread streams).first.2.firsts count := by rw [ih hnext, hunread]
      have hstep : seen (count + 1) streams =
          ((unread streams).first.1 :: (seen count next).1, (seen count next).2) := by
        rw [seen, readBlocks, hread]
        rfl
      rw [hstep, hlater, RawBlock.firsts]

theorem readBlock_of_breaks {fault : Fault} (hbreaks : Breaks streams fault after)
    (hfault : fault.isInterrupted = false) :
    (ofPair .input).readBlock streams = (.error fault.errno, after) := by
  obtain ⟨control, data⟩ := streams
  cases hbreaks with
  | control hreads hfront hshort =>
      rw [readBlock_ofPair, Script.readUpTo_of_fault hreads hfront hshort hfault]
  | data hcontrol hlength husable hreads hfront hshort =>
      have hpayload := Script.readUpTo_of_fault hreads hfront hshort hfault
      rw [readBlock_ofPair, hcontrol]
      dsimp only
      rw [if_pos ⟨hlength, husable⟩, hpayload]

/-- **Reads do not see the pieces.** Any number of reads come to the same and leave the same bytes for
all streams with the same bytes, in any pieces and with any interruptions: to what they come to for
streams of one piece each. A fault before the wanted bytes are complete is the outcome of its read. -/
theorem seen_of_pieces :
    (∀ (count : Nat) (streams others : Script × Script), Steady streams → Steady others →
      unread streams = unread others →
        seen count streams = seen count others ∧
        seen count streams = seen count (wholes (unread streams))) ∧
    ∀ (streams after : Script × Script) (fault : Fault), Breaks streams fault after →
      fault.isInterrupted = false →
        (ofPair .input).readBlock streams = (.error fault.errno, after) := by
  refine ⟨?_, fun streams after fault => readBlock_of_breaks⟩
  intro count streams others hstreams hothers hunread
  refine ⟨?_, ?_⟩
  · rw [seen_of_steady hstreams, seen_of_steady hothers, hunread]
  · rw [seen_of_steady hstreams, seen_of_steady (steady_wholes _), unread_wholes]

/-- A block of two samples with one byte behind it. -/
def twoSamples : RawBlock where
  control := ({ sampleCount := 2, sampleSize := 1 } : Header).encode
  data := [7, 8, 9]

/-- The streams of some bytes, with the record cut in two and an interruption on either stream. -/
def cutAt (n : Nat) (raw : RawBlock) : Script × Script :=
  ({ reads := [.chunk (raw.control.take n), .fault (.system .interrupted),
      .chunk (raw.control.drop n)] },
    { reads := [.fault (.kind .interrupted), .chunk raw.data] })

/-- Streams that fail after the first byte of a record. -/
def broken : Script × Script := ({ reads := [.chunk [1], .fault (.kind .other)] }, {})

theorem seen_of_pieces_cutAt :
    seen 2 (cutAt 100 twoSamples) = seen 2 (cutAt 300 twoSamples) ∧
      (seen 2 (cutAt 100 twoSamples)).2 = ⟨[], [9]⟩ ∧
      (ofPair .input).readBlock broken = (.error .inputOutput, ({}, {})) := by
  have hsteady (n : Nat) (hn : n = 100 ∨ n = 300) : Steady (cutAt n twoSamples) := by
    rcases hn with rfl | rfl <;> exact ⟨by decide +kernel, by decide +kernel⟩
  have hunread : unread (cutAt 100 twoSamples) = unread (cutAt 300 twoSamples) := by decide +kernel
  have hpiece : ∀ entry ∈ [ReadEntry.chunk [1]], entry.isSteady := by decide
  have hbreaks : Breaks broken (.kind .other) ({}, {}) := .control rfl hpiece (by decide)
  obtain ⟨hreads, hfaults⟩ := seen_of_pieces
  obtain ⟨hsame, -⟩ := hreads 2 _ _ (hsteady 100 (.inl rfl)) (hsteady 300 (.inr rfl)) hunread
  exact ⟨hsame, by decide +kernel, hfaults _ _ _ hbreaks rfl⟩

end Lane

end DaqBus

import DaqBus.Proofs.Block.RoundTrip
import DaqBus.Proofs.Channel.Connected

/-!
# Blocks that go out and come in again

What an output channel has written is taken from its queues in one piece and put on an input channel
in one piece, without a mark between the blocks. The reads find the marks again: every read stops
exactly where the next block begins, on both queues, since a header announces the length of its
payload and has the fixed size itself.
-/

namespace DaqBus

open Control

namespace Block

/-- The header fits the fixed size and announces the samples. -/
structure IsFramed (block : Block) : Prop where
  announced : block.samples.AnnouncedBy block.header
  length_extensions : block.header.extensions.length ≤ 1

/-- The block that a reader finds for a written one. -/
def asRead (block : Block) : Block := { block with header := block.header.asRead }

def encodeAll : List Block → RawBlock
  | [] => {}
  | block :: blocks => block.encode ++ encodeAll blocks

variable {block : Block}

/-- A read stops where the block ends. -/
theorem IsFramed.first_encode (h : block.IsFramed) (later : RawBlock) :
    (block.encode ++ later).first = (.ok ⟨block.header.asRead.encode, block.payload⟩, later) := by
  have hrecord := block.header.inRecord_eq_asRead_iff.mpr h.length_extensions
  have hdrop := block.header.drop_encode_eq_nil_iff.mpr h.length_extensions
  rw [encode, payload,
    RawBlock.first_of_encode h.announced.isSampleSize h.announced.payloadLength later, hrecord,
    hdrop, List.nil_append]

theorem IsFramed.decode_encode (h : block.IsFramed) :
    Block.decode ⟨block.header.asRead.encode, block.payload⟩ = .ok block.asRead := by
  have hrecord := block.header.inRecord_eq_asRead_iff.mpr h.length_extensions
  have hheader := block.header.decode_inRecord
  rw [hrecord] at hheader
  rw [Block.decode_eq_ok_iff]
  exact ⟨hheader, Samples.decode_toBytes (h := block.header.asRead) ⟨h.announced.count, h.announced.size⟩⟩

end Block

namespace Channel

variable {channel : Channel} {bus : Bus MemoryBus}

/-! ### Writing many blocks -/

def written (channel : Channel) (block : Block) : Event :=
  .blockWritten channel.node.deviceName block.header.sequence block.payload.length

theorem forM_writeBlock_eq (h : channel.Connected bus) (houtput : channel.direction = .output)
    (blocks : List Block) :
    blocks.forM channel.writeBlock bus =
      (.ok (), { channel.setWaiting (channel.waiting bus ++ Block.encodeAll blocks) bus with
        log := bus.log ++ blocks.map channel.written }) := by
  induction blocks generalizing bus with
  | nil =>
      rw [Block.encodeAll, RawBlock.append_empty, setWaiting, waiting,
        MemoryBus.setWaiting_waiting, List.map_nil, List.append_nil]
      rfl
  | cons block blocks ih =>
      -- The first write leaves a connected channel on which more is waiting, and one more event.
      have hwrite := writeBlock_eq h houtput block
      have hconnected := (h.setWaiting channel (channel.waiting bus ++ block.encode)).record
        (channel.written block)
      have hwaiting : channel.waiting ((channel.setWaiting (channel.waiting bus ++ block.encode)
          bus).record (channel.written block)) = channel.waiting bus ++ block.encode :=
        waiting_setWaiting h _
      refine (Effect.bind_of_ok hwrite).trans ((ih hconnected).trans ?_)
      rw [hwaiting, Block.encodeAll, ← RawBlock.append_assoc, List.map_cons,
        ← List.singleton_append, ← List.append_assoc]
      show (_, ({ bus with store := (bus.store.setWaiting _ _).setWaiting _ _, log := _ } :
        Bus MemoryBus)) = _
      rw [MemoryBus.setWaiting_setWaiting h.hasQueues]
      rfl

def drain (channel : Channel) (bus : Bus MemoryBus) : RawBlock × Bus MemoryBus :=
  ((bus.store.drain channel.node.deviceName).1,
    { bus with store := (bus.store.drain channel.node.deviceName).2 })

theorem drain_eq (h : channel.Connected bus) :
    channel.drain bus = (channel.waiting bus, channel.setWaiting {} bus) := by
  rw [drain, MemoryBus.drain_eq h.registered]
  rfl

/-! ### Reading many blocks -/

def readBlocks {S : Type} [Backend S] (channel : Channel) : Nat → BusM S BusError (List Block)
  | 0 => return []
  | count + 1 => do
    let block ← channel.readBlock
    let blocks ← channel.readBlocks count
    return block :: blocks

theorem readBlocks_eq (h : channel.Connected bus) (hinput : channel.direction = .input)
    {blocks : List Block} (hframed : ∀ block ∈ blocks, block.IsFramed) {later : RawBlock}
    (hwaiting : channel.waiting bus = Block.encodeAll blocks ++ later) :
    ∃ after, channel.readBlocks blocks.length bus = (.ok (blocks.map Block.asRead), after) ∧
      channel.Connected after ∧ channel.waiting after = later := by
  induction blocks generalizing bus with
  | nil =>
      refine ⟨bus, rfl, h, ?_⟩
      rw [hwaiting, Block.encodeAll, RawBlock.empty_append]
  | cons block blocks ih =>
      have hblock : block.IsFramed := hframed block List.mem_cons_self
      -- What is left behind the first block is what the induction is about.
      rw [Block.encodeAll, RawBlock.append_assoc] at hwaiting
      have hfirst := hblock.first_encode (Block.encodeAll blocks ++ later)
      have hread : channel.readBlock bus = (.ok block.asRead, (channel.readBlock bus).2) := by
        have houtcome := fst_readBlock h hinput
        rw [hwaiting, hfirst] at houtcome
        refine Prod.ext (houtcome.trans ?_) rfl
        rw [readOutcome_eq_ok_iff]
        exact ⟨_, rfl, hblock.decode_encode⟩
      have hrest : channel.waiting (channel.readBlock bus).2 = Block.encodeAll blocks ++ later := by
        rw [waiting_readBlock h hinput, hwaiting, hfirst]
      obtain ⟨after, hafter, hconnected, hlater⟩ := ih (h.readBlock hinput)
        (fun other hmem => hframed other (List.mem_cons_of_mem block hmem)) hrest
      refine ⟨after, ?_, hconnected, hlater⟩
      unfold readBlocks
      refine (Effect.bind_of_ok hread).trans ((Effect.bind_of_ok hafter).trans ?_)
      rfl

/-! ### The loop -/

/-- What comes out of an idle output is what was written, and no idle channel of the bus is
touched. -/
theorem drain_forM_writeBlock (h : channel.Idle bus) (houtput : channel.direction = .output)
    (blocks : List Block) :
    ∃ after, blocks.forM channel.writeBlock bus = (.ok (), after) ∧
      (channel.drain after).1 = Block.encodeAll blocks ∧
      ∀ other : Channel, other.Idle bus → other.Idle (channel.drain after).2 := by
  refine ⟨_, forM_writeBlock_eq h.connected houtput blocks, ?_⟩
  rw [h.waiting, RawBlock.empty_append]
  -- Only the log tells the bus after the writes from one whose channel was just filled.
  have hconnected : channel.Connected { channel.setWaiting (Block.encodeAll blocks) bus with
      log := bus.log ++ blocks.map channel.written } :=
    ⟨h.connected.isOpen, h.connected.hasQueues.setWaiting _ _, h.connected.registered⟩
  rw [drain_eq hconnected]
  refine ⟨waiting_setWaiting h.connected _, ?_⟩
  intro other hidle
  have hstore : (bus.store.setWaiting channel.streams (Block.encodeAll blocks)).setWaiting
      channel.streams {} = bus.store.setWaiting channel.streams {} :=
    MemoryBus.setWaiting_setWaiting h.connected.hasQueues {} _
  have hdrained := (hidle.setWaiting_empty channel).withLog (bus.log ++ blocks.map channel.written)
  show other.Idle { bus with
    store := (bus.store.setWaiting channel.streams (Block.encodeAll blocks)).setWaiting
      channel.streams {}
    log := bus.log ++ blocks.map channel.written }
  rw [hstore]
  exact hdrained

/-- **The loop of blocks.** Framed blocks that were written to an idle output, taken out in one piece
and put on an idle input of the same bus or of another are read there as they were written, in their
order and without a byte left over. -/
theorem readBlocks_drain_forM_writeBlock {out input : Channel}
    (hout : out.Idle bus) (houtput : out.direction = .output) (hinput : input.direction = .input)
    {blocks : List Block} (hframed : ∀ block ∈ blocks, block.IsFramed) :
    ∃ written, blocks.forM out.writeBlock bus = (.ok (), written) ∧
      ∀ host : Bus MemoryBus,
        (input.Idle host ∨ (input.Idle bus ∧ host = (out.drain written).2)) →
        ∃ after, input.readBlocks blocks.length (input.push (out.drain written).1 host) =
            (.ok (blocks.map Block.asRead), after) ∧
          input.waiting after = {} ∧
          (input.readBlock after).1 = .error (input.readRefusal .controlWrong) := by
  obtain ⟨written, hwritten, hdrained, hidle⟩ := drain_forM_writeBlock hout houtput blocks
  refine ⟨written, hwritten, ?_⟩
  intro host hhost
  have hready : input.Idle host := by
    rcases hhost with hready | ⟨hinputIdle, rfl⟩
    · exact hready
    · exact hidle input hinputIdle
  have hwaiting : input.waiting (input.push (out.drain written).1 host) =
      Block.encodeAll blocks ++ {} := by
    rw [waiting_push hready, hdrained, RawBlock.append_empty]
  obtain ⟨after, hread, hconnected, hempty⟩ :=
    readBlocks_eq (hready.connected.push _) hinput hframed hwaiting
  exact ⟨after, hread, hempty, Idle.fst_readBlock ⟨hconnected, hempty⟩ hinput⟩

def twoBlocks : List Block :=
  [⟨{ sampleCount := 2, sampleSize := 1 }, .u8 [7, 8]⟩,
    ⟨{ sampleSize := 8, extensions := [{ kind := 1 }] }, .u64 []⟩]

theorem isFramed_twoBlocks : ∀ block ∈ twoBlocks, block.IsFramed := by
  intro block hmem
  rcases List.mem_cons.mp hmem with rfl | hmem
  · exact ⟨⟨rfl, rfl⟩, by decide⟩
  · rw [List.mem_singleton.mp hmem]
    exact ⟨⟨rfl, rfl⟩, by decide⟩

theorem readBlocks_drain_twoBlocks :
    ∃ written after, twoBlocks.forM benchOutput.writeBlock bench = (.ok (), written) ∧
      benchInput.readBlocks 2
          (benchInput.push (benchOutput.drain written).1 (benchOutput.drain written).2) =
        (.ok [⟨{ sampleCount := 2, sampleSize := 1, extensions := [{}] }, .u8 [7, 8]⟩,
          ⟨{ sampleSize := 8, extensions := [{ kind := 1 }] }, .u64 []⟩], after) ∧
      benchInput.waiting after = {} := by
  obtain ⟨written, hwritten, hread⟩ := readBlocks_drain_forM_writeBlock idle_benchOutput rfl
    (rfl : benchInput.direction = .input) isFramed_twoBlocks
  obtain ⟨after, hafter, hempty, -⟩ := hread _ (.inr ⟨idle_benchInput, rfl⟩)
  exact ⟨written, after, hwritten, hafter, hempty⟩

end Channel

end DaqBus

import DaqBus.Proofs.Acquisition.Rounds
import DaqBus.Proofs.Channel.Loopback

/-!
# Blocks that wait are delivered

Framed blocks that wait on the only channel of a set come to the sink one a sweep, in their order and
complete, and the run ends by itself after the last of them if that is its limit.
-/

namespace DaqBus.ChannelSet

variable {τ : Type} {set : ChannelSet} {channel : Channel} {bus : Bus MemoryBus} {sink : Sink τ}
  {run : Run τ} {limit : UInt64} {blocks : List Block} {later : RawBlock}

/-- The run after sweeps that gave one block each. -/
def deliverEach (sink : Sink τ) (run : Run τ) (blocks : List Block) : Run τ :=
  blocks.foldl (fun run block => (run.deliverAll sink 0 [block]).2.countSweep) run

theorem readBlocks_of_framed (hset : set.channels = [channel]) (h : channel.Connected bus)
    (hinput : channel.direction = .input) {block : Block} (hframed : block.IsFramed)
    (hwaiting : channel.waiting bus = block.encode ++ later) :
    ∃ after, set.readBlocks bus = (.ok [block.asRead], after) ∧ channel.Connected after ∧
      channel.waiting after = later := by
  have hall : ∀ other ∈ [block], other.IsFramed := by
    intro other hmem
    rw [List.mem_singleton.mp hmem]
    exact hframed
  have hfirst : channel.waiting bus = Block.encodeAll [block] ++ later := by
    rw [hwaiting, Block.encodeAll, Block.encodeAll, RawBlock.append_empty]
  obtain ⟨after, hread, hrest⟩ := Channel.readBlocks_eq h hinput hall hfirst
  refine ⟨after, ?_, hrest⟩
  rw [readBlocks, hset]
  exact hread

/-- Framed blocks that wait on the only channel of a set are delivered one by one to a sink that never
breaks off, up to the limit. -/
theorem sweeps_of_framed (hset : set.channels = [channel]) (hinput : channel.direction = .input)
    (hquiet : ∀ index block state, (sink index block state).1 = {})
    (hframed : ∀ block ∈ blocks, block.IsFramed) (h : channel.Connected bus)
    (hwaiting : channel.waiting bus = Block.encodeAll blocks ++ later)
    (hrunning : run.stopped = false ∧ run.broken = false)
    (hlimit : limit.toNat = run.counters.sweeps.toNat + blocks.length) :
    ∃ after, set.sweeps (some limit) sink blocks.length run bus =
      ((.finished (deliverEach sink run (blocks.map Block.asRead)).counters,
        deliverEach sink run (blocks.map Block.asRead)), after) := by
  induction blocks generalizing run bus with
  | nil =>
      have hover : run.isOver (some limit) = true := by
        simp [Run.isOver, UInt64.le_iff_toNat_le, hlimit]
      exact ⟨bus, sweeps_of_over hover 0 bus⟩
  | cons block blocks ih =>
      have hover : run.isOver (some limit) = false := by
        simp [Run.isOver, UInt64.le_iff_toNat_le, hlimit, hrunning]
      rw [Block.encodeAll, RawBlock.append_assoc] at hwaiting
      obtain ⟨next, hread, hconnected, hrest⟩ :=
        readBlocks_of_framed hset h hinput (hframed block List.mem_cons_self) hwaiting
      rw [List.length_cons, sweeps_of_ok hover blocks.length hread]
      refine ih (fun other hmem => hframed other (List.mem_cons_of_mem block hmem)) ?_ hrest ?_ ?_
      · exact ⟨hconnected.isOpen, hconnected.hasQueues, hconnected.registered⟩
      · simp [Run.deliverAll, Run.deliver, Run.countSweep, Run.count, hquiet, hrunning]
      · rw [(toNat_sweeps_sweep hover sink [block.asRead]).2, hlimit, List.length_cons]
        omega

/-- **Waiting blocks are delivered.** -/
theorem acquire_of_framed (hset : set.channels = [channel]) (hinput : channel.direction = .input)
    (hquiet : ∀ index block state, (sink index block state).1 = {})
    (hframed : ∀ block ∈ blocks, block.IsFramed) (h : channel.Connected bus)
    (hwaiting : channel.waiting bus = Block.encodeAll blocks ++ later)
    (hlimit : limit.toNat = blocks.length) (state : τ) :
    ∃ after, set.acquire (some limit) false sink state bus =
      ((.finished (deliverEach sink { stopped := false, sink := state }
          (blocks.map Block.asRead)).counters,
        deliverEach sink { stopped := false, sink := state } (blocks.map Block.asRead)), after) := by
  let started := bus.record (.runStarted set.node.deviceName set.channels.length (some limit))
  let first : Run τ := { stopped := false, sink := state }
  have hsweeps : ∃ after, set.sweeps (some limit) sink (set.roundsLeft (some limit) started) first
      started = ((.finished (deliverEach sink first (blocks.map Block.asRead)).counters,
        deliverEach sink first (blocks.map Block.asRead)), after) := by
    rw [roundsLeft, hlimit]
    refine sweeps_of_framed hset hinput hquiet hframed (h.record _) hwaiting ⟨rfl, rfl⟩ ?_
    rw [hlimit]
    exact (Nat.zero_add _).symm
  obtain ⟨after, hsweeps⟩ := hsweeps
  exact ⟨_, acquire_of_finished hsweeps⟩

def benchSet : ChannelSet where
  node := Channel.benchInput.node
  trigger := { node := Channel.benchInput.node }
  channels := [Channel.benchInput]
  direction := .input
  triggerName := Channel.benchInput.currentControl
  bufferName := Channel.benchInput.currentControl

/-- A number is skipped, another one comes twice, and the last block carries an alarm. -/
def threeBlocks : List Block :=
  [⟨{ sequence := 5, sampleCount := 2, sampleSize := 1 }, .u8 [7, 8]⟩,
    ⟨{ sequence := 8, sampleSize := 2 }, .u16 []⟩,
    ⟨{ sequence := 8, sampleCount := 1, sampleSize := 1, busAlarms := 1 }, .u8 [9]⟩]

theorem isFramed_threeBlocks : ∀ block ∈ threeBlocks, block.IsFramed := by
  simp only [threeBlocks, List.forall_mem_cons]
  exact ⟨⟨⟨rfl, rfl⟩, by decide⟩, ⟨⟨rfl, rfl⟩, by decide⟩, ⟨⟨rfl, rfl⟩, by decide⟩, nofun⟩

def keep : Sink (List Nat) := fun _ block kept => ({}, kept ++ [block.samples.length])

def threeCounters : RunCounters where
  sweeps := 3
  blocks := 3
  samples := 3
  sequenceGaps := 2
  sequenceResets := 1
  alarmedBlocks := 1

theorem acquire_threeBlocks : ∃ run after,
    benchSet.acquire (some 3) false keep []
        (Channel.benchInput.push (Block.encodeAll threeBlocks) Channel.bench) =
      ((.finished threeCounters, run), after) ∧ run.sink = [2, 0, 1] ∧ run.overflowed = false := by
  have hconnected := Channel.connected_benchInput.push (Block.encodeAll threeBlocks)
  have hwaiting : Channel.benchInput.waiting
      (Channel.benchInput.push (Block.encodeAll threeBlocks) Channel.bench) =
        Block.encodeAll threeBlocks ++ {} := by
    rw [RawBlock.append_empty]
    exact Channel.waiting_push Channel.idle_benchInput (Block.encodeAll threeBlocks)
  obtain ⟨after, hacquire⟩ :=
    acquire_of_framed (rfl : benchSet.channels = [Channel.benchInput]) rfl
      (fun _ _ _ => (rfl : (keep _ _ _).1 = {})) isFramed_threeBlocks hconnected hwaiting
      (rfl : (3 : UInt64).toNat = threeBlocks.length) []
  exact ⟨_, after, hacquire, rfl, rfl⟩

end DaqBus.ChannelSet

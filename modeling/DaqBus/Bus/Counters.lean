/-!
What an acquisition counts. The counters are words of 64 bits, to which amounts are added; a sum that
does not fit starts again at zero.
-/

namespace DaqBus

/-- Amounts of what an acquisition counts. -/
structure RunTotals where
  /-- Completed sweeps. -/
  sweeps : Nat := 0
  /-- Blocks delivered. -/
  blocks : Nat := 0
  /-- Samples delivered. -/
  samples : Nat := 0
  /-- Blocks missing between the sequence numbers seen. -/
  sequenceGaps : Nat := 0
  /-- Times a sequence number went back or repeated. -/
  sequenceResets : Nat := 0
  /-- Blocks with a framework alarm. -/
  alarmedBlocks : Nat := 0
deriving DecidableEq, Repr

/-- The counters of an acquisition, one for each amount. -/
structure RunCounters where
  sweeps : UInt64 := 0
  blocks : UInt64 := 0
  samples : UInt64 := 0
  sequenceGaps : UInt64 := 0
  sequenceResets : UInt64 := 0
  alarmedBlocks : UInt64 := 0
deriving DecidableEq, Repr

namespace RunCounters

def plus (counters : RunCounters) (more : RunTotals) : RunCounters where
  sweeps := counters.sweeps + .ofNat more.sweeps
  blocks := counters.blocks + .ofNat more.blocks
  samples := counters.samples + .ofNat more.samples
  sequenceGaps := counters.sequenceGaps + .ofNat more.sequenceGaps
  sequenceResets := counters.sequenceResets + .ofNat more.sequenceResets
  alarmedBlocks := counters.alarmedBlocks + .ofNat more.alarmedBlocks

/-- Whether all sums fit. -/
def hasRoomFor (counters : RunCounters) (more : RunTotals) : Bool :=
  counters.sweeps.toNat + more.sweeps < UInt64.size &&
    counters.blocks.toNat + more.blocks < UInt64.size &&
    counters.samples.toNat + more.samples < UInt64.size &&
    counters.sequenceGaps.toNat + more.sequenceGaps < UInt64.size &&
    counters.sequenceResets.toNat + more.sequenceResets < UInt64.size &&
    counters.alarmedBlocks.toNat + more.alarmedBlocks < UInt64.size

end RunCounters

end DaqBus

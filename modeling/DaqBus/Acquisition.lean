import DaqBus.Table
import DaqBus.Tree.Channel
/-!
Repeated acquisition. Each sweep reads one block from every channel of a set and hands them to a
sink; sweeps follow one another until the sink breaks off, the stop flag is up or the limit is
reached. How long a run takes is not counted, and the pause between two sweeps is left out.
-/

namespace DaqBus

structure Reply where
  /-- End the run after this sweep. -/
  breaks : Bool := false
  /-- Raise the stop flag. -/
  stops : Bool := false
deriving DecidableEq, Repr

/-- A receiver of blocks with a state of its own. -/
abbrev Sink (τ : Type) := Nat → Block → τ → Reply × τ

inductive RunOutcome
  | finished (counters : RunCounters)
  | failed (failure : BusError)
  /-- It would go on, but the given number of rounds is used up. -/
  | unfinished
deriving DecidableEq, Repr

/-- Where an acquisition stands. -/
structure Run (τ : Type) where
  counters : RunCounters := {}
  /-- A sum did not fit in its counter. A build that checks its sums stops there and gives no counters;
  any other goes on. -/
  overflowed : Bool := false
  /-- The last sequence number of each channel. -/
  last : Table Nat UInt32 := {}
  stopped : Bool
  broken : Bool := false
  sink : τ

namespace Run

variable {τ : Type}

/-- Adds to the counters. -/
def count (run : Run τ) (more : RunTotals) : Run τ :=
  { run with
    counters := run.counters.plus more
    overflowed := run.overflowed || !run.counters.hasRoomFor more }

/-- What a sequence number says after the previous one of its channel: an event if they do not
follow one another, with the missing blocks or the reset to count. -/
def sequenceStep (channel : Nat) (previous : Option UInt32) (sequence : UInt32) :
    List Event × RunTotals :=
  match previous with
  | none => ([], {})
  | some prev =>
    if sequence ≤ prev then ([.counterReset channel prev sequence], { sequenceResets := 1 })
    else if 1 < sequence - prev then
      let gap := sequence - prev - 1
      ([.sequenceGap channel prev sequence gap], { sequenceGaps := gap.toNat })
    else ([], {})

/-- The warning for a block with framework alarms. -/
def alarmStep (channel : Nat) (header : Control.Header) : List Event :=
  let alarms := header.busAlarms
  if alarms = 0 then []
  else [.blockAlarmed channel header.sequence (Control.Alarm.lostBlock.isRaised alarms)
    (Control.Alarm.lostTrigger.isRaised alarms)]

/-- Counts a block and hands it to the sink. -/
def deliver (sink : Sink τ) (run : Run τ) (channel : Nat) (block : Block) :
    List Event × Run τ :=
  let sequence := block.header.sequence
  let (irregular, irregularities) := sequenceStep channel (run.last.find? channel) sequence
  let alarmed := alarmStep channel block.header
  let (reply, state) := sink channel block run.sink
  let counted := run.count { irregularities with
    blocks := 1
    samples := block.samples.length
    alarmedBlocks := alarmed.length }
  (irregular ++ alarmed,
    { counted with
      last := run.last.insert channel sequence
      stopped := run.stopped || reply.stops
      broken := run.broken || reply.breaks
      sink := state })

/-- Delivers the blocks of a sweep, the first of them from `channel`. -/
def deliverAll (sink : Sink τ) : (channel : Nat) → List Block → Run τ → List Event × Run τ
  | _, [], run => ([], run)
  | channel, block :: rest, run =>
    let (events, next) := run.deliver sink channel block
    let (more, final) := deliverAll sink (channel + 1) rest next
    (events ++ more, final)

def countSweep (run : Run τ) : Run τ :=
  run.count { sweeps := 1 }

def isOver (maxSweeps : Option UInt64) (run : Run τ) : Bool :=
  run.stopped || run.broken || maxSweeps.any fun limit => limit ≤ run.counters.sweeps

end Run

namespace ChannelSet

variable {S τ : Type} [Backend S]

/-- At most `rounds` sweeps from where a run stands. -/
def sweeps (set : ChannelSet) (maxSweeps : Option UInt64) (sink : Sink τ) :
    (rounds : Nat) → Run τ → Bus S → (RunOutcome × Run τ) × Bus S
  | 0, run, bus =>
    if run.isOver maxSweeps then ((.finished run.counters, run), bus)
    else ((.unfinished, run), bus)
  | rounds + 1, run, bus =>
    if run.isOver maxSweeps then ((.finished run.counters, run), bus)
    else
      match set.readBlocks bus with
      | (.error failure, bus) => ((.failed failure, run), bus)
      | (.ok blocks, bus) =>
        let (events, next) := run.deliverAll sink 0 blocks
        let logged := events.foldl (fun bus event => bus.record event) bus
        let after := if next.broken then logged.record .stopRequested else logged
        set.sweeps maxSweeps sink rounds next.countSweep after

/-- How many sweeps a run can have at most. Every sweep takes something from the control stream of
the first channel, so that without a limit the stream itself is one. -/
def roundsLeft (set : ChannelSet) (maxSweeps : Option UInt64) (bus : Bus S) : Nat :=
  match maxSweeps, set.channels with
  | some limit, _ => limit.toNat
  | none, [] => 0
  | none, channel :: _ =>
    ByteStream.readsLeft ((Backend.lens channel.streams.control).view bus.store) + 1

/-- An acquisition run on the set. The answer holds the state of the sink also if a read fails. -/
def acquire (set : ChannelSet) (maxSweeps : Option UInt64) (stopped : Bool) (sink : Sink τ)
    (state : τ) (bus : Bus S) : (RunOutcome × Run τ) × Bus S :=
  let started := bus.record (.runStarted set.node.deviceName set.channels.length maxSweeps)
  let start : Run τ := { stopped, sink := state }
  match set.sweeps maxSweeps sink (set.roundsLeft maxSweeps started) start started with
  | ((.finished counters, run), bus) =>
    ((.finished counters, run), bus.record (.runFinished counters))
  | ended => ended

end ChannelSet

end DaqBus

import DaqBus.Proofs.Acquisition.Queued

/-!
# What an acquisition does

An acquisition is a row of completed sweeps, each due when it starts, and then either no sweep is due
or one fails. Which blocks reach the sink, what the counters say and which failure comes back are
read off that row. Only a run without a limit on a set without channels has no end.
-/

namespace DaqBus

variable {S τ : Type} [Backend S]

/-- The counters of a run that ends after some sweeps over `n` channels, each modulo `2 ^ 64`. -/
structure RunCounters.Count (counters : RunCounters) (sweeps : List (List Block)) (n : Nat) : Prop where
  sweeps_eq : counters.sweeps = .ofNat sweeps.length
  blocks_eq : counters.blocks = .ofNat (sweeps.length * n)
  samples_eq :
    counters.samples = .ofNat ((deliveries sweeps).map fun call => call.1.samples.length).sum
  alarmed_eq : counters.alarmedBlocks =
    .ofNat ((deliveries sweeps).countP fun call => call.1.header.busAlarms ≠ 0)

theorem Run.Follows.count {run : Run τ} {sink : Sink τ} {stopped : Bool} {state : τ}
    {sweeps : List (List Block)} {n : Nat}
    (h : run.Follows sink stopped state n sweeps.length (deliveries sweeps))
    (hlength : ∀ blocks ∈ sweeps, blocks.length = n) : run.counters.Count sweeps n := by
  rw [h.counts.counters_eq]
  exact ⟨rfl, congrArg UInt64.ofNat (length_deliveries hlength), rfl, rfl⟩

namespace ChannelSet

variable {set : ChannelSet} {maxSweeps : Option UInt64} {stopped : Bool} {sink : Sink τ} {state : τ}
  {start last : Bus S} {sweeps : List (List Block)}

/-- Completed sweeps and the bus they leave. Every one is due when it starts, reads each channel once,
and then makes its calls, which only add events to the log. -/
inductive Swept (set : ChannelSet) (maxSweeps : Option UInt64) (stopped : Bool) (sink : Sink τ)
    (state : τ) (start : Bus S) : List (List Block) → Bus S → Prop
  | nil : Swept set maxSweeps stopped sink state start [] start
  | concat {sweeps : List (List Block)} {blocks : List Block} {before after : Bus S}
      (events : List Event) (earlier : Swept set maxSweeps stopped sink state start sweeps before)
      (due : Due maxSweeps stopped sweeps.length (sink.replies state (deliveries sweeps)))
      (read : set.readBlocks before = (.ok blocks, after))
      (sweep : Sweep set.channels before blocks after) :
      Swept set maxSweeps stopped sink state start (sweeps ++ [blocks])
        { after with log := after.log ++ events }

theorem Swept.length_of_mem (h : set.Swept maxSweeps stopped sink state start sweeps last) :
    ∀ blocks ∈ sweeps, blocks.length = set.channels.length := by
  induction h with
  | nil =>
      intro blocks hmem
      cases hmem
  | concat events earlier due read sweep ih =>
      intro blocks hmem
      rcases List.mem_append.mp hmem with hmem | hmem
      · exact ih blocks hmem
      · rw [List.mem_singleton.mp hmem]
        exact sweep.length

/-- No more sweeps are completed than a limit allows. -/
theorem Swept.length_le (h : set.Swept maxSweeps stopped sink state start sweeps last)
    (limit : UInt64) (hlimit : maxSweeps = some limit) : sweeps.length ≤ limit.toNat := by
  cases h with
  | nil => exact Nat.zero_le _
  | concat events earlier due read sweep =>
      rw [List.length_append, List.length_singleton]
      exact due.below limit hlimit

/-- How a run ends after its last completed sweep, and with which bus. -/
def Ends (set : ChannelSet) (maxSweeps : Option UInt64) (stopped : Bool) (sink : Sink τ) (state : τ)
    (sweeps : List (List Block)) (last : Bus S) : RunOutcome → Bus S → Prop
  | .finished counters, final =>
    ¬ Due maxSweeps stopped sweeps.length (sink.replies state (deliveries sweeps)) ∧
      counters.Count sweeps set.channels.length ∧ final = last.record (.runFinished counters)
  | .failed failure, final =>
    Due maxSweeps stopped sweeps.length (sink.replies state (deliveries sweeps)) ∧
      set.readBlocks last = (.error failure, final) ∧ SweepFails set.channels last failure
  | .unfinished, final =>
    Due maxSweeps stopped sweeps.length (sink.replies state (deliveries sweeps)) ∧
      maxSweeps = none ∧ set.channels = [] ∧ final = last

/-- A run has done some sweeps and made their calls. -/
structure Reached (set : ChannelSet) (maxSweeps : Option UInt64) (stopped : Bool) (sink : Sink τ)
    (state : τ) (start : Bus S) (run : Run τ) (sweeps : List (List Block)) (last : Bus S) : Prop where
  swept : set.Swept maxSweeps stopped sink state start sweeps last
  follows : run.Follows sink stopped state set.channels.length sweeps.length (deliveries sweeps)

theorem reached_start (set : ChannelSet) (maxSweeps : Option UInt64) (stopped : Bool) (sink : Sink τ)
    (state : τ) (start : Bus S) :
    set.Reached maxSweeps stopped sink state start { stopped, sink := state } [] start where
  swept := .nil
  follows := Run.follows_start sink stopped state set.channels.length

variable {run : Run τ}

theorem Reached.isOver_eq_false_iff
    (h : set.Reached maxSweeps stopped sink state start run sweeps last) :
    run.isOver maxSweeps = false ↔
      Due maxSweeps stopped sweeps.length (sink.replies state (deliveries sweeps)) :=
  h.follows.isOver_eq_false_iff h.swept.length_le

/-- One more sweep. -/
theorem Reached.sweep {before after : Bus S} {blocks : List Block}
    (h : set.Reached maxSweeps stopped sink state start run sweeps before)
    (hover : run.isOver maxSweeps = false) (hread : set.readBlocks before = (.ok blocks, after)) :
    set.Reached maxSweeps stopped sink state start (run.deliverAll sink 0 blocks).2.countSweep
      (sweeps ++ [blocks]) { after with log := after.log ++ run.sweepEvents sink blocks } where
  swept :=
    .concat _ h.swept (h.isOver_eq_false_iff.mp hover) hread (sweep_of_mapM_readBlock hread)
  follows := by
    rw [deliveries_concat, List.length_append]
    exact h.follows.sweep (sweep_of_mapM_readBlock hread).length

/-- **An acquisition sweep by sweep.** The completed sweeps of a run and the calls they make are the
whole story of it: what the sink has become, whether the run ends by itself, what it counted and
which failure it returns. The counters are exact as long as every sum fits, and whether all do the run
itself knows. -/
theorem acquire_sweeps [ReadsConsume S] (set : ChannelSet) (maxSweeps : Option UInt64) (stopped : Bool)
    (sink : Sink τ) (state : τ) (bus : Bus S) :
    ∃ sweeps last,
      set.Swept maxSweeps stopped sink state
        (bus.record (.runStarted set.node.deviceName set.channels.length maxSweeps)) sweeps last ∧
      (∀ blocks ∈ sweeps, blocks.length = set.channels.length) ∧
      (set.acquire maxSweeps stopped sink state bus).1.2.sink =
        sink.after state (deliveries sweeps) ∧
      set.Ends maxSweeps stopped sink state sweeps last
        (set.acquire maxSweeps stopped sink state bus).1.1
        (set.acquire maxSweeps stopped sink state bus).2 ∧
      ((set.acquire maxSweeps stopped sink state bus).1.2.overflowed = false ↔
        (RunTotals.ofCalls set.channels.length sweeps.length (deliveries sweeps)).Fits) := by
  let started := bus.record (.runStarted set.node.deviceName set.channels.length maxSweeps)
  obtain ⟨run, sweeps, last, hreached, hend⟩ :=
    set.sweeps_induction (motive := set.Reached maxSweeps stopped sink state started)
      (fun _ _ _ _ _ h hover hread => h.sweep hover hread) (set.roundsLeft maxSweeps started)
      (reached_start set maxSweeps stopped sink state started)
  have hlength := hreached.swept.length_of_mem
  have hdue := hreached.isOver_eq_false_iff
  have hcounts := hreached.follows.counts
  refine ⟨sweeps, last, hreached.swept, hlength, ?_⟩
  rcases hend with ⟨hover, heq⟩ | ⟨failure, after, hover, hread, heq⟩ | ⟨hover, heq⟩
  · rw [acquire_of_finished heq]
    refine ⟨hreached.follows.sink_eq, ⟨?_, hreached.follows.count hlength, rfl⟩, hcounts.overflowed_iff⟩
    intro h
    rw [hdue.mpr h] at hover
    cases hover
  · rw [acquire_of_ended heq (by nofun)]
    exact ⟨hreached.follows.sink_eq, ⟨hdue.mp hover, hread, sweepFails_of_mapM_readBlock hread⟩,
      hcounts.overflowed_iff⟩
  · have hendless : maxSweeps = none ∧ set.channels = [] :=
      endless_of_unfinished (congrArg (fun result => result.1.1) heq)
    rw [acquire_of_ended heq (by nofun)]
    exact ⟨hreached.follows.sink_eq, ⟨hdue.mp hover, hendless.1, hendless.2, rfl⟩,
      hcounts.overflowed_iff⟩

/-- The three blocks reach the sink in three sweeps. -/
theorem acquire_sweeps_threeBlocks : ∃ sweeps run after,
    benchSet.acquire (some 3) false keep []
        (Channel.benchInput.push (Block.encodeAll threeBlocks) Channel.bench) =
      ((.finished threeCounters, run), after) ∧
    sweeps.length = 3 ∧ keep.after [] (deliveries sweeps) = [2, 0, 1] ∧
    threeCounters.Count sweeps 1 := by
  obtain ⟨run, after, hacquire, hsink, hexact⟩ := acquire_threeBlocks
  obtain ⟨sweeps, last, -, -, hkept, hends, hfits⟩ := acquire_sweeps benchSet (some 3) false keep []
    (Channel.benchInput.push (Block.encodeAll threeBlocks) Channel.bench)
  rw [hacquire] at hkept hends hfits
  obtain ⟨-, hcount, -⟩ := hends
  have hlength : (3 : UInt64).toNat = sweeps.length :=
    (congrArg UInt64.toNat hcount.sweeps_eq).trans
      (UInt64.toNat_ofNat_of_lt (hfits.mp hexact).sweeps)
  exact ⟨sweeps, run, after, hacquire, hlength.symm, hkept.symm.trans hsink, hcount⟩

end ChannelSet

end DaqBus
